import LiteralScrub.Proofs.LuaText
import LiteralScrub.Proofs.LuaWalk
import LiteralScrub.Proofs.PythonTrees

/-!
# Scrubbed Lua trees

An engine that scrubs a Lua tree without failure gives new texts to the strings that the walk
reaches and that change, keeps the tree at every other position, and counts the strings that
change.
-/
namespace LiteralScrub

namespace Scrub

variable {rewrite : Text → Rewriting}

/-- The attributes of a string with another text: what it denotes and how it is written is made
anew, and all else stays. -/
def Renews (old : Attrs) (t : Text) (fresh : Attrs) : Prop :=
  fresh.get? "s" = some (.bytes (Lua.encode t)) ∧
    (∃ before delimiter raw, old.get? "delimiter" = some before ∧
      Lua.delimited before t = (delimiter, raw) ∧
      fresh.get? "delimiter" = some delimiter ∧ fresh.get? "raw" = some (.text raw)) ∧
    ∀ name, name ∉ ["s", "raw", "delimiter"] → fresh.get? name = old.get? name

theorem renews_of_withText {old fresh : Attrs} {t : Text} (h : Lua.withText old t = .ok fresh) :
    Renews old t fresh := by
  obtain ⟨before, hbefore, rfl⟩ := Lua.withText_eq_ok_iff.mp h
  refine ⟨Lua.get?_renewed old before t "s", ⟨before, _, _, hbefore, rfl,
    Lua.get?_renewed old before t "delimiter", Lua.get?_renewed old before t "raw"⟩, ?_⟩
  intro name hname
  simp only [List.mem_cons, List.not_mem_nil, or_false, not_or] at hname
  simp [Lua.get?_renewed, hname]

/-- A string that the walk gets past can be read. -/
theorem exists_literalText_of_ok {old fresh : Attrs} (h : scrubbedString rewrite old = .ok fresh) :
    ∃ t, Lua.literalText old = .ok t := by
  cases ht : Lua.literalText old with
  | ok t => exact ⟨t, rfl⟩
  | error problem =>
    rw [scrubbedString_of_error ht] at h
    cases h

/-- What becomes of a Lua tree is read off how the walk through it ends. -/
theorem transform_lua_eq (rewrite : Text → Rewriting) (kind : Lua.Kind) (attrs : Attrs)
    (log : Array LogRecord) :
    let tree := Value.node (.lua kind) attrs
    let walk := walked (walkLua rewrite tree) 0 log
    (Id.run ((transform rewrite tree).run log)).1 =
      match walk.1.2 with
      | none => ⟨some walk.1.1, walk.1.1, true, walk.2, []⟩
      | some problem => ⟨none, walk.1.1, false, walk.2, [complaint problem]⟩ := by
  intro tree walk
  have htransform : transform rewrite tree = transformLua rewrite tree := rfl
  simp only [htransform, transformLua, transformLuaFrom, walk, walked, StateT.run_bind,
    Id.run_bind]
  generalize Id.run (((walkLua rewrite tree).run 0).run log) = r
  obtain ⟨⟨⟨left, _ | problem⟩, count⟩, records⟩ := r <;> rfl

/-- A Lua tree that is scrubbed without failure is the scrubbed tree, in the place of the old
one. -/
theorem transform_lua_yields {kind : Lua.Kind} {attrs : Attrs} {log : Array LogRecord}
    (h : (Id.run ((transform rewrite (.node (.lua kind) attrs)).run log)).1.success = true) :
    let tree := Value.node (.lua kind) attrs
    ∃ count, (Id.run ((transform rewrite tree).run log)).1 =
        ⟨some (renewedRoot rewrite tree), renewedRoot rewrite tree, true, count, []⟩ ∧
      (changedBelow rewrite tree).encard = count ∧ PassableBelow rewrite tree := by
  intro tree
  obtain ⟨k, hk, hwalks⟩ := @walkLua_yields rewrite kind attrs 0 log
  have houtcome := transform_lua_eq rewrite kind attrs log
  simp only at houtcome
  cases hproblem : (walked (walkLua rewrite tree) 0 log).1.2 with
  | some problem => simp [houtcome, hproblem, tree, Outcome.success] at h
  | none =>
    obtain ⟨hnew, hcount, hpass⟩ := hwalks hproblem
    refine ⟨k, ?_, hcount, hpass⟩
    rw [houtcome, hproblem, hk, Nat.zero_add, hnew]

end Scrub

open Scrub

/-- A Lua tree that an engine scrubs without failure is changed in its place. Each string that the
walk reaches and that changes is renewed, at every other position stands what stood there, and the
count is that of the strings that change. -/
theorem transform_scrubs_lua (engine : Engine) (kind : Lua.Kind) (attrs : Attrs)
    (log : Array LogRecord) :
    let tree := Value.node (.lua kind) attrs
    let outcome := (Id.run ((transform engine.rewrite tree).run log)).1
    outcome.success = true →
      ∃ new, outcome.tree = some new ∧ outcome.left = new ∧ outcome.sameRoot = true ∧
        (∀ position old, position ≠ [] → Reaches tree position (.lua .string old) →
          ∃ t, Lua.literalText old = .ok t) ∧
        (∀ position old t, ChangesAt engine.rewrite tree position old t →
          ∃ fresh, new.at? position = some (.lua .string fresh) ∧
            Renews old (engine.rewrite t).text fresh) ∧
        (∀ position,
          (∀ changed old t, ChangesAt engine.rewrite tree changed old t → ¬changed <+: position) →
            (new.at? position).map Value.frame = (tree.at? position).map Value.frame) ∧
        {position | ∃ old t, ChangesAt engine.rewrite tree position old t}.encard =
          outcome.count := by
  intro tree outcome hsuccess
  obtain ⟨count, houtcome, hcount, hpass⟩ := transform_lua_yields hsuccess
  have hnew : outcome = ⟨some (renewedRoot engine.rewrite tree), renewedRoot engine.rewrite tree,
    true, count, []⟩ := houtcome
  refine ⟨renewedRoot engine.rewrite tree, by rw [hnew], by rw [hnew], by rw [hnew], ?_, ?_, ?_,
    by rw [hnew]; exact hcount⟩
  · rintro (_ | ⟨step, rest⟩) old hne hreaches
    · exact absurd rfl hne
    · obtain ⟨fresh, hfresh⟩ := hpass step rest old hreaches
      exact exists_literalText_of_ok hfresh
  · rintro (_ | ⟨step, rest⟩) old t ⟨hne, hreaches, ht, hchanged⟩
    · exact absurd rfl hne
    · obtain ⟨fresh, hfresh⟩ := hpass step rest old hreaches
      refine ⟨fresh, ?_, ?_⟩
      · rw [hreaches.at?_renewedRoot, renewedLua_string, renewedString_of_ok hfresh]
      · rw [scrubbedString_of_literalText ht, if_pos hchanged] at hfresh
        exact renews_of_withText hfresh
  · intro position hposition
    apply frame_at?_renewedRoot
    rintro changed ⟨old, t, hchanges⟩
    exact hposition changed old t hchanges

/-! ## Trees at work -/

def luaString (t : String) : Attrs :=
  [("s", .bytes (Lua.encode (Text.ofString t))), ("raw", .text (Text.ofString t)),
    ("delimiter", .symbol .doubleQuote)]

def luaCall (callee : String) (args : List Value) : Value :=
  .lua .call [("func", .lua .nameExpr [("id", .text (Text.ofString callee))]),
    ("args", .list args)]

def luaChunk (body : Value) : Value := .lua .chunk [("body", body)]

/-- The statements `print("ab")` and `require("a")`. -/
def printing : Value :=
  luaChunk (.lua .block [("body", .list [luaCall "print" [.lua .string (luaString "ab")],
    luaCall "require" [.lua .string (luaString "a")]])])

/-- The argument of a call is cut down. It is the only string that changes, so the name of the
module that is loaded stays. -/
theorem transform_scrubs_printing :
    let outcome := (Id.run ((transform withoutA.rewrite printing).run #[])).1
    let position : Position := [(0, none), (0, some 0), (1, some 0)]
    outcome.success = true ∧
      ChangesAt withoutA.rewrite printing position (luaString "ab") (Text.ofString "ab") ∧
      ∃ new, outcome.tree = some new ∧
        (∃ fresh, new.at? position = some (.lua .string fresh) ∧
          Attrs.get? fresh "s" = some (.bytes [0x62])) ∧
        {position | ∃ old t, ChangesAt withoutA.rewrite printing position old t}.encard = 1 := by
  intro outcome position
  have hsuccess : (Id.run ((transform withoutA.rewrite printing).run #[])).1.success = true := by
    cbv
  have hone : (Id.run ((transform withoutA.rewrite printing).run #[])).1.count = 1 := by cbv
  have hchanges : ChangesAt withoutA.rewrite printing position (luaString "ab")
      (Text.ofString "ab") := by
    refine ⟨by simp [position], ⟨_, ⟨_, _, _, _, rfl, rfl, rfl, by decide, rfl⟩, by decide,
      _, ⟨_, _, _, _, rfl, rfl, rfl, by decide, rfl⟩, by decide,
      _, ⟨_, _, _, _, rfl, rfl, rfl, by decide, rfl⟩, by decide, rfl⟩, by cbv, by cbv⟩
  obtain ⟨new, hnew, -, -, -, hrenews, -, hcount⟩ :=
    transform_scrubs_lua withoutA _ _ #[] hsuccess
  obtain ⟨fresh, hfresh, hs, -⟩ := hrenews position _ _ hchanges
  exact ⟨hsuccess, hchanges, new, hnew, ⟨fresh, hfresh, hs.trans (by cbv)⟩,
    hcount.trans (congrArg Nat.cast hone)⟩

/-- A string that holds another one in the place of its written form. -/
def nestedString : Attrs :=
  [("s", .bytes [0x62]), ("raw", .lua .string (luaString "a"))]

/-- A string below a string is passed over, though each step to it is one that the walk makes and
the engine would change its text. -/
theorem transform_passes_over_nested_string :
    let tree := luaChunk (.lua .string nestedString)
    let outcome := (Id.run ((transform withoutA.rewrite tree).run #[])).1
    Descends tree (0, none) (.lua .string nestedString) ∧
      Descends (.lua .string nestedString) (1, none) (.lua .string (luaString "a")) ∧
      Lua.literalText (luaString "a") = .ok (Text.ofString "a") ∧
      (withoutA.rewrite (Text.ofString "a")).changed = true ∧
      outcome.success = true ∧ outcome.count = 0 ∧ outcome.tree = some tree := by
  refine ⟨⟨_, _, _, _, rfl, rfl, rfl, by decide, rfl⟩, ⟨_, _, _, _, rfl, rfl, rfl, by decide, rfl⟩,
    ?_, ?_, ?_, ?_, ?_⟩ <;> cbv

end LiteralScrub
