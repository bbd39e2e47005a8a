import LiteralScrub.Proofs.Exhaustive
import LiteralScrub.Proofs.LuaStops
import LiteralScrub.Proofs.LuaTrees

/-!
# Lua trees that are left by a failure

Where an engine fails on a Lua tree, the tree is left as the beginning of the scrub: the strings
before the first node at which the walk stops are scrubbed as they are without failure, and all else
is as it was. The count is that of the strings that have changed, and one more if the walk stops at
a string in which something is found: that one is counted before it turns out that it cannot be made
anew.
-/
namespace LiteralScrub

namespace Scrub

variable {rewrite : Text → Rewriting}

theorem transform_lua_left (rewrite : Text → Rewriting) (kind : Lua.Kind) (attrs : Attrs)
    (log : Array LogRecord) :
    let tree := Value.node (.lua kind) attrs
    (Id.run ((transform rewrite tree).run log)).1.left =
      (walked (walkLua rewrite tree) 0 log).1.1 := by
  intro tree
  have houtcome := transform_lua_eq rewrite kind attrs log
  simp only at houtcome
  cases hproblem : (walked (walkLua rewrite tree) 0 log).1.2 <;> simp [tree, houtcome, hproblem]

theorem transform_lua_success_and_count (rewrite : Text → Rewriting) (kind : Lua.Kind)
    (attrs : Attrs) (log : Array LogRecord) :
    let tree := Value.node (.lua kind) attrs
    let outcome := (Id.run ((transform rewrite tree).run log)).1
    let walk := walked (walkLua rewrite tree) 0 log
    outcome.success = walk.1.2.isNone ∧ outcome.count = walk.2 := by
  intro tree outcome walk
  have houtcome := transform_lua_eq rewrite kind attrs log
  simp only at houtcome
  cases hproblem : walk.1.2 <;> simp [outcome, tree, walk, houtcome, hproblem, Outcome.success]

/-- A Lua tree on which scrubbing fails is left as the tree up to the first node at which the walk
stops. -/
theorem transform_lua_halts {kind : Lua.Kind} {attrs : Attrs} {log : Array LogRecord}
    (h : (Id.run ((transform rewrite (.node (.lua kind) attrs)).run log)).1.success = false) :
    let tree := Value.node (.lua kind) attrs
    ∃ last problem left count, (Id.run ((transform rewrite tree).run log)).1 =
        ⟨none, left, false, count, [complaint problem]⟩ ∧
      (courseBelow rewrite tree).Halts last problem left count := by
  intro tree
  obtain ⟨k, hk, hends⟩ := @walkLua_ends rewrite kind attrs 0 log
  have houtcome := transform_lua_eq rewrite kind attrs log
  simp only at houtcome
  cases hproblem : (walked (walkLua rewrite tree) 0 log).1.2 with
  | none => simp [houtcome, hproblem, tree, Outcome.success] at h
  | some problem =>
    obtain ⟨last, hhalts⟩ := hends.2 problem hproblem
    refine ⟨last, problem, _, k, ?_, hhalts⟩
    rw [houtcome, hproblem, hk, Nat.zero_add]

/-- A string that the walk comes to has a text in which the engine finds something. -/
def FoundAt (engine : Engine) (tree : Value) (position : Position) (old : Attrs) (t : Text) :
    Prop :=
  position ≠ [] ∧ Reaches tree position (.lua .string old) ∧ Lua.literalText old = .ok t ∧
    engine.Finds t

theorem foundAt_iff_changesAt {engine : Engine} {tree : Value} {position : Position} {old : Attrs}
    {t : Text} :
    FoundAt engine tree position old t ↔ ChangesAt engine.rewrite tree position old t := by
  rw [FoundAt, ChangesAt, Engine.changed_iff_finds]

end Scrub

open Scrub

/-- Where an engine fails on a Lua tree, there is a first node at which the walk stops. The strings
before it in which something is found are renewed as in the tree that a walk without failure gives,
and at every other position stands what stood there. The count is that of those strings if nothing
is found at the node, and one more if it is a string in which something is found. -/
theorem transform_failed_leaves_beginning (engine : Engine) (kind : Lua.Kind) (attrs : Attrs)
    (log : Array LogRecord) :
    let tree := Value.node (.lua kind) attrs
    let outcome := (Id.run ((transform engine.rewrite tree).run log)).1
    outcome.success = false →
      ∃ last problem, StopsAt engine.rewrite tree last problem ∧
        (∀ position other, StopsAt engine.rewrite tree position other → ¬Earlier position last) ∧
        outcome.tree = none ∧ outcome.errors = [complaint problem] ∧
        (∀ position old t, FoundAt engine tree position old t → Earlier position last →
          ∃ fresh, outcome.left.at? position = some (.lua .string fresh) ∧
            (renewedRoot engine.rewrite tree).at? position = some (.lua .string fresh) ∧
            Renews old (engine.rewrite t).text fresh) ∧
        (∀ position,
          (∀ changed old t, FoundAt engine tree changed old t → Earlier changed last →
            ¬changed <+: position) →
          (outcome.left.at? position).map Value.frame = (tree.at? position).map Value.frame) ∧
        ((¬∃ old t, FoundAt engine tree last old t) →
          {position | (∃ old t, FoundAt engine tree position old t) ∧
            Earlier position last}.encard = outcome.count) ∧
        ((∃ old t, FoundAt engine tree last old t) →
          {position | (∃ old t, FoundAt engine tree position old t) ∧
            Earlier position last}.encard + 1 = outcome.count) := by
  intro tree outcome hfailure
  obtain ⟨last, problem, left, count, houtcome, hhalts⟩ := transform_lua_halts hfailure
  have hnew : outcome = ⟨none, left, false, count, [complaint problem]⟩ := houtcome
  have hleft : left = renewedUpTo engine.rewrite last tree := hhalts.left_eq
  have hcount := hhalts.encard_earlier
  obtain ⟨stopKind, stopAttrs, hlast, -⟩ := hhalts.stops
  simp only [foundAt_iff_changesAt]
  rw [hnew, hleft]
  refine ⟨last, problem, hhalts.stops, hhalts.first, rfl, rfl, ?_, ?_, ?_, ?_⟩
  · intro position old t hchanges hearlier
    obtain ⟨hne, hreaches, ht, hchanged⟩ := hchanges
    cases hfresh : scrubbedString engine.rewrite old with
    | error other =>
      -- the walk would have stopped there already
      exact absurd hearlier
        (hhalts.first position other ⟨_, _, hreaches, .inr ⟨hne, rfl, hfresh⟩⟩)
    | ok fresh =>
      have hnode : renewedLua engine.rewrite (.lua .string old) = .lua .string fresh := by
        rw [renewedLua_string, renewedString_of_ok hfresh]
      refine ⟨fresh, ?_, ?_, ?_⟩
      · rw [hlast.at?_renewedUpTo hreaches hne hearlier, hnode]
      · cases position with
        | nil => exact absurd rfl hne
        | cons step rest => rw [hreaches.at?_renewedRoot, hnode]
      · rw [scrubbedString_of_literalText ht, if_pos hchanged] at hfresh
        exact renews_of_withText hfresh
  · intro position hposition
    apply frame_at?_renewedUpTo hlast
    rintro changed ⟨old, t, hchanges⟩ hearlier
    exact hposition changed old t hchanges hearlier
  · intro hnone
    have hempty : (courseBelow engine.rewrite tree).changed ∩ {last} = ∅ :=
      Set.inter_singleton_eq_empty.mpr hnone
    rw [hempty, Set.encard_empty, add_zero] at hcount
    exact hcount
  · intro hsome
    have hone : (courseBelow engine.rewrite tree).changed ∩ {last} = {last} :=
      Set.inter_eq_right.mpr (Set.singleton_subset_iff.mpr hsome)
    rw [hone, Set.encard_singleton] at hcount
    exact hcount

/-! ## A tree at work -/

/-- Below a node with one attribute, the walk stops in what the attribute holds. -/
theorem stopsIn_of_stopsAt_singleton {rewrite : Text → Rewriting} {kind : Lua.Kind} {name : String}
    {value : Value} {position : Position} {problem : Problem}
    (hcall : isRequireCall kind [(name, value)] = .ok false)
    (h : StopsAt rewrite (.node (.lua kind) [(name, value)]) position problem) :
    ∃ place, position = descent (0, place) ∧ StopsIn rewrite value place problem := by
  rcases position with _ | ⟨⟨i, j⟩, rest⟩
  · cases hcall.symm.trans (stopsAt_nil_iff.mp h)
  · obtain ⟨attr, hattr, -, hbelow⟩ :=
      (stopsAt_descent_iff (callsRequire_of_isRequireCall hcall) (x := (i, j, rest))).mp h
    obtain ⟨hi, rfl⟩ := List.getElem?_eq_some_iff.mp hattr
    obtain rfl : i = 0 := by simpa using hi
    exact ⟨(j, rest), rfl, hbelow⟩

/-- A string whose text cannot be read stands between two strings that can be read. -/
def brokenBetween : Value :=
  luaChunk (.lua .block [("body", .list [.lua .string (luaString "ab"),
    .lua .string [("s", .list [])], .lua .string (luaString "ab")])])

theorem eq_of_stopsAt_brokenBetween {position : Position} {problem : Problem}
    (h : StopsAt withoutA.rewrite brokenBetween position problem) :
    position = [(0, none), (0, some 1)] := by
  have htext : Lua.literalText (luaString "ab") = .ok (Text.ofString "ab") := by cbv
  have hchanged : (withoutA.rewrite (Text.ofString "ab")).changed = true := by cbv
  obtain ⟨fresh, hfresh⟩ :
      ∃ fresh, scrubbedString withoutA.rewrite (luaString "ab") = .ok fresh := by
    rw [scrubbedString_of_literalText htext, if_pos hchanged]
    exact ⟨_, Lua.withText_eq_ok_iff.mpr ⟨_, rfl, rfl⟩⟩
  obtain ⟨⟨_ | j, rest⟩, rfl, block, hblock, hstops⟩ := stopsIn_of_stopsAt_singleton rfl h
  · cases hblock
    obtain ⟨⟨_ | j, rest⟩, rfl, item, hitem, hstops⟩ :=
      stopsIn_of_stopsAt_singleton rfl ((stopsFrom_iff_stopsAt rfl).mp hstops)
    · cases hitem
    · obtain _ | _ | _ | j := j
      · cases hitem
        cases hfresh.symm.trans (stopsFrom_string_iff.mp hstops).2
      · cases hitem
        obtain ⟨rfl, -⟩ := stopsFrom_string_iff.mp hstops
        rfl
      · cases hitem
        cases hfresh.symm.trans (stopsFrom_string_iff.mp hstops).2
      · cases hitem
  · cases hblock

theorem not_foundAt_brokenBetween :
    ¬∃ old t, FoundAt withoutA brokenBetween [(0, none), (0, some 1)] old t := by
  have htext : Lua.literalText [("s", .list [])] = .error (.noAttribute "list" "decode") := rfl
  rintro ⟨old, t, -, ⟨block, ⟨_, _, _, _, hroot, -, hbody, -, hblock⟩, -, broken,
    ⟨_, _, _, _, hbelow, -, hitems, -, hbroken⟩, -, hstring⟩, ht, -⟩
  cases hroot
  cases hbody
  cases hblock
  cases hbelow
  cases hitems
  cases hbroken
  cases hstring
  cases htext.symm.trans ht

/-- The string before the broken one is cut down, and the one behind it, which has the same text, is
not. -/
theorem transform_failed_leaves_beginning_broken :
    let outcome := (Id.run ((transform withoutA.rewrite brokenBetween).run #[])).1
    let item (i : Nat) : Position := [(0, none), (0, some i)]
    outcome.success = false ∧
      FoundAt withoutA brokenBetween (item 0) (luaString "ab") (Text.ofString "ab") ∧
      FoundAt withoutA brokenBetween (item 2) (luaString "ab") (Text.ofString "ab") ∧
      ∃ problem, StopsAt withoutA.rewrite brokenBetween (item 1) problem ∧
        outcome.errors = [complaint problem] ∧
        (∃ fresh, outcome.left.at? (item 0) = some (.lua .string fresh) ∧
          Attrs.get? fresh "s" = some (.bytes [0x62])) ∧
        (outcome.left.at? (item 2)).map Value.frame =
          (brokenBetween.at? (item 2)).map Value.frame ∧
        {position | (∃ old t, FoundAt withoutA brokenBetween position old t) ∧
          Earlier position (item 1)}.encard = 1 := by
  intro outcome item
  have hfailure : (Id.run ((transform withoutA.rewrite brokenBetween).run #[])).1.success =
      false := (transform_lua_success_and_count withoutA.rewrite _ _ #[]).1.trans (by cbv)
  have hone : (Id.run ((transform withoutA.rewrite brokenBetween).run #[])).1.count = 1 :=
    (transform_lua_success_and_count withoutA.rewrite _ _ #[]).2.trans (by cbv)
  have hfinds : withoutA.Finds (Text.ofString "ab") := Engine.changed_iff_finds.mp (by cbv)
  have hfound (i : Nat) (hi : i = 0 ∨ i = 2) :
      FoundAt withoutA brokenBetween (item i) (luaString "ab") (Text.ofString "ab") := by
    refine ⟨by simp [item], ?_, by cbv, hfinds⟩
    rcases hi with rfl | rfl <;>
      exact ⟨_, ⟨_, _, _, _, rfl, rfl, rfl, by decide, rfl⟩, by decide,
        _, ⟨_, _, _, _, rfl, rfl, rfl, by decide, rfl⟩, by decide, rfl⟩
  obtain ⟨last, problem, hstops, -, -, herrors, hrenews, hkeeps, hcount, -⟩ :=
    transform_failed_leaves_beginning withoutA _ _ #[] hfailure
  obtain rfl := eq_of_stopsAt_brokenBetween hstops
  obtain ⟨fresh, hfresh, -, hs, -⟩ := hrenews (item 0) _ _ (hfound 0 (.inl rfl))
    (earlier_cons_iff.mpr (.inr ⟨rfl, .rel (.inr ⟨rfl, Nat.one_pos⟩)⟩))
  refine ⟨hfailure, hfound 0 (.inl rfl), hfound 2 (.inr rfl), problem, hstops, herrors,
    ⟨fresh, hfresh, hs.trans (by cbv)⟩, hkeeps (item 2) ?_,
    (hcount not_foundAt_brokenBetween).trans (congrArg Nat.cast hone)⟩
  -- Of the positions down to the last string, only its own is one of a string, and it comes later.
  rintro changed old t ⟨hne, hreaches, -⟩ hearlier hbegins
  obtain rfl | ⟨_, rfl, rfl | rfl⟩ :
      changed = [] ∨ ∃ rest, changed = (0, none) :: rest ∧ (rest = [] ∨ rest = [(0, some 2)]) := by
    simpa [item, List.prefix_cons_iff] using hbegins
  · exact hne rfl
  · obtain ⟨below, ⟨_, _, _, _, heq, -, hattr, -, hmember⟩, -, hstring⟩ := hreaches
    cases heq
    cases hattr
    cases hmember
    cases hstring
  · simp [earlier_cons_iff, GoesBefore, ItemBefore, not_earlier_nil] at hearlier

/-- An argument of `require`, a string below a string, and behind them a string whose text cannot be
read. -/
def passedOverBefore : Value :=
  luaChunk (.lua .block [("body", .list [luaCall "require" [.lua .string (luaString "a")],
    .lua .string nestedString, .lua .string [("s", .int 5)]])])

/-- The walk comes neither to an argument of `require` nor to a string below a string. So both are
left as they were, though they stand before the node at which it stops and the engine finds
something in them. -/
theorem transform_failed_passes_over_strings :
    let outcome := (Id.run ((transform withoutA.rewrite passedOverBefore).run #[])).1
    let argument : Position := [(0, none), (0, some 0), (1, some 0)]
    let inner : Position := [(0, none), (0, some 1), (1, none)]
    let last : Position := [(0, none), (0, some 2)]
    passedOverBefore.at? argument = some (.lua .string (luaString "a")) ∧
      passedOverBefore.at? inner = some (.lua .string (luaString "a")) ∧
      Lua.literalText (luaString "a") = .ok (Text.ofString "a") ∧
      withoutA.Finds (Text.ofString "a") ∧
      StopsAt withoutA.rewrite passedOverBefore last (.noAttribute "int" "decode") ∧
      Earlier argument last ∧ Earlier inner last ∧
      outcome.success = false ∧ outcome.left = passedOverBefore ∧ outcome.count = 0 := by
  intro outcome argument inner last
  have hfinds : withoutA.Finds (Text.ofString "a") := Engine.changed_iff_finds.mp (by cbv)
  have hstops : StopsAt withoutA.rewrite passedOverBefore last (.noAttribute "int" "decode") :=
    ⟨.string, _, ⟨_, ⟨_, _, _, _, rfl, rfl, rfl, by decide, rfl⟩, by decide,
      _, ⟨_, _, _, _, rfl, rfl, rfl, by decide, rfl⟩, by decide, rfl⟩,
      .inr ⟨by simp [last], rfl, scrubbedString_of_error rfl⟩⟩
  have hearlier {i : Nat} {rest : Position} (hi : i < 2) :
      Earlier ((0, none) :: (0, some i) :: rest) last :=
    earlier_cons_iff.mpr (.inr ⟨rfl, .rel (.inr ⟨rfl, hi⟩)⟩)
  refine ⟨by cbv, by cbv, by cbv, hfinds, hstops, hearlier (by decide), hearlier (by decide),
    ?_, ?_, ?_⟩
  · exact (transform_lua_success_and_count withoutA.rewrite _ _ #[]).1.trans (by cbv)
  · exact (transform_lua_left withoutA.rewrite _ _ #[]).trans (by cbv)
  · exact (transform_lua_success_and_count withoutA.rewrite _ _ #[]).2.trans (by cbv)

end LiteralScrub
