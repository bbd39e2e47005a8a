import Mathlib.Data.Set.Basic
import LiteralScrub.Proofs.Scrubbed
import LiteralScrub.Scrub.Lua

/-!
# What a scrubbed Lua tree is

A node of a Lua tree is named by its position below the root. `Reaches` says which nodes the walk
comes to, and `renewedLua` what becomes of a tree: the strings that are reached get their new text,
and at every other position the tree stays as it was.
-/
namespace LiteralScrub

/-! ## Positions -/

/-- A way down from a node: at each node the place of an attribute, with the place of an item if
that attribute holds a list. -/
abbrev Position := List (Nat × Option Nat)

namespace Value

def isLuaString : Value → Bool
  | node (.lua .string) _ => true
  | _ => false

/-- The Lua node that the value of an attribute is, or that stands in it as an item. -/
def member (value : Value) : Option Nat → Option Value
  | none => if value.isLuaNode then some value else none
  | some i =>
    match value with
    | list items => items[i]?.filter isLuaNode
    | _ => none

/-- The node one step below a node. -/
def child? (value : Value) (step : Nat × Option Nat) : Option Value :=
  match value with
  | node (.lua _) attrs => attrs[step.1]?.bind fun attr => attr.2.member step.2
  | _ => none

/-- The node at a position. -/
def at? (value : Value) : Position → Option Value
  | [] => some value
  | step :: rest => (value.child? step).bind fun below => below.at? rest

/-- A value with nothing left of a Lua node but its kind. -/
def emptied : Value → Value
  | node (.lua kind) _ => node (.lua kind) []
  | value => value

/-- What an attribute holds, without what is inside the nodes that it holds. -/
def outline : Value → Value
  | list items => list (items.map emptied)
  | value => value.emptied

/-- A node with all that it holds itself. Of the nodes below it only the kinds are left. -/
def frame : Value → Value
  | node kind attrs => node kind (attrs.map fun attr => (attr.1, attr.2.outline))
  | value => value

end Value

namespace Scrub

/-! ## The nodes that the walk reaches -/

def namesRequire : Value → Bool
  | .node (.lua .nameExpr) attrs => textAt attrs "id" = some (Text.ofString "require")
  | _ => false

/-- Whether a node is a call that loads a module, so that nothing below it is visited. -/
def callsRequire (kind : Lua.Kind) (attrs : Attrs) : Bool :=
  kind = .call && (attrs.get? "func").any namesRequire

/-- The walk goes from one node down to another by a step. -/
def Descends (above : Value) (step : Nat × Option Nat) (below : Value) : Prop :=
  ∃ kind attrs name value, above = .node (.lua kind) attrs ∧ callsRequire kind attrs = false ∧
    attrs[step.1]? = some (name, value) ∧ isPassedOver name = false ∧
    value.member step.2 = some below

/-- The walk that starts below a node comes to another node, with no string on its way. -/
def Reaches (above : Value) : Position → Value → Prop
  | [], node => above = node
  | step :: rest, node =>
    ∃ below, Descends above step below ∧ (rest ≠ [] → below.isLuaString = false) ∧
      Reaches below rest node

/-- The walk comes to a string at a position, and the string changes. -/
def ChangesAt (rewrite : Text → Rewriting) (above : Value) (position : Position) (old : Attrs)
    (t : Text) : Prop :=
  position ≠ [] ∧ Reaches above position (.lua .string old) ∧
    Lua.literalText old = .ok t ∧ (rewrite t).changed = true

/-! ## The scrubbed tree -/

variable (rewrite : Text → Rewriting)

/-- What the walk makes of the attributes of a string node that is reached, or why it stops
there. -/
def scrubbedString (attrs : Attrs) : Except Problem Attrs := do
  let t ← Lua.literalText attrs
  if (rewrite t).changed then Lua.withText attrs (rewrite t).text else return attrs

/-- The attributes of a string node that is reached. -/
def renewedString (attrs : Attrs) : Attrs := (scrubbedString rewrite attrs).toOption.getD attrs

mutual

/-- A tree with new attributes for each string that is reached. -/
def renewedLua : Value → Value
  | .node (.lua kind) attrs =>
    .node (.lua kind) <|
      if kind = .string then renewedString rewrite attrs
      else if callsRequire kind attrs then attrs
      else renewedLuaAttrs attrs
  | .list items => .list (renewedLuaItems items)
  | value => value

def renewedLuaAttrs : Attrs → Attrs
  | [] => []
  | (name, value) :: rest =>
    (name, if isPassedOver name then value else renewedLua value) :: renewedLuaAttrs rest

/-- A list holds nodes of the tree, but no further lists of them. -/
def renewedLuaItems : List Value → List Value
  | [] => []
  | item :: rest =>
    (if item.isLuaNode then renewedLua item else item) :: renewedLuaItems rest

end

/-- The tree below a root, which is not taken for a string itself. -/
def renewedRoot : Value → Value
  | .node (.lua kind) attrs =>
    .node (.lua kind) (if callsRequire kind attrs then attrs else renewedLuaAttrs rewrite attrs)
  | value => value

variable {rewrite}

theorem renewedLuaAttrs_eq_map (attrs : Attrs) :
    renewedLuaAttrs rewrite attrs = attrs.map fun attr =>
      (attr.1, if isPassedOver attr.1 then attr.2 else renewedLua rewrite attr.2) := by
  induction attrs with
  | nil => rfl
  | cons attr rest ih => simp [renewedLuaAttrs, ih]

theorem renewedLuaItems_eq_map (items : List Value) :
    renewedLuaItems rewrite items = items.map fun item =>
      if item.isLuaNode then renewedLua rewrite item else item := by
  induction items with
  | nil => rfl
  | cons item rest ih => simp [renewedLuaItems, ih]

theorem renewedLua_string (attrs : Attrs) :
    renewedLua rewrite (.lua .string attrs) = .lua .string (renewedString rewrite attrs) := by
  simp [renewedLua, Value.lua]

/-- A node that is no string is renewed as a root is. -/
theorem renewedLua_eq_renewedRoot {value : Value} (hnode : value.isLuaNode)
    (hstring : value.isLuaString = false) :
    renewedLua rewrite value = renewedRoot rewrite value := by
  match value with
  | .node (.lua kind) attrs =>
    have hkind : kind ≠ .string := by
      rintro rfl
      simp [Value.isLuaString] at hstring
    simp [renewedLua, renewedRoot, hkind]

theorem emptied_renewedLua {value : Value} (h : value.isLuaNode) :
    (renewedLua rewrite value).emptied = value.emptied := by
  match value with
  | .node (.lua kind) attrs => simp [renewedLua, Value.emptied]

theorem isLuaNode_renewedLua (value : Value) :
    (renewedLua rewrite value).isLuaNode = value.isLuaNode := by
  rcases value with _ | _ | _ | _ | _ | _ | _ | _ | _ | _ | _ | _ | ⟨_ | _, _⟩ <;>
    simp [renewedLua, Value.isLuaNode]

theorem outline_renewedLua (value : Value) :
    (renewedLua rewrite value).outline = value.outline := by
  rcases value with _ | _ | _ | _ | _ | _ | _ | _ | _ | items | _ | _ | ⟨_ | _, _⟩ <;>
    simp only [renewedLua, Value.outline, Value.emptied]
  rw [renewedLuaItems_eq_map, List.map_map]
  congr 1
  apply List.map_congr_left
  intro item _
  rw [Function.comp_apply]
  split_ifs with hnode
  · exact emptied_renewedLua hnode
  · rfl

theorem frame_renewedRoot (value : Value) :
    (renewedRoot rewrite value).frame = value.frame := by
  rcases value with _ | _ | _ | _ | _ | _ | _ | _ | _ | _ | _ | _ | ⟨_ | _, attrs⟩ <;>
    simp only [renewedRoot, Value.frame]
  split_ifs with hcalls
  · rfl
  · rw [renewedLuaAttrs_eq_map, List.map_map]
    congr 1
    apply List.map_congr_left
    intro attr _
    rw [Function.comp_apply]
    split_ifs
    · rfl
    · rw [outline_renewedLua]

/-! ## Going down in the scrubbed tree -/

theorem isLuaNode_of_member {value below : Value} {j : Option Nat}
    (h : value.member j = some below) : below.isLuaNode := by
  cases j with
  | none =>
    simp only [Value.member] at h
    split_ifs at h with hnode
    exact Option.some.inj h ▸ hnode
  | some i =>
    simp only [Value.member] at h
    split at h
    · exact (Option.filter_eq_some_iff.mp h).2
    · simp at h

theorem member_renewedLua (value : Value) (j : Option Nat) :
    (renewedLua rewrite value).member j = (value.member j).map (renewedLua rewrite) := by
  cases j with
  | none =>
    simp only [Value.member, isLuaNode_renewedLua]
    split_ifs <;> rfl
  | some i =>
    rcases value with _ | _ | _ | _ | _ | _ | _ | _ | _ | items | _ | _ | ⟨_ | _, _⟩ <;>
      simp only [renewedLua, Value.member, Option.map_none]
    rw [renewedLuaItems_eq_map, List.getElem?_map]
    cases items[i]? with
    | none => rfl
    | some item =>
      cases hnode : item.isLuaNode <;>
        simp [Option.filter, hnode, isLuaNode_renewedLua]

theorem Descends.child?_eq {above below : Value} {step : Nat × Option Nat}
    (h : Descends above step below) : above.child? step = some below := by
  obtain ⟨kind, attrs, name, value, rfl, -, hattr, -, hmember⟩ := h
  simp [Value.child?, hattr, hmember]

theorem Descends.isLuaNode {above below : Value} {step : Nat × Option Nat}
    (h : Descends above step below) : below.isLuaNode := by
  obtain ⟨_, _, _, _, _, _, _, _, hmember⟩ := h
  exact isLuaNode_of_member hmember

theorem Descends.child?_renewedRoot {above below : Value} {step : Nat × Option Nat}
    (h : Descends above step below) :
    (renewedRoot rewrite above).child? step = some (renewedLua rewrite below) := by
  obtain ⟨kind, attrs, name, value, rfl, hcalls, hattr, hname, hmember⟩ := h
  simp [renewedRoot, hcalls, Value.child?, renewedLuaAttrs_eq_map, hattr, hname,
    member_renewedLua, hmember]

/-- Where the walk makes no step the tree below is the old one. -/
theorem child?_renewedRoot_of_not_descends {above : Value} {step : Nat × Option Nat}
    (h : ¬∃ below, Descends above step below) :
    (renewedRoot rewrite above).child? step = above.child? step := by
  rcases above with _ | _ | _ | _ | _ | _ | _ | _ | _ | _ | _ | _ | ⟨_ | kind, attrs⟩ <;>
    simp only [renewedRoot]
  split_ifs with hcalls
  · rfl
  · simp only [Value.child?, renewedLuaAttrs_eq_map, List.getElem?_map]
    cases hattr : attrs[step.1]? with
    | none => rfl
    | some attr =>
      simp only [Option.map_some, Option.bind_some]
      split_ifs with hname
      · rfl
      · cases hmember : attr.2.member step.2 with
        | none => simp [member_renewedLua, hmember]
        | some below =>
          exact absurd ⟨below, kind, attrs, attr.1, attr.2, rfl, by simpa using hcalls, hattr,
            by simpa using hname, hmember⟩ h

/-- At a position that the walk reaches stands the scrubbed node. -/
theorem Reaches.at?_renewedRoot {above node : Value} {step : Nat × Option Nat} {rest : Position}
    (h : Reaches above (step :: rest) node) :
    (renewedRoot rewrite above).at? (step :: rest) = some (renewedLua rewrite node) := by
  induction rest generalizing above step with
  | nil =>
    obtain ⟨below, hdescends, -, rfl⟩ := h
    simp [Value.at?, hdescends.child?_renewedRoot]
  | cons next rest ih =>
    obtain ⟨below, hdescends, hstring, hrest⟩ := h
    rw [Value.at?, hdescends.child?_renewedRoot, Option.bind_some,
      renewedLua_eq_renewedRoot hdescends.isLuaNode (hstring (by simp)), ih hrest]

/-! ## What changes below a node -/

/-- The positions below a node at which a string changes. -/
def changedBelow (rewrite : Text → Rewriting) (above : Value) : Set Position :=
  {position | ∃ old t, ChangesAt rewrite above position old t}

/-- The positions at which a string changes once the walk comes to a node, which may be a string
itself. -/
def changedFrom (rewrite : Text → Rewriting) (value : Value) : Set Position :=
  {position | ∃ old t, (position ≠ [] → value.isLuaString = false) ∧
    Reaches value position (.lua .string old) ∧
    Lua.literalText old = .ok t ∧ (rewrite t).changed = true}

theorem cons_mem_changedBelow {above : Value} {step : Nat × Option Nat} {rest : Position} :
    step :: rest ∈ changedBelow rewrite above ↔
      ∃ below, Descends above step below ∧ rest ∈ changedFrom rewrite below := by
  constructor
  · rintro ⟨old, t, -, ⟨below, hdescends, hstring, hreaches⟩, ht, hchanged⟩
    exact ⟨below, hdescends, old, t, hstring, hreaches, ht, hchanged⟩
  · rintro ⟨below, hdescends, old, t, hstring, hreaches, ht, hchanged⟩
    exact ⟨old, t, by simp, ⟨below, hdescends, hstring, hreaches⟩, ht, hchanged⟩

theorem nil_not_mem_changedBelow {above : Value} : [] ∉ changedBelow rewrite above := by
  rintro ⟨old, t, h, -⟩
  exact h rfl

theorem changedFrom_eq_changedBelow {value : Value} (h : value.isLuaString = false) :
    changedFrom rewrite value = changedBelow rewrite value := by
  ext position
  cases position with
  | nil =>
    refine iff_of_false ?_ nil_not_mem_changedBelow
    rintro ⟨old, t, -, rfl, -⟩
    simp [Value.lua, Value.isLuaString] at h
  | cons step rest =>
    simp [changedFrom, changedBelow, ChangesAt, h]

theorem mem_changedFrom_string {attrs : Attrs} {position : Position} :
    position ∈ changedFrom rewrite (.lua .string attrs) ↔
      position = [] ∧ ∃ t, Lua.literalText attrs = .ok t ∧ (rewrite t).changed = true := by
  cases position with
  | nil => simp [changedFrom, Reaches, Value.lua]
  | cons step rest => simp [changedFrom, Value.lua, Value.isLuaString]

theorem scrubbedString_of_literalText {attrs : Attrs} {t : Text}
    (h : Lua.literalText attrs = .ok t) :
    scrubbedString rewrite attrs =
      if (rewrite t).changed then Lua.withText attrs (rewrite t).text else .ok attrs := by
  rw [scrubbedString, h]
  rfl

theorem scrubbedString_of_error {attrs : Attrs} {problem : Problem}
    (h : Lua.literalText attrs = .error problem) :
    scrubbedString rewrite attrs = .error problem := by
  rw [scrubbedString, h]
  rfl

theorem renewedString_of_ok {attrs fresh : Attrs} (h : scrubbedString rewrite attrs = .ok fresh) :
    renewedString rewrite attrs = fresh := by
  rw [renewedString, h]
  rfl

theorem renewedString_of_error {attrs : Attrs} {problem : Problem}
    (h : scrubbedString rewrite attrs = .error problem) : renewedString rewrite attrs = attrs := by
  rw [renewedString, h]
  rfl

theorem renewedString_of_unchanged {attrs : Attrs}
    (h : ¬∃ t, Lua.literalText attrs = .ok t ∧ (rewrite t).changed = true) :
    renewedString rewrite attrs = attrs := by
  cases ht : Lua.literalText attrs with
  | error problem => exact renewedString_of_error (scrubbedString_of_error ht)
  | ok t =>
    apply renewedString_of_ok
    rw [scrubbedString_of_literalText ht, if_neg fun hchanged => h ⟨t, ht, hchanged⟩]

theorem eq_string_of_isLuaString {value : Value} (h : value.isLuaString = true) :
    ∃ attrs, value = .lua .string attrs := by
  unfold Value.isLuaString at h
  split at h
  · exact ⟨_, rfl⟩
  · simp at h

/-- At a position that neither is nor lies below one where a string changes, the scrubbed tree
holds what the old one does. -/
theorem frame_at?_renewedRoot {position : Position} {above : Value}
    (h : ∀ changed ∈ changedBelow rewrite above, ¬changed <+: position) :
    ((renewedRoot rewrite above).at? position).map Value.frame =
      (above.at? position).map Value.frame := by
  induction position generalizing above with
  | nil => simp [Value.at?, frame_renewedRoot]
  | cons step rest ih =>
    rw [Value.at?, Value.at?]
    by_cases hdescends : ∃ below, Descends above step below
    · obtain ⟨below, hdescends⟩ := hdescends
      have hbelow : ∀ changed ∈ changedFrom rewrite below, ¬changed <+: rest :=
        fun changed hchanged hprefix => h (step :: changed)
          (cons_mem_changedBelow.mpr ⟨below, hdescends, hchanged⟩)
          ((List.prefix_cons_inj step).mpr hprefix)
      rw [hdescends.child?_renewedRoot, hdescends.child?_eq, Option.bind_some, Option.bind_some]
      cases hstring : below.isLuaString with
      | true =>
        -- the walk ends here, so a string that does not change is the old one with all below it
        obtain ⟨attrs, rfl⟩ := eq_string_of_isLuaString hstring
        have hsame : ¬∃ t, Lua.literalText attrs = .ok t ∧ (rewrite t).changed = true :=
          fun hchanged => hbelow [] (mem_changedFrom_string.mpr ⟨rfl, hchanged⟩) List.nil_prefix
        rw [renewedLua_string, renewedString_of_unchanged hsame]
      | false =>
        rw [renewedLua_eq_renewedRoot hdescends.isLuaNode hstring]
        exact ih (changedFrom_eq_changedBelow hstring ▸ hbelow)
    · rw [child?_renewedRoot_of_not_descends hdescends]

end Scrub

end LiteralScrub
