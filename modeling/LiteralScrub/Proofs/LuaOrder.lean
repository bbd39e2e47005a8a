import LiteralScrub.Proofs.LuaWalk

/-!
# The order of the walk through a Lua tree

`Earlier` is the order in which the walk comes to positions: attributes and items from left to
right, and a node before what is below it. `StopsAt` says where it cannot go on. `renewedUpTo` is
the tree if it stops at a position: strings that are reached earlier have their new text, and all
else is as it was.
-/
namespace LiteralScrub.Scrub

/-! ## The order of the walk -/

/-- One item of a list comes before another. -/
def ItemBefore : Option Nat → Option Nat → Prop
  | some i, some j => i < j
  | _, _ => False

/-- One step down from a node comes before another: attributes come in their order, and the items of
a list from left to right. -/
def GoesBefore (step other : Nat × Option Nat) : Prop :=
  step.1 < other.1 ∨ step.1 = other.1 ∧ ItemBefore step.2 other.2

/-- The walk comes to a position before it comes to another one. A node comes before what is below
it. -/
def Earlier : Position → Position → Prop := List.Lex GoesBefore

/-- The same order within what one attribute holds. -/
def EarlierIn (x y : Option Nat × Position) : Prop :=
  ItemBefore x.1 y.1 ∨ x.1 = y.1 ∧ Earlier x.2 y.2

theorem not_earlier_nil (position : Position) : ¬Earlier position [] := by
  rintro ⟨⟩

theorem earlier_cons_iff {step other : Nat × Option Nat} {rest rest' : Position} :
    Earlier (step :: rest) (other :: rest') ↔
      GoesBefore step other ∨ step = other ∧ Earlier rest rest' := by
  constructor
  · intro h
    cases h with
    | rel hbefore => exact .inl hbefore
    | cons hrest => exact .inr ⟨rfl, hrest⟩
  · rintro (hbefore | ⟨rfl, hrest⟩)
    · exact .rel hbefore
    · exact .cons hrest

theorem earlier_descent_iff {x y : Nat × Option Nat × Position} :
    Earlier (descent x) (descent y) ↔ x.1 < y.1 ∨ x.1 = y.1 ∧ EarlierIn x.2 y.2 := by
  simp only [descent, earlier_cons_iff, GoesBefore, EarlierIn, Prod.mk.injEq]
  tauto

theorem eq_or_earlier_descent_iff {x y : Nat × Option Nat × Position} :
    descent x = descent y ∨ Earlier (descent x) (descent y) ↔
      x.1 < y.1 ∨ x.1 = y.1 ∧ (x.2 = y.2 ∨ EarlierIn x.2 y.2) := by
  rw [earlier_descent_iff, descent_injective.eq_iff, Prod.ext_iff]
  tauto

theorem eq_or_earlierIn_some_iff {i n : Nat} {position last : Position} :
    (some i, position) = (some n, last) ∨ EarlierIn (some i, position) (some n, last) ↔
      i < n ∨ i = n ∧ (position = last ∨ Earlier position last) := by
  simp only [EarlierIn, ItemBefore, Prod.mk.injEq, Option.some.injEq]
  tauto

/-! ## Nodes at which the walk stops -/

/-- The walk from a root cannot go on at a position: it cannot tell whether a call loads a module,
or it cannot scrub a string. -/
def StopsAt (rewrite : Text → Rewriting) (root : Value) (position : Position)
    (problem : Problem) : Prop :=
  ∃ kind attrs, Reaches root position (.lua kind attrs) ∧
    (isRequireCall kind attrs = .error problem ∨
      position ≠ [] ∧ kind = .string ∧ scrubbedString rewrite attrs = .error problem)

/-- The same once the walk comes to a value, which may be a string itself. -/
def StopsFrom (rewrite : Text → Rewriting) (value : Value) (position : Position)
    (problem : Problem) : Prop :=
  ∃ kind attrs, (position ≠ [] → value.isLuaString = false) ∧
    Reaches value position (.lua kind attrs) ∧
    (isRequireCall kind attrs = .error problem ∨
      kind = .string ∧ scrubbedString rewrite attrs = .error problem)

/-- The same in what an attribute holds. -/
def StopsIn (rewrite : Text → Rewriting) (value : Value) (place : Option Nat × Position)
    (problem : Problem) : Prop :=
  ∃ below, value.member place.1 = some below ∧ StopsFrom rewrite below place.2 problem

variable {rewrite : Text → Rewriting}

theorem stopsAt_nil_iff {kind : Lua.Kind} {attrs : Attrs} {problem : Problem} :
    StopsAt rewrite (.node (.lua kind) attrs) [] problem ↔
      isRequireCall kind attrs = .error problem := by
  constructor
  · rintro ⟨_, _, hreaches, hcall | ⟨hne, -⟩⟩
    · cases hreaches
      exact hcall
    · exact absurd rfl hne
  · exact fun hcall => ⟨kind, attrs, rfl, .inl hcall⟩

theorem stopsAt_cons_iff {above : Value} {step : Nat × Option Nat} {rest : Position}
    {problem : Problem} :
    StopsAt rewrite above (step :: rest) problem ↔
      ∃ below, Descends above step below ∧ StopsFrom rewrite below rest problem := by
  constructor
  · rintro ⟨kind, attrs, ⟨below, hdescends, hstring, hreaches⟩, hstops⟩
    exact ⟨below, hdescends, kind, attrs, hstring, hreaches, hstops.imp_right And.right⟩
  · rintro ⟨below, hdescends, kind, attrs, hstring, hreaches, hstops⟩
    exact ⟨kind, attrs, ⟨below, hdescends, hstring, hreaches⟩,
      hstops.imp_right fun h => ⟨List.cons_ne_nil _ _, h⟩⟩

theorem stopsAt_descent_iff {kind : Lua.Kind} {attrs : Attrs} {problem : Problem}
    (hcalls : callsRequire kind attrs = false) {x : Nat × Option Nat × Position} :
    StopsAt rewrite (.node (.lua kind) attrs) (descent x) problem ↔
      ∃ attr, attrs[x.1]? = some attr ∧ isPassedOver attr.1 = false ∧
        StopsIn rewrite attr.2 x.2 problem := by
  rw [descent, stopsAt_cons_iff]
  constructor
  · rintro ⟨below, ⟨_, _, name, value, heq, -, hattr, hname, hmember⟩, hbelow⟩
    cases heq
    exact ⟨(name, value), hattr, hname, below, hmember, hbelow⟩
  · rintro ⟨⟨name, value⟩, hattr, hname, below, hmember, hbelow⟩
    exact ⟨below, ⟨kind, attrs, name, value, rfl, hcalls, hattr, hname, hmember⟩, hbelow⟩

theorem stopsFrom_iff_stopsAt {value : Value} {position : Position} {problem : Problem}
    (h : value.isLuaString = false) :
    StopsFrom rewrite value position problem ↔ StopsAt rewrite value position problem := by
  constructor
  · rintro ⟨kind, attrs, -, hreaches, hcall | ⟨rfl, hscrubbed⟩⟩
    · exact ⟨kind, attrs, hreaches, .inl hcall⟩
    · refine ⟨.string, attrs, hreaches, .inr ⟨?_, rfl, hscrubbed⟩⟩
      rintro rfl
      cases hreaches
      simp [Value.lua, Value.isLuaString] at h
  · rintro ⟨kind, attrs, hreaches, hstops⟩
    exact ⟨kind, attrs, fun _ => h, hreaches, hstops.imp_right And.right⟩

theorem stopsFrom_string_iff {attrs : Attrs} {position : Position} {problem : Problem} :
    StopsFrom rewrite (.lua .string attrs) position problem ↔
      position = [] ∧ scrubbedString rewrite attrs = .error problem := by
  constructor
  · rintro ⟨kind, attrs', hstring, hreaches, hstops⟩
    cases position with
    | nil =>
      cases hreaches
      exact ⟨rfl, hstops.elim (fun hcall => by cases hcall) And.right⟩
    | cons step rest => simp [Value.lua, Value.isLuaString] at hstring
  · rintro ⟨rfl, hscrubbed⟩
    exact ⟨.string, attrs, by simp, rfl, .inr ⟨rfl, hscrubbed⟩⟩

theorem not_stopsFrom_of_not_isLuaNode {value : Value} (h : value.isLuaNode = false)
    (position : Position) (problem : Problem) : ¬StopsFrom rewrite value position problem := by
  rintro ⟨kind, attrs, -, hreaches, -⟩
  cases position with
  | nil =>
    cases hreaches
    simp [Value.lua, Value.isLuaNode] at h
  | cons step rest =>
    obtain ⟨_, ⟨_, _, _, _, rfl, -⟩, -⟩ := hreaches
    simp [Value.isLuaNode] at h

theorem not_stopsAt_of_isRequireCall {kind : Lua.Kind} {attrs : Attrs}
    (h : isRequireCall kind attrs = .ok true) (position : Position) (problem : Problem) :
    ¬StopsAt rewrite (.node (.lua kind) attrs) position problem := by
  cases position with
  | nil => simp [stopsAt_nil_iff, h]
  | cons step rest =>
    rw [stopsAt_cons_iff]
    rintro ⟨below, ⟨_, _, _, _, heq, hcalls, -⟩, -⟩
    cases heq
    simp [callsRequire_of_isRequireCall h] at hcalls

/-! ## The tree up to a position -/

/-- A list with `whole` done to the members before a place and `part` to the member at it. -/
def upTo {α : Type} (place : Nat) (whole part : α → α) (l : List α) : List α :=
  l.mapIdx fun i a => if i < place then whole a else if i = place then part a else a

theorem getElem?_upTo {α : Type} (place : Nat) (whole part : α → α) (l : List α) (i : Nat) :
    (upTo place whole part l)[i]? =
      l[i]?.map fun a => if i < place then whole a else if i = place then part a else a := by
  rw [upTo, List.getElem?_mapIdx]

theorem upTo_append {α : Type} (whole part : α → α) (before : List α) (a : α) (after : List α) :
    upTo before.length whole part (before ++ a :: after) =
      before.map whole ++ part a :: after := by
  induction before with
  | nil =>
    have hafter : (after.mapIdx fun i b => if i + 1 < 0 then whole b else if i + 1 = 0 then part b
        else b) = after := by simp [List.mapIdx_eq_zipIdx_map]
    simpa [upTo, List.mapIdx_cons] using hafter
  | cons first rest ih =>
    have hrest : (List.mapIdx (fun i b => if i + 1 < rest.length + 1 then whole b
        else if i + 1 = rest.length + 1 then part b else b) (rest ++ a :: after)) =
          upTo rest.length whole part (rest ++ a :: after) := by
      simp [upTo]
    rw [upTo, List.cons_append, List.mapIdx_cons, List.length_cons, hrest, ih]
    simp

variable (rewrite)

/-- An attribute that is walked through. -/
def renewedAttr (attr : String × Value) : String × Value :=
  (attr.1, if isPassedOver attr.1 then attr.2 else renewedLua rewrite attr.2)

/-- An item that is visited. -/
def renewedItem (item : Value) : Value :=
  if item.isLuaNode then renewedLua rewrite item else item

/-- What an attribute holds, with `part` done to a node that it is or that stands in it as an item.
The items before that one are renewed. -/
def renewedPart (part : Value → Value) : Option Nat → Value → Value
  | none, value => part value
  | some i, .list items => .list (upTo i (renewedItem rewrite) part items)
  | some _, value => value

/-- A tree with new attributes for each string that is reached before a position. -/
def renewedUpTo : Position → Value → Value
  | (i, j) :: rest, .node (.lua kind) attrs =>
    .node (.lua kind) (upTo i (renewedAttr rewrite)
      (fun attr => (attr.1, renewedPart rewrite (fun value => renewedUpTo rest value) j attr.2))
      attrs)
  | _, value => value

variable {rewrite}

@[simp] theorem renewedUpTo_nil (value : Value) : renewedUpTo rewrite [] value = value := by
  unfold renewedUpTo
  rfl

theorem map_upTo {α β : Type} {f : α → β} {whole part : α → α} (hwhole : ∀ a, f (whole a) = f a)
    (hpart : ∀ a, f (part a) = f a) (place : Nat) (l : List α) :
    (upTo place whole part l).map f = l.map f := by
  apply List.ext_getElem?
  intro i
  rw [List.getElem?_map, List.getElem?_map, getElem?_upTo]
  cases l[i]? with
  | none => rfl
  | some a =>
    simp only [Option.map_some]
    split_ifs
    · rw [hwhole]
    · rw [hpart]
    · rfl

theorem isLuaNode_renewedUpTo (position : Position) (value : Value) :
    (renewedUpTo rewrite position value).isLuaNode = value.isLuaNode := by
  unfold renewedUpTo
  split <;> rfl

theorem outline_renewedUpTo (position : Position) (value : Value) :
    (renewedUpTo rewrite position value).outline = value.outline := by
  unfold renewedUpTo
  split <;> rfl

theorem emptied_renewedUpTo (position : Position) (value : Value) :
    (renewedUpTo rewrite position value).emptied = value.emptied := by
  unfold renewedUpTo
  split <;> rfl

theorem outline_renewedPart (rest : Position) (j : Option Nat) (value : Value) :
    (renewedPart rewrite (renewedUpTo rewrite rest) j value).outline = value.outline := by
  have hitem (item : Value) : (renewedItem rewrite item).emptied = item.emptied := by
    unfold renewedItem
    split_ifs with hnode
    · exact emptied_renewedLua hnode
    · rfl
  unfold renewedPart
  split
  · exact outline_renewedUpTo rest _
  · rw [Value.outline, Value.outline, map_upTo hitem (emptied_renewedUpTo rest)]
  · rfl

/-- A node that the walk goes through keeps all that it holds itself. -/
theorem frame_renewedUpTo (position : Position) (value : Value) :
    (renewedUpTo rewrite position value).frame = value.frame := by
  unfold renewedUpTo
  split
  · next i j rest kind attrs =>
    rw [Value.frame, Value.frame, map_upTo]
    · intro attr
      dsimp only [renewedAttr]
      split_ifs
      · rfl
      · rw [outline_renewedLua]
    · intro attr
      rw [outline_renewedPart]
  · rfl

/-! ## Going down in the tree up to a position -/

section Members

variable {value below : Value} {j k : Option Nat} {rest : Position}

theorem member_renewedPart_before (h : value.member j = some below) (hbefore : ItemBefore k j) :
    (renewedPart rewrite (renewedUpTo rewrite rest) j value).member k =
      (renewedLua rewrite value).member k := by
  match k, j with
  | some m, some i =>
    have hlt : m < i := hbefore
    cases value with
    | list items =>
      simp only [renewedPart, renewedLua, renewedLuaItems_eq_map, Value.member, getElem?_upTo,
        List.getElem?_map, if_pos hlt]
      rfl
    | _ => cases h

theorem member_renewedPart_self (h : value.member j = some below) :
    (renewedPart rewrite (renewedUpTo rewrite rest) j value).member j =
      some (renewedUpTo rewrite rest below) := by
  cases j with
  | none =>
    simp only [Value.member] at h
    split_ifs at h with hnode
    cases h
    simp [renewedPart, Value.member, isLuaNode_renewedUpTo, hnode]
  | some i =>
    cases value with
    | list items =>
      obtain ⟨hitem, hnode⟩ := Option.filter_eq_some_iff.mp h
      simp [renewedPart, Value.member, getElem?_upTo, hitem, isLuaNode_renewedUpTo, hnode]
    | _ => cases h

theorem member_renewedPart_after (h : value.member j = some below) (hbefore : ¬ItemBefore k j)
    (hne : k ≠ j) :
    (renewedPart rewrite (renewedUpTo rewrite rest) j value).member k = value.member k := by
  cases j with
  | none =>
    simp only [Value.member] at h
    split_ifs at h with hnode
    cases h
    cases k with
    | none => exact absurd rfl hne
    | some m =>
      cases value with
      | node kind attrs =>
        cases kind with
        | lua kind =>
          simp only [renewedPart]
          unfold renewedUpTo
          split <;> rfl
        | python kind => cases hnode
      | _ => cases hnode
  | some i =>
    cases value with
    | list items =>
      cases k with
      | none => rfl
      | some m =>
        have hlt : ¬m < i := hbefore
        have hmi : m ≠ i := fun heq => hne (congrArg some heq)
        simp [renewedPart, Value.member, getElem?_upTo, hlt, hmi]
    | _ => cases h

end Members

section Children

variable {above below : Value} {step other : Nat × Option Nat} {rest : Position}

theorem child?_renewedUpTo_of_goesBefore (h : Descends above other below)
    (hbefore : GoesBefore step other) :
    (renewedUpTo rewrite (other :: rest) above).child? step =
      (renewedRoot rewrite above).child? step := by
  obtain ⟨kind, attrs, name, value, rfl, hcalls, hattr, hname, hmember⟩ := h
  simp only [renewedUpTo, renewedRoot, hcalls, Value.child?, renewedLuaAttrs_eq_map,
    getElem?_upTo]
  rcases hbefore with hlt | ⟨heq, hitem⟩
  · simp [hlt, renewedAttr]
  · simp [heq, hattr, hname, member_renewedPart_before hmember hitem]

theorem child?_renewedUpTo_self (h : Descends above other below) :
    (renewedUpTo rewrite (other :: rest) above).child? other =
      some (renewedUpTo rewrite rest below) := by
  obtain ⟨kind, attrs, name, value, rfl, hcalls, hattr, hname, hmember⟩ := h
  simp [renewedUpTo, Value.child?, getElem?_upTo, hattr, member_renewedPart_self hmember]

theorem child?_renewedUpTo_of_not_goesBefore (h : Descends above other below)
    (hbefore : ¬GoesBefore step other) (hne : step ≠ other) :
    (renewedUpTo rewrite (other :: rest) above).child? step = above.child? step := by
  obtain ⟨kind, attrs, name, value, rfl, hcalls, hattr, hname, hmember⟩ := h
  simp only [renewedUpTo, Value.child?, getElem?_upTo]
  have hlt : ¬step.1 < other.1 := fun hlt => hbefore (.inl hlt)
  by_cases heq : step.1 = other.1
  · have hitem : ¬ItemBefore step.2 other.2 := fun hitem => hbefore (.inr ⟨heq, hitem⟩)
    have hj : step.2 ≠ other.2 := fun hj => hne (Prod.ext heq hj)
    simp [heq, hattr, member_renewedPart_after hmember hitem hj]
  · simp [hlt, heq]

end Children

/-- A string that is reached before a position is renewed in the tree up to it. -/
theorem Reaches.at?_renewedUpTo {above node : Value} {old : Attrs} {last position : Position}
    (hlast : Reaches above last node) (h : Reaches above position (.lua .string old))
    (hne : position ≠ []) (hearlier : Earlier position last) :
    (renewedUpTo rewrite last above).at? position =
      some (renewedLua rewrite (.lua .string old)) := by
  induction last generalizing above position with
  | nil => exact absurd hearlier (not_earlier_nil position)
  | cons other rest ih =>
    obtain ⟨below, hother, hstring, hrest⟩ := hlast
    cases position with
    | nil => exact absurd rfl hne
    | cons step position =>
      rw [Value.at?]
      rcases earlier_cons_iff.mp hearlier with hbefore | ⟨rfl, hinner⟩
      · rw [child?_renewedUpTo_of_goesBefore hother hbefore, ← Value.at?]
        exact h.at?_renewedRoot
      · obtain ⟨below', hstep, -, hposition⟩ := h
        obtain rfl : below = below' :=
          Option.some.inj (hother.child?_eq.symm.trans hstep.child?_eq)
        rw [child?_renewedUpTo_self hother, Option.bind_some]
        cases position with
        | nil =>
          -- the way to the later position does not go through a string
          cases rest with
          | nil => exact absurd hinner (not_earlier_nil [])
          | cons next rest =>
            cases hposition
            simp [Value.lua, Value.isLuaString] at hstring
        | cons step position => exact ih hrest hposition (by simp) hinner

/-- At a position that neither is nor lies below one where a string changes earlier, the tree up to
a position holds what the old one does. -/
theorem frame_at?_renewedUpTo {above node : Value} {last position : Position}
    (hlast : Reaches above last node)
    (h : ∀ changed ∈ changedBelow rewrite above, Earlier changed last → ¬changed <+: position) :
    ((renewedUpTo rewrite last above).at? position).map Value.frame =
      (above.at? position).map Value.frame := by
  induction last generalizing above position with
  | nil => rw [renewedUpTo_nil]
  | cons other rest ih =>
    obtain ⟨below, hother, hstring, hrest⟩ := hlast
    cases position with
    | nil => simp [Value.at?, frame_renewedUpTo]
    | cons step position =>
      by_cases hbefore : GoesBefore step other
      · rw [Value.at?, child?_renewedUpTo_of_goesBefore hother hbefore, ← Value.at?]
        apply frame_at?_renewedRoot
        intro changed hchanged hisPrefix
        cases changed with
        | nil => exact nil_not_mem_changedBelow hchanged
        | cons first changed =>
          obtain rfl : first = step := (List.cons_prefix_cons.mp hisPrefix).1
          exact h _ hchanged (.rel hbefore) hisPrefix
      · by_cases hstep : step = other
        · subst hstep
          rw [Value.at?, Value.at?, child?_renewedUpTo_self hother, hother.child?_eq,
            Option.bind_some, Option.bind_some]
          cases hrest' : rest with
          | nil => rw [renewedUpTo_nil]
          | cons next rest' =>
            subst hrest'
            have hbelow : below.isLuaString = false := hstring (by simp)
            refine ih hrest fun changed hchanged hearlier hisPrefix => ?_
            rw [← changedFrom_eq_changedBelow hbelow] at hchanged
            exact h (step :: changed) (cons_mem_changedBelow.mpr ⟨below, hother, hchanged⟩)
              (.cons hearlier) ((List.prefix_cons_inj step).mpr hisPrefix)
        · rw [Value.at?, Value.at?, child?_renewedUpTo_of_not_goesBefore hother hbefore hstep]

end LiteralScrub.Scrub
