import Mathlib.Data.Set.Card
import LiteralScrub.Proofs.LuaScrubbed
import LiteralScrub.Proofs.Walk

/-!
# What the walk through a Lua tree yields

A walk that meets no problem gives the scrubbed tree. It gets past each string that it reaches, and
it counts the positions at which a string changes.
-/
namespace LiteralScrub.Scrub

/-! ## Counting positions -/

/-- The elements of one set for each member of a list, told apart by the place of that member. -/
theorem encard_indexed {α β : Type} (l : List α) (S : α → Set β) :
    {x : Nat × β | ∃ a, l[x.1]? = some a ∧ x.2 ∈ S a}.encard =
      (l.map fun a => (S a).encard).sum := by
  induction l with
  | nil => simp
  | cons a rest ih =>
    have hsplit : {x : Nat × β | ∃ b, (a :: rest)[x.1]? = some b ∧ x.2 ∈ S b} =
        Prod.mk 0 '' S a ∪
          Prod.map Nat.succ id '' {x : Nat × β | ∃ b, rest[x.1]? = some b ∧ x.2 ∈ S b} := by
      ext ⟨i, x⟩
      cases i with
      | zero => simp
      | succ i => simp
    have hdisjoint : Disjoint (Prod.mk 0 '' S a)
        (Prod.map Nat.succ id '' {x : Nat × β | ∃ b, rest[x.1]? = some b ∧ x.2 ∈ S b}) := by
      rw [Set.disjoint_left]
      rintro _ ⟨x, -, rfl⟩ ⟨y, -, hy⟩
      exact Nat.succ_ne_zero _ (congrArg Prod.fst hy)
    rw [hsplit, Set.encard_union_eq hdisjoint, (Prod.mk_right_injective 0).encard_image,
      (Nat.succ_injective.prodMap Function.injective_id).encard_image, ih, List.map_cons,
      List.sum_cons]

variable {rewrite : Text → Rewriting}

theorem not_reaches_of_not_isLuaNode {value : Value} (h : value.isLuaNode = false)
    {position : Position} {old : Attrs} : ¬Reaches value position (.lua .string old) := by
  cases position with
  | nil =>
    rintro rfl
    simp [Value.lua, Value.isLuaNode] at h
  | cons step rest =>
    rintro ⟨below, ⟨kind, attrs, name, held, rfl, -⟩, -⟩
    simp [Value.isLuaNode] at h

theorem changedFrom_of_not_isLuaNode {value : Value} (h : value.isLuaNode = false) :
    changedFrom rewrite value = ∅ := by
  rw [Set.eq_empty_iff_forall_notMem]
  rintro position ⟨old, t, -, hreaches, -⟩
  exact not_reaches_of_not_isLuaNode h hreaches

/-- The positions at which a string changes in what an attribute holds. -/
def changedIn (rewrite : Text → Rewriting) (value : Value) : Set (Option Nat × Position) :=
  {x | ∃ below, value.member x.1 = some below ∧ x.2 ∈ changedFrom rewrite below}

theorem changedIn_list_eq_image (items : List Value) :
    changedIn rewrite (.list items) = Prod.map some id ''
      {x : Nat × Position | ∃ item, items[x.1]? = some item ∧ x.2 ∈ changedFrom rewrite item} := by
  ext ⟨j, position⟩
  cases j with
  | none => simp [changedIn, Value.member, Value.isLuaNode]
  | some i =>
    have hnode : ∀ item, position ∈ changedFrom rewrite item → item.isLuaNode := by
      intro item hitem
      by_contra hnode
      simp [changedFrom_of_not_isLuaNode (by simpa using hnode)] at hitem
    constructor
    · rintro ⟨below, hmember, hbelow⟩
      exact ⟨(i, position), ⟨below, (Option.filter_eq_some_iff.mp hmember).1, hbelow⟩, rfl⟩
    · rintro ⟨_, ⟨item, hitem, hbelow⟩, heq⟩
      cases heq
      exact ⟨item, Option.filter_eq_some_iff.mpr ⟨hitem, hnode item hbelow⟩, hbelow⟩

theorem encard_changedIn_list (items : List Value) :
    (changedIn rewrite (.list items)).encard =
      (items.map fun item => (changedFrom rewrite item).encard).sum := by
  rw [changedIn_list_eq_image,
    ((Option.some_injective _).prodMap Function.injective_id).encard_image, encard_indexed]

theorem changedIn_eq_image_of_ne_list {value : Value} (h : ∀ items, value ≠ .list items) :
    changedIn rewrite value = Prod.mk none '' changedFrom rewrite value := by
  ext ⟨j, position⟩
  cases j with
  | none =>
    cases hnode : value.isLuaNode with
    | true => simp [changedIn, Value.member, hnode]
    | false => simp [changedIn, Value.member, hnode, changedFrom_of_not_isLuaNode]
  | some i =>
    have hmember : value.member (some i) = none := by
      cases value <;> first | rfl | exact absurd rfl (h _)
    simp [changedIn, hmember]

theorem encard_changedIn_of_ne_list {value : Value} (h : ∀ items, value ≠ .list items) :
    (changedIn rewrite value).encard = (changedFrom rewrite value).encard := by
  rw [changedIn_eq_image_of_ne_list h, (Prod.mk_right_injective none).encard_image]

/-- The positions at which a string changes below an attribute, if that is not passed over. -/
def changedUnder (rewrite : Text → Rewriting) (attr : String × Value) :
    Set (Option Nat × Position) :=
  {x | isPassedOver attr.1 = false ∧ x ∈ changedIn rewrite attr.2}

/-- A position by its first step, part by part, and by the steps below. -/
def descent (x : Nat × Option Nat × Position) : Position := (x.1, x.2.1) :: x.2.2

theorem descent_injective : descent.Injective := by
  rintro ⟨i, j, position⟩ ⟨i', j', position'⟩ h
  simpa [descent, and_assoc] using h

theorem changedBelow_eq_image {kind : Lua.Kind} {attrs : Attrs}
    (hcalls : callsRequire kind attrs = false) :
    changedBelow rewrite (.node (.lua kind) attrs) =
      descent '' {x | ∃ attr, attrs[x.1]? = some attr ∧ x.2 ∈ changedUnder rewrite attr} := by
  ext position
  cases position with
  | nil => simpa [descent] using nil_not_mem_changedBelow
  | cons step rest =>
    obtain ⟨i, j⟩ := step
    rw [cons_mem_changedBelow]
    constructor
    · rintro ⟨below, ⟨_, _, name, value, heq, -, hattr, hname, hmember⟩, hbelow⟩
      cases heq
      exact ⟨(i, j, rest), ⟨(name, value), hattr, hname, below, hmember, hbelow⟩, rfl⟩
    · rintro ⟨_, ⟨⟨name, value⟩, hattr, hname, below, hmember, hbelow⟩, heq⟩
      cases heq
      exact ⟨below, ⟨kind, attrs, name, value, rfl, hcalls, hattr, hname, hmember⟩, hbelow⟩

theorem encard_changedBelow {kind : Lua.Kind} {attrs : Attrs}
    (hcalls : callsRequire kind attrs = false) :
    (changedBelow rewrite (.node (.lua kind) attrs)).encard =
      (attrs.map fun attr => (changedUnder rewrite attr).encard).sum := by
  rw [changedBelow_eq_image hcalls, descent_injective.encard_image, encard_indexed]

theorem changedBelow_of_callsRequire {kind : Lua.Kind} {attrs : Attrs}
    (hcalls : callsRequire kind attrs = true) :
    changedBelow rewrite (.node (.lua kind) attrs) = ∅ := by
  rw [Set.eq_empty_iff_forall_notMem]
  rintro (_ | ⟨step, rest⟩) h
  · exact nil_not_mem_changedBelow h
  · obtain ⟨below, ⟨kind', attrs', name, value, heq, hcalls', -⟩, -⟩ := cons_mem_changedBelow.mp h
    cases heq
    simp [hcalls] at hcalls'

theorem encard_changedFrom_string {attrs : Attrs} {t : Text}
    (h : Lua.literalText attrs = .ok t) :
    (changedFrom rewrite (.lua .string attrs)).encard = changes rewrite [t] := by
  cases hchanged : (rewrite t).changed with
  | true =>
    have : changedFrom rewrite (.lua .string attrs) = {[]} := by
      ext position
      simp [mem_changedFrom_string, h, hchanged]
    simp [this, changes, hchanged]
  | false =>
    have : changedFrom rewrite (.lua .string attrs) = ∅ := by
      ext position
      simp [mem_changedFrom_string, h, hchanged]
    simp [this, changes, hchanged]

/-! ## Strings that do not stop the walk -/

/-- The walk gets past each string that is reached below a node. -/
def PassableBelow (rewrite : Text → Rewriting) (above : Value) : Prop :=
  ∀ step rest old, Reaches above (step :: rest) (.lua .string old) →
    ∃ fresh, scrubbedString rewrite old = .ok fresh

/-- The walk gets past each string that it comes to from a node on. -/
def Passable (rewrite : Text → Rewriting) (value : Value) : Prop :=
  ∀ position old, (position ≠ [] → value.isLuaString = false) →
    Reaches value position (.lua .string old) → ∃ fresh, scrubbedString rewrite old = .ok fresh

/-- The walk gets past each string that it comes to in what an attribute holds. -/
def PassableIn (rewrite : Text → Rewriting) (value : Value) : Prop :=
  ∀ j below, value.member j = some below → Passable rewrite below

theorem Passable.of_not_isLuaNode {value : Value} (h : value.isLuaNode = false) :
    Passable rewrite value :=
  fun _ _ _ hreaches => absurd hreaches (not_reaches_of_not_isLuaNode h)

theorem Passable.string {attrs fresh : Attrs} (h : scrubbedString rewrite attrs = .ok fresh) :
    Passable rewrite (.lua .string attrs) := by
  rintro (_ | ⟨step, rest⟩) old hstring hreaches
  · cases hreaches
    exact ⟨fresh, h⟩
  · simp [Value.lua, Value.isLuaString] at hstring

theorem PassableBelow.passable {value : Value} (h : PassableBelow rewrite value)
    (hstring : value.isLuaString = false) : Passable rewrite value := by
  rintro (_ | ⟨step, rest⟩) old - hreaches
  · cases hreaches
    simp [Value.lua, Value.isLuaString] at hstring
  · exact h step rest old hreaches

theorem Passable.passableIn {value : Value} (h : Passable rewrite value)
    (hlist : ∀ items, value ≠ .list items) : PassableIn rewrite value := by
  intro j below hmember
  cases j with
  | none =>
    simp only [Value.member] at hmember
    split_ifs at hmember
    exact Option.some.inj hmember ▸ h
  | some i => cases value <;> first | exact absurd rfl (hlist _) | simp [Value.member] at hmember

theorem PassableIn.list {items : List Value} (h : ∀ item ∈ items, Passable rewrite item) :
    PassableIn rewrite (.list items) := by
  rintro (_ | i) below hmember
  · simp [Value.member, Value.isLuaNode] at hmember
  · exact h below (List.mem_of_getElem? (Option.filter_eq_some_iff.mp hmember).1)

theorem PassableBelow.of_attrs {kind : Lua.Kind} {attrs : Attrs}
    (h : ∀ attr ∈ attrs, isPassedOver attr.1 = false → PassableIn rewrite attr.2) :
    PassableBelow rewrite (.node (.lua kind) attrs) := by
  rintro step rest old ⟨below, ⟨kind', attrs', name, value, heq, -, hattr, hname, hmember⟩,
    hstring, hreaches⟩
  cases heq
  exact h (name, value) (List.mem_of_getElem? hattr) hname step.2 below hmember rest old hstring
    hreaches

theorem PassableBelow.of_callsRequire {kind : Lua.Kind} {attrs : Attrs}
    (hcalls : callsRequire kind attrs = true) :
    PassableBelow rewrite (.node (.lua kind) attrs) := by
  rintro step rest old ⟨below, ⟨kind', attrs', name, value, heq, hcalls', -⟩, -⟩
  cases heq
  simp [hcalls] at hcalls'

/-! ## Visits -/

/-- A visit of a value that meets no problem scrubs it if it is a node, counts the strings that
change and gets past all strings that it reaches. -/
def Visits (rewrite : Text → Rewriting) (value : Value) (r : Value × Option Problem) (k : Nat) :
    Prop :=
  r.2 = none → r.1 = (if value.isLuaNode then renewedLua rewrite value else value) ∧
    (changedFrom rewrite value).encard = k ∧ Passable rewrite value

/-- A visit of what an attribute holds that meets no problem scrubs it. -/
def VisitsField (rewrite : Text → Rewriting) (value : Value) (r : Value × Option Problem)
    (k : Nat) : Prop :=
  r.2 = none → r.1 = renewedLua rewrite value ∧ (changedIn rewrite value).encard = k ∧
    PassableIn rewrite value

/-- A walk from a root that meets no problem scrubs all below it. -/
def WalksRoot (rewrite : Text → Rewriting) (root : Value) (r : Value × Option Problem) (k : Nat) :
    Prop :=
  r.2 = none → r.1 = renewedRoot rewrite root ∧ (changedBelow rewrite root).encard = k ∧
    PassableBelow rewrite root

theorem Visits.leaf {value : Value} (h : value.isLuaNode = false) :
    Visits rewrite value (value, none) 0 :=
  fun _ => ⟨by simp [h], by simp [changedFrom_of_not_isLuaNode h], .of_not_isLuaNode h⟩

/-- What is no list is visited as the value of an attribute as it is elsewhere. -/
theorem Visits.field {value : Value} {r : Value × Option Problem} {k : Nat}
    (h : Visits rewrite value r k) (hlist : ∀ items, value ≠ .list items) :
    VisitsField rewrite value r k := by
  intro hnone
  obtain ⟨hvalue, hk, hpass⟩ := h hnone
  refine ⟨?_, by rw [encard_changedIn_of_ne_list hlist, hk], hpass.passableIn hlist⟩
  rw [hvalue]
  split_ifs with hnode
  · rfl
  · rcases value with _ | _ | _ | _ | _ | _ | _ | _ | _ | items | _ | _ | ⟨_ | _, _⟩
    case list => exact absurd rfl (hlist items)
    case node.lua => exact absurd rfl hnode
    all_goals rfl

theorem WalksRoot.visits {value : Value} {r : Value × Option Problem} {k : Nat}
    (h : WalksRoot rewrite value r k) (hnode : value.isLuaNode)
    (hstring : value.isLuaString = false) : Visits rewrite value r k := by
  intro hnone
  obtain ⟨hvalue, hk, hpass⟩ := h hnone
  rw [if_pos hnode, renewedLua_eq_renewedRoot hnode hstring, changedFrom_eq_changedBelow hstring]
  exact ⟨hvalue, hk, hpass.passable hstring⟩

theorem callsRequire_of_isRequireCall {kind : Lua.Kind} {attrs : Attrs} {b : Bool}
    (h : isRequireCall kind attrs = .ok b) : callsRequire kind attrs = b := by
  by_cases hkind : kind = .call
  · subst hkind
    cases hfunc : attrs.get? "func" with
    | none => simp [isRequireCall, Lua.Kind.read, hfunc, bind, Except.bind] at h
    | some func =>
      simp only [isRequireCall, Lua.Kind.read, hfunc, bind, Except.bind] at h
      simp only [callsRequire, hfunc, Option.any_some, decide_true, Bool.true_and]
      split at h
      · next callee =>
        cases hid : Attrs.get? callee "id" with
        | none => simp [hid] at h
        | some id =>
          simp only [hid] at h
          cases hlookup : id.requireLookup with
          | error problem => simp [hlookup] at h
          | ok _ =>
            simp only [hlookup] at h
            cases id <;> simp_all [namesRequire, textAt, asText, pure, Except.pure]
      · next hother =>
        obtain rfl := Except.ok.inj h
        unfold namesRequire
        split
        · next attrs => exact absurd rfl (hother attrs)
        · rfl
  · have hno : isRequireCall kind attrs = .ok false := by
      unfold isRequireCall
      split
      · exact absurd rfl hkind
      · rfl
    obtain rfl := Except.ok.inj (hno.symm.trans h)
    simp [callsRequire, hkind]

/-- A visit of a string gives it as the scrub makes it, or as it was with the reason why it cannot
be made anew. A string that changes is counted in either case. -/
theorem visitString_scrubs (attrs : Attrs) :
    Yields (visitString rewrite attrs) fun r k =>
      (changedFrom rewrite (.lua .string attrs)).encard = k ∧
        ((∃ fresh, scrubbedString rewrite attrs = .ok fresh ∧ r = (.lua .string fresh, none)) ∨
          ∃ problem, scrubbedString rewrite attrs = .error problem ∧
            r = (.lua .string attrs, some problem)) := by
  unfold visitString
  split
  · next problem ht =>
    refine .pure ⟨?_, .inr ⟨problem, scrubbedString_of_error ht, rfl⟩⟩
    rw [Nat.cast_zero, Set.encard_eq_zero, Set.eq_empty_iff_forall_notMem]
    intro position hposition
    simp [mem_changedFrom_string, ht] at hposition
  · next t ht =>
    have hcount := @encard_changedFrom_string rewrite attrs t ht
    rw [scrubbedString_of_literalText ht]
    refine .bind (scrubText_yields _ t) ?_
    rintro new k ⟨rfl, rfl⟩
    split_ifs with hchanged
    · dsimp only
      split
      · next fresh hfresh => exact .pure ⟨hcount, .inl ⟨fresh, hfresh, rfl⟩⟩
      · next problem hproblem => exact .pure ⟨hcount, .inr ⟨problem, hproblem, rfl⟩⟩
    · exact .pure ⟨hcount, .inl ⟨attrs, rfl, rfl⟩⟩

theorem visitString_yields (attrs : Attrs) :
    Yields (visitString rewrite attrs) (Visits rewrite (.lua .string attrs)) := by
  refine (visitString_scrubs attrs).mono ?_
  rintro r k ⟨hk, ⟨fresh, hfresh, rfl⟩ | ⟨problem, -, rfl⟩⟩ hnone
  · refine ⟨?_, hk, .string hfresh⟩
    rw [renewedLua_string, renewedString_of_ok hfresh]
    rfl
  · cases hnone

theorem visitLuaItems_yields {items : List Value}
    (h : ∀ item ∈ items, Yields (visitLuaValue rewrite item) (Visits rewrite item)) :
    Yields (visitLuaItems rewrite items) fun r k =>
      r.2 = none → r.1 = renewedLuaItems rewrite items ∧
        (items.map fun item => (changedFrom rewrite item).encard).sum = k ∧
        ∀ item ∈ items, Passable rewrite item := by
  induction items with
  | nil =>
    rw [visitLuaItems]
    exact .pure fun _ => ⟨rfl, by simp, by simp⟩
  | cons item rest ih =>
    rw [visitLuaItems]
    refine .bind (h item List.mem_cons_self) ?_
    rintro ⟨new, problem⟩ k hitem
    cases problem with
    | some problem => exact .pure fun hnone => by simp at hnone
    | none =>
      obtain ⟨rfl, hk, hpass⟩ := hitem rfl
      refine .bind (ih fun other hother => h other (List.mem_cons_of_mem _ hother)) ?_
      rintro ⟨others, problem⟩ l hrest
      refine .pure fun hnone => ?_
      obtain ⟨rfl, hl, hpasses⟩ := hrest hnone
      refine ⟨rfl, ?_, List.forall_mem_cons.mpr ⟨hpass, hpasses⟩⟩
      rw [List.map_cons, List.sum_cons, hk, hl, Nat.cast_add, Nat.add_zero]

theorem walkLuaAttrs_cons (name : String) (value : Value) (rest : Attrs) :
    walkLuaAttrs rewrite ((name, value) :: rest) =
      (if isPassedOver name then pure (value, none) else visitLuaField rewrite value) >>= fun r =>
        match r.2 with
        | some problem => pure ((name, r.1) :: rest, some problem)
        | none => walkLuaAttrs rewrite rest >>= fun s => pure ((name, r.1) :: s.1, s.2) := by
  rw [walkLuaAttrs]
  split_ifs <;> rfl

theorem walkLuaAttrs_yields {attrs : Attrs}
    (h : ∀ attr ∈ attrs, Yields (visitLuaField rewrite attr.2) (VisitsField rewrite attr.2)) :
    Yields (walkLuaAttrs rewrite attrs) fun r k =>
      r.2 = none → r.1 = renewedLuaAttrs rewrite attrs ∧
        (attrs.map fun attr => (changedUnder rewrite attr).encard).sum = k ∧
        ∀ attr ∈ attrs, isPassedOver attr.1 = false → PassableIn rewrite attr.2 := by
  induction attrs with
  | nil =>
    rw [walkLuaAttrs]
    exact .pure fun _ => ⟨rfl, by simp, by simp⟩
  | cons attr rest ih =>
    obtain ⟨name, value⟩ := attr
    have hrest := ih fun other hother => h other (List.mem_cons_of_mem _ hother)
    have hattr : Yields (if isPassedOver name then pure (value, none)
        else visitLuaField rewrite value) fun r k => r.2 = none →
          r.1 = (if isPassedOver name then value else renewedLua rewrite value) ∧
            (changedUnder rewrite (name, value)).encard = k ∧
            (isPassedOver name = false → PassableIn rewrite value) := by
      cases hname : isPassedOver name with
      | true => exact .pure fun _ => ⟨rfl, by simp [changedUnder, hname], by simp⟩
      | false =>
        have hfield := h _ List.mem_cons_self
        unfold VisitsField at hfield
        simpa [changedUnder, hname] using hfield
    rw [walkLuaAttrs_cons]
    refine .bind hattr ?_
    rintro ⟨new, problem⟩ k hvalue
    cases problem with
    | some problem => exact .pure fun hnone => by simp at hnone
    | none =>
      obtain ⟨rfl, hk, hpass⟩ := hvalue rfl
      refine .bind hrest ?_
      rintro ⟨others, problem⟩ l hrest
      refine .pure fun hnone => ?_
      obtain ⟨rfl, hl, hpasses⟩ := hrest hnone
      refine ⟨rfl, ?_, List.forall_mem_cons.mpr ⟨hpass, hpasses⟩⟩
      rw [List.map_cons, List.sum_cons, hk, hl, Nat.cast_add, Nat.add_zero]

theorem walkLua_node_yields {kind : Lua.Kind} {attrs : Attrs}
    (h : ∀ attr ∈ attrs, Yields (visitLuaField rewrite attr.2) (VisitsField rewrite attr.2)) :
    Yields (walkLua rewrite (.node (.lua kind) attrs))
      (WalksRoot rewrite (.node (.lua kind) attrs)) := by
  rw [walkLua]
  split
  · exact .pure fun hnone => by simp at hnone
  · next hrequire =>
    have hcalls := callsRequire_of_isRequireCall hrequire
    refine .pure fun _ => ⟨by simp [renewedRoot, hcalls], ?_, .of_callsRequire hcalls⟩
    simp [changedBelow_of_callsRequire hcalls]
  · next hrequire =>
    have hcalls := callsRequire_of_isRequireCall hrequire
    refine .bind (walkLuaAttrs_yields h) ?_
    rintro ⟨new, problem⟩ k hwalk
    refine .pure fun hnone => ?_
    obtain ⟨rfl, hk, hpass⟩ := hwalk hnone
    exact ⟨by simp [renewedRoot, hcalls], by rw [encard_changedBelow hcalls, hk]; rfl,
      .of_attrs hpass⟩

/-- A node that is no string is visited as a root is walked. -/
theorem visitLuaValue_eq_walkLua {value : Value} (h : value.isLuaString = false) :
    visitLuaValue rewrite value = walkLua rewrite value := by
  rcases value with _ | _ | _ | _ | _ | _ | _ | _ | _ | _ | _ | _ | ⟨_ | kind, attrs⟩ <;>
    simp only [visitLuaValue, walkLua]
  have hkind : kind ≠ .string := by
    rintro rfl
    simp [Value.isLuaString] at h
  rw [if_neg hkind]

theorem visitLuaValue_of_not_isLuaNode {value : Value} (h : value.isLuaNode = false) :
    visitLuaValue rewrite value = pure (value, none) := by
  rcases value with _ | _ | _ | _ | _ | _ | _ | _ | _ | _ | _ | _ | ⟨_ | _, _⟩
  case node.lua => simp [Value.isLuaNode] at h
  all_goals rw [visitLuaValue.eq_def]

theorem visitLuaField_of_ne_list {value : Value} (h : ∀ items, value ≠ .list items) :
    visitLuaField rewrite value = visitLuaValue rewrite value := by
  cases value with
  | list items => exact absurd rfl (h items)
  | node kind attrs => rw [visitLuaField]
  | _ => rw [visitLuaField.eq_def, visitLuaValue_of_not_isLuaNode rfl]

theorem visitLuaValue_yields (value : Value) :
    Yields (visitLuaValue rewrite value) (Visits rewrite value) ∧
      Yields (visitLuaField rewrite value) (VisitsField rewrite value) := by
  induction value using Value.induction with
  | list items ih =>
    rw [visitLuaValue_of_not_isLuaNode rfl, visitLuaField]
    refine ⟨.pure (.leaf rfl), ?_⟩
    refine .bind (visitLuaItems_yields fun item hitem => (ih item hitem).1) ?_
    rintro ⟨new, problem⟩ k hitems
    refine .pure fun hnone => ?_
    obtain ⟨rfl, hk, hpass⟩ := hitems hnone
    exact ⟨by rw [renewedLua], by rw [encard_changedIn_list, hk]; rfl, .list hpass⟩
  | collection type items ih =>
    rw [visitLuaField_of_ne_list (by simp), visitLuaValue_of_not_isLuaNode rfl]
    exact ⟨.pure (.leaf rfl), .pure (Visits.field (.leaf rfl) (by simp))⟩
  | node kind attrs ih =>
    have hvisit : Yields (visitLuaValue rewrite (.node kind attrs))
        (Visits rewrite (.node kind attrs)) := by
      cases kind with
      | python kind =>
        rw [visitLuaValue_of_not_isLuaNode rfl]
        exact .pure (.leaf rfl)
      | lua kind =>
        cases hstring : (Value.node (.lua kind) attrs).isLuaString with
        | true =>
          obtain ⟨_, heq⟩ := eq_string_of_isLuaString hstring
          cases heq
          rw [visitLuaValue, if_pos rfl]
          exact visitString_yields attrs
        | false =>
          rw [visitLuaValue_eq_walkLua hstring]
          exact (walkLua_node_yields fun attr hattr => (ih attr hattr).2).mono
            fun _ _ hwalks => hwalks.visits rfl hstring
    refine ⟨hvisit, ?_⟩
    rw [visitLuaField_of_ne_list (by simp)]
    exact hvisit.mono fun _ _ hvisits => hvisits.field (by simp)
  | leaf value hlist hcollection hnode =>
    have hleaf : value.isLuaNode = false := by
      cases value <;> simp_all [Value.isLuaNode]
    rw [visitLuaField_of_ne_list hlist, visitLuaValue_of_not_isLuaNode hleaf]
    exact ⟨.pure (.leaf hleaf), .pure (Visits.field (.leaf hleaf) hlist)⟩

/-- A walk that meets no problem gives the scrubbed tree. -/
theorem walkLua_yields (kind : Lua.Kind) (attrs : Attrs) :
    Yields (walkLua rewrite (.node (.lua kind) attrs))
      (WalksRoot rewrite (.node (.lua kind) attrs)) :=
  walkLua_node_yields fun attr _ => (visitLuaValue_yields attr.2).2

end LiteralScrub.Scrub
