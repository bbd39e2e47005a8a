import LiteralScrub.Proofs.LuaOrder

/-!
# Walks through a Lua tree that stop

A walk that meets a problem stops at the first node, in the order of the walk, that has one. It has
scrubbed the strings that are reached before that node. It counts those among them that change, and
the string at which it stops if that one changes too.
-/
namespace LiteralScrub.Scrub

variable {rewrite : Text → Rewriting}

/-! ## Courses -/

/-- What there is on the way through something: where the walk stops and where strings change, at
places in their order, and how all is left if the walk stops at a place. -/
structure Course (Place : Type) where
  earlier : Place → Place → Prop
  stops : Place → Problem → Prop
  changed : Set Place
  upTo : Place → Value

namespace Course

variable {Place : Type}

/-- The walk stops nowhere. -/
def Clear (course : Course Place) : Prop := ∀ place problem, ¬course.stops place problem

/-- The walk stops at a place and nowhere before. It leaves all as it is up to there. It counts what
changes before, and what changes at the place itself, since it counts first. -/
structure Halts (course : Course Place) (last : Place) (problem : Problem) (left : Value)
    (k : Nat) : Prop where
  stops : course.stops last problem
  first : ∀ place other, course.stops place other → ¬course.earlier place last
  left_eq : left = course.upTo last
  encard_eq : (course.changed ∩ {place | place = last ∨ course.earlier place last}).encard = k

/-- What changes before the place at which the walk stops is what is counted, or one less if there
is a change at the place itself. -/
theorem Halts.encard_earlier {course : Course Place} {last : Place} {problem : Problem}
    {left : Value} {k : Nat} (h : course.Halts last problem left k) :
    (course.changed ∩ {place | course.earlier place last}).encard +
      (course.changed ∩ {last}).encard = k := by
  have hlast : ¬course.earlier last last := h.first last problem h.stops
  have hsplit : {place | place = last ∨ course.earlier place last} =
      {place | course.earlier place last} ∪ {last} := by
    ext place
    exact or_comm
  have hdisjoint : Disjoint {place | course.earlier place last} {last} :=
    Set.disjoint_singleton_right.mpr hlast
  rw [← h.encard_eq, hsplit, Set.inter_union_distrib_left, Set.encard_union_eq]
  exact hdisjoint.mono Set.inter_subset_right Set.inter_subset_right

/-- A walk meets no problem only if it stops nowhere, and a problem only where it stops. -/
def Ends (course : Course Place) (r : Value × Option Problem) (k : Nat) : Prop :=
  (r.2 = none → course.Clear) ∧
    ∀ problem, r.2 = some problem → ∃ last, course.Halts last problem r.1 k

theorem Ends.of_clear {course : Course Place} (h : course.Clear) (value : Value) (k : Nat) :
    course.Ends (value, none) k :=
  ⟨fun _ => h, fun _ heq => by cases heq⟩

theorem Ends.of_halts {course : Course Place} {last : Place} {problem : Problem} {left : Value}
    {k : Nat} (h : course.Halts last problem left k) : course.Ends (left, some problem) k := by
  refine ⟨fun heq => absurd heq (Option.some_ne_none problem), fun _ heq => ?_⟩
  cases heq
  exact ⟨last, h⟩

end Course

variable (rewrite) in
/-- The course below a root. -/
def courseBelow (root : Value) : Course Position where
  earlier := Earlier
  stops := StopsAt rewrite root
  changed := changedBelow rewrite root
  upTo := fun position => renewedUpTo rewrite position root

variable (rewrite) in
/-- The course from a value on. -/
def courseFrom (value : Value) : Course Position where
  earlier := Earlier
  stops := StopsFrom rewrite value
  changed := changedFrom rewrite value
  upTo := fun position => renewedUpTo rewrite position value

variable (rewrite) in
/-- The course through what an attribute holds. -/
def courseIn (value : Value) : Course (Option Nat × Position) where
  earlier := EarlierIn
  stops := StopsIn rewrite value
  changed := changedIn rewrite value
  upTo := fun place => renewedPart rewrite (renewedUpTo rewrite place.2) place.1 value

theorem courseFrom_eq_courseBelow {value : Value} (h : value.isLuaString = false) :
    courseFrom rewrite value = courseBelow rewrite value := by
  have hstops : StopsFrom rewrite value = StopsAt rewrite value := by
    funext position problem
    exact propext (stopsFrom_iff_stopsAt h)
  rw [courseFrom, courseBelow, hstops, changedFrom_eq_changedBelow h]

/-- A walk that stops where it begins leaves all as it was. -/
theorem Course.Halts.at_once {course : Course Position} {problem : Problem} {left : Value} {k : Nat}
    (hearlier : course.earlier = Earlier) (hstops : course.stops [] problem)
    (hleft : left = course.upTo []) (hk : (course.changed ∩ {[]}).encard = k) :
    course.Halts [] problem left k := by
  have hplaces : {place | place = [] ∨ course.earlier place []} = {[]} := by
    ext place
    simp [hearlier, not_earlier_nil]
  refine ⟨hstops, fun place _ _ => ?_, hleft, by rw [hplaces, hk]⟩
  rw [hearlier]
  exact not_earlier_nil place

/-! ## Courses through lists and nodes -/

/-- The elements up to one of them in a list, told apart by their place: all for the members before
it and some for the member itself. -/
theorem encard_indexed_upTo {α β : Type} (before : List α) (a : α) (after : List α)
    (S : α → Set β) (T : Set β) :
    {x : Nat × β | (∃ b, (before ++ a :: after)[x.1]? = some b ∧ x.2 ∈ S b) ∧
      (x.1 < before.length ∨ x.1 = before.length ∧ x.2 ∈ T)}.encard =
      (before.map fun b => (S b).encard).sum + (S a ∩ T).encard := by
  have hsplit : {x : Nat × β | (∃ b, (before ++ a :: after)[x.1]? = some b ∧ x.2 ∈ S b) ∧
      (x.1 < before.length ∨ x.1 = before.length ∧ x.2 ∈ T)} =
        {x : Nat × β | ∃ b, before[x.1]? = some b ∧ x.2 ∈ S b} ∪
          Prod.mk before.length '' (S a ∩ T) := by
    ext ⟨i, x⟩
    constructor
    · rintro ⟨⟨b, hb, hx⟩, hlt | ⟨rfl, hT⟩⟩
      · rw [List.getElem?_append_left hlt] at hb
        exact .inl ⟨b, hb, hx⟩
      · obtain rfl : a = b := by simpa using hb
        exact .inr ⟨x, ⟨hx, hT⟩, rfl⟩
    · rintro (⟨b, hb, hx⟩ | ⟨_, ⟨hx, hT⟩, heq⟩)
      · have hlt := (List.getElem?_eq_some_iff.mp hb).1
        exact ⟨⟨b, by rw [List.getElem?_append_left hlt, hb], hx⟩, .inl hlt⟩
      · cases heq
        exact ⟨⟨a, by simp, hx⟩, .inr ⟨rfl, hT⟩⟩
  have hdisjoint : Disjoint {x : Nat × β | ∃ b, before[x.1]? = some b ∧ x.2 ∈ S b}
      (Prod.mk before.length '' (S a ∩ T)) := by
    rw [Set.disjoint_left]
    rintro _ ⟨b, hb, -⟩ ⟨x, -, rfl⟩
    exact absurd (List.getElem?_eq_some_iff.mp hb).1 (lt_irrefl _)
  rw [hsplit, Set.encard_union_eq hdisjoint, (Prod.mk_right_injective _).encard_image,
    encard_indexed]

section Items

variable {before after items : List Value} {item left : Value} {last : Position}
  {problem : Problem} {k : Nat}

theorem clear_courseIn_list (h : ∀ item ∈ items, (courseFrom rewrite item).Clear) :
    (courseIn rewrite (.list items)).Clear := by
  rintro ⟨j, position⟩ problem ⟨below, hmember, hbelow⟩
  cases j with
  | none => simp [Value.member, Value.isLuaNode] at hmember
  | some i =>
    have hmem := List.mem_of_getElem? (Option.filter_eq_some_iff.mp hmember).1
    exact h below hmem position problem hbelow

/-- Where the walk stops in an item, it stops in the list. -/
theorem halts_courseIn_list (hbefore : ∀ b ∈ before, (courseFrom rewrite b).Clear)
    (h : (courseFrom rewrite item).Halts last problem left k) {total : Nat}
    (htotal : ((before.map fun b => (changedFrom rewrite b).encard).sum + k : ENat) = total) :
    (courseIn rewrite (.list (before ++ item :: after))).Halts (some before.length, last) problem
      (.list (before.map (renewedItem rewrite) ++ left :: after)) total where
  stops := by
    have hnode : item.isLuaNode := by
      by_contra hnode
      exact not_stopsFrom_of_not_isLuaNode (by simpa using hnode) last problem h.stops
    exact ⟨item, by simp [Value.member, hnode], h.stops⟩
  first := by
    rintro ⟨j, position⟩ other ⟨below, hmember, hbelow⟩ hearlier
    cases j with
    | none => simp [Value.member, Value.isLuaNode] at hmember
    | some i =>
      have hget := (Option.filter_eq_some_iff.mp hmember).1
      rcases hearlier with hlt | ⟨heq, hearlier⟩
      · rw [List.getElem?_append_left hlt] at hget
        exact hbefore below (List.mem_of_getElem? hget) position other hbelow
      · cases heq
        obtain rfl : item = below := by simpa using hget
        exact h.first position other hbelow hearlier
  left_eq := by
    rw [h.left_eq]
    simp only [courseIn, courseFrom, renewedPart, upTo_append]
  encard_eq := by
    rw [← htotal, ← h.encard_eq, courseFrom, ← encard_indexed_upTo before item after, courseIn]
    dsimp only
    rw [changedIn_list_eq_image, ← Set.image_inter_preimage,
      ((Option.some_injective _).prodMap Function.injective_id).encard_image]
    congr 1
    ext ⟨i, position⟩
    exact and_congr_right fun _ => eq_or_earlierIn_some_iff

end Items

section Held

variable {value left : Value} {last : Position} {problem : Problem} {k : Nat}

theorem clear_courseIn (hlist : ∀ items, value ≠ .list items)
    (h : (courseFrom rewrite value).Clear) : (courseIn rewrite value).Clear := by
  rintro ⟨j, position⟩ problem ⟨below, hmember, hbelow⟩
  cases j with
  | none =>
    simp only [Value.member] at hmember
    split_ifs at hmember
    cases hmember
    exact h position problem hbelow
  | some i => cases value <;> first | exact absurd rfl (hlist _) | cases hmember

theorem halts_courseIn (hlist : ∀ items, value ≠ .list items)
    (h : (courseFrom rewrite value).Halts last problem left k) :
    (courseIn rewrite value).Halts (none, last) problem left k where
  stops := by
    have hnode : value.isLuaNode := by
      by_contra hnode
      exact not_stopsFrom_of_not_isLuaNode (by simpa using hnode) last problem h.stops
    exact ⟨value, by simp [Value.member, hnode], h.stops⟩
  first := by
    rintro ⟨j, position⟩ other ⟨below, hmember, hbelow⟩ hearlier
    rcases hearlier with hbefore | ⟨rfl, hearlier⟩
    · cases j <;> cases hbefore
    · simp only [Value.member] at hmember
      split_ifs at hmember
      cases hmember
      exact h.first position other hbelow hearlier
  left_eq := h.left_eq
  encard_eq := by
    rw [← h.encard_eq, courseIn, courseFrom]
    dsimp only
    rw [changedIn_eq_image_of_ne_list hlist, ← Set.image_inter_preimage,
      (Prod.mk_right_injective none).encard_image]
    congr 1
    ext position
    simp [EarlierIn, ItemBefore]

end Held

section Attributes

variable {kind : Lua.Kind} {before after attrs : Attrs} {attr : String × Value} {left : Value}
  {last : Option Nat × Position} {problem : Problem} {k : Nat}

theorem clear_courseBelow (hcall : isRequireCall kind attrs = .ok false)
    (h : ∀ attr ∈ attrs, isPassedOver attr.1 = false → (courseIn rewrite attr.2).Clear) :
    (courseBelow rewrite (.node (.lua kind) attrs)).Clear := by
  rintro (_ | ⟨step, rest⟩) problem hstops
  · cases hcall.symm.trans (stopsAt_nil_iff.mp hstops)
  · obtain ⟨attr, hattr, hname, hbelow⟩ :=
      (stopsAt_descent_iff (callsRequire_of_isRequireCall hcall)
          (x := (step.1, step.2, rest))).mp hstops
    exact h attr (List.mem_of_getElem? hattr) hname _ problem hbelow

/-- Where the walk stops in an attribute, it stops below the node. -/
theorem halts_courseBelow (hcall : isRequireCall kind (before ++ attr :: after) = .ok false)
    (hbefore : ∀ b ∈ before, isPassedOver b.1 = false → (courseIn rewrite b.2).Clear)
    (hname : isPassedOver attr.1 = false)
    (h : (courseIn rewrite attr.2).Halts last problem left k) {total : Nat}
    (htotal : ((before.map fun b => (changedUnder rewrite b).encard).sum + k : ENat) = total) :
    (courseBelow rewrite (.node (.lua kind) (before ++ attr :: after))).Halts
      (descent (before.length, last)) problem
      (.node (.lua kind) (before.map (renewedAttr rewrite) ++ (attr.1, left) :: after)) total where
  stops := (stopsAt_descent_iff (callsRequire_of_isRequireCall hcall)).mpr
    ⟨attr, by simp, hname, h.stops⟩
  first := by
    rintro (_ | ⟨step, rest⟩) other hstops hearlier
    · cases hcall.symm.trans (stopsAt_nil_iff.mp hstops)
    · obtain ⟨found, hfound, hpassed, hbelow⟩ :=
        (stopsAt_descent_iff (callsRequire_of_isRequireCall hcall)
          (x := (step.1, step.2, rest))).mp hstops
      rcases (earlier_descent_iff (x := (step.1, step.2, rest))).mp hearlier with
        hlt | ⟨heq, hearlier⟩
      · rw [List.getElem?_append_left hlt] at hfound
        exact hbefore found (List.mem_of_getElem? hfound) hpassed _ other hbelow
      · dsimp only at heq hfound
        rw [heq] at hfound
        obtain rfl : attr = found := by simpa using hfound
        exact h.first _ other hbelow hearlier
  left_eq := by
    rw [h.left_eq]
    simp only [courseBelow, courseIn, descent, renewedUpTo, upTo_append]
  encard_eq := by
    have hunder : (courseIn rewrite attr.2).changed = changedUnder rewrite attr := by
      simp [courseIn, changedUnder, hname]
    rw [← htotal, ← h.encard_eq, hunder, ← encard_indexed_upTo before attr after, courseBelow]
    dsimp only
    rw [changedBelow_eq_image (callsRequire_of_isRequireCall hcall), ← Set.image_inter_preimage,
      descent_injective.encard_image]
    congr 1
    ext x
    exact and_congr_right fun _ => eq_or_earlier_descent_iff

end Attributes

/-! ## Visits -/

/-- A walk through a list that visits one member after the other, up to the first problem. Where it
stops, the members before are done and those behind are as they were. -/
theorem stops_in_list {α : Type} {visitOne : α → WalkM (α × Option Problem)}
    {walk : List α → WalkM (List α × Option Problem)} (whole : α → α) (weight : α → ENat)
    (Fine : α → Prop) (Stopped : α → Problem → α → Nat → Prop)
    (hnil : walk [] = pure ([], none))
    (hcons : ∀ a l, walk (a :: l) = visitOne a >>= fun r =>
      match r.2 with
      | some problem => pure (r.1 :: l, some problem)
      | none => walk l >>= fun s => pure (r.1 :: s.1, s.2))
    {l : List α}
    (h : ∀ a ∈ l, Yields (visitOne a) fun r k =>
      (r.2 = none → r.1 = whole a ∧ weight a = k ∧ Fine a) ∧
        ∀ problem, r.2 = some problem → Stopped a problem r.1 k) :
    Yields (walk l) fun r k => (r.2 = none → ∀ a ∈ l, Fine a) ∧
      ∀ problem, r.2 = some problem → ∃ before a after left more, l = before ++ a :: after ∧
        (∀ b ∈ before, Fine b) ∧ Stopped a problem left more ∧
        r.1 = before.map whole ++ left :: after ∧
        ((before.map weight).sum + more : ENat) = k := by
  induction l with
  | nil =>
    rw [hnil]
    exact .pure ⟨fun _ => by simp, fun _ heq => by cases heq⟩
  | cons a rest ih =>
    have hrest := ih fun other hother => h other (List.mem_cons_of_mem _ hother)
    rw [hcons]
    refine .bind (h a List.mem_cons_self) ?_
    rintro ⟨new, problem⟩ k ⟨hdone, hstopped⟩
    cases problem with
    | some problem =>
      refine .pure ⟨fun heq => absurd heq (Option.some_ne_none problem), fun _ heq => ?_⟩
      cases heq
      exact ⟨[], a, rest, new, k, rfl, by simp, hstopped problem rfl, rfl, by simp⟩
    | none =>
      obtain ⟨rfl, hweight, hfine⟩ := hdone rfl
      refine .bind hrest ?_
      rintro ⟨others, problem⟩ m ⟨hnone, hsome⟩
      refine .pure ⟨fun heq => List.forall_mem_cons.mpr ⟨hfine, hnone heq⟩, fun last heq => ?_⟩
      obtain ⟨before, b, after, left, more, rfl, hbefore, hleft, rfl, hsum⟩ := hsome last heq
      refine ⟨a :: before, b, after, left, more, rfl, List.forall_mem_cons.mpr ⟨hfine, hbefore⟩,
        hleft, rfl, ?_⟩
      rw [List.map_cons, List.sum_cons, hweight, add_assoc, hsum, Nat.cast_add, Nat.add_zero]

theorem visitString_ends (attrs : Attrs) :
    Yields (visitString rewrite attrs) (courseFrom rewrite (.lua .string attrs)).Ends := by
  refine (visitString_scrubs attrs).mono ?_
  rintro r k ⟨hk, ⟨fresh, hfresh, rfl⟩ | ⟨problem, hproblem, rfl⟩⟩
  · refine .of_clear (fun position problem hstops => ?_) _ _
    cases hfresh.symm.trans (stopsFrom_string_iff.mp hstops).2
  · refine .of_halts (.at_once rfl (stopsFrom_string_iff.mpr ⟨rfl, hproblem⟩) ?_ ?_)
    · simp only [courseFrom, renewedUpTo_nil]
    · -- the string is counted already if it changes, though it cannot be made anew
      have hone : (courseFrom rewrite (.lua .string attrs)).changed ∩ {[]} =
          changedFrom rewrite (.lua .string attrs) := by
        refine Set.inter_eq_left.mpr fun position hposition => ?_
        exact (mem_changedFrom_string.mp hposition).1
      rw [hone, hk]

theorem visitLuaItems_cons (item : Value) (rest : List Value) :
    visitLuaItems rewrite (item :: rest) = visitLuaValue rewrite item >>= fun r =>
      match r.2 with
      | some problem => pure (r.1 :: rest, some problem)
      | none => visitLuaItems rewrite rest >>= fun s => pure (r.1 :: s.1, s.2) := by
  rewrite [visitLuaItems]
  rfl

theorem visitLuaField_list_ends {items : List Value}
    (h : ∀ item ∈ items, Yields (visitLuaValue rewrite item) fun r k =>
      Visits rewrite item r k ∧ (courseFrom rewrite item).Ends r k) :
    Yields (visitLuaField rewrite (.list items)) (courseIn rewrite (.list items)).Ends := by
  have hitems := stops_in_list (renewedItem rewrite)
    (fun item => (changedFrom rewrite item).encard) (fun item => (courseFrom rewrite item).Clear)
    (fun item problem left k => ∃ last, (courseFrom rewrite item).Halts last problem left k)
    (by rw [visitLuaItems]) visitLuaItems_cons
    fun item hitem => (h item hitem).mono fun r k hr =>
      ⟨fun hnone => ⟨(hr.1 hnone).1, (hr.1 hnone).2.1, hr.2.1 hnone⟩, hr.2.2⟩
  rw [visitLuaField]
  refine .bind hitems ?_
  rintro ⟨new, problem⟩ k ⟨hnone, hsome⟩
  refine .pure ⟨fun heq => clear_courseIn_list (hnone heq), fun problem heq => ?_⟩
  obtain ⟨before, item, after, left, more, rfl, hbefore, ⟨last, hhalts⟩, rfl, htotal⟩ :=
    hsome problem heq
  exact ⟨_, halts_courseIn_list hbefore hhalts htotal⟩

/-- The visit of an attribute, with its name. -/
def visitNamed (rewrite : Text → Rewriting) (attr : String × Value) :
    WalkM ((String × Value) × Option Problem) :=
  (if isPassedOver attr.1 then pure (attr.2, none) else visitLuaField rewrite attr.2) >>= fun r =>
    pure ((attr.1, r.1), r.2)

theorem walkLuaAttrs_eq_visitNamed (attr : String × Value) (rest : Attrs) :
    walkLuaAttrs rewrite (attr :: rest) = visitNamed rewrite attr >>= fun r =>
      match r.2 with
      | some problem => pure (r.1 :: rest, some problem)
      | none => walkLuaAttrs rewrite rest >>= fun s => pure (r.1 :: s.1, s.2) := by
  rewrite [walkLuaAttrs_cons, visitNamed, bind_assoc]
  rfl

theorem visitNamed_yields {attr : String × Value}
    (h : Yields (visitLuaField rewrite attr.2) fun r k =>
      VisitsField rewrite attr.2 r k ∧ (courseIn rewrite attr.2).Ends r k) :
    Yields (visitNamed rewrite attr) fun r k =>
      (r.2 = none → r.1 = renewedAttr rewrite attr ∧ (changedUnder rewrite attr).encard = k ∧
        (isPassedOver attr.1 = false → (courseIn rewrite attr.2).Clear)) ∧
      ∀ problem, r.2 = some problem → isPassedOver attr.1 = false ∧
        ∃ left last, r.1 = (attr.1, left) ∧ (courseIn rewrite attr.2).Halts last problem left k := by
  unfold visitNamed
  cases hname : isPassedOver attr.1 with
  | true =>
    rw [if_pos rfl, pure_bind]
    refine .pure ⟨fun _ => ⟨by simp [renewedAttr, hname], by simp [changedUnder, hname], ?_⟩, ?_⟩
    · exact fun heq => by cases heq
    · exact fun _ heq => by cases heq
  | false =>
    rw [if_neg Bool.false_ne_true]
    refine .bind h fun r k hr => .pure ⟨fun hnone => ?_, fun problem hproblem => ?_⟩
    · obtain ⟨hvalue, hk, -⟩ := hr.1 hnone
      refine ⟨by simp [renewedAttr, hname, hvalue], ?_, fun _ => hr.2.1 hnone⟩
      simpa [changedUnder, hname] using hk
    · obtain ⟨last, hhalts⟩ := hr.2.2 problem hproblem
      exact ⟨rfl, r.1, last, rfl, hhalts⟩

theorem walkLua_node_ends {kind : Lua.Kind} {attrs : Attrs}
    (h : ∀ attr ∈ attrs, Yields (visitLuaField rewrite attr.2) fun r k =>
      VisitsField rewrite attr.2 r k ∧ (courseIn rewrite attr.2).Ends r k) :
    Yields (walkLua rewrite (.node (.lua kind) attrs))
      (courseBelow rewrite (.node (.lua kind) attrs)).Ends := by
  rw [walkLua]
  split
  · next problem hcall =>
    refine .pure (.of_halts (.at_once rfl (stopsAt_nil_iff.mpr hcall) ?_ ?_))
    · simp only [courseBelow, renewedUpTo_nil]
    · simp [courseBelow, nil_not_mem_changedBelow]
  · next hcall =>
    refine .pure (.of_clear ?_ _ _)
    exact not_stopsAt_of_isRequireCall hcall
  · next hcall =>
    refine .bind (stops_in_list (renewedAttr rewrite)
      (fun attr => (changedUnder rewrite attr).encard)
      (fun attr => isPassedOver attr.1 = false → (courseIn rewrite attr.2).Clear)
      (fun attr problem new k => isPassedOver attr.1 = false ∧ ∃ left last, new = (attr.1, left) ∧
        (courseIn rewrite attr.2).Halts last problem left k)
      (by rw [walkLuaAttrs]) walkLuaAttrs_eq_visitNamed
      fun attr hattr => visitNamed_yields (h attr hattr)) ?_
    rintro ⟨new, problem⟩ k ⟨hnone, hsome⟩
    refine .pure ⟨fun heq => clear_courseBelow hcall (hnone heq), fun problem heq => ?_⟩
    obtain ⟨before, attr, after, _, more, rfl, hbefore, ⟨hname, left, last, rfl, hhalts⟩, rfl,
      htotal⟩ := hsome problem heq
    exact ⟨_, halts_courseBelow hcall hbefore hname hhalts htotal⟩

theorem visitLuaValue_ends (value : Value) :
    Yields (visitLuaValue rewrite value) (courseFrom rewrite value).Ends ∧
      Yields (visitLuaField rewrite value) (courseIn rewrite value).Ends := by
  have hleaf {value : Value} (h : value.isLuaNode = false) :
      Yields (visitLuaValue rewrite value) (courseFrom rewrite value).Ends := by
    rw [visitLuaValue_of_not_isLuaNode h]
    refine .pure (.of_clear ?_ _ _)
    exact not_stopsFrom_of_not_isLuaNode h
  have hfield {value : Value} (hlist : ∀ items, value ≠ .list items)
      (h : Yields (visitLuaValue rewrite value) (courseFrom rewrite value).Ends) :
      Yields (visitLuaField rewrite value) (courseIn rewrite value).Ends := by
    rw [visitLuaField_of_ne_list hlist]
    refine h.mono fun r k hr => ⟨fun hnone => clear_courseIn hlist (hr.1 hnone), ?_⟩
    intro problem hproblem
    obtain ⟨last, hhalts⟩ := hr.2 problem hproblem
    exact ⟨_, halts_courseIn hlist hhalts⟩
  induction value using Value.induction with
  | list items ih =>
    refine ⟨hleaf rfl, visitLuaField_list_ends fun item hitem => ?_⟩
    exact (visitLuaValue_yields item).1.and (ih item hitem).1
  | collection type items _ => exact ⟨hleaf rfl, hfield (by simp) (hleaf rfl)⟩
  | node kind attrs ih =>
    have hvisit : Yields (visitLuaValue rewrite (.node kind attrs))
        (courseFrom rewrite (.node kind attrs)).Ends := by
      cases kind with
      | python kind => exact hleaf rfl
      | lua kind =>
        cases hstring : (Value.node (.lua kind) attrs).isLuaString with
        | true =>
          obtain ⟨_, heq⟩ := eq_string_of_isLuaString hstring
          cases heq
          rw [visitLuaValue, if_pos rfl]
          exact visitString_ends attrs
        | false =>
          rw [visitLuaValue_eq_walkLua hstring, courseFrom_eq_courseBelow hstring]
          exact walkLua_node_ends fun attr hattr =>
            (visitLuaValue_yields attr.2).2.and (ih attr hattr).2
    exact ⟨hvisit, hfield (by simp) hvisit⟩
  | leaf value hlist hcollection hnode =>
    have hvisit := @hleaf value (by cases value <;> simp_all [Value.isLuaNode])
    exact ⟨hvisit, hfield hlist hvisit⟩

/-- A walk that meets a problem has come to the first node that has one. -/
theorem walkLua_ends (kind : Lua.Kind) (attrs : Attrs) :
    Yields (walkLua rewrite (.node (.lua kind) attrs))
      (courseBelow rewrite (.node (.lua kind) attrs)).Ends :=
  walkLua_node_ends fun attr _ => (visitLuaValue_yields attr.2).2.and (visitLuaValue_ends attr.2).2

end LiteralScrub.Scrub
