import LiteralScrub.Proofs.Tree

/-!
# Trees whose places are settled

Once the places of a tree are filled in, filling them in again changes nothing, from whatever place
one begins: each node has all of its place, and its remarks follow its fields.
-/
namespace LiteralScrub.Python

/-! ## What holds of every node -/

mutual

/-- The property holds of every node of a tree; nodes are reached through fields and lists. -/
def Everywhere (P : Kind → Attrs → Prop) : Value → Prop
  | .node (.python kind) attrs => P kind attrs ∧ EverywhereAttrs P kind attrs
  | .list items => EverywhereItems P items
  | _ => True

def EverywhereAttrs (P : Kind → Attrs → Prop) (kind : Kind) : Attrs → Prop
  | [] => True
  | (name, value) :: rest =>
    (name ∈ kind.fields → Everywhere P value) ∧ EverywhereAttrs P kind rest

def EverywhereItems (P : Kind → Attrs → Prop) : List Value → Prop
  | [] => True
  | item :: rest => (item.isPythonNode = true → Everywhere P item) ∧ EverywhereItems P rest

end

variable {P : Kind → Attrs → Prop} {kind : Kind} {attrs : Attrs} {place : Place}

theorem everywhereAttrs_iff :
    EverywhereAttrs P kind attrs ↔ ∀ attr ∈ attrs, attr.1 ∈ kind.fields → Everywhere P attr.2 := by
  induction attrs with
  | nil => simp [EverywhereAttrs]
  | cons attr rest ih => rw [EverywhereAttrs, ih, List.forall_mem_cons]

theorem everywhere_node :
    Everywhere P (.node (.python kind) attrs) ↔
      P kind attrs ∧ ∀ attr ∈ attrs, attr.1 ∈ kind.fields → Everywhere P attr.2 := by
  rw [Everywhere, everywhereAttrs_iff]

theorem everywhere_list {items : List Value} :
    Everywhere P (.list items) ↔ ∀ item ∈ items, item.isPythonNode = true → Everywhere P item := by
  rw [Everywhere]
  induction items with
  | nil => simp [EverywhereItems]
  | cons item rest ih => simp [EverywhereItems, ih]

/-! ## Places -/

/-- Where the node begins is not given as nothing, if the node has a place. -/
def Begun (kind : Kind) (attrs : Attrs) : Prop :=
  kind.hasPlace = true → attrs.get? "lineno" ≠ some .null ∧ attrs.get? "col_offset" ≠ some .null

/-- The attribute is there and is something. -/
def Given (attrs : Attrs) (name : String) : Prop :=
  ∃ value, attrs.get? name = some value ∧ value ≠ .null

/-- The node has all of its place, and its remarks follow its fields. -/
structure Settled (kind : Kind) (attrs : Attrs) : Prop where
  given : kind.hasPlace = true → ∀ name ∈ placeNames, Given attrs name
  ordered : attrs.filter (fun attr => attr.1 ∈ kind.fields) ++ remarks kind attrs = attrs

/-- Nothing is missing in the place that is handed down. -/
structure Place.Known (place : Place) : Prop where
  line : place.line ≠ .null
  column : place.column ≠ .null
  endLine : place.endLine ≠ .null
  endColumn : place.endColumn ≠ .null

/-- No part of a place is a field of a node that has one. -/
theorem not_mem_fields_of_hasPlace (h : kind.hasPlace = true) :
    ∀ name ∈ placeNames, name ∉ kind.fields := by
  revert h
  cases kind <;> decide

/-! ## Filling in one part -/

theorem fillIn_of_given {name : String} (h : Given attrs name) (handed : Value)
    (nullCounts : Bool) : (fillIn attrs name handed nullCounts).1 = attrs := by
  obtain ⟨value, hget, hvalue⟩ := h
  unfold fillIn
  rw [hget]
  cases value <;> first | rfl | exact absurd rfl hvalue

theorem get?_fillIn_of_ne {name other : String} (h : other ≠ name) (handed : Value)
    (nullCounts : Bool) :
    (fillIn attrs name handed nullCounts).1.get? other = attrs.get? other := by
  unfold fillIn
  split <;> (try split_ifs) <;> simp [Attrs.get?_set, h]

/-- What is handed on is the part that the node then has. -/
theorem get?_fillIn {name : String} (handed : Value) (nullCounts : Bool) :
    (fillIn attrs name handed nullCounts).1.get? name =
      some (fillIn attrs name handed nullCounts).2 := by
  unfold fillIn
  split <;> (try split_ifs) <;> simp [Attrs.get?_set, *]

theorem fillIn_ne_null {name : String} {handed : Value} {nullCounts : Bool} (h : handed ≠ .null)
    (hnull : nullCounts = true → attrs.get? name ≠ some .null) :
    (fillIn attrs name handed nullCounts).2 ≠ .null := by
  unfold fillIn
  split
  · exact h
  · split_ifs with hcounts
    · exact absurd ‹_› (hnull hcounts)
    · exact h
  · assumption

/-! ## Filling in a place -/

theorem fillPlace_of_given (h : kind.hasPlace = true → ∀ name ∈ placeNames, Given attrs name)
    (place : Place) : (fillPlace kind attrs place).1 = attrs := by
  unfold fillPlace
  split_ifs with hkind
  · have hgiven := h hkind
    simp only [placeNames, List.forall_mem_cons] at hgiven
    obtain ⟨hline, hcolumn, hendLine, hendColumn, -⟩ := hgiven
    simp only [fillIn_of_given hline, fillIn_of_given hendLine, fillIn_of_given hcolumn,
      fillIn_of_given hendColumn]
  · rfl

/-- What is handed on is the place that the node then has. -/
theorem get?_fillPlace (hkind : kind.hasPlace = true) (attrs : Attrs) (place : Place) :
    let r := fillPlace kind attrs place
    r.1.get? "lineno" = some r.2.line ∧ r.1.get? "col_offset" = some r.2.column ∧
      r.1.get? "end_lineno" = some r.2.endLine ∧ r.1.get? "end_col_offset" = some r.2.endColumn := by
  simp only [fillPlace, hkind, if_true]
  refine ⟨?_, ?_, ?_, ?_⟩
  · rw [get?_fillIn_of_ne (by decide), get?_fillIn_of_ne (by decide),
      get?_fillIn_of_ne (by decide), get?_fillIn]
  · rw [get?_fillIn_of_ne (by decide), get?_fillIn]
  · rw [get?_fillIn_of_ne (by decide), get?_fillIn_of_ne (by decide), get?_fillIn]
  · rw [get?_fillIn]

/-- The place of a node is whole once it is filled in, and so is what is handed on. -/
theorem given_fillPlace (hplace : place.Known) (hbegun : Begun kind attrs) :
    (kind.hasPlace = true → ∀ name ∈ placeNames, Given (fillPlace kind attrs place).1 name) ∧
      (fillPlace kind attrs place).2.Known := by
  have hknown : (fillPlace kind attrs place).2.Known := by
    unfold fillPlace
    split_ifs with hkind
    · obtain ⟨hline, hcolumn⟩ := hbegun hkind
      refine ⟨fillIn_ne_null hplace.line fun _ => hline, fillIn_ne_null hplace.column fun _ => ?_,
        fillIn_ne_null hplace.endLine nofun, fillIn_ne_null hplace.endColumn nofun⟩
      rwa [get?_fillIn_of_ne (by decide), get?_fillIn_of_ne (by decide)]
    · exact hplace
  refine ⟨fun hkind => ?_, hknown⟩
  obtain ⟨hline, hcolumn, hendLine, hendColumn⟩ := get?_fillPlace hkind attrs place
  simp only [placeNames, List.forall_mem_cons]
  exact ⟨⟨_, hline, hknown.line⟩, ⟨_, hcolumn, hknown.column⟩, ⟨_, hendLine, hknown.endLine⟩,
    ⟨_, hendColumn, hknown.endColumn⟩, nofun⟩

/-! ## Filling in all places -/

theorem fixFields_eq_map (kind : Kind) (place : Place) (attrs : Attrs) :
    fixFields kind place attrs = (attrs.filter fun attr => attr.1 ∈ kind.fields).map fun attr =>
      (attr.1, fixField place attr.2) := by
  induction attrs with
  | nil => rfl
  | cons attr rest ih =>
    by_cases hname : attr.1 ∈ kind.fields <;> simp [fixFields, hname, ih]

theorem mem_fields_of_mem_fixFields {attr : String × Value} (h : attr ∈ fixFields kind place attrs) :
    attr.1 ∈ kind.fields := by
  rw [fixFields_eq_map, List.mem_map] at h
  obtain ⟨old, hold, rfl⟩ := h
  simpa using (List.mem_filter.mp hold).2

theorem get?_remarks {name : String} (h : name ∉ kind.fields) :
    Attrs.get? (remarks kind attrs) name = attrs.get? name := by
  induction attrs with
  | nil => rfl
  | cons attr rest ih =>
    by_cases hattr : attr.1 ∈ kind.fields
    · have hne : name ≠ attr.1 := fun he => h (he ▸ hattr)
      rw [remarks, List.filter_cons_of_neg (by simpa using hattr), Attrs.get?_cons, if_neg hne]
      exact ih
    · rw [remarks, List.filter_cons_of_pos (by simpa using hattr), Attrs.get?_cons, Attrs.get?_cons]
      rw [remarks] at ih
      rw [ih]

theorem get?_placed_of_not_mem {name : String} (h : name ∉ kind.fields) :
    Attrs.get? (placed place kind attrs) name = (fillPlace kind attrs place).1.get? name := by
  have hfields : Attrs.get? (fixFields kind (fillPlace kind attrs place).2 attrs) name = none := by
    exact Attrs.get?_eq_none fun attr hattr he => h (he ▸ mem_fields_of_mem_fixFields hattr)
  rw [placed, Attrs.get?_append, hfields, Option.none_or, get?_remarks h]

/-- Remarks behind fields are in order. -/
theorem ordered_append {fields rest : Attrs} (hfields : ∀ attr ∈ fields, attr.1 ∈ kind.fields)
    (hrest : ∀ attr ∈ rest, attr.1 ∉ kind.fields) :
    (fields ++ rest).filter (fun attr => attr.1 ∈ kind.fields) ++ remarks kind (fields ++ rest) =
      fields ++ rest := by
  have hkept : fields.filter (fun attr => attr.1 ∈ kind.fields) = fields := by
    simpa [List.filter_eq_self] using hfields
  have hnone : rest.filter (fun attr => attr.1 ∈ kind.fields) = [] := by
    simpa [List.filter_eq_nil_iff] using hrest
  have hempty : remarks kind fields = [] := by
    simpa [remarks, List.filter_eq_nil_iff] using hfields
  have hall : remarks kind rest = rest := by
    simpa [remarks, List.filter_eq_self] using hrest
  rw [remarks] at hempty hall ⊢
  rw [List.filter_append, List.filter_append, hkept, hnone, hempty, hall, List.append_nil,
    List.nil_append]

theorem settled_placed (hplace : place.Known) (hbegun : Begun kind attrs) :
    Settled kind (placed place kind attrs) := by
  constructor
  · intro hkind name hname
    obtain ⟨value, hget, hvalue⟩ := (given_fillPlace hplace hbegun).1 hkind name hname
    exact ⟨value, (get?_placed_of_not_mem (not_mem_fields_of_hasPlace hkind name hname)).trans hget,
      hvalue⟩
  · refine ordered_append (fun attr hattr => mem_fields_of_mem_fixFields hattr) fun attr hattr => ?_
    simpa using (List.mem_filter.mp hattr).2

/-- What filling in makes of one node holds of every node once all places are filled in, where `R`
is kept of the place that is handed down. -/
theorem everywhere_fixField {Q : Kind → Attrs → Prop} {R : Place → Prop}
    (hnode : ∀ {place kind attrs}, R place → P kind attrs →
      Q kind (placed place kind attrs) ∧ R (fillPlace kind attrs place).2)
    (value : Value) : ∀ place, R place → Everywhere P value →
      Everywhere Q (fixField place value) := by
  induction value using Value.induction with
  | list items ih =>
    intro place hplace h
    rw [everywhere_list] at h
    rw [fixField_list, everywhere_list]
    intro item hitem hpython
    obtain ⟨old, hold, rfl⟩ := List.mem_map.mp hitem
    have hpython := Value.isPythonNode_of_ite hpython
    rw [if_pos hpython]
    exact ih old hold place hplace (h old hold hpython)
  | collection type items _ =>
    intro place hplace h
    simp [fixField, Everywhere]
  | node kind attrs ih =>
    intro place hplace h
    cases kind with
    | lua kind => simp [fixField, Everywhere]
    | python kind =>
      rw [everywhere_node] at h
      rw [fixField_node, everywhere_node]
      obtain ⟨hplaced, hinner⟩ := hnode hplace h.1
      refine ⟨hplaced, fun attr hattr hname => ?_⟩
      rw [placed, List.mem_append, fixFields_eq_map, List.mem_map] at hattr
      rcases hattr with ⟨old, hold, rfl⟩ | hremark
      · have hattrs := (List.mem_filter.mp hold).1
        exact ih old hattrs _ hinner (h.2 old hattrs hname)
      · exact absurd hname (by simpa using (List.mem_filter.mp hremark).2)
  | leaf value hlist hcollection hnode =>
    intro place hplace h
    cases value <;> simp_all [fixField, Everywhere]

/-- All is settled once the places are filled in. -/
theorem settled_fixField (value : Value) (hplace : place.Known) (h : Everywhere Begun value) :
    Everywhere Settled (fixField place value) :=
  everywhere_fixField (fun hplace hbegun =>
    ⟨settled_placed hplace hbegun, (given_fillPlace hplace hbegun).2⟩) value place hplace h

/-- Where all is settled, nothing is filled in. -/
theorem fixField_of_settled (value : Value) : ∀ place, Everywhere Settled value →
    fixField place value = value := by
  induction value using Value.induction with
  | list items ih =>
    intro place h
    rw [everywhere_list] at h
    rw [fixField_list]
    congr 1
    refine (List.map_congr_left fun item hitem => ?_).trans (List.map_id items)
    split_ifs with hnode
    · exact ih item hitem place (h item hitem hnode)
    · rfl
  | collection type items _ =>
    intro place h
    simp [fixField]
  | node kind attrs ih =>
    intro place h
    cases kind with
    | lua kind => simp [fixField]
    | python kind =>
      rw [everywhere_node] at h
      have hfields : fixFields kind (fillPlace kind attrs place).2 attrs =
          attrs.filter fun attr => attr.1 ∈ kind.fields := by
        rw [fixFields_eq_map]
        refine (List.map_congr_left fun attr hattr => ?_).trans (List.map_id _)
        obtain ⟨hmem, hname⟩ := List.mem_filter.mp hattr
        rw [ih attr hmem _ (h.2 attr hmem (by simpa using hname))]
        rfl
      rw [fixField_node, placed]
      dsimp only
      rw [hfields, fillPlace_of_given h.1.given, h.1.ordered]
  | leaf value hlist hcollection hnode =>
    intro place h
    cases value <;> simp_all [fixField]

/-! ## Filling in twice -/

/-- Where the place that is handed down ends is not nothing. -/
def Place.Ended (place : Place) : Prop := place.endLine ≠ .null ∧ place.endColumn ≠ .null

theorem fillIn_of_get? {name : String} {value : Value} {nullCounts : Bool}
    (hget : attrs.get? name = some value) (hnull : value = .null → nullCounts = true)
    (handed : Value) : fillIn attrs name handed nullCounts = (attrs, value) := by
  unfold fillIn
  rw [hget]
  cases value <;> simp_all

theorem ended_fillPlace (hplace : place.Ended) (kind : Kind) (attrs : Attrs) :
    (fillPlace kind attrs place).2.Ended := by
  unfold fillPlace
  split_ifs
  · exact ⟨fillIn_ne_null hplace.1 nofun, fillIn_ne_null hplace.2 nofun⟩
  · exact hplace

/-- A node whose place is filled in has it, so there is nothing left to fill in. -/
theorem fillPlace_placed (hplace : place.Ended) :
    fillPlace kind (placed place kind attrs) place =
      (placed place kind attrs, (fillPlace kind attrs place).2) := by
  cases hkind : kind.hasPlace with
  | false => simp [fillPlace, hkind]
  | true =>
    have hget {name : String} (hname : name ∈ placeNames) :
        Attrs.get? (placed place kind attrs) name = (fillPlace kind attrs place).1.get? name :=
      get?_placed_of_not_mem (not_mem_fields_of_hasPlace hkind name hname)
    obtain ⟨hline, hcolumn, hendLine, hendColumn⟩ := get?_fillPlace hkind attrs place
    obtain ⟨hendLine', hendColumn'⟩ := ended_fillPlace hplace kind attrs
    rw [← hget (by decide)] at hline hcolumn hendLine hendColumn
    rw [fillPlace, if_pos hkind]
    simp only [fillIn_of_get? hline, fillIn_of_get? hcolumn, implies_true,
      fillIn_of_get? hendLine fun h => absurd h hendLine',
      fillIn_of_get? hendColumn fun h => absurd h hendColumn']

theorem filter_placed : (placed place kind attrs).filter (fun attr => attr.1 ∈ kind.fields) =
    fixFields kind (fillPlace kind attrs place).2 attrs := by
  have hremarks : (remarks kind (fillPlace kind attrs place).1).filter
      (fun attr => attr.1 ∈ kind.fields) = [] := by
    simp [remarks, List.filter_filter]
  rw [placed, List.filter_append, hremarks, List.append_nil, List.filter_eq_self]
  exact fun attr hattr => by simpa using mem_fields_of_mem_fixFields hattr

theorem remarks_placed : remarks kind (placed place kind attrs) =
    remarks kind (fillPlace kind attrs place).1 := by
  have hfields : (fixFields kind (fillPlace kind attrs place).2 attrs).filter
      (fun attr => attr.1 ∉ kind.fields) = [] := by
    rw [List.filter_eq_nil_iff]
    exact fun attr hattr => by simpa using mem_fields_of_mem_fixFields hattr
  rw [placed, remarks, List.filter_append, hfields, List.nil_append, remarks, List.filter_filter]
  simp

/-- Filling in places that are filled in changes nothing. -/
theorem fixField_fixField (value : Value) : ∀ place : Place, place.Ended →
    fixField place (fixField place value) = fixField place value := by
  induction value using Value.induction with
  | list items ih =>
    intro place hplace
    rw [fixField_list, fixField_list, List.map_map]
    congr 1
    apply List.map_congr_left
    intro item hitem
    by_cases hnode : item.isPythonNode
    · simp [hnode, ih item hitem place hplace]
    · simp [hnode]
  | collection type items _ =>
    intro place hplace
    simp [fixField]
  | node kind attrs ih =>
    intro place hplace
    cases kind with
    | lua kind => simp [fixField]
    | python kind =>
      have hinner := ended_fillPlace hplace kind attrs
      have hfields : (fixFields kind (fillPlace kind attrs place).2 attrs).map (fun attr =>
          (attr.1, fixField (fillPlace kind attrs place).2 attr.2)) =
            fixFields kind (fillPlace kind attrs place).2 attrs := by
        rw [fixFields_eq_map, List.map_map]
        refine List.map_congr_left fun attr hattr => ?_
        rw [Function.comp_apply, ih attr (List.mem_filter.mp hattr).1 _ hinner]
      rw [fixField_node, fixField_node]
      congr 1
      calc placed place kind (placed place kind attrs)
          = fixFields kind (fillPlace kind attrs place).2 (placed place kind attrs) ++
              remarks kind (placed place kind attrs) := by
            rw [placed.eq_def place kind (placed place kind attrs), fillPlace_placed hplace]
        _ = fixFields kind (fillPlace kind attrs place).2 attrs ++
              remarks kind (fillPlace kind attrs place).1 := by
            rw [fixFields_eq_map, filter_placed, hfields, remarks_placed]
        _ = placed place kind attrs := rfl
  | leaf value hlist hcollection hnode =>
    intro place hplace
    cases value <;> simp_all [fixField]

/-! ## Filling in what has changed -/

theorem fillIn_map {f : String × Value → Value} {name : String}
    (hf : ∀ value, f (name, value) = value) (attrs : Attrs) (handed : Value) (nullCounts : Bool) :
    fillIn (attrs.map fun attr => (attr.1, f attr)) name handed nullCounts =
      ((fillIn attrs name handed nullCounts).1.map fun attr => (attr.1, f attr),
        (fillIn attrs name handed nullCounts).2) := by
  have hget : Attrs.get? (attrs.map fun attr => (attr.1, f attr)) name = attrs.get? name := by
    simp [Attrs.get?_map, hf]
  unfold fillIn
  rw [hget]
  split <;> (try split_ifs) <;> simp [Attrs.map_set (hf _)]

/-- Fields have no part in the place of a node. -/
theorem fillPlace_map {f : String × Value → Value}
    (hf : ∀ attr, attr.1 ∉ kind.fields → f attr = attr.2) (attrs : Attrs) (place : Place) :
    fillPlace kind (attrs.map fun attr => (attr.1, f attr)) place =
      ((fillPlace kind attrs place).1.map fun attr => (attr.1, f attr),
        (fillPlace kind attrs place).2) := by
  unfold fillPlace
  split_ifs with hkind
  · have hname {name : String} (hname : name ∈ placeNames) (value : Value) :
        f (name, value) = value := hf _ (not_mem_fields_of_hasPlace hkind name hname)
    simp only [fillIn_map (hname (by decide : "lineno" ∈ placeNames)),
      fillIn_map (hname (by decide : "end_lineno" ∈ placeNames)),
      fillIn_map (hname (by decide : "col_offset" ∈ placeNames)),
      fillIn_map (hname (by decide : "end_col_offset" ∈ placeNames))]
  · rfl

theorem remarks_map {f : String × Value → Value} (attrs : Attrs) :
    remarks kind (attrs.map fun attr => (attr.1, f attr)) =
      (remarks kind attrs).map fun attr => (attr.1, f attr) := by
  rw [remarks, remarks, List.filter_map]
  rfl

/-- A node whose fields change gets the same place whether its places are filled in before as well
or only afterwards, if each of its fields does. -/
theorem placed_map_placed {f : String × Value → Value} (hplace : place.Ended)
    (hf : ∀ attr, attr.1 ∉ kind.fields → f attr = attr.2)
    (h : ∀ attr ∈ attrs, ∀ place : Place, place.Ended →
      fixField place (f (attr.1, fixField place attr.2)) = fixField place (f attr)) :
    placed place kind ((placed place kind attrs).map fun attr => (attr.1, f attr)) =
      placed place kind (attrs.map fun attr => (attr.1, f attr)) := by
  have hinner := ended_fillPlace hplace kind attrs
  generalize hnew : (placed place kind attrs).map (fun attr => (attr.1, f attr)) = new
  rw [placed, placed, ← hnew, fillPlace_map hf, fillPlace_map hf, fillPlace_placed hplace]
  dsimp only
  rw [remarks_map, remarks_map, remarks_placed]
  congr 1
  rw [fixFields_eq_map, fixFields_eq_map, List.filter_map, List.filter_map, List.map_map,
    List.map_map]
  refine (congrArg (List.map _) filter_placed).trans ?_
  rw [fixFields_eq_map, List.map_map]
  refine List.map_congr_left fun attr hattr => ?_
  exact congrArg (Prod.mk attr.1) (h attr (List.mem_filter.mp hattr).1 _ hinner)

end LiteralScrub.Python
