import Mathlib.Data.List.Basic
import LiteralScrub.Python.Place

/-!
# Trees up to places

Two Python trees are the same up to places if they have the same shape: the kinds of their nodes
and the fields of each node as they read. Filling in places does not change the shape.
-/
namespace LiteralScrub

/-- Whether a value is a collection other than a list or a dictionary. -/
def Value.isCollection : Value → Bool
  | collection _ _ => true
  | _ => false

/-- The items of a list or of another collection. -/
def Value.items? : Value → Option (List Value)
  | list items | collection _ items => some items
  | _ => none

/-- Induction over a tree, through the attributes of nodes and through lists and other
collections. -/
@[elab_as_elim]
theorem Value.induction {P : Value → Prop}
    (list : ∀ items, (∀ item ∈ items, P item) → P (.list items))
    (collection : ∀ type items, (∀ item ∈ items, P item) → P (.collection type items))
    (node : ∀ kind attrs, (∀ attr ∈ attrs, P attr.2) → P (.node kind attrs))
    (leaf : ∀ value, (∀ items, value ≠ .list items) →
      (∀ type items, value ≠ .collection type items) →
      (∀ kind attrs, value ≠ .node kind attrs) → P value)
    (value : Value) : P value := by
  refine @Value.rec P (fun items => ∀ item ∈ items, P item) (fun _ => True)
    (fun attrs => ∀ attr ∈ attrs, P attr.2) (fun _ => True) (fun attr => P attr.2)
    ?null ?bool ?int ?float ?complex ?ellipsis ?text ?bytes ?symbol list ?dict collection
    node ?noItems ?items trivial (fun _ _ _ _ => trivial) ?noAttrs ?attrs (fun _ _ _ => trivial)
    (fun _ _ h => h) value
  case noItems => simp
  case noAttrs => simp
  case items =>
    intro item rest hitem hrest other hmem
    rcases List.mem_cons.mp hmem with rfl | hmem
    · exact hitem
    · exact hrest other hmem
  case attrs =>
    intro attr rest hattr hrest other hmem
    rcases List.mem_cons.mp hmem with rfl | hmem
    · exact hattr
    · exact hrest other hmem
  all_goals
    intros
    exact leaf _ (by simp) (by simp) (by simp)

/-- Where only nodes are changed, a node was one before. -/
theorem Value.isPythonNode_of_ite {f : Value → Value} {item : Value}
    (h : (if item.isPythonNode then f item else item).isPythonNode = true) :
    item.isPythonNode = true := by
  by_contra hnode
  rw [if_neg hnode] at h
  exact hnode h

/-! ## Attributes -/

namespace Attrs

@[simp] theorem get?_nil (name : String) : get? [] name = none := rfl

theorem get?_cons (attr : String × Value) (rest : Attrs) (name : String) :
    get? (attr :: rest) name = if name = attr.1 then some attr.2 else get? rest name := by
  obtain ⟨other, value⟩ := attr
  by_cases h : name = other
  · simp [get?, h]
  · have hne : (name == other) = false := by simp [h]
    simp [get?, List.lookup_cons, h, hne]

theorem get?_append (attrs attrs' : Attrs) (name : String) :
    get? (attrs ++ attrs') name = (get? attrs name).or (get? attrs' name) := by
  induction attrs with
  | nil => simp
  | cons attr rest ih =>
    simp only [List.cons_append, get?_cons, ih]
    split_ifs <;> rfl

theorem get?_eq_none {attrs : Attrs} {name : String} (h : ∀ attr ∈ attrs, attr.1 ≠ name) :
    get? attrs name = none := by
  induction attrs with
  | nil => rfl
  | cons attr rest ih =>
    rw [get?_cons, if_neg (h attr (by simp)).symm]
    exact ih fun other hother => h other (by simp [hother])

theorem get?_filterMap (names : List String) (f : String → Option Value) (name : String) :
    get? (names.filterMap fun other => (f other).map fun value => (other, value)) name =
      if name ∈ names then f name else none := by
  induction names with
  | nil => rfl
  | cons first rest ih =>
    by_cases hname : name = first
    · subst hname
      cases hf : f name <;> simp [hf, ih, get?_cons]
    · cases hf : f first <;> simp [hf, ih, get?_cons, hname]

theorem get?_map (f : String × Value → Value) (attrs : Attrs) (name : String) :
    get? (attrs.map fun attr => (attr.1, f attr)) name =
      (get? attrs name).map fun value => f (name, value) := by
  induction attrs with
  | nil => rfl
  | cons attr rest ih =>
    simp only [List.map_cons, get?_cons, ih]
    split_ifs with hname
    · rw [hname, Option.map_some]
    · rfl

theorem map_set {f : String × Value → Value} {name : String} {value : Value}
    (h : f (name, value) = value) (attrs : Attrs) :
    (set name value attrs).map (fun attr => (attr.1, f attr)) =
      set name value (attrs.map fun attr => (attr.1, f attr)) := by
  induction attrs with
  | nil => simp [set, h]
  | cons attr rest ih =>
    obtain ⟨other, old⟩ := attr
    by_cases hother : other = name
    · simp [set, hother, h]
    · simp [set, hother, ih]

theorem mem_of_get? {attrs : Attrs} {name : String} {value : Value}
    (h : get? attrs name = some value) : (name, value) ∈ attrs := by
  induction attrs with
  | nil => simp at h
  | cons attr rest ih =>
    rw [get?_cons] at h
    split_ifs at h with hname
    · subst hname
      simp [← Option.some.inj h]
    · exact List.mem_cons_of_mem _ (ih h)

theorem get?_set (attrs : Attrs) (name other : String) (value : Value) :
    get? (set name value attrs) other = if other = name then some value else get? attrs other := by
  induction attrs with
  | nil => simp [set, get?_cons]
  | cons attr rest ih =>
    obtain ⟨first, old⟩ := attr
    by_cases hfirst : first = name
    · subst hfirst
      simp only [set, if_true, get?_cons]
      split_ifs <;> rfl
    · simp only [set, hfirst, if_false, get?_cons, ih]
      split_ifs <;> simp_all

end Attrs

/-! ## Shapes -/

namespace Python

/-- The fields of a node as they read, in the order of its kind. -/
def Kind.readings (kind : Kind) (attrs : Attrs) : Attrs :=
  kind.fields.filterMap fun name => (kind.read attrs name).toOption.map fun value => (name, value)

theorem Kind.get?_readings {kind : Kind} {name : String} (h : name ∈ kind.fields) (attrs : Attrs) :
    Attrs.get? (kind.readings attrs) name = (kind.read attrs name).toOption := by
  rw [readings, Attrs.get?_filterMap, if_pos h]

mutual

/-- A tree with nothing but the fields of its nodes, as they read. -/
def shape : Value → Value
  | .node (.python kind) attrs => .node (.python kind) (kind.readings (shapeAttrs attrs))
  | .list items => .list (shapeItems items)
  | .collection type items => .collection type (shapeItems items)
  | value => value

def shapeAttrs : Attrs → Attrs
  | [] => []
  | (name, value) :: rest => (name, shape value) :: shapeAttrs rest

def shapeItems : List Value → List Value
  | [] => []
  | item :: rest => shape item :: shapeItems rest

end

theorem get?_shapeAttrs (attrs : Attrs) (name : String) :
    Attrs.get? (shapeAttrs attrs) name = (attrs.get? name).map shape := by
  induction attrs with
  | nil => rfl
  | cons attr rest ih =>
    obtain ⟨other, value⟩ := attr
    simp only [shapeAttrs, Attrs.get?_cons, ih]
    split_ifs <;> rfl

theorem shapeItems_eq_map (items : List Value) : shapeItems items = items.map shape := by
  induction items with
  | nil => rfl
  | cons item rest ih => simp [shapeItems, ih]

theorem read_shapeAttrs (kind : Kind) (attrs : Attrs) (name : String) :
    kind.read (shapeAttrs attrs) name = (kind.read attrs name).map shape := by
  rw [Kind.read, Kind.read, get?_shapeAttrs]
  cases Attrs.get? attrs name with
  | none =>
    simp only [Option.map_none]
    split_ifs <;> rfl
  | some value => rfl

/-- Nodes of one kind have the same shape if their fields read the same up to shape. -/
theorem shape_node_congr {kind : Kind} {attrs attrs' : Attrs}
    (h : ∀ name ∈ kind.fields,
      (kind.read attrs name).map shape = (kind.read attrs' name).map shape) :
    shape (.node (.python kind) attrs) = shape (.node (.python kind) attrs') := by
  simp only [shape, Kind.readings, read_shapeAttrs]
  congr 1
  apply List.filterMap_congr
  intro name hname
  rw [h name hname]

theorem map_read_congr {kind : Kind} {attrs attrs' : Attrs} {name : String}
    (h : (attrs.get? name).map shape = (attrs'.get? name).map shape) :
    (kind.read attrs name).map shape = (kind.read attrs' name).map shape := by
  rw [← read_shapeAttrs, ← read_shapeAttrs, Kind.read, Kind.read, get?_shapeAttrs,
    get?_shapeAttrs, h]

/-! ## Filling in places -/

/-- The attributes of a node once its place and those below it are filled in. -/
def placed (place : Place) (kind : Kind) (attrs : Attrs) : Attrs :=
  let (filled, inner) := fillPlace kind attrs place
  fixFields kind inner attrs ++ remarks kind filled

theorem fixField_node (place : Place) (kind : Kind) (attrs : Attrs) :
    fixField place (.node (.python kind) attrs) =
      .node (.python kind) (placed place kind attrs) := by
  simp only [fixField, placed]

/-- Places are filled in from a node on; what a field holds may also be a list of nodes. -/
theorem fixPlaces_eq_ite (place : Place) (value : Value) :
    fixPlaces place value = if value.isPythonNode then fixField place value else value := by
  cases value with
  | node kind attrs => cases kind <;> simp [fixPlaces, fixField, Value.isPythonNode]
  | _ => simp [fixPlaces, Value.isPythonNode]

theorem withPlaces_eq_ok {tree tree' : Value} :
    withPlaces tree = .ok tree' ↔ tree.isPythonNode ∧ fixField {} tree = tree' := by
  rw [withPlaces, fixPlaces_eq_ite]
  cases tree.isPythonNode <;> simp

theorem fixField_list (place : Place) (items : List Value) :
    fixField place (.list items) =
      .list (items.map fun item => if item.isPythonNode then fixField place item else item) := by
  rw [fixField]
  congr 1
  induction items with
  | nil => simp [fixItems]
  | cons item rest ih => simp [fixItems, ih, fixPlaces_eq_ite]

theorem fixField_collection (place : Place) (type : CollectionType) (items : List Value) :
    fixField place (.collection type items) = .collection type items := by
  simp [fixField]

@[simp] theorem isPythonNode_fixField (place : Place) (value : Value) :
    (fixField place value).isPythonNode = value.isPythonNode := by
  cases value with
  | node kind attrs => cases kind <;> simp [fixField, Value.isPythonNode]
  | _ => simp [fixField, Value.isPythonNode]

@[simp] theorem isCollection_fixField (place : Place) (value : Value) :
    (fixField place value).isCollection = value.isCollection := by
  cases value with
  | node kind attrs => cases kind <;> simp [fixField, Value.isCollection]
  | _ => simp [fixField, Value.isCollection]

theorem get?_fixFields {kind : Kind} {name : String} (h : name ∈ kind.fields) (place : Place)
    (attrs : Attrs) :
    Attrs.get? (fixFields kind place attrs) name = (attrs.get? name).map (fixField place) := by
  induction attrs with
  | nil => simp [fixFields]
  | cons attr rest ih =>
    obtain ⟨other, value⟩ := attr
    by_cases hother : other ∈ kind.fields
    · simp only [fixFields, hother, if_true, Attrs.get?_cons, ih]
      split_ifs <;> rfl
    · have hne : name ≠ other := fun he => hother (he ▸ h)
      simp only [fixFields, hother, if_false, Attrs.get?_cons, ih, hne]

theorem get?_placed {kind : Kind} {name : String} (h : name ∈ kind.fields) (place : Place)
    (attrs : Attrs) :
    Attrs.get? (placed place kind attrs) name =
      (attrs.get? name).map (fixField (fillPlace kind attrs place).2) := by
  have hremarks : Attrs.get? (remarks kind (fillPlace kind attrs place).1) name = none := by
    apply Attrs.get?_eq_none
    intro attr hattr he
    have := (List.mem_filter.mp hattr).2
    simp [he, h] at this
  simp only [placed]
  rw [Attrs.get?_append, hremarks, Option.or_none, get?_fixFields h]

/-- Filling in places keeps the shape. -/
theorem shape_fixField (value : Value) : ∀ place, shape (fixField place value) = shape value := by
  induction value using Value.induction with
  | list items ih =>
    intro place
    rw [fixField_list, shape, shape, shapeItems_eq_map, shapeItems_eq_map, List.map_map]
    congr 1
    apply List.map_congr_left
    intro item hitem
    rw [Function.comp_apply, apply_ite shape, ih item hitem, ite_self]
  | node kind attrs ih =>
    intro place
    cases kind with
    | lua kind => simp [fixField]
    | python kind =>
      rw [fixField_node]
      apply shape_node_congr
      intro name hname
      apply map_read_congr
      rw [get?_placed hname, Option.map_map]
      cases hget : Attrs.get? attrs name with
      | none => rfl
      | some value => simp [ih _ (Attrs.mem_of_get? hget)]
  | collection type items ih => simp [fixField]
  | leaf value hlist hcollection hnode =>
    intro place
    cases value <;> simp_all [fixField]

end Python

end LiteralScrub
