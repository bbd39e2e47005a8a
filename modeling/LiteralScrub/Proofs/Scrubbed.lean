import LiteralScrub.Proofs.Tree
import LiteralScrub.Scrub.Python

/-!
# What a scrubbed Python tree is

`scrubbed` says what becomes of a tree without walking through it: the string constants at
positions that are not protected get new attributes, pieces of interpolated strings that are empty
then go, and all else stays. `openTexts` lists the texts of those constants.
-/
namespace LiteralScrub.Scrub

/-! ## Protected positions -/

def asText : Value → Option Text
  | .text t => some t
  | _ => none

/-- The text that an attribute holds, if it holds one. -/
def textAt (attrs : Attrs) (name : String) : Option Text := (attrs.get? name).bind asText

/-- Whether a callee names a function that imports modules. -/
def namesImport : Value → Bool
  | .node (.python .nameExpr) attrs =>
    textAt attrs "id" = some (Text.ofString "__import__") ||
      textAt attrs "id" = some (Text.ofString "import_module")
  | .node (.python .attributeExpr) attrs =>
    textAt attrs "attr" = some (Text.ofString "import_module")
  | _ => false

/-- Whether a node is a call that imports a module, so that it and all below it is protected. -/
def importsModule (kind : Python.Kind) (attrs : Attrs) : Bool :=
  kind = .call && (attrs.get? "func").any namesImport

/-- Whether a field is the format specification of an interpolation, so that all in it is
protected. -/
def isFormatSpec (kind : Python.Kind) (name : String) : Bool :=
  kind = .formattedValue && name = "format_spec"

/-- Whether nothing in a field is scrubbed: it is a format specification, or a collection other than
a list. Only the pieces of an interpolated string may be given by such a collection. -/
def isSealed (kind : Python.Kind) (name : String) (value : Value) : Bool :=
  isFormatSpec kind name || (kind ≠ .joinedStr && value.isCollection)

/-- The fields of a node that hold the tree below it. A constant has nothing below it, and the
conversion of an interpolation is no part of the tree. -/
def branches : Python.Kind → List String
  | .constant => []
  | .formattedValue => ["value", "format_spec"]
  | kind => kind.fields

/-! ## The scrubbed tree -/

/-- The attributes of a constant, with `onText` for one that holds a text and is not guarded. -/
def scrubbedConstant (onText : Attrs → Text → Attrs) (guarded : Bool) (attrs : Attrs) : Attrs :=
  match guarded, textAt attrs "value" with
  | false, some t => onText attrs t
  | _, _ => attrs

/-- The list of the pieces of an interpolated string, whatever collection gives them, without empty
ones. A text, bytes or a dictionary that is empty stands for no pieces at all. -/
def tidied (kind : Python.Kind) (guarded : Bool) (value : Value) : Value :=
  if kind = .joinedStr && !guarded then
    match value with
    | .list items | .collection _ items => .list (items.filter fun item => !isEmptyPiece item)
    | .text [] | .bytes [] | .dict [] => .list []
    | value => value
  else value

mutual

/-- The tree with new attributes for each string constant that is not guarded. -/
def scrubbed (onText : Attrs → Text → Attrs) (guarded : Bool) : Value → Value
  | .node (.python kind) attrs =>
    .node (.python kind) <|
      if kind = .constant then scrubbedConstant onText guarded attrs
      else scrubbedAttrs onText (guarded || importsModule kind attrs) kind attrs
  | .list items => .list (scrubbedItems onText guarded items)
  | .collection type items => .collection type (scrubbedItems onText guarded items)
  | value => value

def scrubbedAttrs (onText : Attrs → Text → Attrs) (guarded : Bool) (kind : Python.Kind) :
    Attrs → Attrs
  | [] => []
  | (name, value) :: rest =>
    (name,
      if name ∈ branches kind then
        tidied kind guarded (scrubbed onText (guarded || isSealed kind name value) value)
      else value) :: scrubbedAttrs onText guarded kind rest

/-- A collection holds nodes of the tree, but no further collections of them. -/
def scrubbedItems (onText : Attrs → Text → Attrs) (guarded : Bool) : List Value → List Value
  | [] => []
  | item :: rest =>
    (if item.isPythonNode then scrubbed onText guarded item else item) ::
      scrubbedItems onText guarded rest

end

/-! ## The texts that are scrubbed -/

mutual

/-- The texts of the string constants that are not guarded. -/
def openTexts (guarded : Bool) : Value → List Text
  | .node (.python kind) attrs =>
    if kind = .constant then if guarded then [] else (textAt attrs "value").toList
    else openTextsAttrs (guarded || importsModule kind attrs) kind attrs
  | .list items | .collection _ items => openTextsItems guarded items
  | _ => []

def openTextsAttrs (guarded : Bool) (kind : Python.Kind) : Attrs → List Text
  | [] => []
  | (name, value) :: rest =>
    (if name ∈ branches kind then openTexts (guarded || isSealed kind name value) value else []) ++
      openTextsAttrs guarded kind rest

def openTextsItems (guarded : Bool) : List Value → List Text
  | [] => []
  | item :: rest =>
    (if item.isPythonNode then openTexts guarded item else []) ++ openTextsItems guarded rest

end

/-! ## Members -/

/-- What an attribute of a node becomes. -/
def scrubbedAttr (onText : Attrs → Text → Attrs) (guarded : Bool) (kind : Python.Kind)
    (attr : String × Value) : Value :=
  if attr.1 ∈ branches kind then
    tidied kind guarded (scrubbed onText (guarded || isSealed kind attr.1 attr.2) attr.2)
  else attr.2

/-- The texts in an attribute of a node. -/
def openTextsAttr (guarded : Bool) (kind : Python.Kind) (attr : String × Value) : List Text :=
  if attr.1 ∈ branches kind then openTexts (guarded || isSealed kind attr.1 attr.2) attr.2 else []

variable {onText : Attrs → Text → Attrs} {guarded : Bool} {kind : Python.Kind}

theorem scrubbedAttrs_eq_map (attrs : Attrs) :
    scrubbedAttrs onText guarded kind attrs =
      attrs.map fun attr => (attr.1, scrubbedAttr onText guarded kind attr) := by
  induction attrs with
  | nil => rfl
  | cons attr rest ih => simp [scrubbedAttrs, scrubbedAttr, ih]

theorem openTextsAttrs_eq_flatMap (attrs : Attrs) :
    openTextsAttrs guarded kind attrs = attrs.flatMap (openTextsAttr guarded kind) := by
  induction attrs with
  | nil => rfl
  | cons attr rest ih => simp [openTextsAttrs, openTextsAttr, ih]

theorem scrubbedItems_eq_map (items : List Value) :
    scrubbedItems onText guarded items =
      items.map fun item => if item.isPythonNode then scrubbed onText guarded item else item := by
  induction items with
  | nil => rfl
  | cons item rest ih => simp [scrubbedItems, ih]

theorem openTextsItems_eq_flatMap (items : List Value) :
    openTextsItems guarded items =
      items.flatMap fun item => if item.isPythonNode then openTexts guarded item else [] := by
  induction items with
  | nil => rfl
  | cons item rest ih => simp [openTextsItems, ih]

theorem get?_scrubbedAttrs (attrs : Attrs) (name : String) :
    Attrs.get? (scrubbedAttrs onText guarded kind attrs) name =
      (attrs.get? name).map fun value => scrubbedAttr onText guarded kind (name, value) := by
  rw [scrubbedAttrs_eq_map, Attrs.get?_map]

@[simp] theorem isPythonNode_scrubbed (value : Value) :
    (scrubbed onText guarded value).isPythonNode = value.isPythonNode := by
  cases value with
  | node kind attrs => cases kind <;> simp [scrubbed, Value.isPythonNode]
  | _ => simp [scrubbed, Value.isPythonNode]

theorem get?_of_textAt {attrs : Attrs} {name : String} {t : Text}
    (h : textAt attrs name = some t) : attrs.get? name = some (.text t) := by
  obtain ⟨value, hget, hvalue⟩ := Option.bind_eq_some_iff.mp h
  cases value <;> simp_all [asText]

theorem get?_of_read {attrs : Attrs} {name : String} {value : Value}
    (hrequired : name ∉ kind.optionalFields) (h : kind.read attrs name = .ok value) :
    attrs.get? name = some value := by
  unfold Python.Kind.read at h
  split at h
  · simp_all
  · simp [hrequired] at h

theorem textAt_of_read {attrs : Attrs} {name : String} {value : Value}
    (h : kind.read attrs name = .ok value) : textAt attrs name = asText value := by
  unfold Python.Kind.read at h
  unfold textAt
  split at h
  · simp_all
  · split_ifs at h
    simp_all [← Except.ok.inj h, asText]

/-! ## What is guarded stays -/

theorem tidied_of_ne (h : kind ≠ .joinedStr) (value : Value) :
    tidied kind guarded value = value := by
  simp [tidied, h]

@[simp] theorem tidied_guarded (value : Value) : tidied kind true value = value := by
  simp [tidied]

theorem scrubbedItems_guarded {items : List Value}
    (h : ∀ item ∈ items, scrubbed onText true item = item) :
    scrubbedItems onText true items = items := by
  rw [scrubbedItems_eq_map]
  calc items.map _ = items.map id :=
        List.map_congr_left fun item hitem => by simp [h item hitem]
    _ = items := List.map_id items

@[simp] theorem scrubbed_guarded (value : Value) : scrubbed onText true value = value := by
  induction value using Value.induction with
  | list items ih => rw [scrubbed, scrubbedItems_guarded ih]
  | collection type items ih => rw [scrubbed, scrubbedItems_guarded ih]
  | node kind attrs ih =>
    cases kind with
    | lua kind => rfl
    | python kind =>
      have hattrs : scrubbedAttrs onText true kind attrs = attrs := by
        rw [scrubbedAttrs_eq_map]
        calc attrs.map _ = attrs.map id :=
              List.map_congr_left fun attr hattr => by simp [scrubbedAttr, ih attr hattr]
          _ = attrs := List.map_id attrs
      simp [scrubbed, scrubbedConstant, hattrs]
  | leaf value hlist hcollection hnode => cases value <;> simp_all [scrubbed]

theorem openTextsItems_guarded {items : List Value}
    (h : ∀ item ∈ items, openTexts true item = []) : openTextsItems true items = [] := by
  rw [openTextsItems_eq_flatMap, List.flatMap_eq_nil_iff]
  exact fun item hitem => by simp [h item hitem]

@[simp] theorem openTexts_guarded (value : Value) : openTexts true value = [] := by
  induction value using Value.induction with
  | list items ih => rw [openTexts, openTextsItems_guarded ih]
  | collection type items ih => rw [openTexts, openTextsItems_guarded ih]
  | node kind attrs ih =>
    cases kind with
    | lua kind => rfl
    | python kind =>
      have hattrs : openTextsAttrs true kind attrs = [] := by
        rw [openTextsAttrs_eq_flatMap, List.flatMap_eq_nil_iff]
        exact fun attr hattr => by simp [openTextsAttr, ih attr hattr]
      simp [openTexts, hattrs]
  | leaf value hlist hcollection hnode => cases value <;> simp_all [openTexts]

@[simp] theorem scrubbedAttrs_guarded (attrs : Attrs) :
    scrubbedAttrs onText true kind attrs = attrs := by
  simp [scrubbedAttrs_eq_map, scrubbedAttr]

@[simp] theorem openTextsAttrs_guarded (attrs : Attrs) :
    openTextsAttrs true kind attrs = [] := by
  simp [openTextsAttrs_eq_flatMap, openTextsAttr]

/-! ## Places do not matter -/

theorem branches_subset_fields (kind : Python.Kind) : branches kind ⊆ kind.fields := by
  intro name hname
  unfold branches at hname
  split at hname
  · simp at hname
  · simp only [List.mem_cons, List.not_mem_nil, or_false] at hname
    rcases hname with rfl | rfl <;> decide
  · exact hname

@[simp] theorem isSealed_fixField (name : String) (place : Python.Place) (value : Value) :
    isSealed kind name (Python.fixField place value) = isSealed kind name value := by
  simp [isSealed]

theorem asText_fixField (place : Python.Place) (value : Value) :
    asText (Python.fixField place value) = asText value := by
  cases value with
  | node kind attrs => cases kind <;> simp [Python.fixField, asText]
  | _ => simp [Python.fixField, asText]

theorem value_mem_fields : "value" ∈ Python.Kind.constant.fields := by decide

theorem textAt_placed {name : String} (h : name ∈ kind.fields) (place : Python.Place)
    (attrs : Attrs) : textAt (Python.placed place kind attrs) name = textAt attrs name := by
  rw [textAt, textAt, Python.get?_placed h]
  cases Attrs.get? attrs name <;> simp [asText_fixField]

theorem namesImport_fixField (place : Python.Place) (value : Value) :
    namesImport (Python.fixField place value) = namesImport value := by
  cases value with
  | node kind attrs =>
    cases kind with
    | lua kind => simp [Python.fixField]
    | python kind =>
      have hid : "id" ∈ Python.Kind.nameExpr.fields := by decide
      have hattr : "attr" ∈ Python.Kind.attributeExpr.fields := by decide
      rw [Python.fixField_node]
      cases kind <;> simp [namesImport, textAt_placed hid, textAt_placed hattr]
  | _ => simp [Python.fixField, namesImport]

theorem importsModule_placed (place : Python.Place) (attrs : Attrs) :
    importsModule kind (Python.placed place kind attrs) = importsModule kind attrs := by
  by_cases hkind : kind = .call
  · subst hkind
    have hfunc : "func" ∈ Python.Kind.call.fields := by decide
    rw [importsModule, importsModule, Python.get?_placed hfunc, Option.any_map]
    simp [namesImport_fixField]
  · simp [importsModule, hkind]

theorem openTextsAttr_eq_nil {attr : String × Value} (h : attr.1 ∉ kind.fields) :
    openTextsAttr guarded kind attr = [] :=
  if_neg fun hmem => h (branches_subset_fields kind hmem)

theorem openTextsAttrs_fixFields {place : Python.Place} {attrs : Attrs}
    (h : ∀ attr ∈ attrs, ∀ guarded,
      openTexts guarded (Python.fixField place attr.2) = openTexts guarded attr.2) :
    openTextsAttrs guarded kind (Python.fixFields kind place attrs) =
      openTextsAttrs guarded kind attrs := by
  simp only [openTextsAttrs_eq_flatMap]
  induction attrs with
  | nil => simp [Python.fixFields]
  | cons attr rest ih =>
    have hrest := ih fun other hother => h other (List.mem_cons_of_mem _ hother)
    by_cases hname : attr.1 ∈ kind.fields
    · simp [Python.fixFields, hname, hrest, openTextsAttr, h attr List.mem_cons_self]
    · simp [Python.fixFields, hname, hrest, openTextsAttr_eq_nil hname]

/-- The remarks of a node hold no texts, so only those in its fields count. -/
theorem openTextsAttrs_placed {place : Python.Place} {attrs : Attrs}
    (h : ∀ attr ∈ attrs, ∀ guarded, openTexts guarded
      (Python.fixField (Python.fillPlace kind attrs place).2 attr.2) = openTexts guarded attr.2) :
    openTextsAttrs guarded kind (Python.placed place kind attrs) =
      openTextsAttrs guarded kind attrs := by
  have hremarks : (Python.remarks kind (Python.fillPlace kind attrs place).1).flatMap
      (openTextsAttr guarded kind) = [] := by
    rw [List.flatMap_eq_nil_iff]
    intro attr hattr
    exact openTextsAttr_eq_nil (by simpa using (List.mem_filter.mp hattr).2)
  have hfields := @openTextsAttrs_fixFields guarded kind _ _ h
  rw [openTextsAttrs_eq_flatMap] at hfields ⊢
  rw [Python.placed, List.flatMap_append, hremarks, List.append_nil, hfields]

/-- The texts that are scrubbed do not depend on places. -/
theorem openTexts_fixField (value : Value) : ∀ guarded place,
    openTexts guarded (Python.fixField place value) = openTexts guarded value := by
  induction value using Value.induction with
  | list items ih =>
    intro guarded place
    simp only [Python.fixField_list, openTexts, openTextsItems_eq_flatMap, List.flatMap_map]
    apply List.flatMap_congr
    intro item hitem
    by_cases hnode : item.isPythonNode
    · simp [hnode, ih item hitem]
    · simp [hnode]
  | node kind attrs ih =>
    intro guarded place
    cases kind with
    | lua kind => simp [Python.fixField]
    | python kind =>
      rw [Python.fixField_node]
      by_cases hconstant : kind = .constant
      · subst hconstant
        simp [openTexts, textAt_placed value_mem_fields]
      · simp only [openTexts, hconstant, if_false, importsModule_placed]
        exact openTextsAttrs_placed fun attr hattr guarded => ih attr hattr guarded _
  | collection type items ih => simp [Python.fixField]
  | leaf value hlist hcollection hnode =>
    intro guarded place
    cases value <;> simp_all [Python.fixField]

/-! ## The shape of the scrubbed tree -/

/-- What a string constant becomes: the walk puts a new one in the place of one that changes. -/
def renewed (rewrite : Text → Rewriting) (attrs : Attrs) (t : Text) : Attrs :=
  if (rewrite t).changed then Python.withText attrs (rewrite t).text else attrs

/-- A constant with its text rewritten and nothing else changed. -/
def withRewritten (rewrite : Text → Rewriting) (attrs : Attrs) (t : Text) : Attrs :=
  attrs.set "value" (.text (rewrite t).text)

theorem isEmptyPiece_constant (attrs : Attrs) :
    isEmptyPiece (.node (.python .constant) attrs) = (textAt attrs "value" == some []) := by
  simp only [isEmptyPiece, textAt]
  cases Attrs.get? attrs "value" with
  | none => simp
  | some value =>
    cases value with
    | text t => cases t <;> simp [asText]
    | _ => simp [asText]

theorem isEmptyPiece_of_ne (h : kind ≠ .constant) (attrs : Attrs) :
    isEmptyPiece (.node (.python kind) attrs) = false := by
  unfold isEmptyPiece
  split <;> simp_all

theorem asText_shape (value : Value) : asText (Python.shape value) = asText value := by
  cases value with
  | node kind attrs => cases kind <;> simp [Python.shape, asText]
  | _ => simp [Python.shape, asText]

theorem textAt_readings {name : String} (h : name ∈ kind.fields) (attrs : Attrs) :
    textAt (kind.readings (Python.shapeAttrs attrs)) name = textAt attrs name := by
  rw [textAt, Python.Kind.get?_readings h, Python.Kind.read, Python.get?_shapeAttrs, textAt]
  cases Attrs.get? attrs name with
  | none =>
    simp only [Option.map_none]
    split_ifs <;> rfl
  | some value => simp [Except.toOption, asText_shape]

theorem isEmptyPiece_shape (value : Value) :
    isEmptyPiece (Python.shape value) = isEmptyPiece value := by
  cases value with
  | node kind attrs =>
    cases kind with
    | lua kind => rfl
    | python kind =>
      rw [Python.shape]
      by_cases hconstant : kind = .constant
      · subst hconstant
        rw [isEmptyPiece_constant, isEmptyPiece_constant, textAt_readings value_mem_fields]
      · rw [isEmptyPiece_of_ne hconstant, isEmptyPiece_of_ne hconstant]
  | _ => simp [Python.shape, isEmptyPiece]

theorem shape_tidied (value : Value) :
    Python.shape (tidied kind guarded value) = tidied kind guarded (Python.shape value) := by
  have hfilter (items : List Value) :
      (items.filter fun item => !isEmptyPiece item).map Python.shape =
        (items.map Python.shape).filter fun item => !isEmptyPiece item := by
    rw [List.filter_map]
    simp [Function.comp_def, isEmptyPiece_shape]
  unfold tidied
  split_ifs
  · rcases value with
      _ | _ | _ | _ | _ | _ | (_ | _) | (_ | _) | _ | _ | (_ | _) | _ | ⟨_ | _, _⟩ <;>
      simp [Python.shape, Python.shapeItems_eq_map, hfilter]
  · rfl

/-- A constant with its text renewed has the shape of one with its text rewritten. -/
theorem shape_renewed {rewrite : Text → Rewriting}
    (hsame : ∀ t, (rewrite t).changed = false → (rewrite t).text = t) {attrs : Attrs} {t : Text}
    (ht : textAt attrs "value" = some t) :
    Python.shape (.node (.python .constant) (renewed rewrite attrs t)) =
      Python.shape (.node (.python .constant) (withRewritten rewrite attrs t)) := by
  have hvalue : Attrs.get? attrs "value" = some (.text t) := get?_of_textAt ht
  apply Python.shape_node_congr
  intro name hname
  cases hchanged : (rewrite t).changed with
  | false =>
    apply Python.map_read_congr
    simp only [renewed, withRewritten, hchanged, Bool.false_eq_true, if_false, Attrs.get?_set,
      hsame t hchanged]
    split_ifs with he
    · rw [he, hvalue]
    · rfl
  | true =>
    have hfields : name ∈ ["value", "kind"] := hname
    replace hfields : name = "value" ∨ name = "kind" := by simpa using hfields
    simp only [renewed, withRewritten, hchanged, if_true]
    rcases hfields with rfl | rfl
    · apply Python.map_read_congr
      simp [Python.withText, Attrs.get?_cons, Attrs.get?_set]
    · -- a mark that was left out is set to nothing, which is what it read as before
      simp only [Python.Kind.read, Python.withText, Attrs.get?_cons, Attrs.get?_set]
      cases Attrs.get? attrs "kind" <;> simp [Except.map, Python.Kind.optionalFields]

theorem shapeItems_scrubbedItems {onText' : Attrs → Text → Attrs} {items : List Value}
    (h : ∀ item ∈ items, Python.shape (scrubbed onText guarded item) =
      Python.shape (scrubbed onText' guarded item)) :
    Python.shapeItems (scrubbedItems onText guarded items) =
      Python.shapeItems (scrubbedItems onText' guarded items) := by
  simp only [scrubbedItems_eq_map, Python.shapeItems_eq_map, List.map_map]
  apply List.map_congr_left
  intro item hitem
  by_cases hnode : item.isPythonNode
  · simp [hnode, h item hitem]
  · simp [hnode]

/-- Up to places, scrubbing is to rewrite the texts of constants and to leave their marks. -/
theorem shape_scrubbed_renewed {rewrite : Text → Rewriting}
    (hsame : ∀ t, (rewrite t).changed = false → (rewrite t).text = t) (value : Value) :
    ∀ guarded, Python.shape (scrubbed (renewed rewrite) guarded value) =
      Python.shape (scrubbed (withRewritten rewrite) guarded value) := by
  induction value using Value.induction with
  | list items ih =>
    intro guarded
    rw [scrubbed, scrubbed, Python.shape, Python.shape,
      shapeItems_scrubbedItems fun item hitem => ih item hitem guarded]
  | collection type items ih =>
    intro guarded
    rw [scrubbed, scrubbed, Python.shape, Python.shape,
      shapeItems_scrubbedItems fun item hitem => ih item hitem guarded]
  | node kind attrs ih =>
    intro guarded
    cases kind with
    | lua kind => simp [scrubbed]
    | python kind =>
      by_cases hconstant : kind = .constant
      · subst hconstant
        simp only [scrubbed, if_true, scrubbedConstant]
        split
        · exact shape_renewed hsame ‹_›
        · rfl
      · simp only [scrubbed, hconstant, if_false]
        apply Python.shape_node_congr
        intro name hname
        apply Python.map_read_congr
        rw [get?_scrubbedAttrs, get?_scrubbedAttrs]
        cases hget : Attrs.get? attrs name with
        | none => rfl
        | some value =>
          simp only [Option.map_some, Option.some.injEq, scrubbedAttr]
          split_ifs
          · rw [shape_tidied, shape_tidied, ih _ (Attrs.mem_of_get? hget)]
          · rfl
  | leaf value hlist hcollection hnode =>
    intro guarded
    cases value <;> simp_all [scrubbed]

/-- A constant with its text rewritten has the same shape wherever it stands. -/
theorem shape_withRewritten_placed {rewrite : Text → Rewriting} (place : Python.Place)
    (attrs : Attrs) (t : Text) :
    Python.shape (.node (.python .constant)
        (withRewritten rewrite (Python.placed place .constant attrs) t)) =
      Python.shape (.node (.python .constant) (withRewritten rewrite attrs t)) := by
  apply Python.shape_node_congr
  intro name hname
  apply Python.map_read_congr
  simp only [withRewritten, Attrs.get?_set, Python.get?_placed hname]
  split_ifs
  · rfl
  · cases Attrs.get? attrs name <;> simp [Python.shape_fixField]

/-- The shape of the tree with texts rewritten does not depend on places. -/
theorem shape_scrubbed_fixField {rewrite : Text → Rewriting} (value : Value) :
    ∀ guarded place,
      Python.shape (scrubbed (withRewritten rewrite) guarded (Python.fixField place value)) =
        Python.shape (scrubbed (withRewritten rewrite) guarded value) := by
  induction value using Value.induction with
  | list items ih =>
    intro guarded place
    simp only [Python.fixField_list, scrubbed, scrubbedItems_eq_map, Python.shape,
      Python.shapeItems_eq_map, List.map_map]
    congr 1
    apply List.map_congr_left
    intro item hitem
    by_cases hnode : item.isPythonNode
    · simp [hnode, ih item hitem]
    · simp [hnode]
  | collection type items ih => simp [Python.fixField]
  | node kind attrs ih =>
    intro guarded place
    cases kind with
    | lua kind => simp [Python.fixField, scrubbed]
    | python kind =>
      rw [Python.fixField_node]
      by_cases hconstant : kind = .constant
      · subst hconstant
        simp only [scrubbed, if_true, scrubbedConstant, textAt_placed value_mem_fields]
        split
        · exact shape_withRewritten_placed place attrs _
        · rw [← Python.fixField_node, Python.shape_fixField]
      · simp only [scrubbed, hconstant, if_false, importsModule_placed]
        apply Python.shape_node_congr
        intro name hname
        apply Python.map_read_congr
        rw [get?_scrubbedAttrs, get?_scrubbedAttrs, Python.get?_placed hname]
        cases hget : Attrs.get? attrs name with
        | none => rfl
        | some value =>
          simp only [Option.map_some, Option.some.injEq, scrubbedAttr, isSealed_fixField]
          split_ifs
          · rw [shape_tidied, shape_tidied, ih _ (Attrs.mem_of_get? hget)]
          · exact Python.shape_fixField value _
  | leaf value hlist hcollection hnode =>
    intro guarded place
    cases value <;> simp_all [Python.fixField, scrubbed]

end LiteralScrub.Scrub
