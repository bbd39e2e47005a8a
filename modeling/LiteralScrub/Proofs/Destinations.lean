import LiteralScrub.Proofs.Origins
import LiteralScrub.Proofs.PythonTrees

/-!
# Where the nodes of a tree go when it is scrubbed

`destination` gives the route to a node in the scrubbed tree, unless the node is gone with a piece of
an interpolated string. Each string constant outside calls that import a module is scrubbed. In such
a call all is as it was, not only the arguments.
-/
namespace LiteralScrub

/-! ## Routes and shapes -/

namespace Python

variable {kind : Kind} {attrs : Attrs} {step : Step} {value child : Value}

@[simp] theorem isPythonNode_shape (value : Value) :
    (shape value).isPythonNode = value.isPythonNode := by
  cases value with
  | node kind attrs => cases kind <;> simp [shape, Value.isPythonNode]
  | _ => simp [shape, Value.isPythonNode]

theorem items?_shape (value : Value) : (shape value).items? = value.items?.map shapeItems := by
  cases value with
  | node kind attrs => cases kind <;> simp [shape, Value.items?]
  | _ => simp [shape, Value.items?]

theorem held_shape (position : Option Nat) (value : Value) :
    held position (shape value) = (held position value).map shape := by
  cases position with
  | none => rfl
  | some i =>
    rw [held, held, items?_shape]
    cases value.items? with
    | none => rfl
    | some items => simp [shapeItems_eq_map]

theorem below?_shape (kind : Kind) (attrs : Attrs) (step : Step) :
    below? kind (kind.readings (shapeAttrs attrs)) step = (below? kind attrs step).map shape := by
  unfold below?
  split_ifs with hfield
  · rw [Kind.get?_readings hfield, Kind.read, get?_shapeAttrs]
    cases Attrs.get? attrs step.1 with
    | none =>
      -- a field that is left out reads as nothing, which is no node
      simp only [Option.map_none]
      split_ifs <;> cases step.2 <;> rfl
    | some value =>
      simp only [Option.map_some, Except.toOption, Option.bind_some, held_shape]
      rw [Option.filter_map]
      simp [Function.comp_def]
  · rfl

/-- Routes lead to the same nodes up to shape. -/
theorem nodeAt?_shape (route : List Step) : ∀ value : Value,
    nodeAt? (shape value) route = (nodeAt? value route).map shape := by
  induction route with
  | nil =>
    intro value
    simp [nodeAt?]
  | cons step route ih =>
    intro value
    cases value with
    | node kind attrs =>
      cases kind with
      | lua kind => simp [shape, nodeAt?]
      | python kind =>
        rw [shape, nodeAt?, nodeAt?, below?_shape]
        cases below? kind attrs step with
        | none => rfl
        | some child => simp [ih]
    | _ => simp [shape, nodeAt?]

end Python

namespace Scrub

open Python

variable {rewrite : Text → Rewriting} {onText : Attrs → Text → Attrs} {guarded : Bool} {kind : Kind}
  {attrs : Attrs} {step : Step} {value child : Value} {route : List Step}

/-! ## Where a node goes -/

/-- The step that leads to a node below once pieces are gone, if the node is not gone itself: in an
interpolated string that is not guarded, the pieces before that do not vanish are counted. -/
def stepAfter (rewrite : Text → Rewriting) (guarded : Bool) (kind : Kind) (attrs : Attrs)
    (step : Step) : Option Step :=
  if kind = .joinedStr && !guarded then
    match step.2, (attrs.get? step.1).bind Value.items? with
    | some i, some items =>
      if items[i]?.any (vanishes rewrite) then none
      else some (step.1, some (items.countPBefore (fun item => !vanishes rewrite item) i))
    | _, _ => some step
  else some step

/-- The route to a node in the scrubbed tree, if the node is not gone. -/
def destination (rewrite : Text → Rewriting) (guarded : Bool) :
    Value → List Step → Option (List Step)
  | .node (.python kind) attrs, step :: route =>
    (stepAfter rewrite guarded kind attrs step).bind fun after =>
      ((below? kind attrs step).elim (some route) fun child =>
        destination rewrite (shielded guarded kind attrs step.1) child route).map (after :: ·)
  | _, route => some route

@[simp] theorem destination_nil (rewrite : Text → Rewriting) (guarded : Bool) (value : Value) :
    destination rewrite guarded value [] = some [] := by
  unfold destination
  split <;> trivial

theorem getElem?_filter_countPBefore {α : Type} {p : α → Bool} {items : List α} {i : Nat} {item : α}
    (h : items[i]? = some item) (hitem : p item = true) :
    (items.filter p)[items.countPBefore p i]? = some item := by
  induction items generalizing i with
  | nil => simp at h
  | cons first rest ih =>
    cases i with
    | zero =>
      obtain rfl : first = item := by simpa using h
      simp [hitem]
    | succ i =>
      have hrest := ih (by simpa using h)
      by_cases hfirst : p first = true <;> simp [hfirst, hrest]

theorem textAt_withRewritten (attrs : Attrs) (t : Text) :
    textAt (withRewritten rewrite attrs t) "value" = some (rewrite t).text := by
  simp [textAt, withRewritten, Attrs.get?_set, asText]

theorem isEmptyPiece_withRewritten (item : Value) :
    isEmptyPiece (if item.isPythonNode then scrubbed (withRewritten rewrite) false item else item) =
      vanishes rewrite item := by
  cases item with
  | node kind attrs =>
    cases kind with
    | lua kind => rfl
    | python kind =>
      have hpython : (Value.node (.python kind) attrs).isPythonNode = true := rfl
      rw [if_pos hpython, scrubbed_node]
      by_cases hkind : kind = .constant
      · subst hkind
        rw [scrubbedNode, if_pos rfl, isEmptyPiece_constant, vanishes]
        unfold scrubbedConstant
        cases htext : textAt attrs "value" with
        | none => simp [htext]
        | some t =>
          have hnew : textAt (withRewritten rewrite attrs t) "value" = some (rewrite t).text :=
            textAt_withRewritten attrs t
          rw [hnew, Option.any_some]
          cases (rewrite t).text <;> rfl
      · rw [isEmptyPiece_of_ne hkind]
        cases kind <;> first | rfl | exact absurd rfl hkind
  | _ => rfl

theorem held_scrubbed_of_held {position : Option Nat} (h : held position value = some child)
    (hchild : child.isPythonNode = true) :
    held position (scrubbed onText guarded value) = some (scrubbed onText guarded child) := by
  cases position with
  | none =>
    obtain rfl := Option.some.inj h
    rfl
  | some i =>
    rw [held] at h ⊢
    obtain ⟨items, hitems, hitem⟩ := Option.bind_eq_some_iff.mp h
    rw [items?_scrubbed, hitems, Option.map_some, Option.bind_some, scrubbedItems_eq_map,
      List.getElem?_map, hitem, Option.map_some, if_pos hchild]

/-- A piece that does not vanish is found behind as many as before that do not. -/
theorem held_tidied_of_held {after : Step} (hget : attrs.get? step.1 = some value)
    (h : held step.2 value = some child) (hchild : child.isPythonNode = true)
    (hafter : stepAfter rewrite false .joinedStr attrs step = some after) :
    after.1 = step.1 ∧
      held after.2 (tidied .joinedStr false (scrubbed (withRewritten rewrite) false value)) =
        some (scrubbed (withRewritten rewrite) false child) := by
  obtain ⟨name, position⟩ := step
  cases position with
  | none =>
    -- a node in the place of pieces is no list of them
    obtain rfl := Option.some.inj h
    cases hafter
    match value, hchild with
    | .node (.python kind) attrs, _ => exact ⟨rfl, by simp [scrubbed, tidied, held]⟩
  | some i =>
    rw [held] at h
    obtain ⟨items, hitems, hitem⟩ := Option.bind_eq_some_iff.mp h
    have hstep : stepAfter rewrite false .joinedStr attrs (name, some i) =
        if vanishes rewrite child then none
        else some (name, some (items.countPBefore (fun item => !vanishes rewrite item) i)) := by
      simp [stepAfter, hget, hitems, hitem]
    rw [hstep] at hafter
    split_ifs at hafter with hkept
    cases hafter
    refine ⟨rfl, ?_⟩
    have hpieces := getElem?_filter_countPBefore (p := fun item => !vanishes rewrite item) hitem
      (by simpa using hkept)
    have hnew := items?_scrubbed (withRewritten rewrite) false value
    rw [hitems, Option.map_some] at hnew
    rw [tidied_of_items? hnew, held, Value.items?, Option.bind_some, scrubbedItems_eq_map,
      List.filter_map, List.getElem?_map]
    simp only [Function.comp_def, isEmptyPiece_withRewritten]
    rw [hpieces, Option.map_some, if_pos hchild]

theorem below?_scrubbedConstant_of_below? (h : below? .constant attrs step = some child) :
    below? .constant (scrubbedConstant (withRewritten rewrite) guarded attrs) step = some child := by
  unfold scrubbedConstant
  split
  · next t htext =>
    obtain ⟨hfield, ⟨value, hget, hheld⟩, hchild⟩ := below?_eq_some_iff.mp h
    have hother : step.1 ≠ "value" := by
      intro hname
      rw [hname, get?_of_textAt htext] at hget
      cases hget
      exact Bool.false_ne_true ((isPythonNode_of_held rfl rfl hheld).symm.trans hchild)
    refine below?_eq_some_iff.mpr ⟨hfield, ⟨value, ?_, hheld⟩, hchild⟩
    rw [withRewritten, Attrs.get?_set, if_neg hother, hget]
  · exact h

theorem stepAfter_of_not (h : ¬(kind = .joinedStr ∧ guarded = false)) (step : Step) :
    stepAfter rewrite guarded kind attrs step = some step := by
  refine if_neg fun hjoined => h ?_
  simpa using hjoined

theorem below?_scrubbedAttrs_of_below? (hjoined : ¬(kind = .joinedStr ∧ guarded = false))
    (h : below? kind attrs step = some child) :
    below? kind (scrubbedAttrs onText (guarded || importsModule kind attrs) kind attrs) step =
      some (scrubbed onText (shielded guarded kind attrs step.1) child) := by
  obtain ⟨hfield, ⟨value, hget, hheld⟩, hchild⟩ := below?_eq_some_iff.mp h
  have hopen : ¬(kind = .joinedStr ∧ (guarded || importsModule kind attrs) = false) :=
    fun h => hjoined ⟨h.1, (Bool.or_eq_false_iff.mp h.2).1⟩
  refine below?_eq_some_iff.mpr ⟨hfield, ⟨scrubbedAttr onText (guarded || importsModule kind attrs)
    kind (step.1, value), ?_, ?_⟩, by simpa using hchild⟩
  · rw [get?_scrubbedAttrs, hget, Option.map_some]
  · rw [scrubbedAttr]
    split_ifs with hbranch
    · have hshield : shielded guarded kind attrs step.1 =
          (guarded || importsModule kind attrs || isSealed kind step.1 value) := by
        simp [shielded, hget, hbranch]
      rw [tidied_of_not hopen, hshield, held_scrubbed_of_held hheld hchild]
    · have hshield : shielded guarded kind attrs step.1 = true := by simp [shielded, hbranch]
      rw [hshield, scrubbed_guarded, hheld]

/-- A node below is found by the step that there is once pieces are gone. -/
theorem below?_scrubbedNode_of_below? {after : Step} (h : below? kind attrs step = some child)
    (hafter : stepAfter rewrite guarded kind attrs step = some after) :
    below? kind (scrubbedNode (withRewritten rewrite) guarded kind attrs) after =
      some (scrubbed (withRewritten rewrite) (shielded guarded kind attrs step.1) child) := by
  by_cases hjoined : kind = .joinedStr ∧ guarded = false
  · obtain ⟨rfl, rfl⟩ := hjoined
    obtain ⟨hfield, ⟨value, hget, hheld⟩, hchild⟩ := below?_eq_some_iff.mp h
    obtain ⟨hname, hnew⟩ := held_tidied_of_held hget hheld hchild hafter
    have hbranch : step.1 ∈ branches .joinedStr := hfield
    have hsealed : isSealed .joinedStr step.1 value = false := by simp [isSealed, isFormatSpec]
    have hshield : shielded false .joinedStr attrs step.1 = false := by
      simp [shielded, importsModule, hget, hsealed, hbranch]
    rw [hshield]
    refine below?_eq_some_iff.mpr ⟨hname ▸ hfield, ⟨_, ?_, hnew⟩, by simpa using hchild⟩
    have hattrs : scrubbedNode (withRewritten rewrite) false .joinedStr attrs =
        scrubbedAttrs (withRewritten rewrite) false .joinedStr attrs := rfl
    rw [hattrs, get?_scrubbedAttrs, hname, hget, Option.map_some, scrubbedAttr, if_pos hbranch,
      hsealed]
    rfl
  · rw [stepAfter_of_not hjoined] at hafter
    cases hafter
    unfold scrubbedNode
    split_ifs with hkind
    · subst hkind
      have hshield : shielded guarded .constant attrs step.1 = true := by simp [shielded, branches]
      rw [hshield, scrubbed_guarded, below?_scrubbedConstant_of_below? h]
    · exact below?_scrubbedAttrs_of_below? hjoined h

/-- What a route leads to is found at its destination in the scrubbed tree. -/
theorem nodeAt?_destination {node : Value} : ∀ {guarded value route'},
    nodeAt? value route = some node → destination rewrite guarded value route = some route' →
      nodeAt? (scrubbed (withRewritten rewrite) guarded value) route' =
        some (scrubbed (withRewritten rewrite) (shieldedAt guarded value route) node) := by
  induction route with
  | nil =>
    intro guarded value route' h hroute
    rw [destination_nil] at hroute
    cases hroute
    cases h
    rw [shieldedAt_nil, nodeAt?]
  | cons step route ih =>
    intro guarded value route' h hroute
    cases value with
    | node kind attrs =>
      cases kind with
      | lua kind => cases h
      | python kind =>
        rw [nodeAt?] at h
        obtain ⟨child, hchild, hnode⟩ := Option.bind_eq_some_iff.mp h
        rw [destination, Option.bind_eq_some_iff] at hroute
        obtain ⟨after, hafter, hrest⟩ := hroute
        rw [hchild, Option.elim_some, Option.map_eq_some_iff] at hrest
        obtain ⟨rest, hrest, rfl⟩ := hrest
        rw [scrubbed_node, nodeAt?, below?_scrubbedNode_of_below? hchild hafter, Option.bind_some,
          ih hnode hrest, shieldedAt, hchild]
        rfl
    | _ => cases h

/-! ## What is protected -/

/-- On the way to a node there is a step down from a call that imports a module, into a field that
is sealed, or to what is no part of the tree. -/
def IsProtected (tree : Value) (route : List Step) : Prop :=
  ∃ above step below kind attrs, route = above ++ step :: below ∧
    nodeAt? tree above = some (.node (.python kind) attrs) ∧
    (importsModule kind attrs = true ∨ (Attrs.get? attrs step.1).any (isSealed kind step.1) = true ∨
      step.1 ∉ branches kind)

theorem not_isProtected_nil (tree : Value) : ¬IsProtected tree [] := by
  rintro ⟨above, step, below, kind, attrs, hroute, -⟩
  simp at hroute

theorem isProtected_cons_iff :
    IsProtected (.node (.python kind) attrs) (step :: route) ↔
      (importsModule kind attrs = true ∨
        (Attrs.get? attrs step.1).any (isSealed kind step.1) = true ∨
          step.1 ∉ branches kind) ∨
        ∃ child, below? kind attrs step = some child ∧ IsProtected child route := by
  constructor
  · rintro ⟨_ | ⟨first, above⟩, last, below, kind', attrs', hroute, hnode, hshields⟩
    · cases hroute
      cases hnode
      exact .inl hshields
    · cases hroute
      rw [nodeAt?] at hnode
      obtain ⟨child, hchild, hnode⟩ := Option.bind_eq_some_iff.mp hnode
      exact .inr ⟨child, hchild, above, last, below, kind', attrs', rfl, hnode, hshields⟩
  · rintro (hshields | ⟨child, hchild, above, last, below, kind', attrs', rfl, hnode, hshields⟩)
    · exact ⟨[], step, route, kind, attrs, rfl, by rw [nodeAt?], hshields⟩
    · refine ⟨step :: above, last, below, kind', attrs', rfl, ?_, hshields⟩
      rw [nodeAt?, hchild, Option.bind_some, hnode]

theorem shielded_eq_true_iff {name : String} :
    shielded guarded kind attrs name = true ↔ guarded = true ∨
      (importsModule kind attrs = true ∨ (attrs.get? name).any (isSealed kind name) = true ∨
        name ∉ branches kind) := by
  simp [shielded, or_assoc]

/-- Nothing changes in a node exactly if it is protected. -/
theorem shieldedAt_eq_true_iff {node : Value} : ∀ {guarded value},
    nodeAt? value route = some node →
      (shieldedAt guarded value route = true ↔ guarded = true ∨ IsProtected value route) := by
  induction route with
  | nil =>
    intro guarded value h
    rw [shieldedAt_nil]
    simp [not_isProtected_nil]
  | cons step route ih =>
    intro guarded value h
    cases value with
    | node kind attrs =>
      cases kind with
      | lua kind => cases h
      | python kind =>
        rw [nodeAt?] at h
        obtain ⟨child, hchild, hnode⟩ := Option.bind_eq_some_iff.mp h
        rw [shieldedAt, hchild, Option.elim_some, ih hnode, shielded_eq_true_iff,
          isProtected_cons_iff, or_assoc]
        simp [hchild]
    | _ => cases h

/-- Only a piece of an interpolated string has no step to it once pieces are gone. -/
theorem vanishes_of_stepAfter_eq_none (hchild : below? kind attrs step = some child)
    (h : stepAfter rewrite guarded kind attrs step = none) :
    kind = .joinedStr ∧ vanishes rewrite child = true := by
  obtain ⟨-, ⟨value, hget, hheld⟩, -⟩ := below?_eq_some_iff.mp hchild
  unfold stepAfter at h
  split_ifs at h with hjoined
  refine ⟨by simpa using (Bool.and_eq_true_iff.mp hjoined).1, ?_⟩
  split at h
  · next i items hposition hitems =>
    split_ifs at h with hgone
    rw [hget, Option.bind_some] at hitems
    rw [hposition, held, hitems, Option.bind_some] at hheld
    simpa [hheld] using hgone
  · cases h

theorem exists_of_vanishes (h : vanishes rewrite value = true) :
    ∃ attrs, value = .node (.python .constant) attrs := by
  unfold vanishes at h
  split at h
  · exact ⟨_, rfl⟩
  · cases h

/-- A constant that is not protected is gone only as a piece of which nothing is left. -/
theorem vanishes_of_destination_eq_none {old : Attrs} : ∀ {value},
    nodeAt? value route = some (.node (.python .constant) old) → ¬IsProtected value route →
      destination rewrite false value route = none →
        vanishes rewrite (.node (.python .constant) old) = true ∧
          ∃ above step pieces, route = above ++ [step] ∧
            nodeAt? value above = some (.node (.python .joinedStr) pieces) := by
  induction route with
  | nil =>
    intro value h hopen hgone
    rw [destination_nil] at hgone
    cases hgone
  | cons step route ih =>
    intro value h hopen hgone
    cases value with
    | node kind attrs =>
      cases kind with
      | lua kind => cases h
      | python kind =>
        rw [nodeAt?] at h
        obtain ⟨child, hchild, hnode⟩ := Option.bind_eq_some_iff.mp h
        rw [isProtected_cons_iff, not_or] at hopen
        have hshield : shielded false kind attrs step.1 = false := by
          rw [Bool.eq_false_iff, ne_eq, shielded_eq_true_iff]
          simpa using hopen.1
        have hinner : ¬IsProtected child route := fun h => hopen.2 ⟨child, hchild, h⟩
        rw [destination, hchild, Option.elim_some, hshield] at hgone
        cases hafter : stepAfter rewrite false kind attrs step with
        | none =>
          obtain ⟨rfl, hvanishes⟩ := vanishes_of_stepAfter_eq_none hchild hafter
          obtain ⟨piece, rfl⟩ := exists_of_vanishes hvanishes
          cases route with
          | nil =>
            cases hnode
            exact ⟨hvanishes, [], step, attrs, rfl, by rw [nodeAt?]⟩
          | cons next rest =>
            -- there is nothing below a constant but what is no part of the tree
            exact absurd (isProtected_cons_iff.mpr (.inl (.inr (.inr (by simp [branches]))))) hinner
        | some after =>
          rw [hafter, Option.bind_some, Option.map_eq_none_iff] at hgone
          obtain ⟨hvanishes, above, last, pieces, rfl, habove⟩ := ih hnode hinner hgone
          refine ⟨hvanishes, step :: above, last, pieces, rfl, ?_⟩
          rw [nodeAt?, hchild, Option.bind_some, habove]
    | _ => cases h

/-- A node of the shape of a constant is a constant with the same text. -/
theorem textAt_of_shape_eq {node : Value} (h : shape node = shape (.node (.python .constant) attrs)) :
    ∃ fresh, node = .node (.python .constant) fresh ∧ textAt fresh "value" = textAt attrs "value" := by
  cases node with
  | node other fresh =>
    cases other with
    | lua other => cases h
    | python other =>
      rw [shape, shape] at h
      obtain ⟨hkind, hreadings⟩ := Value.node.inj h
      cases hkind
      refine ⟨fresh, rfl, ?_⟩
      rw [← textAt_readings value_mem_fields, hreadings, textAt_readings value_mem_fields]
  | _ => cases h

/-- Constants are found in trees of one shape by the same routes, with the same texts. -/
theorem nodeAt?_of_shape_eq {tree new : Value} (hshape : shape new = shape tree)
    (h : nodeAt? tree route = some (.node (.python .constant) attrs)) :
    ∃ fresh, nodeAt? new route = some (.node (.python .constant) fresh) ∧
      textAt fresh "value" = textAt attrs "value" := by
  have hfound : (nodeAt? new route).map shape = some (shape (.node (.python .constant) attrs)) := by
    rw [← nodeAt?_shape, hshape, nodeAt?_shape, h, Option.map_some]
  obtain ⟨node, hnode, hconstant⟩ := Option.map_eq_some_iff.mp hfound
  obtain ⟨fresh, rfl, htext⟩ := textAt_of_shape_eq hconstant
  exact ⟨fresh, hnode, htext⟩

theorem textAt_scrubbedConstant {t : Text} (h : textAt attrs "value" = some t) :
    textAt (scrubbedConstant (withRewritten rewrite) guarded attrs) "value" =
      some (if guarded then t else (rewrite t).text) := by
  cases guarded with
  | true => exact h
  | false =>
    have hnew : scrubbedConstant (withRewritten rewrite) false attrs =
        withRewritten rewrite attrs t := by
      unfold scrubbedConstant
      rw [h]
    rw [hnew]
    exact textAt_withRewritten attrs t

/-- A string constant is found at its destination, with its text rewritten if it is not protected. -/
theorem constantAt?_destination {tree new : Value} {old : Attrs} {t : Text} {route' : List Step}
    (hshape : shape new = shape (scrubbed (withRewritten rewrite) false tree))
    (h : nodeAt? tree route = some (.node (.python .constant) old))
    (ht : textAt old "value" = some t) (hroute : destination rewrite false tree route = some route') :
    ∃ fresh, nodeAt? new route' = some (.node (.python .constant) fresh) ∧
      textAt fresh "value" = some (if shieldedAt false tree route then t else (rewrite t).text) := by
  have hnode := nodeAt?_destination h hroute
  rw [scrubbed_node, scrubbedNode, if_pos rfl] at hnode
  obtain ⟨fresh, hfresh, htext⟩ := nodeAt?_of_shape_eq hshape hnode
  exact ⟨fresh, hfresh, htext.trans (textAt_scrubbedConstant ht)⟩

end Scrub

open Scrub

/-- Where an engine scrubs a Python tree without failure, each string constant that is not protected
is found at its destination with its text rewritten, or it is a piece of an interpolated string of
which nothing is left, and gone. Each one that is protected is found with the text that it had,
unless it is gone with a piece. A constant below a call that imports a module is protected wherever it
stands in the call. -/
theorem transform_spares_whole_imports (engine : Engine) (kind : Python.Kind) (attrs : Attrs)
    (log : Array LogRecord) :
    let tree := Value.node (.python kind) attrs
    let outcome := (Id.run ((transform engine.rewrite tree).run log)).1
    outcome.success = true →
      ∃ new, outcome.tree = some new ∧
        ∀ route old t, Python.nodeAt? tree route = some (.node (.python .constant) old) →
          textAt old "value" = some t →
          (¬IsProtected tree route →
            (∃ route' fresh, destination engine.rewrite false tree route = some route' ∧
              Python.nodeAt? new route' = some (.node (.python .constant) fresh) ∧
              textAt fresh "value" = some (engine.rewrite t).text) ∨
            destination engine.rewrite false tree route = none ∧ (engine.rewrite t).text = [] ∧
              ∃ above step pieces, route = above ++ [step] ∧
                Python.nodeAt? tree above = some (.node (.python .joinedStr) pieces)) ∧
          (IsProtected tree route →
            ∀ route', destination engine.rewrite false tree route = some route' →
              ∃ fresh, Python.nodeAt? new route' = some (.node (.python .constant) fresh) ∧
                textAt fresh "value" = some t) := by
  intro tree outcome hsuccess
  obtain ⟨new, hnew⟩ := Option.isSome_iff_exists.mp hsuccess
  have hshape : Python.shape new =
      Python.shape (scrubbed (withRewritten engine.rewrite) false tree) := by
    obtain ⟨rfl, -⟩ := transform_yields hnew
    rw [Python.shape_fixField,
      shape_scrubbed_renewed fun t => Engine.rewrite_text_of_unchanged, shape_scrubbed_fixField]
  refine ⟨new, hnew, fun route old t hold ht => ?_⟩
  have hshield : shieldedAt false tree route = true ↔ IsProtected tree route := by
    rw [shieldedAt_eq_true_iff hold]
    simp
  have hfound {route' : List Python.Step}
      (hroute : destination engine.rewrite false tree route = some route') :=
    constantAt?_destination hshape hold ht hroute
  constructor
  · intro hopen
    cases hroute : destination engine.rewrite false tree route with
    | some route' =>
      obtain ⟨fresh, hfresh, htext⟩ := hfound hroute
      refine .inl ⟨route', fresh, rfl, hfresh, htext.trans ?_⟩
      rw [if_neg fun h => hopen (hshield.mp h)]
    | none =>
      obtain ⟨hvanishes, hpiece⟩ := vanishes_of_destination_eq_none hold hopen hroute
      refine .inr ⟨rfl, ?_, hpiece⟩
      simpa [vanishes, ht] using hvanishes
  · intro hprotected route' hroute
    obtain ⟨fresh, hfresh, htext⟩ := hfound hroute
    refine ⟨fresh, hfresh, htext.trans ?_⟩
    rw [if_pos (hshield.mpr hprotected)]

/-! ## Trees at work -/

/-- The call `"ab".import_module("a")`. -/
def importFromText : Value :=
  callOf (.node (.python .attributeExpr) [("value", textOf "ab"),
    ("attr", .text (Text.ofString "import_module")), ("ctx", .node (.python .load) [])])
    [textOf "a"]

/-- The attributes of a call of `print` with an interpolated string and an import. -/
def printImport : Attrs :=
  [("func", nameOf "print"), ("args", .list [joinedOf [textOf "a", textOf "ab"], importFromText]),
    ("keywords", .list [])]

/-- The second piece of the interpolated string is cut down and is the first now. The same text in
front of the import is as it was. -/
theorem transform_spares_whole_imports_print :
    let tree := Value.node (.python .call) printImport
    let outcome := (Id.run ((transform withoutA.rewrite tree).run #[])).1
    outcome.success = true ∧ ∃ new, outcome.tree = some new ∧
      (∃ fresh, Python.nodeAt? new [("args", some 0), ("values", some 0)] =
          some (.node (.python .constant) fresh) ∧
        textAt fresh "value" = some (Text.ofString "b")) ∧
      ∃ fresh, Python.nodeAt? new [("args", some 1), ("func", none), ("value", none)] =
          some (.node (.python .constant) fresh) ∧
        textAt fresh "value" = some (Text.ofString "ab") := by
  intro tree outcome
  have hsuccess : (Id.run ((transform withoutA.rewrite
      (.node (.python .call) printImport)).run #[])).1.success = true := by cbv
  obtain ⟨new, hnew, hconstants⟩ := transform_spares_whole_imports withoutA _ _ #[] hsuccess
  have hpiece : Python.nodeAt? tree [("args", some 0), ("values", some 1)] = some (textOf "ab") := by
    cbv
  have hcallee : Python.nodeAt? tree [("args", some 1), ("func", none), ("value", none)] =
      some (textOf "ab") := by cbv
  have hopen : ¬IsProtected tree [("args", some 0), ("values", some 1)] := by
    have hshield : shieldedAt false tree [("args", some 0), ("values", some 1)] = false := by cbv
    intro hprotected
    exact Bool.false_ne_true (hshield.symm.trans
      ((shieldedAt_eq_true_iff hpiece).mpr (.inr hprotected)))
  have hprotected : IsProtected tree [("args", some 1), ("func", none), ("value", none)] :=
    ⟨[("args", some 1)], ("func", none), [("value", none)], _, _, rfl, rfl, .inl (by cbv)⟩
  have hmoved : destination withoutA.rewrite false tree [("args", some 0), ("values", some 1)] =
      some [("args", some 0), ("values", some 0)] := by cbv
  have hstays : destination withoutA.rewrite false tree
      [("args", some 1), ("func", none), ("value", none)] =
        some [("args", some 1), ("func", none), ("value", none)] := by cbv
  refine ⟨hsuccess, new, hnew, ?_, ?_⟩
  · rcases (hconstants _ _ (Text.ofString "ab") hpiece (by cbv)).1 hopen with
      ⟨route', fresh, hroute, hfresh, htext⟩ | ⟨hgone, -⟩
    · cases hmoved.symm.trans hroute
      exact ⟨fresh, hfresh, htext.trans (by cbv)⟩
    · cases hmoved.symm.trans hgone
  · exact (hconstants _ _ (Text.ofString "ab") hcallee (by cbv)).2 hprotected _ hstays

/-- A text in front of an import is no argument of it. The engine would change it, yet it stays. -/
theorem transform_spares_text_before_import :
    let outcome := (Id.run ((transform withoutA.rewrite importFromText).run #[])).1
    Python.nodeAt? importFromText [("func", none), ("value", none)] = some (textOf "ab") ∧
      (withoutA.rewrite (Text.ofString "ab")).text = Text.ofString "b" ∧
      outcome.success = true ∧ outcome.count = 0 ∧
      outcome.tree.map Python.shape = some (Python.shape importFromText) := by
  refine ⟨?_, ?_, ?_, ?_, ?_⟩ <;> cbv

end LiteralScrub
