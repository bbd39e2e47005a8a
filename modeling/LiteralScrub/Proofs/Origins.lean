import Mathlib
import LiteralScrub.Proofs.Scrubbed

/-!
# Where the nodes of a scrubbed tree come from

A route leads through a tree from field to field. `origin` gives the route that led to a node before
the tree was scrubbed: only the positions of pieces of interpolated strings change, since pieces go.
-/
namespace LiteralScrub

/-! ## Routes -/

namespace Python

/-- A step to a node below: a field, and the position in it if it holds a list or another
collection. -/
abbrev Step := String × Option Nat

/-- What is held at a position of a collection, or what is held without one. -/
def held : Option Nat → Value → Option Value
  | none, value => some value
  | some i, value => value.items?.bind (·[i]?)

/-- The node below a node to which a step leads. -/
def below? (kind : Kind) (attrs : Attrs) (step : Step) : Option Value :=
  if step.1 ∈ kind.fields then
    ((attrs.get? step.1).bind (held step.2)).filter Value.isPythonNode
  else none

/-- The node of a tree to which a route leads. -/
def nodeAt? : Value → List Step → Option Value
  | value, [] => some value
  | .node (.python kind) attrs, step :: route => (below? kind attrs step).bind (nodeAt? · route)
  | _, _ :: _ => none

variable {kind : Kind} {attrs : Attrs} {step : Step} {value child : Value}

theorem below?_eq_some_iff :
    below? kind attrs step = some child ↔ step.1 ∈ kind.fields ∧
      (∃ value, attrs.get? step.1 = some value ∧ held step.2 value = some child) ∧
        child.isPythonNode = true := by
  unfold below?
  split_ifs with hfield
  · simp [hfield, Option.filter_eq_some_iff, Option.bind_eq_some_iff]
  · simp [hfield]

/-- Only collections and nodes hold nodes. -/
theorem isPythonNode_of_held {position : Option Nat} (hitems : value.items? = none)
    (hnode : value.isPythonNode = false) (hheld : held position value = some child) :
    child.isPythonNode = false := by
  cases position with
  | none => rwa [← Option.some.inj hheld]
  | some i =>
    rw [held, hitems] at hheld
    cases hheld

end Python

namespace Scrub

open Python

variable {rewrite : Text → Rewriting} {onText : Attrs → Text → Attrs} {guarded : Bool} {kind : Kind}
  {attrs : Attrs}

/-! ## What a node becomes -/

/-- The attributes of a node of the scrubbed tree. -/
def scrubbedNode (onText : Attrs → Text → Attrs) (guarded : Bool) (kind : Kind) (attrs : Attrs) :
    Attrs :=
  if kind = .constant then scrubbedConstant onText guarded attrs
  else scrubbedAttrs onText (guarded || importsModule kind attrs) kind attrs

theorem scrubbed_node (onText : Attrs → Text → Attrs) (guarded : Bool) (kind : Kind)
    (attrs : Attrs) :
    scrubbed onText guarded (.node (.python kind) attrs) =
      .node (.python kind) (scrubbedNode onText guarded kind attrs) := by
  rw [scrubbed, scrubbedNode]

/-- A constant stays or has its text replaced. -/
theorem scrubbedConstant_renewed (rewrite : Text → Rewriting) (guarded : Bool) (attrs : Attrs) :
    scrubbedConstant (renewed rewrite) guarded attrs = attrs ∨
      ∃ t, scrubbedConstant (renewed rewrite) guarded attrs = withText attrs t := by
  unfold scrubbedConstant
  split
  · unfold renewed
    split_ifs
    · exact .inr ⟨_, rfl⟩
    · exact .inl rfl
  · exact .inl rfl

/-! ## Where a node comes from -/

/-- Whether nothing is left of a piece of an interpolated string once its text is rewritten. -/
def vanishes (rewrite : Text → Rewriting) : Value → Bool
  | .node (.python .constant) attrs =>
    (textAt attrs "value").any fun t => (rewrite t).text.isEmpty
  | _ => false

/-- The step that led to a node below before pieces went: in an interpolated string that is not
guarded, the position among the pieces that do not vanish becomes the position among all. -/
def stepBefore (rewrite : Text → Rewriting) (guarded : Bool) (kind : Kind) (attrs : Attrs)
    (step : Step) : Step :=
  if kind = .joinedStr && !guarded then
    match step.2, (attrs.get? step.1).bind Value.items? with
    | some i, some items =>
      (step.1, some (items.findIdxNth (fun item => !vanishes rewrite item) i))
    | _, _ => step
  else step

/-- Whether nothing changes in a field of a node. -/
def shielded (guarded : Bool) (kind : Kind) (attrs : Attrs) (name : String) : Bool :=
  guarded || importsModule kind attrs || (attrs.get? name).any (isSealed kind name) ||
    name ∉ branches kind

/-- Whether nothing changes in the node to which a route leads. -/
def shieldedAt (guarded : Bool) : Value → List Step → Bool
  | .node (.python kind) attrs, step :: route =>
    (below? kind attrs step).elim guarded fun child =>
      shieldedAt (shielded guarded kind attrs step.1) child route
  | _, _ => guarded

@[simp] theorem shieldedAt_nil (guarded : Bool) (value : Value) :
    shieldedAt guarded value [] = guarded := by
  unfold shieldedAt
  split <;> trivial

/-- The route that led to a node of the scrubbed tree before it was scrubbed. -/
def origin (rewrite : Text → Rewriting) (guarded : Bool) : Value → List Step → List Step
  | .node (.python kind) attrs, step :: route =>
    let before := stepBefore rewrite guarded kind attrs step
    before :: (below? kind attrs before).elim route fun child =>
      origin rewrite (shielded guarded kind attrs step.1) child route
  | _, route => route

theorem getElem?_findIdxNth {α : Type} {p : α → Bool} {items : List α} {i : Nat} {item : α}
    (h : (items.filter p)[i]? = some item) : items[items.findIdxNth p i]? = some item := by
  induction items generalizing i with
  | nil => simp at h
  | cons first rest ih =>
    by_cases hfirst : p first = true
    · rw [List.filter_cons_of_pos hfirst] at h
      cases i with
      | zero => simpa [hfirst] using h
      | succ i => simpa [hfirst] using ih h
    · rw [List.filter_cons_of_neg hfirst] at h
      simpa [List.findIdxNth_cons_of_neg (Bool.eq_false_iff.mpr hfirst)] using ih h

/-- The pieces that are empty in the scrubbed tree are those that vanish. -/
theorem isEmptyPiece_scrubbed (hsame : ∀ t, (rewrite t).changed = false → (rewrite t).text = t)
    (item : Value) :
    isEmptyPiece (if item.isPythonNode then scrubbed (renewed rewrite) false item else item) =
      vanishes rewrite item := by
  cases item with
  | node kind attrs =>
    cases kind with
    | lua kind => rfl
    | python kind =>
      have hpython : (Value.node (.python kind) attrs).isPythonNode = true := rfl
      rw [if_pos hpython, scrubbed_node]
      by_cases hkind : kind = .constant
      · subst hkind
        rw [scrubbedNode, if_pos rfl, isEmptyPiece_constant, vanishes]
        unfold scrubbedConstant
        cases htext : textAt attrs "value" with
        | none => simp [htext]
        | some t =>
          dsimp only [Option.any_some]
          unfold renewed
          split_ifs with hchanged
          · cases (rewrite t).text <;> rfl
          · rw [htext, hsame t (by simpa using hchanged)]
            cases t <;> rfl
      · rw [isEmptyPiece_of_ne hkind]
        cases kind <;> first | rfl | exact absurd rfl hkind
  | _ => rfl

theorem items?_scrubbed (onText : Attrs → Text → Attrs) (guarded : Bool) (value : Value) :
    (scrubbed onText guarded value).items? = value.items?.map (scrubbedItems onText guarded) := by
  cases value with
  | node kind attrs => cases kind <;> simp [scrubbed, Value.items?]
  | _ => simp [scrubbed, Value.items?]

theorem held_scrubbed {position : Option Nat} {value child : Value}
    (h : held position (scrubbed onText guarded value) = some child)
    (hchild : child.isPythonNode = true) :
    ∃ old, held position value = some old ∧ old.isPythonNode = true ∧
      child = scrubbed onText guarded old := by
  cases position with
  | none =>
    obtain rfl := Option.some.inj h
    exact ⟨value, rfl, by simpa using hchild, rfl⟩
  | some i =>
    rw [held, items?_scrubbed] at h
    cases hitems : value.items? with
    | none => simp [hitems] at h
    | some items =>
      rw [hitems, Option.map_some, Option.bind_some, scrubbedItems_eq_map, List.getElem?_map,
        Option.map_eq_some_iff] at h
      obtain ⟨old, hold, rfl⟩ := h
      have hpython := Value.isPythonNode_of_ite hchild
      exact ⟨old, by rw [held, hitems, Option.bind_some, hold], hpython, if_pos hpython⟩

/-- The pieces of an interpolated string become a list, whatever collection gives them. -/
theorem tidied_of_items? {value : Value} {items : List Value} (h : value.items? = some items) :
    tidied .joinedStr false value = .list (items.filter fun item => !isEmptyPiece item) := by
  cases value <;> cases h <;> rfl

theorem tidied_of_items?_eq_none (kind : Kind) (guarded : Bool) {value : Value}
    (h : value.items? = none) :
    tidied kind guarded value = value ∨ tidied kind guarded value = .list [] := by
  unfold tidied
  split_ifs
  · split
    · cases h
    · cases h
    all_goals first | exact .inr rfl | exact .inl rfl
  · exact .inl rfl

/-- In an interpolated string the positions count the pieces that do not vanish. -/
theorem held_tidied (hsame : ∀ t, (rewrite t).changed = false → (rewrite t).text = t) {step : Step}
    {value child : Value} (hget : attrs.get? step.1 = some value)
    (h : held step.2 (tidied .joinedStr false (scrubbed (renewed rewrite) false value)) =
      some child)
    (hchild : child.isPythonNode = true) :
    ∃ old, held (stepBefore rewrite false .joinedStr attrs step).2 value = some old ∧
      old.isPythonNode = true ∧ child = scrubbed (renewed rewrite) false old := by
  obtain ⟨name, position⟩ := step
  have hnew := items?_scrubbed (renewed rewrite) false value
  cases hitems : value.items? with
  | some items =>
    rw [hitems, Option.map_some] at hnew
    rw [tidied_of_items? hnew, scrubbedItems_eq_map] at h
    cases position with
    | none =>
      cases h
      cases hchild
    | some i =>
      rw [held, Value.items?, Option.bind_some, List.filter_map, List.getElem?_map,
        Option.map_eq_some_iff] at h
      obtain ⟨old, hold, rfl⟩ := h
      simp only [Function.comp_def, isEmptyPiece_scrubbed hsame] at hold
      have hbefore : stepBefore rewrite false .joinedStr attrs (name, some i) =
          (name, some (items.findIdxNth (fun item => !vanishes rewrite item) i)) := by
        simp [stepBefore, hget, hitems]
      have hpython := Value.isPythonNode_of_ite hchild
      refine ⟨old, ?_, hpython, if_pos hpython⟩
      rw [hbefore, held, hitems, Option.bind_some, getElem?_findIdxNth hold]
  | none =>
    rw [hitems, Option.map_none] at hnew
    have hbefore : stepBefore rewrite false .joinedStr attrs (name, position) =
        (name, position) := by
      cases position <;> simp [stepBefore, hget, hitems]
    rw [hbefore]
    rcases tidied_of_items?_eq_none .joinedStr false hnew with htidied | htidied
    · rw [htidied] at h
      exact held_scrubbed h hchild
    · rw [htidied] at h
      cases position with
      | none =>
        cases h
        cases hchild
      | some i => cases h

theorem stepBefore_fst (rewrite : Text → Rewriting) (guarded : Bool) (kind : Kind) (attrs : Attrs)
    (step : Step) : (stepBefore rewrite guarded kind attrs step).1 = step.1 := by
  unfold stepBefore
  split_ifs
  · split <;> rfl
  · rfl

theorem stepBefore_of_not (h : ¬(kind = .joinedStr ∧ guarded = false)) (step : Step) :
    stepBefore rewrite guarded kind attrs step = step := by
  refine if_neg fun hjoined => h ?_
  simpa using hjoined

theorem tidied_of_not (h : ¬(kind = .joinedStr ∧ guarded = false)) (value : Value) :
    tidied kind guarded value = value := by
  refine if_neg fun hjoined => h ?_
  simpa using hjoined

theorem below?_scrubbedConstant {step : Step} {child : Value}
    (h : below? .constant (scrubbedConstant (renewed rewrite) guarded attrs) step = some child) :
    below? .constant attrs step = some child := by
  rcases scrubbedConstant_renewed rewrite guarded attrs with hsame | ⟨t, hnew⟩
  · rwa [hsame] at h
  · rw [hnew] at h
    obtain ⟨hfield, ⟨value, hget, hheld⟩, hchild⟩ := below?_eq_some_iff.mp h
    have hfields : step.1 = "value" ∨ step.1 = "kind" := by simpa [Kind.fields] using hfield
    refine below?_eq_some_iff.mpr ⟨hfield, ⟨value, ?_, hheld⟩, hchild⟩
    -- there is no node in the new text, and the mark is the old one
    have hnode (hitems : value.items? = none) : value.isPythonNode ≠ false := fun hnode =>
      Bool.false_ne_true ((isPythonNode_of_held hitems hnode hheld).symm.trans hchild)
    rcases hfields with hname | hname
    · rw [hname] at hget
      cases Option.some.inj hget
      exact absurd rfl (hnode rfl)
    · rw [hname] at hget ⊢
      have hmark : some ((attrs.get? "kind").getD .null) = some value := hget
      cases hkind : attrs.get? "kind" with
      | none =>
        rw [hkind] at hmark
        cases Option.some.inj hmark
        exact absurd rfl (hnode rfl)
      | some mark => rwa [hkind] at hmark

theorem below?_scrubbedAttrs (hsame : ∀ t, (rewrite t).changed = false → (rewrite t).text = t)
    {step : Step} {child : Value}
    (h : below? kind
      (scrubbedAttrs (renewed rewrite) (guarded || importsModule kind attrs) kind attrs) step =
        some child) :
    ∃ old, below? kind attrs (stepBefore rewrite guarded kind attrs step) = some old ∧
      child = scrubbed (renewed rewrite) (shielded guarded kind attrs step.1) old := by
  obtain ⟨hfield, ⟨value, hget, hheld⟩, hchild⟩ := below?_eq_some_iff.mp h
  rw [get?_scrubbedAttrs] at hget
  obtain ⟨before, hbefore, rfl⟩ := Option.map_eq_some_iff.mp hget
  simp only [below?_eq_some_iff, stepBefore_fst]
  by_cases hbranch : step.1 ∈ branches kind
  · by_cases hjoined : kind = .joinedStr ∧ guarded = false
    · obtain ⟨rfl, rfl⟩ := hjoined
      have himport : importsModule .joinedStr attrs = false := rfl
      have hsealed : isSealed .joinedStr step.1 before = false := by simp [isSealed, isFormatSpec]
      simp only [scrubbedAttr, if_pos hbranch, himport, hsealed, Bool.or_false] at hheld
      obtain ⟨old, hold, hpython, hnew⟩ := held_tidied hsame hbefore hheld hchild
      refine ⟨old, ⟨hfield, ⟨before, hbefore, hold⟩, hpython⟩, ?_⟩
      simpa [shielded, himport, hbefore, hsealed, hbranch] using hnew
    · have hopen : ¬(kind = .joinedStr ∧ (guarded || importsModule kind attrs) = false) :=
        fun h => hjoined ⟨h.1, (Bool.or_eq_false_iff.mp h.2).1⟩
      rw [stepBefore_of_not hjoined]
      simp only [scrubbedAttr, if_pos hbranch, tidied_of_not hopen] at hheld
      obtain ⟨old, hold, hpython, hnew⟩ := held_scrubbed hheld hchild
      refine ⟨old, ⟨hfield, ⟨before, hbefore, hold⟩, hpython⟩, ?_⟩
      simpa [shielded, hbefore, hbranch] using hnew
  · have hother : ¬(kind = .joinedStr ∧ guarded = false) := by
      rintro ⟨rfl, -⟩
      exact hbranch hfield
    rw [stepBefore_of_not hother]
    simp only [scrubbedAttr, if_neg hbranch] at hheld
    refine ⟨child, ⟨hfield, ⟨before, hbefore, hheld⟩, hchild⟩, ?_⟩
    simp [shielded, hbranch]

/-- A step to a node below was a step to the node from which that one comes. -/
theorem below?_scrubbedNode (hsame : ∀ t, (rewrite t).changed = false → (rewrite t).text = t)
    {step : Step} {child : Value}
    (h : below? kind (scrubbedNode (renewed rewrite) guarded kind attrs) step = some child) :
    ∃ old, below? kind attrs (stepBefore rewrite guarded kind attrs step) = some old ∧
      child = scrubbed (renewed rewrite) (shielded guarded kind attrs step.1) old := by
  unfold scrubbedNode at h
  split_ifs at h with hkind
  · subst hkind
    refine ⟨child, ?_, ?_⟩
    · have hother : ¬(Kind.constant = .joinedStr ∧ guarded = false) := nofun
      rw [stepBefore_of_not hother]
      exact below?_scrubbedConstant h
    · simp [shielded, branches]
  · exact below?_scrubbedAttrs hsame h

/-- What a route leads to in the scrubbed tree is what the node became to which its origin led. -/
theorem nodeAt?_scrubbed (hsame : ∀ t, (rewrite t).changed = false → (rewrite t).text = t)
    {route : List Step} {node : Value} : ∀ {guarded value},
    nodeAt? (scrubbed (renewed rewrite) guarded value) route = some node →
    ∃ old, nodeAt? value (origin rewrite guarded value route) = some old ∧
      node = scrubbed (renewed rewrite)
        (shieldedAt guarded value (origin rewrite guarded value route)) old := by
  induction route with
  | nil =>
    intro guarded value h
    have horigin : origin rewrite guarded value [] = [] := by
      unfold origin
      split <;> trivial
    rw [horigin, nodeAt?, shieldedAt_nil]
    exact ⟨value, rfl, (Option.some.inj h).symm⟩
  | cons step route ih =>
    intro guarded value h
    cases value with
    | node kind attrs =>
      cases kind with
      | lua kind => cases h
      | python kind =>
        rw [scrubbed_node, nodeAt?] at h
        obtain ⟨child, hchild, hroute⟩ := Option.bind_eq_some_iff.mp h
        obtain ⟨old, hold, rfl⟩ := below?_scrubbedNode hsame hchild
        obtain ⟨last, hlast, hnode⟩ := ih hroute
        refine ⟨last, ?_, ?_⟩
        · rw [origin, nodeAt?, hold]
          exact hlast
        · rw [origin, shieldedAt, hold, stepBefore_fst]
          exact hnode
    | _ => cases h

end Scrub

end LiteralScrub
