import LiteralScrub.Proofs.Origins
import LiteralScrub.Proofs.PythonTrees

/-!
# Python trees that are left by a failure

Where an engine fails on a Python tree, the walk has written some of what it came to back into the
tree and some not. `PartlyScrubbed` says what such a tree may look like: each constant is either the
old one or the one that a scrub puts in its place, and what is protected is as it was.
-/
namespace LiteralScrub

namespace Scrub

variable {rewrite : Text → Rewriting} {kind : Python.Kind}

/-! ## Trees that are scrubbed in part -/

mutual

/-- A tree with some of its string constants replaced. The number is that of the new ones. -/
inductive PartlyScrubbed (rewrite : Text → Rewriting) : Value → Value → Nat → Prop
  | same (value : Value) : PartlyScrubbed rewrite value value 0
  /-- A constant that changes is as the scrub makes it. -/
  | constant {attrs : Attrs} {t : Text} :
      textAt attrs "value" = some t → (rewrite t).changed = true →
        PartlyScrubbed rewrite (.node (.python .constant) attrs)
          (.node (.python .constant) (renewed rewrite attrs t)) 1
  /-- Nothing changes in a call that imports a module. -/
  | node {kind : Python.Kind} {attrs attrs' : Attrs} {n : Nat} :
      importsModule kind attrs = false → PartlyScrubbedAttrs rewrite kind attrs attrs' n →
        PartlyScrubbed rewrite (.node (.python kind) attrs) (.node (.python kind) attrs') n

/-- The attributes of a node of such a tree. -/
inductive PartlyScrubbedAttrs (rewrite : Text → Rewriting) :
    Python.Kind → Attrs → Attrs → Nat → Prop
  | nil {kind : Python.Kind} : PartlyScrubbedAttrs rewrite kind [] [] 0
  | kept {kind : Python.Kind} {rest rest' : Attrs} {n : Nat} (attr : String × Value) :
      PartlyScrubbedAttrs rewrite kind rest rest' n →
        PartlyScrubbedAttrs rewrite kind (attr :: rest) (attr :: rest') n
  /-- Only what holds the tree below a node changes, and no format specification. -/
  | branch {kind : Python.Kind} {name : String} {value value' : Value} {rest rest' : Attrs}
      {m n : Nat} : name ∈ branches kind → isFormatSpec kind name = false →
        PartlyScrubbedField rewrite kind value value' m →
        PartlyScrubbedAttrs rewrite kind rest rest' n →
        PartlyScrubbedAttrs rewrite kind ((name, value) :: rest) ((name, value') :: rest') (m + n)

/-- What a field holds that leads to the tree below a node. -/
inductive PartlyScrubbedField (rewrite : Text → Rewriting) :
    Python.Kind → Value → Value → Nat → Prop
  | value {kind : Python.Kind} {value value' : Value} {n : Nat} :
      PartlyScrubbed rewrite value value' n → PartlyScrubbedField rewrite kind value value' n
  /-- Only pieces may be gone from a list. -/
  | list {kind : Python.Kind} {items items' : List Value} {n : Nat} :
      PartlyScrubbedItems rewrite (kind = .joinedStr) items items' n →
        PartlyScrubbedField rewrite kind (.list items) (.list items') n
  /-- Pieces that another collection gives may have become a list. -/
  | listed {type : CollectionType} {items items' : List Value} {n : Nat} :
      PartlyScrubbedItems rewrite true items items' n →
        PartlyScrubbedField rewrite .joinedStr (.collection type items) (.list items') n
  /-- As long as they have not, none of them is gone. -/
  | within {type : CollectionType} {items items' : List Value} {n : Nat} :
      (∀ name, type ≠ .iterator name) → PartlyScrubbedItems rewrite false items items' n →
        PartlyScrubbedField rewrite .joinedStr (.collection type items) (.collection type items') n
  /-- An iterator may have given out its first pieces. -/
  | spent {name : String} {items rest : List Value} : rest <:+ items →
      PartlyScrubbedField rewrite .joinedStr (.collection (.iterator name) items)
        (.collection (.iterator name) rest) 0
  /-- What is empty in the place of pieces may have become a list. -/
  | noPieces {value : Value} : value ∈ [.text [], .bytes [], .dict []] →
      PartlyScrubbedField rewrite .joinedStr value (.list []) 0

/-- The items of such a tree, where some may be gone or all are there. -/
inductive PartlyScrubbedItems (rewrite : Text → Rewriting) :
    Bool → List Value → List Value → Nat → Prop
  | nil {lossy : Bool} : PartlyScrubbedItems rewrite lossy [] [] 0
  | cons {lossy : Bool} {item item' : Value} {rest rest' : List Value} {m n : Nat} :
      PartlyScrubbed rewrite item item' m → PartlyScrubbedItems rewrite lossy rest rest' n →
        PartlyScrubbedItems rewrite lossy (item :: rest) (item' :: rest') (m + n)
  /-- A piece of an interpolated string of which nothing is left may be gone. -/
  | gone {item : Value} {rest rest' : List Value} {n : Nat} : vanishes rewrite item = true →
      PartlyScrubbedItems rewrite true rest rest' n →
        PartlyScrubbedItems rewrite true (item :: rest) rest' n

end

theorem PartlyScrubbedAttrs.same (attrs : Attrs) :
    PartlyScrubbedAttrs rewrite kind attrs attrs 0 := by
  induction attrs with
  | nil => exact .nil
  | cons attr rest ih => exact .kept attr ih

theorem PartlyScrubbedItems.same {lossy : Bool} (items : List Value) :
    PartlyScrubbedItems rewrite lossy items items 0 := by
  induction items with
  | nil => exact .nil
  | cons item rest ih => exact .cons (.same item) ih

theorem PartlyScrubbedItems.of_kept {items items' : List Value} {n : Nat} (lossy : Bool)
    (h : PartlyScrubbedItems rewrite false items items' n) :
    PartlyScrubbedItems rewrite lossy items items' n := by
  induction items generalizing items' n with
  | nil =>
    cases h
    exact .nil
  | cons item rest ih =>
    cases h with
    | cons hitem hrest => exact .cons hitem (ih hrest)

/-! ## How the walk leaves a tree -/

/-- A visit leaves the value scrubbed in part, and so is what it gives. It counts at least the
constants that are replaced. -/
def Leaves (rewrite : Text → Rewriting) (value : Value) (visited : Visited) (k : Nat) : Prop :=
  (∃ n ≤ k, PartlyScrubbed rewrite value visited.left n) ∧
    ∀ new, visited.result = .ok (some new) → ∃ n ≤ k, PartlyScrubbed rewrite value new n

theorem Leaves.failed {value left : Value} {problem : Problem} {n k : Nat} (hn : n ≤ k)
    (h : PartlyScrubbed rewrite value left n) : Leaves rewrite value (.failed left problem) k :=
  ⟨⟨n, hn, h⟩, fun _ hnew => by simp [Visited.failed] at hnew⟩

theorem Leaves.same {value new : Value} {n k : Nat} (hn : n ≤ k)
    (h : PartlyScrubbed rewrite value new n) : Leaves rewrite value (.same new) k := by
  refine ⟨⟨n, hn, h⟩, fun other hother => ?_⟩
  cases hother
  exact ⟨n, hn, h⟩

theorem visitConstant_leaves (attrs : Attrs) :
    Yields (visitConstant rewrite attrs) (Leaves rewrite (.node (.python .constant) attrs)) := by
  have hsame : PartlyScrubbed rewrite (.node (.python .constant) attrs)
      (.python .constant attrs) 0 := .same _
  unfold visitConstant
  split
  · exact .pure (.failed (Nat.zero_le 0) hsame)
  · next t hread =>
    have ht : textAt attrs "value" = some t := textAt_of_read hread
    refine .bind (scrubText_yields _ t) ?_
    rintro new k ⟨rfl, rfl⟩
    cases hchanged : (rewrite t).changed with
    | false => exact .pure (.same (Nat.zero_le _) hsame)
    | true =>
      have hone : changes rewrite [t] = 1 := by simp [changes, hchanged]
      refine .pure ⟨⟨0, Nat.zero_le _, hsame⟩, fun new hnew => ⟨1, hone.ge, ?_⟩⟩
      cases hnew
      have hnew := PartlyScrubbed.constant ht hchanged
      rwa [renewed, if_pos hchanged] at hnew
  · exact .pure (.same (Nat.zero_le 0) hsame)

/-- A visit of items leaves them scrubbed in part with none of them gone, and those that have not
been visited are the last ones. Where it gives new items, pieces may be gone. -/
def LeavesItems (rewrite : Text → Rewriting) (rule : FieldRule) (items : List Value)
    (visited : VisitedItems) (k : Nat) : Prop :=
  (∃ n ≤ k, PartlyScrubbedItems rewrite false items visited.left n) ∧ visited.rest <:+ items ∧
    ∀ new, visited.result = .ok new →
      ∃ n ≤ k, PartlyScrubbedItems rewrite (rule = .pieces) items new n

theorem visitItems_leaves (hsame : ∀ t, (rewrite t).changed = false → (rewrite t).text = t)
    (rule : FieldRule) {items : List Value}
    (h : ∀ item ∈ items, Yields (visit (.rewriting rewrite) item) (Leaves rewrite item)) :
    Yields (visitItems (.rewriting rewrite) rule items) (LeavesItems rewrite rule items) := by
  induction items with
  | nil =>
    rw [visitItems]
    refine .pure ⟨⟨0, Nat.le_refl 0, .nil⟩, List.suffix_rfl, fun new hnew => ?_⟩
    cases hnew
    exact ⟨0, Nat.le_refl 0, .nil⟩
  | cons item rest ih =>
    have hrest := ih fun other hother => h other (List.mem_cons_of_mem _ hother)
    rw [visitItems]
    split_ifs with hkeep
    · refine .bind hrest ?_
      rintro ⟨left, later, result⟩ k ⟨⟨n, hn, hleft⟩, hlater, hresult⟩
      refine .pure ⟨⟨0 + n, by omega, .cons (.same item) hleft⟩,
        hlater.trans (List.suffix_cons item rest), fun new hnew => ?_⟩
      cases result with
      | error problem => simp [Except.map] at hnew
      | ok others =>
        cases hnew
        obtain ⟨l, hl, hothers⟩ := hresult others rfl
        exact ⟨0 + l, by omega, .cons (.same item) hothers⟩
    · refine .bind ((visit_yields item).1.and (h item List.mem_cons_self)) ?_
      rintro visited k ⟨hscrubs, ⟨m, hm, hitem⟩, hnew⟩
      split
      · exact .pure ⟨⟨m + 0, hm, .cons hitem (.same rest)⟩, List.suffix_cons item rest,
          fun new hnew => by simp at hnew⟩
      · next new hresult =>
        obtain ⟨hnode, rfl, -⟩ := hscrubs new hresult
        obtain ⟨m', hm', hnew⟩ := hnew _ hresult
        have hempty := isEmptyPiece_scrubbed hsame item
        rw [if_pos hnode] at hempty
        refine .bind hrest ?_
        rintro ⟨left, later, result⟩ l ⟨⟨n, hn, hleft⟩, hlater, hothers⟩
        refine .pure ⟨⟨m + n, by omega, .cons hitem hleft⟩,
          hlater.trans (List.suffix_cons item rest), fun new hall => ?_⟩
        cases result with
        | error problem => simp [Except.map] at hall
        | ok others =>
          obtain ⟨n', hn', hothers⟩ := hothers others rfl
          obtain rfl := Except.ok.inj hall
          dsimp only
          split_ifs with hgone
          · obtain ⟨rfl, hpiece⟩ : rule = .pieces ∧ _ := by simpa using hgone
            exact ⟨n', by omega, .gone (hempty.symm.trans hpiece) hothers⟩
          · exact ⟨m' + n', by omega, .cons hnew hothers⟩

/-- A visit leaves an attribute scrubbed in part, and as it was if the rule for it is to skip it. -/
def LeavesField (rewrite : Text → Rewriting) (kind : Python.Kind) (rule : FieldRule) (value : Value)
    (r : Option Value × Option Problem) (k : Nat) : Prop :=
  ∃ new, r.1 = some new ∧ (rule = .skip → new = value) ∧
    ∃ n ≤ k, PartlyScrubbedField rewrite kind value new n

theorem LeavesField.same {rule : FieldRule} {value : Value} {problem : Option Problem} :
    LeavesField rewrite kind rule value (some value, problem) 0 :=
  ⟨value, rfl, fun _ => rfl, 0, Nat.le_refl 0, .value (.same value)⟩

theorem LeavesField.of_ne_skip {rule : FieldRule} {value new : Value} {problem : Option Problem}
    {n k : Nat} (hrule : rule ≠ .skip) (hn : n ≤ k)
    (h : PartlyScrubbedField rewrite kind value new n) :
    LeavesField rewrite kind rule value (some new, problem) k :=
  ⟨new, rfl, fun hskip => absurd hskip hrule, n, hn, h⟩

theorem visitAttr_list_leaves (hsame : ∀ t, (rewrite t).changed = false → (rewrite t).text = t)
    {rule : FieldRule} (hrule : rule = .pieces → kind = .joinedStr) {items : List Value}
    (h : ∀ item ∈ items, Yields (visit (.rewriting rewrite) item) (Leaves rewrite item)) :
    Yields (visitAttr (.rewriting rewrite) rule (.list items))
      (LeavesField rewrite kind rule (.list items)) := by
  have hitems := visitItems_leaves hsame rule h
  have hnew {items' : List Value} {n : Nat}
      (hnew : PartlyScrubbedItems rewrite (rule = .pieces) items items' n) :
      PartlyScrubbedItems rewrite (kind = .joinedStr) items items' n := by
    by_cases hpieces : rule = .pieces
    · simpa [hpieces, hrule hpieces] using hnew
    · exact .of_kept _ (by simpa [hpieces] using hnew)
  rw [visitAttr.eq_def]
  cases rule
  case skip => exact .pure .same
  case always => exact .pure .same
  all_goals
    refine .bind hitems ?_
    rintro ⟨left, later, result⟩ k ⟨⟨n, hn, hleft⟩, -, hresult⟩
    cases result with
    | error problem => exact .pure (.of_ne_skip (by decide) hn (.list (.of_kept _ hleft)))
    | ok new =>
      obtain ⟨m, hm, hitems⟩ := hresult new rfl
      exact .pure (.of_ne_skip (by decide) hm (.list (hnew hitems)))

/-- A collection that the walk fails in is left with its items, or with those to come if it is an
iterator. -/
theorem partlyScrubbedField_leave (type : CollectionType) {items left later : List Value} {n : Nat}
    (hleft : PartlyScrubbedItems rewrite false items left n) (hlater : later <:+ items) :
    ∃ m ≤ n, PartlyScrubbedField rewrite .joinedStr (.collection type items)
      (leave type left later) m := by
  cases type with
  | iterator name => exact ⟨0, Nat.zero_le n, .spent hlater⟩
  | _ => exact ⟨n, Nat.le_refl n, .within (by simp) hleft⟩

theorem visitAttr_collection_leaves
    (hsame : ∀ t, (rewrite t).changed = false → (rewrite t).text = t) {rule : FieldRule}
    (hrule : rule = .pieces → kind = .joinedStr) {type : CollectionType} {items : List Value}
    (h : ∀ item ∈ items, Yields (visit (.rewriting rewrite) item) (Leaves rewrite item)) :
    Yields (visitAttr (.rewriting rewrite) rule (.collection type items))
      (LeavesField rewrite kind rule (.collection type items)) := by
  rw [visitAttr.eq_def]
  cases rule
  case pieces =>
    obtain rfl := hrule rfl
    refine .bind (visitItems_leaves hsame .pieces h) ?_
    rintro ⟨left, later, result⟩ k ⟨⟨n, hn, hleft⟩, hlater, hresult⟩
    cases result with
    | error problem =>
      obtain ⟨m, hm, hfield⟩ := partlyScrubbedField_leave type hleft hlater
      exact .pure (.of_ne_skip (by decide) (Nat.le_trans hm hn) hfield)
    | ok new =>
      obtain ⟨m, hm, hitems⟩ := hresult new rfl
      exact .pure (.of_ne_skip (by decide) hm (.listed hitems))
  all_goals exact .pure .same

theorem visitAttr_node_leaves (rule : FieldRule) {inner : Python.Kind} {attrs : Attrs}
    (h : Yields (visit (.rewriting rewrite) (.node (.python inner) attrs))
      (Leaves rewrite (.node (.python inner) attrs))) :
    Yields (visitAttr (.rewriting rewrite) rule (.node (.python inner) attrs))
      (LeavesField rewrite kind rule (.node (.python inner) attrs)) := by
  rw [visitAttr.eq_def]
  cases rule
  case skip => exact .pure .same
  case pieces => exact .pure .same
  all_goals
    refine .bind ((visit_yields _).1.and h) ?_
    rintro visited k ⟨hscrubs, ⟨n, hn, hleft⟩, hnew⟩
    split
    · next new hresult =>
      obtain ⟨-, rfl, -⟩ := hscrubs new hresult
      obtain ⟨m, hm, hnew⟩ := hnew _ hresult
      exact .pure (.of_ne_skip (by decide) hm (.value hnew))
    · exact .pure (.of_ne_skip (by decide) hn (.value hleft))

theorem visitAttr_leaf_leaves {rule : FieldRule} (hrule : rule = .pieces → kind = .joinedStr)
    {value : Value} (hlist : ∀ items, value ≠ .list items)
    (hcollection : ∀ type items, value ≠ .collection type items)
    (hnode : value.isPythonNode = false) :
    Yields (visitAttr (.rewriting rewrite) rule value) (LeavesField rewrite kind rule value) := by
  have hempty (hpieces : rule = .pieces) (hvalue : value ∈ [.text [], .bytes [], .dict []]) :
      LeavesField rewrite kind rule value (some (.list []), none) 0 := by
    obtain rfl := hrule hpieces
    exact .of_ne_skip (by simp [hpieces]) (Nat.le_refl 0) (.noPieces hvalue)
  rw [visitAttr.eq_def]
  rcases value with _ | _ | _ | _ | _ | _ | (_ | _) | (_ | _) | _ | items | (_ | _) |
    ⟨type, items⟩ | ⟨_ | _, _⟩
  case list => exact absurd rfl (hlist items)
  case collection => exact absurd rfl (hcollection type items)
  case node.python => simp [Value.isPythonNode] at hnode
  all_goals cases rule
  all_goals first | exact .pure .same | exact .pure (hempty rfl (by simp))

theorem visitAttrs_leaves (hconstant : kind ≠ .constant) {attrs : Attrs}
    (h : ∀ attr ∈ attrs, ∀ rule, (rule = .pieces → kind = .joinedStr) →
      Yields (visitAttr (.rewriting rewrite) rule attr.2) (LeavesField rewrite kind rule attr.2)) :
    Yields (visitAttrs (.rewriting rewrite) kind attrs) fun r k =>
      ∃ n ≤ k, PartlyScrubbedAttrs rewrite kind attrs r.1 n := by
  induction attrs with
  | nil =>
    rw [visitAttrs]
    exact .pure ⟨0, Nat.le_refl 0, .nil⟩
  | cons attr rest ih =>
    obtain ⟨name, value⟩ := attr
    have hrest := ih fun other hother => h other (List.mem_cons_of_mem _ hother)
    have hrule := @fieldRule_eq rewrite kind hconstant name
    have hpieces : (Visitor.rewriting rewrite).fieldRule kind name = .pieces →
        kind = .joinedStr := by
      rw [hrule]
      split_ifs <;> simp_all
    -- an attribute that is no branch or a format specification is skipped
    have hattr {new : Value} {m n : Nat} {rest' : Attrs}
        (hskip : (Visitor.rewriting rewrite).fieldRule kind name = .skip → new = value)
        (hnew : PartlyScrubbedField rewrite kind value new m)
        (hothers : PartlyScrubbedAttrs rewrite kind rest rest' n) :
        ∃ l ≤ m + n, PartlyScrubbedAttrs rewrite kind ((name, value) :: rest)
          ((name, new) :: rest') l := by
      by_cases hbranch : name ∈ branches kind ∧ isFormatSpec kind name = false
      · exact ⟨m + n, Nat.le_refl _, .branch hbranch.1 hbranch.2 hnew hothers⟩
      · obtain rfl := hskip (by rw [hrule, if_neg hbranch])
        exact ⟨n, Nat.le_add_left n m, .kept _ hothers⟩
    rw [visitAttrs]
    refine .bind (h (name, value) List.mem_cons_self _ hpieces) ?_
    rintro ⟨_, problem⟩ k ⟨new, rfl, hskip, m, hm, hnew⟩
    cases problem with
    | some problem =>
      obtain ⟨l, hl, hleft⟩ := hattr hskip hnew (.same rest)
      exact .pure ⟨l, by omega, hleft⟩
    | none =>
      refine .bind hrest ?_
      rintro ⟨others, problem⟩ k' ⟨n, hn, hothers⟩
      obtain ⟨l, hl, hleft⟩ := hattr hskip hnew hothers
      exact .pure ⟨l, by omega, hleft⟩

theorem visit_node_leaves {attrs : Attrs}
    (h : ∀ attr ∈ attrs, ∀ rule, (rule = .pieces → kind = .joinedStr) →
      Yields (visitAttr (.rewriting rewrite) rule attr.2) (LeavesField rewrite kind rule attr.2)) :
    Yields (visit (.rewriting rewrite) (.node (.python kind) attrs))
      (Leaves rewrite (.node (.python kind) attrs)) := by
  rw [visit.eq_def]
  by_cases hconstant : kind = .constant
  · subst hconstant
    exact visitConstant_leaves attrs
  · have hentry := @entry_rewriting rewrite kind attrs
    have hattrs := visitAttrs_leaves hconstant h
    dsimp only
    split
    · exact absurd rfl hconstant
    · split
      · exact .pure (.same (Nat.le_refl 0) (.same _))
      · next hdrop => simp [hdrop] at hentry
      · exact .pure (.failed (Nat.le_refl 0) (.same _))
      · next henter =>
        rw [henter] at hentry
        refine .bind hattrs ?_
        rintro ⟨new, problem⟩ k ⟨n, hn, hnew⟩
        cases problem with
        | some problem => exact .pure (.failed hn (.node hentry hnew))
        | none => exact .pure (.same hn (.node hentry hnew))

/-- Whatever a visit comes to, it leaves a value scrubbed in part. -/
theorem visit_leaves (hsame : ∀ t, (rewrite t).changed = false → (rewrite t).text = t)
    (value : Value) :
    Yields (visit (.rewriting rewrite) value) (Leaves rewrite value) ∧
      ∀ kind rule, (rule = .pieces → kind = .joinedStr) →
        Yields (visitAttr (.rewriting rewrite) rule value) (LeavesField rewrite kind rule value) := by
  have hfails {value : Value} (hnode : value.isPythonNode = false) :
      Yields (visit (.rewriting rewrite) value) (Leaves rewrite value) := by
    rw [visit_of_not_isPythonNode hnode]
    exact .pure (.failed (Nat.le_refl 0) (.same value))
  induction value using Value.induction with
  | list items ih =>
    refine ⟨hfails rfl, fun kind rule hrule => ?_⟩
    exact visitAttr_list_leaves hsame hrule fun item hitem => (ih item hitem).1
  | collection type items ih =>
    refine ⟨hfails rfl, fun kind rule hrule => ?_⟩
    exact visitAttr_collection_leaves hsame hrule fun item hitem => (ih item hitem).1
  | node kind attrs ih =>
    cases kind with
    | lua kind =>
      exact ⟨hfails rfl, fun kind rule hrule => visitAttr_leaf_leaves hrule (by simp) (by simp) rfl⟩
    | python kind =>
      have hvisit := @visit_node_leaves rewrite kind attrs fun attr hattr => (ih attr hattr).2 kind
      exact ⟨hvisit, fun _ rule _ => visitAttr_node_leaves rule hvisit⟩
  | leaf value hlist hcollection hnode =>
    have hleaf : value.isPythonNode = false := by
      cases value with
      | node kind attrs => exact absurd rfl (hnode kind attrs)
      | _ => rfl
    exact ⟨hfails hleaf, fun kind rule hrule => visitAttr_leaf_leaves hrule hlist hcollection hleaf⟩

/-- What is counted is what the walk comes to, and so is how the tree is left by a failure. -/
theorem transformPython_of_walked (visitor : Visitor) {tree placed : Value}
    (hplaced : Python.withPlaces tree = .ok placed) (log : Array LogRecord) :
    let outcome := (Id.run ((transformPython visitor tree).run log)).1
    let walk := walked (visit visitor placed) 0 log
    (outcome.success = false → outcome.left = walk.1.left) ∧ outcome.count = walk.2 ∧
      (walk.1.result.toOption = none → outcome.success = false) := by
  simp only [transformPython_eq visitor hplaced log]
  cases (walked (visit visitor placed) 0 log).1.result with
  | error problem => exact ⟨fun _ => rfl, rfl, fun _ => rfl⟩
  | ok new =>
    cases new with
    | none => exact ⟨fun _ => rfl, rfl, fun _ => rfl⟩
    | some new =>
      dsimp only
      cases Python.withPlaces new with
      | error problem => exact ⟨fun _ => rfl, rfl, fun _ => rfl⟩
      | ok new => exact ⟨nofun, rfl, nofun⟩

end Scrub

open Scrub

/-- Where an engine fails on a Python tree, the tree is left scrubbed in part, but for the places
that are filled in first, and the constants that are replaced in it are counted. -/
theorem transform_leaves_partly_scrubbed (engine : Engine) (kind : Python.Kind) (attrs : Attrs)
    (log : Array LogRecord) :
    let tree := Value.node (.python kind) attrs
    let outcome := (Id.run ((transform engine.rewrite tree).run log)).1
    outcome.success = false →
      ∃ placed n, Python.withPlaces tree = .ok placed ∧ Python.shape placed = Python.shape tree ∧
        PartlyScrubbed engine.rewrite placed outcome.left n ∧ n ≤ outcome.count := by
  intro tree outcome hfailure
  have hplaced : Python.withPlaces tree = .ok (Python.fixField {} tree) :=
    Python.withPlaces_eq_ok.mpr ⟨rfl, rfl⟩
  obtain ⟨hleft, hcount, -⟩ := transformPython_of_walked (.rewriting engine.rewrite) hplaced log
  obtain ⟨k, hk, ⟨n, hn, hpart⟩, -⟩ :=
    (visit_leaves (fun _ => Engine.rewrite_text_of_unchanged) (Python.fixField {} tree)).1 0 log
  refine ⟨_, n, hplaced, Python.shape_fixField tree {}, ?_, ?_⟩
  · have houtcome : outcome.left = _ := hleft hfailure
    rwa [houtcome]
  · have houtcome : outcome.count = _ := hcount
    rw [houtcome, hk]
    omega

/-! ## Trees at work -/

/-- The attributes of a sum of something and an interpolated string that has no pieces at all. -/
def brokenSum (left : Value) : Attrs :=
  [("left", left), ("op", .node (.python .add) []), ("right", .node (.python .joinedStr) [])]

/-- Two constants in a tuple are changed before the walk fails. One is a piece that is gone, so that
only the other is found in the list that has taken the place of the tuple. -/
theorem transform_leaves_partly_scrubbed_sum :
    let tree := Value.node (.python .binOp) (brokenSum (.node (.python .joinedStr)
      [("values", .collection .tuple [textOf "a", textOf "ab"])]))
    let outcome := (Id.run ((transform withoutA.rewrite tree).run #[])).1
    outcome.success = false ∧ outcome.count = 2 ∧
      Python.shape outcome.left =
        Python.shape (.node (.python .binOp) (brokenSum (joinedOf [textOf "b"]))) ∧
      ∃ placed n, Python.withPlaces tree = .ok placed ∧
        PartlyScrubbed withoutA.rewrite placed outcome.left n ∧ n ≤ 2 := by
  intro tree outcome
  have hplaced : Python.withPlaces tree = .ok (Python.fixField {} tree) :=
    Python.withPlaces_eq_ok.mpr ⟨rfl, rfl⟩
  obtain ⟨hleft, hcount, hfails⟩ :=
    transformPython_of_walked (.rewriting withoutA.rewrite) hplaced #[]
  have hfailure : outcome.success = false := hfails (by cbv)
  have htwo : outcome.count = 2 := hcount.trans (by cbv)
  obtain ⟨placed, n, hplaced', -, hpart, hn⟩ :=
    transform_leaves_partly_scrubbed withoutA _ _ #[] hfailure
  exact ⟨hfailure, htwo, (congrArg Python.shape (hleft hfailure)).trans (by cbv), placed, n,
    hplaced', hpart, htwo ▸ hn⟩

/-- A pair of interpolated strings, the second without pieces. -/
def brokenPair (pieces : Value) : Value :=
  .node (.python .tuple) [("elts", .list [.node (.python .joinedStr) [("values", pieces)],
    .node (.python .joinedStr) []]), ("ctx", .node (.python .load) [])]

/-- An empty text in the place of pieces has become a list when the walk fails, so the tree that is
left is another one, though nothing was to be replaced in it. -/
theorem transform_failed_turns_text_into_pieces :
    let outcome := (Id.run ((transform withoutA.rewrite (brokenPair (.text []))).run #[])).1
    outcome.success = false ∧ outcome.count = 0 ∧
      Python.shape outcome.left = Python.shape (brokenPair (.list [])) := by
  have hplaced : Python.withPlaces (brokenPair (.text [])) =
    .ok (Python.fixField {} (brokenPair (.text []))) := Python.withPlaces_eq_ok.mpr ⟨rfl, rfl⟩
  obtain ⟨hleft, hcount, hfails⟩ :=
    transformPython_of_walked (.rewriting withoutA.rewrite) hplaced #[]
  have hfailure := hfails (by cbv)
  exact ⟨hfailure, hcount.trans (by cbv),
    (congrArg Python.shape (hleft hfailure)).trans (by cbv)⟩

end LiteralScrub
