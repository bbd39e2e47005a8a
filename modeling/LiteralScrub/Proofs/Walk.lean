import LiteralScrub.Proofs.Scrubbed

/-!
# What the walk through a Python tree yields

A walk that meets no problem gives the scrubbed tree, and it counts the texts that change among
those that are not protected.
-/
namespace LiteralScrub.Scrub

/-! ## Counting walks -/

/-- What a walk comes to and the new count, from a count and a log. -/
def walked {α : Type} (x : WalkM α) (count : Nat) (log : Array LogRecord) : α × Nat :=
  (Id.run ((x.run count).run log)).1

/-- The walk counts on by some number, which satisfies `post` together with its result. -/
def Yields {α : Type} (x : WalkM α) (post : α → Nat → Prop) : Prop :=
  ∀ count log, ∃ more, (walked x count log).2 = count + more ∧ post (walked x count log).1 more

variable {α β : Type} {x : WalkM α} {P : α → Nat → Prop} {Q : β → Nat → Prop}

theorem Yields.pure {a : α} (h : P a 0) : Yields (Pure.pure a) P :=
  fun _ _ => ⟨0, rfl, h⟩

theorem Yields.bind {f : α → WalkM β} (hx : Yields x P)
    (hf : ∀ a k, P a k → Yields (f a) fun b more => Q b (k + more)) : Yields (x >>= f) Q := by
  intro count log
  obtain ⟨k, hk, hP⟩ := hx count log
  obtain ⟨more, hmore, hQ⟩ := hf _ _ hP (count + k) (Id.run ((x.run count).run log)).2
  have hrun : walked (x >>= f) count log =
      walked (f (walked x count log).1) (count + k) (Id.run ((x.run count).run log)).2 := by
    rw [← hk]
    rfl
  rw [hrun]
  exact ⟨k + more, by rw [hmore, Nat.add_assoc], hQ⟩

theorem Yields.mono {P' : α → Nat → Prop} (hx : Yields x P) (h : ∀ a k, P a k → P' a k) :
    Yields x P' := by
  intro count log
  obtain ⟨k, hk, hP⟩ := hx count log
  exact ⟨k, hk, h _ _ hP⟩

theorem Yields.and {P' : α → Nat → Prop} (hP : Yields x P) (hP' : Yields x P') :
    Yields x fun a k => P a k ∧ P' a k := by
  intro count log
  obtain ⟨k, hk, hPk⟩ := hP count log
  obtain ⟨k', hk', hPk'⟩ := hP' count log
  obtain rfl : k = k' := Nat.add_left_cancel (hk.symm.trans hk')
  exact ⟨k, hk, hPk, hPk'⟩

/-- How many of the texts change. -/
def changes (rewrite : Text → Rewriting) (texts : List Text) : Nat :=
  texts.countP fun t => (rewrite t).changed

variable {rewrite : Text → Rewriting}

theorem scrubText_yields (line : Value) (t : Text) :
    Yields (scrubText rewrite line t) fun new k =>
      new = (if (rewrite t).changed then some (rewrite t).text else none) ∧
        k = changes rewrite [t] := by
  intro count log
  cases hchanged : (rewrite t).changed with
  | true =>
    refine ⟨1, ?_, ?_, by simp [changes, hchanged]⟩ <;>
    · simp only [walked, scrubText, hchanged, if_true]
      rfl
  | false =>
    refine ⟨0, ?_, ?_, by simp [changes, hchanged]⟩ <;>
    · simp only [walked, scrubText, hchanged]
      rfl

/-! ## Nodes -/

/-- A visit that meets no problem is one of a node. It gives the scrubbed node and counts the texts
that change. -/
def Scrubs (rewrite : Text → Rewriting) (value : Value) (visited : Visited) (k : Nat) : Prop :=
  ∀ new, visited.result = .ok new →
    value.isPythonNode ∧ new = some (scrubbed (renewed rewrite) false value) ∧
      k = changes rewrite (openTexts false value)

theorem Scrubs.failed {value left : Value} {problem : Problem} {k : Nat} :
    Scrubs rewrite value (.failed left problem) k := by
  intro new h
  simp [Visited.failed] at h

theorem visitConstant_yields (attrs : Attrs) :
    Yields (visitConstant rewrite attrs) (Scrubs rewrite (.node (.python .constant) attrs)) := by
  unfold visitConstant
  split
  · exact .pure .failed
  · next t hread =>
    have ht : textAt attrs "value" = some t := textAt_of_read hread
    refine .bind (scrubText_yields _ t) ?_
    rintro new k ⟨rfl, rfl⟩
    cases hchanged : (rewrite t).changed with
    | true =>
      refine .pure fun new hnew => ?_
      simp_all [scrubbed, scrubbedConstant, renewed, openTexts, Value.python, Value.isPythonNode]
    | false =>
      refine .pure fun new hnew => ?_
      simp_all [scrubbed, scrubbedConstant, renewed, openTexts, Value.python, Value.isPythonNode,
        Visited.same]
  · next value hvalue hread =>
    have ht : textAt attrs "value" = none := by
      rw [textAt_of_read hread]
      cases value <;> simp_all [asText]
    refine .pure fun new hnew => ?_
    simp_all [scrubbed, scrubbedConstant, openTexts, Value.python, Value.isPythonNode,
      Visited.same, changes]

theorem visitItems_yields (rule : FieldRule) {items : List Value}
    (h : ∀ item ∈ items, Yields (visit (.rewriting rewrite) item) (Scrubs rewrite item)) :
    Yields (visitItems (.rewriting rewrite) rule items) fun r k =>
      ∀ new, r.result = .ok new →
        new = (scrubbedItems (renewed rewrite) false items).filter
          (fun item => !(rule = .pieces && isEmptyPiece item)) ∧
        k = changes rewrite (openTextsItems false items) := by
  induction items with
  | nil =>
    rw [visitItems]
    refine .pure fun new hnew => ?_
    simp_all [scrubbedItems, openTextsItems, changes]
  | cons item rest ih =>
    have hrest := ih fun other hother => h other (List.mem_cons_of_mem _ hother)
    rw [visitItems]
    split_ifs with hkeep
    · obtain ⟨rfl, hnode⟩ : rule = .descend ∧ item.isPythonNode = false := by simpa using hkeep
      refine .bind hrest ?_
      rintro ⟨left, later, result⟩ k hresult
      refine .pure fun new hnew => ?_
      cases result with
      | error problem => simp [Except.map] at hnew
      | ok others =>
        obtain ⟨rfl, rfl⟩ := hresult others rfl
        obtain rfl := Except.ok.inj hnew
        simp [scrubbedItems, openTextsItems, hnode]
    · refine .bind (h item List.mem_cons_self) ?_
      intro visited k hvisited
      split
      · next problem hproblem => exact .pure fun new hnew => by simp at hnew
      · next new hnew =>
        obtain ⟨hnode, rfl, rfl⟩ := hvisited new hnew
        refine .bind hrest ?_
        rintro ⟨left, later, result⟩ l hresult
        refine .pure fun new hnew => ?_
        cases result with
        | error problem => simp [Except.map] at hnew
        | ok others =>
          obtain ⟨rfl, rfl⟩ := hresult others rfl
          obtain rfl := Except.ok.inj hnew
          refine ⟨?_, by simp [openTextsItems, hnode, changes]⟩
          rw [scrubbedItems, if_pos hnode, List.filter_cons]
          cases hempty : (decide (rule = .pieces) &&
            isEmptyPiece (scrubbed (renewed rewrite) false item)) <;>
            simp only [hempty] <;> rfl

/-- What an attribute becomes by a rule for its field. Only pieces are looked for in a collection
other than a list. -/
def ruled (rewrite : Text → Rewriting) (rule : FieldRule) (value : Value) : Value :=
  match rule with
  | .skip => value
  | .descend | .always => scrubbed (renewed rewrite) value.isCollection value
  | .pieces => tidied .joinedStr false (scrubbed (renewed rewrite) false value)

def ruledTexts (rule : FieldRule) (value : Value) : List Text :=
  if rule = .skip then [] else openTexts (rule ≠ .pieces && value.isCollection) value

/-- A visit of an attribute that meets no problem does to it what the rule for its field says. -/
def Rules (rewrite : Text → Rewriting) (rule : FieldRule) (value : Value)
    (r : Option Value × Option Problem) (k : Nat) : Prop :=
  r.2 = none → r.1 = some (ruled rewrite rule value) ∧ k = changes rewrite (ruledTexts rule value)

theorem Rules.problem {rule : FieldRule} {value : Value} {new : Option Value} {problem : Problem}
    {k : Nat} : Rules rewrite rule value (new, some problem) k := by
  intro h
  simp at h

theorem visitAttr_list_yields (rule : FieldRule) {items : List Value}
    (h : ∀ item ∈ items, Yields (visit (.rewriting rewrite) item) (Scrubs rewrite item)) :
    Yields (visitAttr (.rewriting rewrite) rule (.list items))
      (Rules rewrite rule (.list items)) := by
  have hitems := visitItems_yields rule h
  rw [visitAttr.eq_def]
  cases rule
  case skip => exact .pure fun _ => ⟨rfl, rfl⟩
  case always => exact .pure .problem
  all_goals
    refine .bind hitems ?_
    rintro ⟨left, later, result⟩ k hresult
    cases result with
    | error problem => exact .pure .problem
    | ok new =>
      obtain ⟨rfl, rfl⟩ := hresult new rfl
      exact .pure fun _ => ⟨by simp [ruled, scrubbed, tidied, Value.isCollection],
        by simp [ruledTexts, openTexts, Value.isCollection]⟩

theorem visitAttr_collection_yields (rule : FieldRule) {type : CollectionType} {items : List Value}
    (h : ∀ item ∈ items, Yields (visit (.rewriting rewrite) item) (Scrubs rewrite item)) :
    Yields (visitAttr (.rewriting rewrite) rule (.collection type items))
      (Rules rewrite rule (.collection type items)) := by
  rw [visitAttr.eq_def]
  cases rule
  case skip => exact .pure fun _ => ⟨rfl, rfl⟩
  case descend =>
    exact .pure fun _ => ⟨by simp [ruled, Value.isCollection],
      by simp [ruledTexts, Value.isCollection, changes]⟩
  case always => exact .pure .problem
  case pieces =>
    refine .bind (visitItems_yields .pieces h) ?_
    rintro ⟨left, later, result⟩ k hresult
    cases result with
    | error problem => exact .pure .problem
    | ok new =>
      obtain ⟨rfl, rfl⟩ := hresult new rfl
      exact .pure fun _ => ⟨by simp [ruled, scrubbed, tidied], rfl⟩

theorem visitAttr_node_yields (rule : FieldRule) {kind : Python.Kind} {attrs : Attrs}
    (h : Yields (visit (.rewriting rewrite) (.node (.python kind) attrs))
      (Scrubs rewrite (.node (.python kind) attrs))) :
    Yields (visitAttr (.rewriting rewrite) rule (.node (.python kind) attrs))
      (Rules rewrite rule (.node (.python kind) attrs)) := by
  rw [visitAttr.eq_def]
  cases rule
  case skip => exact .pure fun _ => ⟨rfl, rfl⟩
  case pieces => exact .pure .problem
  all_goals
    refine .bind h ?_
    intro visited k hvisited
    split
    · next new hnew =>
      obtain ⟨-, rfl, rfl⟩ := hvisited new hnew
      exact .pure fun _ => ⟨rfl, rfl⟩
    · exact .pure .problem

theorem visitAttr_leaf_yields (rule : FieldRule) {value : Value}
    (hlist : ∀ items, value ≠ .list items)
    (hcollection : ∀ type items, value ≠ .collection type items)
    (hnode : value.isPythonNode = false) :
    Yields (visitAttr (.rewriting rewrite) rule value) (Rules rewrite rule value) := by
  rw [visitAttr.eq_def]
  rcases value with _ | _ | _ | _ | _ | _ | (_ | _) | (_ | _) | _ | items | (_ | _) |
    ⟨type, items⟩ | ⟨_ | _, _⟩
  case list => exact absurd rfl (hlist items)
  case collection => exact absurd rfl (hcollection type items)
  case node.python => simp [Value.isPythonNode] at hnode
  all_goals cases rule
  all_goals first | exact .pure .problem | exact .pure fun _ => ⟨rfl, rfl⟩

/-! ## The rules for fields -/

/-- Only branches are visited, and of them all but format specifications. -/
theorem fieldRule_eq {kind : Python.Kind} (hconstant : kind ≠ .constant) (name : String) :
    (Visitor.rewriting rewrite).fieldRule kind name =
      if name ∈ branches kind ∧ isFormatSpec kind name = false then
        if kind = .formattedValue then .always else if kind = .joinedStr then .pieces else .descend
      else .skip := by
  by_cases hformatted : kind = .formattedValue
  · subst hformatted
    by_cases hvalue : name = "value"
    · subst hvalue
      rfl
    · simp [Visitor.fieldRule, branches, isFormatSpec, hvalue]
  · by_cases hjoined : kind = .joinedStr
    · subst hjoined
      have hbranches : branches .joinedStr = ["values"] := rfl
      simp [Visitor.fieldRule, isFormatSpec, hbranches]
    · have hbranches : branches kind = kind.fields := by
        unfold branches
        split <;> simp_all
      simp only [isFormatSpec, hformatted, hjoined, hbranches]
      unfold Visitor.fieldRule
      split <;> simp_all

theorem ruled_fieldRule {kind : Python.Kind} (hconstant : kind ≠ .constant) (name : String)
    (value : Value) :
    ruled rewrite ((Visitor.rewriting rewrite).fieldRule kind name) value =
      scrubbedAttr (renewed rewrite) false kind (name, value) := by
  rw [fieldRule_eq hconstant, scrubbedAttr]
  by_cases hname : name ∈ branches kind
  · by_cases hjoined : kind = .joinedStr
    · subst hjoined
      simp [ruled, hname, isFormatSpec, isSealed]
    · simp only [hname, hjoined, tidied_of_ne hjoined, if_true, if_false, true_and]
      cases hspec : isFormatSpec kind name with
      | true => simp [ruled, isSealed, hspec]
      | false => split_ifs <;> simp_all [ruled, isSealed]
  · simp [hname, ruled]

theorem ruledTexts_fieldRule {kind : Python.Kind} (hconstant : kind ≠ .constant) (name : String)
    (value : Value) :
    ruledTexts ((Visitor.rewriting rewrite).fieldRule kind name) value =
      openTextsAttr false kind (name, value) := by
  rw [fieldRule_eq hconstant, openTextsAttr]
  cases hspec : isFormatSpec kind name with
  | true => simp [ruledTexts, isSealed, hspec]
  | false =>
    simp only [ruledTexts, isSealed, hspec]
    split_ifs <;> simp_all

theorem visitAttrs_yields {kind : Python.Kind} (hconstant : kind ≠ .constant) {attrs : Attrs}
    (h : ∀ attr ∈ attrs, ∀ rule,
      Yields (visitAttr (.rewriting rewrite) rule attr.2) (Rules rewrite rule attr.2)) :
    Yields (visitAttrs (.rewriting rewrite) kind attrs) fun r k =>
      r.2 = none → r.1 = scrubbedAttrs (renewed rewrite) false kind attrs ∧
        k = changes rewrite (openTextsAttrs false kind attrs) := by
  induction attrs with
  | nil =>
    rw [visitAttrs]
    exact .pure fun _ => ⟨rfl, rfl⟩
  | cons attr rest ih =>
    obtain ⟨name, value⟩ := attr
    have hrest := ih fun other hother => h other (List.mem_cons_of_mem _ hother)
    rw [visitAttrs]
    refine .bind (h (name, value) List.mem_cons_self _) ?_
    rintro ⟨new, problem⟩ k hnew
    cases problem with
    | some problem => exact .pure fun hnone => by simp at hnone
    | none =>
      obtain ⟨rfl, rfl⟩ := hnew rfl
      refine .bind hrest ?_
      rintro ⟨others, problem⟩ l hothers
      refine .pure fun hnone => ?_
      obtain ⟨rfl, rfl⟩ := hothers hnone
      rw [ruled_fieldRule hconstant, ruledTexts_fieldRule hconstant]
      exact ⟨rfl, by simp [openTextsAttrs, openTextsAttr, changes]⟩

/-! ## Entering nodes -/

theorem visit_of_not_isPythonNode {visitor : Visitor} {value : Value}
    (h : value.isPythonNode = false) :
    visit visitor value = pure (.failed value (.noAttribute value.typeName "_fields")) := by
  rcases value with _ | _ | _ | _ | _ | _ | _ | _ | _ | _ | _ | _ | ⟨_ | _, _⟩
  case node.python => simp [Value.isPythonNode] at h
  all_goals rw [visit.eq_def]

theorem visit_fails {value : Value} (h : value.isPythonNode = false) :
    Yields (visit (.rewriting rewrite) value) (Scrubs rewrite value) := by
  rw [visit_of_not_isPythonNode h]
  exact .pure .failed

theorem isTextIn_eq_any (value : Value) (texts : List Text) :
    isTextIn value texts = (asText value).any (· ∈ texts) := by
  cases value <;> simp [isTextIn, asText]

theorem importsModule_of_isImportCall {attrs : Attrs} {b : Bool}
    (h : isImportCall attrs = .ok b) : importsModule .call attrs = b := by
  unfold isImportCall at h
  cases hread : Python.Kind.call.read attrs "func" with
  | error problem => simp [hread, bind, Except.bind] at h
  | ok func =>
    have hfunc : attrs.get? "func" = some func := get?_of_read (by decide) hread
    simp only [hread, bind, Except.bind] at h
    simp only [importsModule, hfunc, Option.any_some, decide_true, Bool.true_and]
    split at h
    · next callee =>
      cases hid : Python.Kind.nameExpr.read callee "id" with
      | error problem => simp [hid] at h
      | ok id =>
        simp only [hid] at h
        split at h
        · simp at h
        · obtain rfl := Except.ok.inj h
          rw [namesImport, textAt_of_read hid, isTextIn_eq_any, importFunctions]
          cases asText id <;> simp
    · next callee =>
      cases hattr : Python.Kind.attributeExpr.read callee "attr" with
      | error problem => simp [hattr] at h
      | ok attr =>
        simp only [hattr] at h
        obtain rfl := Except.ok.inj h
        rw [namesImport, textAt_of_read hattr, isTextIn_eq_any]
        cases asText attr <;> simp
    · next hname hattribute =>
      obtain rfl := Except.ok.inj h
      unfold namesImport
      split <;> simp_all

/-- A node is entered or stays by whether it imports a module; the walk drops none. -/
theorem entry_rewriting (kind : Python.Kind) (attrs : Attrs) :
    match (Visitor.rewriting rewrite).entry kind attrs with
    | .stay => importsModule kind attrs = true
    | .enter => importsModule kind attrs = false
    | .drop => False
    | .fail _ => True := by
  by_cases hcall : kind = .call
  · subst hcall
    simp only [Visitor.entry]
    cases himport : isImportCall attrs with
    | error problem => trivial
    | ok b =>
      have hb := importsModule_of_isImportCall himport
      cases b <;> exact hb
  · have hno : importsModule kind attrs = false := by simp [importsModule, hcall]
    have hentry : (Visitor.rewriting rewrite).entry kind attrs = .enter ∨
        ∃ problem, (Visitor.rewriting rewrite).entry kind attrs = .fail problem := by
      unfold Visitor.entry
      dsimp only
      split
      · exact absurd rfl hcall
      · split
        · exact .inl rfl
        · cases kind.read attrs _ with
          | ok value => exact .inl rfl
          | error problem => exact .inr ⟨problem, rfl⟩
    rcases hentry with hentry | ⟨problem, hentry⟩ <;> simp [hentry, hno]

theorem visit_node_yields {kind : Python.Kind} {attrs : Attrs}
    (h : ∀ attr ∈ attrs, ∀ rule,
      Yields (visitAttr (.rewriting rewrite) rule attr.2) (Rules rewrite rule attr.2)) :
    Yields (visit (.rewriting rewrite) (.node (.python kind) attrs))
      (Scrubs rewrite (.node (.python kind) attrs)) := by
  rw [visit.eq_def]
  by_cases hconstant : kind = .constant
  · subst hconstant
    exact visitConstant_yields attrs
  · have hentry := @entry_rewriting rewrite kind attrs
    have hattrs := visitAttrs_yields hconstant h
    dsimp only
    split
    · exact absurd rfl hconstant
    · split
      · next hstay =>
        -- an import is left alone, and the scrubbed tree has it unchanged as it is guarded
        rw [hstay] at hentry
        refine .pure fun new hnew => ?_
        obtain rfl := Except.ok.inj hnew
        simp [scrubbed, openTexts, hconstant, hentry, changes, Value.isPythonNode, Value.python]
      · next hdrop => simp [hdrop] at hentry
      · exact .pure .failed
      · next henter =>
        rw [henter] at hentry
        refine .bind hattrs ?_
        rintro ⟨new, problem⟩ k hnew
        cases problem with
        | some problem => exact .pure .failed
        | none =>
          obtain ⟨rfl, rfl⟩ := hnew rfl
          refine .pure fun new hnew => ?_
          obtain rfl := Except.ok.inj hnew
          simp [scrubbed, openTexts, hconstant, hentry, Value.isPythonNode, Value.python]

/-- What visiting comes to, for a node and for what a field holds. -/
theorem visit_yields (value : Value) :
    Yields (visit (.rewriting rewrite) value) (Scrubs rewrite value) ∧
      ∀ rule, Yields (visitAttr (.rewriting rewrite) rule value) (Rules rewrite rule value) := by
  -- A node is visited through what its fields hold and a list through its nodes, so the two
  -- statements are proved together.
  induction value using Value.induction with
  | list items ih =>
    refine ⟨visit_fails rfl, ?_⟩
    exact fun rule => visitAttr_list_yields rule fun item hitem => (ih item hitem).1
  | collection type items ih =>
    refine ⟨visit_fails rfl, ?_⟩
    exact fun rule => visitAttr_collection_yields rule fun item hitem => (ih item hitem).1
  | node kind attrs ih =>
    cases kind with
    | lua kind =>
      exact ⟨visit_fails rfl, fun rule => visitAttr_leaf_yields rule (by simp) (by simp) rfl⟩
    | python kind =>
      have hvisit := @visit_node_yields rewrite kind attrs fun attr hattr => (ih attr hattr).2
      exact ⟨hvisit, fun rule => visitAttr_node_yields rule hvisit⟩
  | leaf value hlist hcollection hnode =>
    have hleaf : value.isPythonNode = false := by
      cases value with
      | node kind attrs => exact absurd rfl (hnode kind attrs)
      | _ => rfl
    exact ⟨visit_fails hleaf, fun rule => visitAttr_leaf_yields rule hlist hcollection hleaf⟩

end LiteralScrub.Scrub
