import LiteralScrub.Engine
import LiteralScrub.Proofs.LuaWalk

/-!
# What is logged does not matter

A computation adds records to the log and does not look at it. So what it comes to is the same
whatever was logged before.
-/
namespace LiteralScrub

namespace Logged

variable {α β : Type}

/-- What a computation comes to that goes on with a log. -/
def value (x : Logged α) (log : Array LogRecord) : α := (Id.run (x.run log)).1

/-- The computation comes to one value and adds the same records to any log. -/
def Appends (x : Logged α) : Prop :=
  ∃ a records, ∀ log, Id.run (x.run log) = (a, log ++ records)

theorem Appends.pure (a : α) : Appends (Pure.pure a) :=
  ⟨a, #[], fun log => by rw [Array.append_empty]; rfl⟩

theorem Appends.bind {x : Logged α} {f : α → Logged β} (hx : Appends x) (hf : ∀ a, Appends (f a)) :
    Appends (x >>= f) := by
  obtain ⟨a, records, ha⟩ := hx
  obtain ⟨b, more, hb⟩ := hf a
  refine ⟨b, records ++ more, fun log => ?_⟩
  rw [StateT.run_bind, Id.run_bind, ha, hb, Array.append_assoc]

theorem appends_write (severity : Severity) (logger : String) (message : Text) :
    Appends (write severity logger message) :=
  ⟨(), #[⟨severity, logger, message⟩], fun log => by rw [← Array.push_eq_append]; rfl⟩

theorem Appends.value_eq {x : Logged α} (hx : Appends x) (log log' : Array LogRecord) :
    x.value log = x.value log' := by
  obtain ⟨a, records, ha⟩ := hx
  simp only [value, ha]

/-- A computation goes on from what the one before it comes to and from what that has logged. -/
theorem value_bind (x : Logged α) (f : α → Logged β) (log : Array LogRecord) :
    ∃ log', (x >>= f).value log = (f (x.value log)).value log' :=
  ⟨_, rfl⟩

/-- Whatever the log is, what the computation comes to satisfies `post`. -/
def Gives (x : Logged α) (post : α → Prop) : Prop := ∀ log, post (x.value log)

variable {P : α → Prop} {Q : β → Prop}

theorem Gives.pure {a : α} (h : P a) : Gives (Pure.pure a) P := fun _ => h

theorem Gives.bind {x : Logged α} {f : α → Logged β} (hf : ∀ a, Gives (f a) Q) :
    Gives (x >>= f) Q := by
  intro log
  exact hf (x.value log) (Id.run (x.run log)).2

/-! ## Computations that can fail -/

variable {ε δ : Type}

/-- What comes after a failure is left out. -/
theorem value_run_bind (x : ExceptT ε Logged α) (f : α → ExceptT ε Logged β)
    (log : Array LogRecord) :
    ∃ log', (x >>= f).run.value log = x.run.value log >>= fun a => (f a).run.value log' := by
  rw [ExceptT.run_bind]
  obtain ⟨log', hlog⟩ := value_bind x.run (fun r => _) log
  refine ⟨log', hlog.trans ?_⟩
  cases x.run.value log with
  | error e => rfl
  | ok a => rfl

theorem value_run_bind_pure (x : ExceptT ε Logged α) (f : α → β) (log : Array LogRecord) :
    (x >>= fun a => pure (f a)).run.value log = (x.run.value log).map f := by
  obtain ⟨log', hlog⟩ := value_run_bind x (fun a => pure (f a)) log
  rw [hlog]
  cases x.run.value log <;> rfl

theorem value_run_lift_bind (x : Logged α) (f : α → ExceptT ε Logged β) (log : Array LogRecord) :
    ∃ log', (liftM x >>= f).run.value log = (f (x.value log)).run.value log' :=
  ⟨_, rfl⟩

theorem value_run_adapt (x : ExceptT ε Logged α) (wrap : ε → δ) (log : Array LogRecord) :
    (x.adapt wrap).run.value log = (x.run.value log).mapError wrap := rfl

end Logged

/-! ## Walks -/

namespace Scrub

open Logged

variable {α β : Type} {visitor : Visitor} {rewrite : Text → Rewriting}

/-- The walk only adds to the log, from any count. -/
def Adds (x : WalkM α) : Prop := ∀ count, Appends (x.run count)

theorem Adds.pure (a : α) : Adds (Pure.pure a) := fun count => Appends.pure (a, count)

theorem Adds.bind {x : WalkM α} {f : α → WalkM β} (hx : Adds x) (hf : ∀ a, Adds (f a)) :
    Adds (x >>= f) := by
  intro count
  rw [StateT.run_bind]
  exact (hx count).bind fun r => hf r.1 r.2

theorem scrubText_adds (line : Value) (t : Text) : Adds (scrubText rewrite line t) := by
  unfold scrubText
  dsimp only
  split_ifs
  · refine .bind (fun count => .pure ((), count + 1)) fun _ => .bind (fun count => ?_) fun _ => .pure _
    exact (appends_write _ _ _).bind fun _ => .pure _
  · exact .pure none

theorem visitConstant_adds (attrs : Attrs) : Adds (visitConstant rewrite attrs) := by
  unfold visitConstant
  split
  · exact .pure _
  · refine .bind (scrubText_adds _ _) fun new => ?_
    cases new <;> exact .pure _
  · exact .pure _

theorem visitItems_adds (rule : FieldRule) {items : List Value}
    (h : ∀ item ∈ items, Adds (visit visitor item)) : Adds (visitItems visitor rule items) := by
  induction items with
  | nil =>
    rw [visitItems]
    exact .pure _
  | cons item rest ih =>
    have hrest := ih fun other hother => h other (List.mem_cons_of_mem _ hother)
    rw [visitItems]
    split_ifs
    · exact .bind hrest fun _ => .pure _
    · refine .bind (h item List.mem_cons_self) fun visited => ?_
      split
      · exact .pure _
      · exact .bind hrest fun _ => .pure _

theorem visitAttr_adds (rule : FieldRule) {value : Value} (hvisit : Adds (visit visitor value))
    (hitems : ∀ items, value.items? = some items → ∀ item ∈ items, Adds (visit visitor item)) :
    Adds (visitAttr visitor rule value) := by
  rw [visitAttr.eq_def]
  split
  · next items =>
    have hlist := visitItems_adds rule (hitems items rfl)
    split
    · exact .pure _
    · exact .pure _
    all_goals
      refine .bind hlist ?_
      rintro ⟨left, later, result⟩
      cases result <;> exact .pure _
  · next type items =>
    have hpieces := visitItems_adds rule (hitems items rfl)
    split
    · exact .pure _
    · exact .pure _
    · exact .pure _
    · refine .bind hpieces ?_
      rintro ⟨left, later, result⟩
      cases result <;> exact .pure _
  · split
    · exact .pure _
    · exact .pure _
    all_goals
      refine .bind hvisit fun visited => ?_
      split <;> exact .pure _
  · split <;> exact .pure _

theorem visitAttrs_adds (kind : Python.Kind) {attrs : Attrs}
    (h : ∀ attr ∈ attrs, ∀ rule, Adds (visitAttr visitor rule attr.2)) :
    Adds (visitAttrs visitor kind attrs) := by
  induction attrs with
  | nil =>
    rw [visitAttrs]
    exact .pure _
  | cons attr rest ih =>
    obtain ⟨name, value⟩ := attr
    have hrest := ih fun other hother => h other (List.mem_cons_of_mem _ hother)
    rw [visitAttrs]
    refine .bind (h (name, value) List.mem_cons_self _) ?_
    rintro ⟨new, problem⟩
    cases problem with
    | some problem => exact .pure _
    | none =>
      refine .bind hrest fun _ => ?_
      cases new <;> exact .pure _

theorem visit_node_adds {kind : Python.Kind} {attrs : Attrs}
    (h : ∀ attr ∈ attrs, ∀ rule, Adds (visitAttr visitor rule attr.2)) :
    Adds (visit visitor (.node (.python kind) attrs)) := by
  rw [visit.eq_def]
  dsimp only
  split
  · exact visitConstant_adds attrs
  · split
    · exact .pure _
    · exact .pure _
    · exact .pure _
    · refine .bind (visitAttrs_adds kind h) fun r => ?_
      split <;> exact .pure _

theorem visit_adds (value : Value) :
    Adds (visit visitor value) ∧ ∀ rule, Adds (visitAttr visitor rule value) := by
  induction value using Value.induction with
  | list items ih =>
    have hvisit : Adds (visit visitor (.list items)) := by
      rw [visit_of_not_isPythonNode rfl]
      exact .pure _
    refine ⟨hvisit, fun rule => visitAttr_adds rule hvisit ?_⟩
    rintro items' heq item hitem
    cases heq
    exact (ih item hitem).1
  | collection type items ih =>
    have hvisit : Adds (visit visitor (.collection type items)) := by
      rw [visit_of_not_isPythonNode rfl]
      exact .pure _
    refine ⟨hvisit, fun rule => visitAttr_adds rule hvisit ?_⟩
    rintro items' heq item hitem
    cases heq
    exact (ih item hitem).1
  | node kind attrs ih =>
    have hvisit : Adds (visit visitor (.node kind attrs)) := by
      cases kind with
      | python kind => exact visit_node_adds fun attr hattr => (ih attr hattr).2
      | lua kind =>
        rw [visit_of_not_isPythonNode rfl]
        exact .pure _
    exact ⟨hvisit, fun rule => visitAttr_adds rule hvisit (by simp [Value.items?])⟩
  | leaf value hlist hcollection hnode =>
    have hvisit : Adds (visit visitor value) := by
      rw [visit_of_not_isPythonNode (by cases value <;> simp_all [Value.isPythonNode])]
      exact .pure _
    have hitems : value.items? = none := by cases value <;> simp_all [Value.items?]
    exact ⟨hvisit, fun rule => visitAttr_adds rule hvisit (by simp [hitems])⟩

theorem visitString_adds (attrs : Attrs) : Adds (visitString rewrite attrs) := by
  unfold visitString
  split
  · exact .pure _
  · refine .bind (scrubText_adds _ _) fun new => ?_
    cases new with
    | none => exact .pure _
    | some new =>
      dsimp only
      split <;> exact .pure _

theorem visitLuaItems_adds {items : List Value}
    (h : ∀ item ∈ items, Adds (visitLuaValue rewrite item)) : Adds (visitLuaItems rewrite items) := by
  induction items with
  | nil =>
    rw [visitLuaItems]
    exact .pure _
  | cons item rest ih =>
    rw [visitLuaItems]
    refine .bind (h item List.mem_cons_self) ?_
    rintro ⟨new, problem⟩
    cases problem with
    | some problem => exact .pure _
    | none => exact .bind (ih fun other hother => h other (List.mem_cons_of_mem _ hother)) fun _ => .pure _

theorem walkLuaAttrs_adds {attrs : Attrs}
    (h : ∀ attr ∈ attrs, Adds (visitLuaField rewrite attr.2)) : Adds (walkLuaAttrs rewrite attrs) := by
  induction attrs with
  | nil =>
    rw [walkLuaAttrs]
    exact .pure _
  | cons attr rest ih =>
    obtain ⟨name, value⟩ := attr
    have hrest := ih fun other hother => h other (List.mem_cons_of_mem _ hother)
    have hattr : Adds (if isPassedOver name then pure (value, none)
        else visitLuaField rewrite value) := by
      split_ifs
      · exact .pure _
      · exact h (name, value) List.mem_cons_self
    rw [walkLuaAttrs_cons]
    refine .bind hattr ?_
    rintro ⟨new, problem⟩
    cases problem with
    | some problem => exact .pure _
    | none => exact .bind hrest fun _ => .pure _

theorem walkLua_node_adds {kind : Lua.Kind} {attrs : Attrs}
    (h : ∀ attr ∈ attrs, Adds (visitLuaField rewrite attr.2)) :
    Adds (walkLua rewrite (.node (.lua kind) attrs)) := by
  rw [walkLua]
  split
  · exact .pure _
  · exact .pure _
  · exact .bind (walkLuaAttrs_adds h) fun _ => .pure _

theorem visitLuaValue_adds (value : Value) :
    Adds (visitLuaValue rewrite value) ∧ Adds (visitLuaField rewrite value) := by
  induction value using Value.induction with
  | list items ih =>
    rw [visitLuaValue_of_not_isLuaNode rfl, visitLuaField]
    exact ⟨.pure _, .bind (visitLuaItems_adds fun item hitem => (ih item hitem).1) fun _ => .pure _⟩
  | node kind attrs ih =>
    have hvisit : Adds (visitLuaValue rewrite (.node kind attrs)) := by
      cases kind with
      | python kind =>
        rw [visitLuaValue_of_not_isLuaNode rfl]
        exact .pure _
      | lua kind =>
        cases hstring : (Value.node (.lua kind) attrs).isLuaString with
        | true =>
          obtain ⟨_, heq⟩ := eq_string_of_isLuaString hstring
          cases heq
          rw [visitLuaValue, if_pos rfl]
          exact visitString_adds attrs
        | false =>
          rw [visitLuaValue_eq_walkLua hstring]
          exact walkLua_node_adds fun attr hattr => (ih attr hattr).2
    exact ⟨hvisit, by rwa [visitLuaField_of_ne_list (by simp)]⟩
  | collection type items _ =>
    rw [visitLuaField_of_ne_list (by simp), visitLuaValue_of_not_isLuaNode rfl]
    exact ⟨.pure _, .pure _⟩
  | leaf value hlist hcollection hnode =>
    rw [visitLuaField_of_ne_list hlist, visitLuaValue_of_not_isLuaNode (by
      cases value <;> simp_all [Value.isLuaNode])]
    exact ⟨.pure _, .pure _⟩

theorem walkLua_adds (value : Value) : Adds (walkLua rewrite value) := by
  cases value with
  | node kind attrs =>
    cases kind with
    | python kind =>
      rw [walkLua.eq_def]
      exact .pure _
    | lua kind => exact walkLua_node_adds fun attr _ => (visitLuaValue_adds attr.2).2
  | _ =>
    rw [walkLua.eq_def]
    exact .pure _

/-! ## Trees -/

theorem failed_appends (errors : List Text) (left : Value) (count : Nat) (problem : Problem) :
    Appends (failed errors left count problem) :=
  (appends_write _ _ _).bind fun _ => .pure _

theorem transformPython_appends (tree : Value) : Appends (transformPython visitor tree) := by
  unfold transformPython transformPythonFrom
  split
  · exact failed_appends _ _ _ _
  · refine ((visit_adds _).1 0).bind ?_
    rintro ⟨visited, count⟩
    dsimp only
    split
    · exact failed_appends _ _ _ _
    · exact failed_appends _ _ _ _
    · split
      · exact failed_appends _ _ _ _
      · exact (appends_write _ _ _).bind fun _ => .pure _

theorem transformLua_appends (tree : Value) : Appends (transformLua rewrite tree) := by
  refine (walkLua_adds tree 0).bind ?_
  rintro ⟨⟨new, problem⟩, count⟩
  cases problem with
  | some problem => exact failed_appends _ _ _ _
  | none => exact (appends_write _ _ _).bind fun _ => .pure _

/-- What becomes of a tree does not depend on what was logged before. -/
theorem transform_appends (tree : Value) : Appends (transform rewrite tree) := by
  unfold transform
  split
  · exact transformLua_appends tree
  · exact transformPython_appends tree

/-- A tree that does not come out of the walk has left a complaint. One that does has not, and where
the root is still the given one, the given tree has become the new one. -/
theorem transform_gives {P : Outcome → Prop}
    (hfailure : ∀ left count error, P ⟨none, left, false, count, [error]⟩)
    (hsuccess : ∀ new left same count, (same = true → left = new) →
      P ⟨some new, left, same, count, []⟩)
    (tree : Value) : Gives (transform rewrite tree) P := by
  have hfailed (left : Value) (count : Nat) (problem : Problem) :
      Gives (failed [] left count problem) P :=
    .bind fun _ => .pure (hfailure _ _ _)
  unfold transform
  split
  · unfold transformLua transformLuaFrom
    refine .bind ?_
    rintro ⟨⟨new, problem⟩, count⟩
    cases problem with
    | some problem => exact hfailed _ _ _
    | none => exact .bind fun _ => .pure (hsuccess _ _ _ _ fun _ => rfl)
  · unfold transformPython transformPythonFrom
    split
    · exact hfailed _ _ _
    · refine .bind ?_
      rintro ⟨visited, count⟩
      dsimp only
      split
      · exact hfailed _ _ _
      · exact hfailed _ _ _
      · split
        · exact hfailed _ _ _
        · refine .bind fun _ => .pure (hsuccess _ _ _ _ fun hsame => ?_)
          rw [Bool.not_eq_true'] at hsame
          rw [hsame, if_neg Bool.false_ne_true]

end Scrub

end LiteralScrub
