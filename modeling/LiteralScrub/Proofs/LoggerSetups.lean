import LiteralScrub.Proofs.Loggers

/-!
# What a set-up does

A set-up fails before it has changed anything, or it makes the logger known, sets its level and adds
the handlers that it lacks. It can still fail at the file then, with the rest done.
-/
namespace LiteralScrub

namespace Logger

/-- The logger with a level and more handlers. -/
def configured (severity : Severity) (more : List Handler) (l : Logger) : Logger :=
  { l with level := some severity, handlers := l.handlers ++ more }

theorem configured_keepsPlace (severity : Severity) (more : List Handler) :
    Registry.KeepsPlace (configured severity more) :=
  ⟨fun _ => rfl, fun _ => rfl, fun _ => rfl⟩

/-- What a set-up adds to a logger: a handler for the console and perhaps one for a file, each only
if there is none yet. -/
structure Lacks (before : Logger) (severity : Severity) (more : List Handler) : Prop where
  consoles : more.filter Handler.isConsole =
    if before.hasConsole then [] else [⟨.console, severity⟩]
  files : more.countP Handler.isFile ≤ if before.hasFile then 0 else 1

/-- What there was none of may be added once. -/
theorem countP_append_le_one {p : Handler → Bool} {handlers more : List Handler}
    (h : handlers.countP p ≤ 1) (hmore : more.countP p ≤ if handlers.any p then 0 else 1) :
    (handlers ++ more).countP p ≤ 1 := by
  rw [List.countP_append]
  split_ifs at hmore with hany
  · omega
  · have hzero : handlers.countP p = 0 := by
      rw [List.countP_eq_zero]
      exact fun handler hmem hp => hany (List.any_eq_true.mpr ⟨handler, hmem, hp⟩)
    omega

theorem Lacks.countP_isConsole {before : Logger} {severity : Severity} {more : List Handler}
    (h : before.Lacks severity more) (hone : before.handlers.countP Handler.isConsole ≤ 1) :
    (before.handlers ++ more).countP Handler.isConsole ≤ 1 := by
  refine countP_append_le_one hone ?_
  rw [List.countP_eq_length_filter, h.consoles, hasConsole]
  split_ifs <;> simp

theorem Lacks.countP_isFile {before : Logger} {severity : Severity} {more : List Handler}
    (h : before.Lacks severity more) (hone : before.handlers.countP Handler.isFile ≤ 1) :
    (before.handlers ++ more).countP Handler.isFile ≤ 1 :=
  countP_append_le_one hone h.files

end Logger

namespace Registry

/-- Makes a logger known and gives it a level and more handlers. -/
def configure (r : Registry) (name : Text) (severity : Severity) (more : List Handler) : Registry :=
  (r.register name).update name (Logger.configured severity more)

theorem update_update {f g : Logger → Logger} (hf : ∀ l, (f l).name = l.name) (r : Registry)
    (name : Text) : (r.update name f).update name g = r.update name (g ∘ f) := by
  unfold update
  by_cases hroot : Logger.isRootName name = true
  · simp only [if_pos hroot, Function.comp_apply]
  · simp only [if_neg hroot, List.map_map]
    congr 1
    refine List.map_congr_left fun l _ => ?_
    by_cases hl : l.name = name <;> simp [hl, hf]

theorem configure_nil (r : Registry) (name : Text) (severity : Severity) :
    (r.register name).update name (fun l => { l with level := some severity }) =
      r.configure name severity [] := by
  unfold configure
  congr 1
  funext l
  rw [Logger.configured, List.append_nil]

theorem configure_withHandler (r : Registry) (name : Text) (severity : Severity)
    (more : List Handler) (h : Handler) :
    (r.configure name severity more).update name (·.withHandler h) =
      r.configure name severity (more ++ [h]) := by
  unfold configure
  rw [update_update (Logger.configured_keepsPlace severity more).name]
  congr 1
  funext l
  simp only [Function.comp_apply, Logger.configured, Logger.withHandler, List.append_assoc]

end Registry

namespace Logging

variable {α β : Type} {s : LogState} {name level : Text} {severity : Severity}

/-- What a computation comes to, and the state that it leaves. -/
def outcome (x : Logging α) (s : LogState) : Except LogError α × LogState := Id.run (x.run.run s)

theorem outcome_bind_of_ok {x : Logging α} {a : α} {s' : LogState} (h : outcome x s = (.ok a, s'))
    (f : α → Logging β) : outcome (x >>= f) s = outcome (f a) s' := by
  unfold outcome at h ⊢
  rewrite [ExceptT.run_bind, StateT.run_bind, Id.run_bind, h]
  rfl

theorem outcome_bind_of_error {x : Logging α} {e : LogError} {s' : LogState}
    (h : outcome x s = (.error e, s')) (f : α → Logging β) :
    outcome (x >>= f) s = (.error e, s') := by
  unfold outcome at h ⊢
  rewrite [ExceptT.run_bind, StateT.run_bind, Id.run_bind, h]
  rfl

theorem severityOf_eq_ok (h : Severity.ofLevel? level = some severity) :
    severityOf level = .ok severity := by
  rw [severityOf, h]

theorem severityOf_eq_error (h : Severity.ofLevel? level = none) :
    severityOf level = .error (.unknownLevel level) := by
  rw [severityOf, h]

theorem outcome_severityOf (s : LogState) (level : Text) :
    outcome (ExceptT.mk (pure (severityOf level))) s = (severityOf level, s) := rfl

theorem outcome_addConsole (h : Severity.ofLevel? level = some severity) (s : LogState)
    (name : Text) :
    outcome (addConsole name level) s =
      (.ok (), { s with
        registry := s.registry.update name (·.withHandler ⟨.console, severity⟩) }) := by
  unfold addConsole
  rw [outcome_bind_of_ok ((outcome_severityOf s level).trans (by rw [severityOf_eq_ok h]))]
  rfl

/-- Work on files changes nothing but files. -/
theorem exists_outcome_filing (x : Filing Unit) (s : LogState) :
    ∃ files, (∃ e, outcome (filing x) s = (.error e, { s with files })) ∨
      outcome (filing x) s = (.ok (), { s with files }) := by
  have hfiling : outcome (filing x) s = ((Id.run (x.run.run s.files)).1.mapError .file,
      { s with files := (Id.run (x.run.run s.files)).2 }) := rfl
  refine ⟨(Id.run (x.run.run s.files)).2, ?_⟩
  rw [hfiling]
  cases (Id.run (x.run.run s.files)).1 with
  | error e => exact .inl ⟨.file e, rfl⟩
  | ok u => exact .inr rfl

theorem outcome_get (s : LogState) : outcome get s = (.ok s, s) := rfl

/-- A file is added whole or not at all; files and directories may have been made. -/
theorem outcome_addFile (h : Severity.ofLevel? level = some severity) (s : LogState) (name : Text)
    (file : Path) :
    ∃ files, (∃ e, outcome (addFile name level file) s = (.error e, { s with files })) ∨
      ∃ path, outcome (addFile name level file) s =
        (.ok (), { s with
          registry := s.registry.update name (·.withHandler ⟨.file path, severity⟩), files }) := by
  unfold addFile
  rw [outcome_bind_of_ok ((outcome_severityOf s level).trans (by rw [severityOf_eq_ok h]))]
  obtain ⟨made, ⟨e, hmade⟩ | hmade⟩ :=
    exists_outcome_filing (Filing.ensureDirectory file.parent) s
  · exact ⟨made, .inl ⟨e, outcome_bind_of_error hmade _⟩⟩
  rw [outcome_bind_of_ok hmade, outcome_bind_of_ok (outcome_get _)]
  dsimp only
  obtain ⟨opened, ⟨e, hopened⟩ | hopened⟩ :=
    exists_outcome_filing (Filing.append ((made.around.current.under file).collapse) [])
      { s with files := made }
  · exact ⟨opened, .inl ⟨e, outcome_bind_of_error hopened _⟩⟩
  · rw [outcome_bind_of_ok hopened]
    exact ⟨opened, .inr ⟨(made.around.current.under file).collapse, rfl⟩⟩

theorem outcome_register (s : LogState) (name : Text) :
    outcome (register name) s = (.ok (), { s with registry := s.registry.register name }) := rfl

theorem outcome_updateLogger (s : LogState) (name : Text) (f : Logger → Logger) :
    outcome (updateLogger name f) s =
      (.ok (), { s with registry := s.registry.update name f }) := rfl

theorem ofLevel?_debugLevel : Severity.ofLevel? debugLevel = some .debug := by decide

theorem ofLevel?_infoLevel : Severity.ofLevel? infoLevel = some .info := by decide

/-- The last step of a set-up, after the logger has got its level and perhaps a console. -/
theorem exists_outcome_last {step : Logging Unit} {before : Logger}
    (hstep : step = pure () ∨
      before.hasFile = false ∧ ∃ file, step = addFile name debugLevel file)
    (r : Registry) (more : List Handler) (s : LogState) :
    ∃ result files new,
      outcome step { s with registry := r.configure name severity more } =
        (result, { s with registry := r.configure name severity (more ++ new), files }) ∧
      new.filter Handler.isConsole = [] ∧
      new.countP Handler.isFile ≤ if before.hasFile then 0 else 1 := by
  rcases hstep with rfl | ⟨hfile, file, rfl⟩
  · refine ⟨.ok (), s.files, [], ?_, rfl, Nat.zero_le _⟩
    rw [List.append_nil]
    rfl
  · obtain ⟨files, ⟨e, hfailed⟩ | ⟨path, hadded⟩⟩ := outcome_addFile ofLevel?_debugLevel
      { s with registry := r.configure name severity more } name file
    · refine ⟨.error e, files, [], ?_, rfl, Nat.zero_le _⟩
      rw [hfailed, List.append_nil]
    · refine ⟨.ok (), files, [⟨.file path, .debug⟩], ?_, rfl, ?_⟩
      · rw [hadded, Registry.configure_withHandler]
      · rw [hfile]
        exact Nat.le_refl 1

/-- The steps of a set-up that add handlers. -/
theorem exists_outcome_steps (h : Severity.ofLevel? level = some severity) {step : Logging Unit}
    {before : Logger}
    (hstep : step = pure () ∨
      before.hasFile = false ∧ ∃ file, step = addFile name debugLevel file)
    (r : Registry) (s : LogState) :
    ∃ result files more,
      outcome (if (!before.hasConsole) = true then addConsole name level >>= fun _ => step
            else step)
          { s with registry := r.configure name severity [] } =
        (result, { s with registry := r.configure name severity more, files }) ∧
      before.Lacks severity more := by
  cases hconsole : before.hasConsole with
  | true =>
    obtain ⟨result, files, new, hnew, hconsoles, hfiles⟩ := exists_outcome_last hstep r [] s
    refine ⟨result, files, new, hnew, ?_, hfiles⟩
    rw [hconsoles, hconsole, if_pos rfl]
  | false =>
    obtain ⟨result, files, new, hnew, hconsoles, hfiles⟩ :=
      exists_outcome_last hstep r [⟨.console, severity⟩] s
    refine ⟨result, files, ⟨.console, severity⟩ :: new, ?_, ?_, ?_⟩
    · rw [Bool.not_false, if_pos rfl, outcome_bind_of_ok (outcome_addConsole h _ name),
        Registry.configure_withHandler]
      exact hnew
    · rw [List.filter_cons_of_pos rfl, hconsoles, hconsole, if_neg Bool.false_ne_true]
    · rwa [List.countP_cons_of_neg (by simp [Handler.isFile, Handler.isConsole])]

/-- With a level that is one, the logger is known afterwards, at that level, and has got the
handlers that it lacked; only the one for the file may be missing. -/
theorem exists_outcome_setup (h : Severity.ofLevel? level = some severity) (s : LogState)
    (name : Text) (file : Option Path) :
    ∃ result files more,
      outcome (setup name level file) s =
        (result, { s with registry := s.registry.configure name severity more, files }) ∧
      ((s.registry.register name).logger name).Lacks severity more := by
  unfold setup
  rw [outcome_bind_of_ok ((outcome_severityOf s level).trans (by rw [severityOf_eq_ok h])),
    outcome_bind_of_ok (outcome_register s name), outcome_bind_of_ok (outcome_get _),
    outcome_bind_of_ok (outcome_updateLogger _ name _)]
  dsimp only
  rw [Registry.configure_nil]
  cases file with
  | none => exact exists_outcome_steps h (.inl rfl) s.registry s
  | some file =>
    cases hfile : ((s.registry.register name).logger name).hasFile with
    | true => exact exists_outcome_steps h (.inl rfl) s.registry s
    | false => exact exists_outcome_steps h (.inr ⟨hfile, file, rfl⟩) s.registry s

/-- A level that is none stops a set-up before it has changed anything. -/
theorem outcome_setup_of_none (h : Severity.ofLevel? level = none) (s : LogState) (name : Text)
    (file : Option Path) :
    outcome (setup name level file) s = (.error (.unknownLevel level), s) := by
  unfold setup
  exact outcome_bind_of_error ((outcome_severityOf s level).trans (by rw [severityOf_eq_error h])) _

/-- The name of the logger that is set up for one that is not heard. -/
def setUpFor (name : Text) : Text := if isProgramPart name then programName else name

/-- A logger that is heard is only made known; otherwise one is set up for it. -/
theorem outcome_prepare (s : LogState) (name : Text) :
    outcome (prepare name) s =
      if (s.registry.register name).hasHandlers name then
        (.ok (), { s with registry := s.registry.register name })
      else outcome (setup (setUpFor name) infoLevel none)
        { s with registry := s.registry.register name } := by
  unfold prepare
  rw [outcome_bind_of_ok (outcome_register s name), outcome_bind_of_ok (outcome_get _)]
  cases (s.registry.register name).hasHandlers name <;> rfl

theorem outcome_setLevel_of_none (h : Severity.ofLevel? level = none) (s : LogState)
    (name : Text) : outcome (setLevel name level) s = (.error (.unknownLevel level), s) := by
  unfold setLevel
  exact outcome_bind_of_error ((outcome_severityOf s level).trans (by rw [severityOf_eq_error h])) _

theorem outcome_setLevel_of_some (h : Severity.ofLevel? level = some severity) (s : LogState)
    (name : Text) :
    outcome (setLevel name level) s =
      (.ok (), { s with
        registry := s.registry.update name fun l => { l with level := some severity } }) := by
  unfold setLevel
  rewrite [outcome_bind_of_ok ((outcome_severityOf s level).trans (by rw [severityOf_eq_ok h]))]
  rfl

end Logging

end LiteralScrub
