import LiteralScrub.Proofs.LoggerRuns

/-!
# What the console shows

An entry passes the level of its logger and then the threshold of a handler. A set-up sets the level
every time, but the threshold only with the handler that it adds, and a handler stays as it is from
then on. So the first set-up of a logger says what its console can show at all, and later ones can
only show less.
-/
namespace LiteralScrub

namespace LogState

variable {entry : LogEntry}

/-- What handlers write on the console for an entry. -/
def consoleLines (handlers : List Handler) (entry : LogEntry) : Text :=
  (handlers.filter Handler.isConsole).flatMap fun h =>
    if h.accepts entry.severity then LogTemplate.brief.line entry else []

theorem consoleLines_append (handlers more : List Handler) (entry : LogEntry) :
    consoleLines (handlers ++ more) entry =
      consoleLines handlers entry ++ consoleLines more entry := by
  rw [consoleLines, List.filter_append, List.flatMap_append]
  rfl

theorem console_emit (s : LogState) (entry : LogEntry) (h : Handler) :
    (emit entry s h).console = s.console ++ consoleLines [h] entry := by
  unfold emit
  cases haccepts : h.accepts entry.severity with
  | false =>
    cases hconsole : h.isConsole <;> simp [consoleLines, hconsole, haccepts]
  | true =>
    cases houtlet : h.outlet with
    | console =>
      have hconsole : h.isConsole = true := by simp [Handler.isConsole, houtlet]
      simp [consoleLines, hconsole, haccepts, Handler.template]
    | file path =>
      have hconsole : h.isConsole = false := by simp [Handler.isConsole, houtlet]
      rw [consoleLines, List.filter_cons_of_neg (by simp [hconsole]), List.filter_nil,
        List.flatMap_nil, List.append_nil]
      -- a file takes the line or does not, and the console stays
      simp only [Bool.not_true, Bool.false_eq_true, if_false]
      split
      · rfl
      · split <;> rfl

theorem console_foldl_emit (s : LogState) (entry : LogEntry) (handlers : List Handler) :
    (handlers.foldl (emit entry) s).console = s.console ++ consoleLines handlers entry := by
  induction handlers generalizing s with
  | nil => exact (List.append_nil s.console).symm
  | cons h rest ih =>
    rw [List.foldl_cons, ih, console_emit, List.append_assoc, ← consoleLines_append,
      List.singleton_append]

theorem offer_of_not_isEnabled {s : LogState}
    (h : s.registry.isEnabled entry.logger entry.severity = false) : s.offer entry = s := by
  rw [offer, h, Bool.not_false, if_pos rfl]

theorem console_offer_of_isEnabled {s : LogState}
    (h : s.registry.isEnabled entry.logger entry.severity = true)
    (hhandlers : s.registry.handlersFor entry.logger ≠ []) :
    (s.offer entry).console =
      s.console ++ consoleLines (s.registry.handlersFor entry.logger) entry := by
  rw [← console_foldl_emit, offer, h, Bool.not_true, if_neg Bool.false_ne_true]
  split
  · contradiction
  · rfl

end LogState

namespace Registry

open Logger

variable {r : Registry} {name other : Text} {severity : Severity} {more : List Handler}
  {shown : Handler}

/-- The handlers of a logger for the console. -/
def consoles (r : Registry) (name : Text) : List Handler :=
  (r.logger name).handlers.filter Handler.isConsole

/-- The handlers of the loggers above a logger. -/
def handlersAbove (r : Registry) (name : Text) : List Handler :=
  (r.lineage name).tail.flatMap Logger.handlers

/-- Whether the handlers of a logger write its entries on the console. -/
def writesOnConsole (r : Registry) (name : Text) (severity : Severity) : Bool :=
  r.isEnabled name severity && (r.consoles name).any (·.accepts severity)

theorem handlers_logger (r : Registry) (name : Text) :
    (r.logger name).handlers = ((r.find? name).map Logger.handlers).getD [] := by
  rw [logger]
  cases r.find? name <;> rfl

/-! ## Consoles stay -/

theorem Settled.consoles_register (h : r.Settled) (new name : Text) :
    (r.register new).consoles name = r.consoles name := by
  cases hnew : r.find? new with
  | some known => rw [register_of_known (by simp [hnew])]
  | none =>
    rw [consoles, consoles, handlers_logger, handlers_logger, find?_register h.root hnew]
    split_ifs with heq
    · rw [heq, hnew]
      rfl
    · cases r.find? name with
      | none => rfl
      | some l => rw [Option.map_some, Option.map_some, resettle_handlers, Option.map_some]

theorem Settled.consoles_configure_self (h : r.Settled) (name : Text) (severity : Severity)
    (more : List Handler) :
    (r.configure name severity more).consoles name =
      r.consoles name ++ more.filter Handler.isConsole := by
  rw [consoles, logger_of_find? (h.find?_configure_self name severity more), configured,
    List.filter_append, ← h.consoles_register name name, consoles]

/-- A set-up adds a console where there is none. -/
theorem Settled.consoles_configure_of_lacks (h : r.Settled)
    (hlacks : ((r.register name).logger name).Lacks severity more) :
    (r.configure name severity more).consoles name =
      if r.consoles name = [] then [⟨.console, severity⟩] else r.consoles name := by
  have hbefore : ((r.register name).logger name).hasConsole = true ↔ r.consoles name ≠ [] := by
    rw [← h.consoles_register name name, hasConsole, consoles, Ne, List.filter_eq_nil_iff]
    simp
  rw [h.consoles_configure_self, hlacks.consoles]
  by_cases hconsoles : r.consoles name = []
  · have hnone := fun hhas => hbefore.mp hhas hconsoles
    rw [if_pos hconsoles, if_neg hnone, hconsoles, List.nil_append]
  · rw [if_neg hconsoles, if_pos (hbefore.mpr hconsoles), List.append_nil]

theorem SameName.consoles_eq (h : SameName name other) : r.consoles name = r.consoles other := by
  rw [consoles, consoles, handlers_logger, handlers_logger, h.find?_eq]

theorem Settled.consoles_configure_of_not_sameName (h : r.Settled) (hother : ¬SameName other name)
    (severity : Severity) (more : List Handler) :
    (r.configure name severity more).consoles other = r.consoles other := by
  rw [← h.consoles_register name other, consoles, consoles, handlers_logger, handlers_logger,
    find?_configure, if_neg hother]

/-- Consoles that a logger has are kept when a logger is set up, itself or another one. -/
theorem Settled.consoles_configure_of_ne_nil (h : r.Settled) (hother : r.consoles other ≠ [])
    (hlacks : ((r.register name).logger name).Lacks severity more) :
    (r.configure name severity more).consoles other = r.consoles other := by
  by_cases hsame : SameName other name
  · rw [hsame.consoles_eq] at hother ⊢
    rw [h.consoles_configure_of_lacks hlacks, if_neg hother, hsame.consoles_eq]
  · exact h.consoles_configure_of_not_sameName hsame severity more

theorem Settled.consoles_configure_nil (h : r.Settled) (name other : Text) (severity : Severity) :
    (r.configure name severity []).consoles other = r.consoles other := by
  by_cases hsame : SameName other name
  · rw [hsame.consoles_eq, h.consoles_configure_self, List.filter_nil, List.append_nil,
      hsame.consoles_eq]
  · exact h.consoles_configure_of_not_sameName hsame severity []

/-! ## Entries of a logger that was set up -/

theorem lineage_eq_cons (r : Registry) (name : Text) :
    r.lineage name = r.logger name :: (r.lineage name).tail :=
  ascend_eq_cons r _ _

/-- The level of the last set-up counts. -/
theorem Settled.isEnabled_configure (h : r.Settled) (name : Text) (severity : Severity)
    (more : List Handler) (least : Severity) :
    (r.configure name severity more).isEnabled name least = decide (severity ≤ least) := by
  have hlogger := logger_of_find? (h.find?_configure_self name severity more)
  rw [isEnabled, effectiveLevel?, lineage_eq_cons, hlogger, List.findSome?_cons]
  rfl

theorem Settled.handlersFor_eq_append (h : r.Settled) (hname : (r.find? name).isSome = true) :
    r.handlersFor name = (r.logger name).handlers ++ r.handlersAbove name := by
  obtain ⟨l, hl⟩ := Option.isSome_iff_exists.mp hname
  rw [h.handlersFor_eq hl, lineage_eq_cons, List.flatMap_cons, handlersAbove]

/-- What an entry adds to the console if its logger has one handler for it. -/
theorem Settled.console_offer {s : LogState} (h : s.registry.Settled)
    (hshown : s.registry.consoles name = [shown]) (entry : LogEntry)
    (hentry : entry.logger = name) :
    (s.offer entry).console = s.console ++
      ((if s.registry.writesOnConsole name entry.severity then
          LogTemplate.brief.line entry else []) ++
        if s.registry.isEnabled name entry.severity then
          LogState.consoleLines (s.registry.handlersAbove name) entry else []) := by
  subst hentry
  have hknown : (s.registry.find? entry.logger).isSome = true := by
    by_contra hnone
    rw [Option.not_isSome_iff_eq_none] at hnone
    rw [consoles, handlers_logger, hnone] at hshown
    cases hshown
  have hfor := h.handlersFor_eq_append hknown
  cases henabled : s.registry.isEnabled entry.logger entry.severity with
  | false =>
    rw [LogState.offer_of_not_isEnabled henabled, writesOnConsole, henabled, Bool.false_and]
    simp
  | true =>
    have hne : s.registry.handlersFor entry.logger ≠ [] := by
      rw [hfor]
      refine List.append_ne_nil_of_left_ne_nil (fun hnil => ?_) _
      rw [consoles, hnil] at hshown
      cases hshown
    have hown : LogState.consoleLines (s.registry.logger entry.logger).handlers entry =
        if shown.accepts entry.severity then LogTemplate.brief.line entry else [] := by
      rw [LogState.consoleLines, ← consoles, hshown, List.flatMap_singleton]
    rw [LogState.console_offer_of_isEnabled henabled hne, hfor, LogState.consoleLines_append, hown,
      writesOnConsole, henabled, hshown, if_pos rfl]
    simp

end Registry

namespace LogCall

open Logger Logging Registry

variable {s : LogState} {name level : Text} {severity : Severity} {calls : List LogCall}

/-- A call leaves the consoles of a logger as they are. -/
theorem consoles_after (h : s.registry.Settled) (hname : s.registry.consoles name ≠ [])
    (call : LogCall) : (call.after s).registry.consoles name = s.registry.consoles name := by
  cases call with
  | setup other level file =>
    cases hlevel : Severity.ofLevel? level with
    | none => rw [registry_after_setup_of_none hlevel]
    | some severity =>
      obtain ⟨more, hafter, hlacks⟩ := exists_registry_after_setup hlevel file
      rw [hafter, h.consoles_configure_of_ne_nil hname hlacks]
  | get other =>
    have hregister := h.consoles_register other name
    by_cases hheard : (s.registry.register other).hasHandlers other = true
    · rw [registry_after_get_of_hasHandlers hheard, hregister]
    · obtain ⟨more, hafter, hlacks⟩ := exists_registry_after_get hheard
      rw [hafter, (h.register other).consoles_configure_of_ne_nil (hregister ▸ hname) hlacks,
        hregister]
  | setLevel other level =>
    rcases registry_after_setLevel s other level with hafter | ⟨severity, hafter⟩
    · rw [hafter, h.consoles_register]
    · rw [hafter, h.consoles_configure_nil]

theorem consoles_afterAll {done : List LogCall} (h : Tidy calls s.registry) (hdone : done ⊆ calls)
    (hname : s.registry.consoles name ≠ []) :
    (afterAll done s).registry.consoles name = s.registry.consoles name := by
  induction done generalizing s with
  | nil => rfl
  | cons call rest ih =>
    rw [List.cons_subset] at hdone
    have hcall := consoles_after h.settled hname call
    rw [afterAll_cons, ih (h.after hdone.1) hdone.2 (hcall ▸ hname), hcall]

/-- The only console of a tidy logger. -/
theorem Tidy.exists_consoles_eq (h : Tidy calls s.registry)
    (hname : s.registry.consoles name ≠ []) : ∃ shown, s.registry.consoles name = [shown] := by
  cases hfind : s.registry.find? name with
  | none =>
    rw [consoles, handlers_logger, hfind] at hname
    exact absurd rfl hname
  | some l =>
    have hsingle := (h.single name l hfind).1
    rw [List.countP_eq_length_filter] at hsingle
    rw [consoles, logger_of_find? hfind] at hname ⊢
    exact List.length_eq_one_iff.mp
      (Nat.le_antisymm hsingle (List.length_pos_iff.mpr hname))

/-- At first no logger has handlers. After any calls a logger is set up at some level. It has one
handler for the console then: the one that it had before, or a new one at that level if it had none.
No later call changes the handler. Entries are written by it if they reach both its threshold and
the level, so that the level decides alone if and only if the threshold is not above it. What else
comes on the console is from the loggers above. -/
theorem console_threshold_is_never_lowered (start before s : LogState) (calls : List LogCall)
    (name level : Text) (file : Option Path) (severity : Severity) (h : start.registry.Bare)
    (hlevel : Severity.ofLevel? level = some severity) (hbefore : afterAll calls start = before)
    (hs : (setup name level file).after before = s) :
    ∃ shown : Handler,
      (before.registry.consoles name = [shown] ∨
        before.registry.consoles name = [] ∧ shown = ⟨.console, severity⟩) ∧
      (∀ later, (afterAll later s).registry.consoles name = [shown]) ∧
      (∀ least, s.registry.writesOnConsole name least = true ↔
        severity ≤ least ∧ shown.threshold ≤ least) ∧
      ((∀ least, s.registry.writesOnConsole name least = true ↔ severity ≤ least) ↔
        shown.threshold ≤ severity) ∧
      ∀ entry, entry.logger = name →
        (s.offer entry).console = s.console ++
          ((if s.registry.writesOnConsole name entry.severity then
              LogTemplate.brief.line entry else []) ++
            if severity ≤ entry.severity then
              LogState.consoleLines (s.registry.handlersAbove name) entry else []) := by
  have htidy (later : List LogCall) :
      Tidy (calls ++ setup name level file :: later) before.registry :=
    hbefore ▸ (Tidy.of_bare h _).afterAll (List.subset_append_left calls _)
  have hbeforeSettled := (htidy []).settled
  obtain ⟨more, hafter, hlacks⟩ : ∃ more,
      s.registry = before.registry.configure name severity more ∧
        ((before.registry.register name).logger name).Lacks severity more :=
    hs ▸ exists_registry_after_setup hlevel file
  have hsettled : s.registry.Settled := hafter ▸ hbeforeSettled.configure name severity more
  have henabled (least : Severity) :
      s.registry.isEnabled name least = decide (severity ≤ least) := by
    rw [hafter, hbeforeSettled.isEnabled_configure]
  have hconsoles := hbeforeSettled.consoles_configure_of_lacks hlacks
  rw [← hafter] at hconsoles
  obtain ⟨shown, hfrom, hshown⟩ : ∃ shown : Handler,
      (before.registry.consoles name = [shown] ∨
        before.registry.consoles name = [] ∧ shown = ⟨.console, severity⟩) ∧
      s.registry.consoles name = [shown] := by
    by_cases hnone : before.registry.consoles name = []
    · rw [if_pos hnone] at hconsoles
      exact ⟨_, .inr ⟨hnone, rfl⟩, hconsoles⟩
    · rw [if_neg hnone] at hconsoles
      obtain ⟨shown, hshown⟩ := (htidy []).exists_consoles_eq hnone
      exact ⟨shown, .inl hshown, hconsoles.trans hshown⟩
  have hwrites (least : Severity) : s.registry.writesOnConsole name least = true ↔
      severity ≤ least ∧ shown.threshold ≤ least := by
    simp [writesOnConsole, henabled, hshown, Handler.accepts]
  refine ⟨shown, hfrom, fun later => ?_, hwrites, ?_, fun entry hentry => ?_⟩
  · have hlater : Tidy (calls ++ setup name level file :: later) s.registry :=
      hs ▸ (htidy later).after (List.mem_append_right calls List.mem_cons_self)
    have hsubset : later ⊆ calls ++ setup name level file :: later :=
      List.subset_append_of_subset_right calls (List.subset_cons_self _ later)
    rw [consoles_afterAll hlater hsubset (by simp [hshown]), hshown]
  · simp only [hwrites]
    constructor
    · intro hlast
      exact ((hlast severity).mpr (Nat.le_refl severity.rank)).2
    · intro hbelow least
      exact and_iff_left_of_imp fun hleast => Nat.le_trans hbelow hleast
  · rw [hsettled.console_offer hshown entry hentry, henabled]
    simp only [decide_eq_true_eq]

/-- A logger is set up for errors and then for everything. Its console goes on showing errors. -/
theorem console_threshold_is_never_lowered_debug :
    ∃ before s,
      afterAll [setup (Text.ofString "a") (Text.ofString "ERROR") none] { files := default } =
        before ∧
      (setup (Text.ofString "a") (Text.ofString "DEBUG") none).after before = s ∧
      (∀ later, (afterAll later s).registry.consoles (Text.ofString "a") = [⟨.console, .error⟩]) ∧
      ∀ least, s.registry.writesOnConsole (Text.ofString "a") least = true ↔
        Severity.error ≤ least := by
  obtain ⟨shown, hfrom, hlater, hwrites, -⟩ :=
    console_threshold_is_never_lowered { files := default } _ _
      [setup (Text.ofString "a") (Text.ofString "ERROR") none] (Text.ofString "a")
      (Text.ofString "DEBUG") none .debug bare_new (by decide) rfl rfl
  have hconsoles : (afterAll [setup (Text.ofString "a") (Text.ofString "ERROR") none]
      { files := default }).registry.consoles (Text.ofString "a") = [⟨.console, .error⟩] := by
    decide +kernel
  obtain rfl : shown = ⟨.console, .error⟩ := by
    rcases hfrom with hold | ⟨hnone, -⟩
    · exact (List.singleton_inj.mp (hconsoles.symm.trans hold)).symm
    · exact absurd (hconsoles.symm.trans hnone) (by simp)
  refine ⟨_, _, rfl, rfl, hlater, fun least => ?_⟩
  rw [hwrites least]
  cases least <;> decide

/-- The entry is as severe as the last set-up asks for, and the console stays empty. -/
theorem lower_level_shows_no_more :
    ((afterAll [setup (Text.ofString "a") (Text.ofString "ERROR") none,
        setup (Text.ofString "a") (Text.ofString "DEBUG") none] { files := default }).offer
      { severity := .info, logger := Text.ofString "a", message := Text.ofString "x", time := [],
        origin := [] }).console = [] :=
  rfl

end LogCall

end LiteralScrub
