import LiteralScrub.Proofs.LoggerSetups

/-!
# Handlers after any calls

Calls set up loggers, get them ready and set their levels, and some of them fail. Whatever calls
there were, no logger has two handlers of a kind, and a logger that was got ready is heard. The
exception is a part of the program with two dots behind the program's name: it does not stand below
the program's logger, which is the one that is set up for it.
-/
namespace LiteralScrub

namespace Logging

open Logger

variable {name : Text}

/-! ## Names of parts of the program -/

/-- Two dots stand behind the name of the program. -/
def IsDetached (name : Text) : Prop := programName ++ [0x2E, 0x2E] <+: name

instance (name : Text) : Decidable (IsDetached name) := inferInstanceAs (Decidable (_ <+: name))

theorem not_isDetached_of_singleDots (h : SingleDots name) : ¬IsDetached name := by
  intro hdetached
  exact h (((List.suffix_append programName [0x2E, 0x2E]).isInfix).trans hdetached.isInfix)

theorem isProgramPart_iff : isProgramPart name = true ↔ programName ++ [0x2E] <+: name := by
  rw [isProgramPart, Text.startsWith, List.isPrefixOf_iff_prefix]

theorem isRootName_of_isProgramPart (h : isProgramPart name = true) : isRootName name ≠ true := by
  intro hroot
  rw [isRootName, Bool.or_eq_true, List.isEmpty_iff, decide_eq_true_eq] at hroot
  rcases hroot with rfl | rfl
  · exact absurd h (by decide)
  · exact absurd h (by decide)

theorem programName_mem_superiors (hpart : isProgramPart name = true) (h : ¬IsDetached name) :
    programName ∈ superiors name := by
  obtain ⟨later, rfl⟩ := isProgramPart_iff.mp hpart
  have hfirst : later.head? ≠ some 0x2E := by
    intro hdot
    obtain ⟨rest, rfl⟩ := List.head?_eq_some_iff.mp hdot
    exact h ⟨rest, by simp⟩
  have hmem : programName ∈ superiors (programName ++ 0x2E :: later) :=
    mem_superiors hfirst (by decide)
  simpa using hmem

end Logging

namespace Registry

open Logger Logging

variable {r : Registry} {name other new : Text} {l : Logger} {severity : Severity}
  {more : List Handler}

/-! ## Configured loggers -/

theorem find?_configure (r : Registry) (name other : Text) (severity : Severity)
    (more : List Handler) :
    (r.configure name severity more).find? other =
      if SameName other name then
        ((r.register name).find? other).map (configured severity more)
      else (r.register name).find? other :=
  find?_update (configured_keepsPlace severity more).name _ _ _

theorem Settled.configure (h : r.Settled) (name : Text) (severity : Severity)
    (more : List Handler) : (r.configure name severity more).Settled :=
  (h.register name).update (configured_keepsPlace severity more) name

theorem continues_configured (r : Registry) (name : Text) (severity : Severity)
    (more : List Handler) : Continues (r.register name) (r.configure name severity more) ∅ :=
  (configured_keepsPlace severity more).continues_update
    (fun _ hl => List.append_ne_nil_of_left_ne_nil hl more) (r.register name) name

theorem Settled.continues_configure (h : r.Settled) (name : Text) (severity : Severity)
    (more : List Handler) : Continues r (r.configure name severity more) {name} := by
  rw [← Set.union_empty {name}]
  exact (h.continues_register name).trans (r.continues_configured name severity more)

theorem Settled.find?_register_self (h : r.Settled) (name : Text) :
    (r.register name).find? name = some ((r.register name).logger name) := by
  have hknown : ((r.register name).find? name).isSome = true := by
    cases hname : r.find? name with
    | none => exact (isSome_find?_register h.root hname name).mpr (.inl rfl)
    | some l =>
      rw [register_of_known (by simp [hname]), hname]
      rfl
  obtain ⟨l, hl⟩ := Option.isSome_iff_exists.mp hknown
  rw [logger_of_find? hl, hl]

theorem Settled.find?_configure_self (h : r.Settled) (name : Text) (severity : Severity)
    (more : List Handler) :
    (r.configure name severity more).find? name =
      some (configured severity more ((r.register name).logger name)) := by
  rw [find?_configure, if_pos (.refl name), h.find?_register_self, Option.map_some]

/-- After a set-up the logger has a handler. -/
theorem Settled.exists_find?_configure (h : r.Settled)
    (hlacks : ((r.register name).logger name).Lacks severity more) :
    ∃ l, (r.configure name severity more).find? name = some l ∧ l.handlers ≠ [] := by
  refine ⟨_, h.find?_configure_self name severity more, fun hnil => ?_⟩
  obtain ⟨hnone, rfl⟩ := List.append_eq_nil_iff.mp hnil
  have hconsoles := hlacks.consoles
  simp [hasConsole, hnone] at hconsoles

/-! ## No handlers at first -/

/-- Loggers may be known, but none has a handler. -/
structure Bare (r : Registry) : Prop where
  settled : r.Settled
  handlers : ∀ name l, r.find? name = some l → l.handlers = []

theorem bare_new : Bare {} where
  settled := by
    refine ⟨rfl, fun name l hl => ?_, fun name l hname hl => ?_⟩
    · rw [find?] at hl
      split_ifs at hl
      · cases hl
        rfl
      · cases hl
    · rw [find?, if_neg hname] at hl
      cases hl
  handlers name l hl := by
    rw [find?] at hl
    split_ifs at hl
    · cases hl
      rfl
    · cases hl

theorem Bare.register (h : r.Bare) (new : Text) : (r.register new).Bare := by
  refine ⟨h.settled.register new, fun name l hl => ?_⟩
  rcases handlers_of_find?_register h.settled.root hl with hnil | ⟨old, hold, heq⟩
  · exact hnil
  · rw [heq, h.handlers name old hold]

/-! ## Parts of the program -/

/-- Other parts of the program are heard by the handlers of the program's logger. -/
theorem Settled.heard_of_program (h : r.Settled) {program : Logger}
    (hprogram : r.find? programName = some program) (hhandlers : program.handlers ≠ [])
    (hpart : isProgramPart name = true) (hname : ¬IsDetached name) (hl : r.find? name = some l) :
    r.Heard name := by
  induction hlength : name.length using Nat.strong_induction_on generalizing name l with
  | _ length ih =>
    obtain ⟨parent, hparent, hplaced⟩ :=
      h.placed name l (isRootName_of_isProgramPart hpart) hl
    have hnear := hplaced.nearest _ (programName_mem_superiors hpart hname) (by simp [hprogram])
    refine .above hl hparent ?_
    by_cases heq : parent = programName
    · exact heq ▸ .own hprogram hhandlers
    · have hmem : parent ∈ superiors name := by
        refine hplaced.above.resolve_left fun hrootName => ?_
        subst hrootName
        exact absurd hnear (by decide)
      have hbelow := isPrefix_of_mem_superiors hmem
      have hlonger : programName.length < parent.length :=
        lt_of_le_of_ne hnear.length_le fun hlen => heq (hnear.eq_of_length hlen).symm
      refine ih parent.length (hlength ▸ length_lt_of_mem_superiors hmem) ?_ ?_
        (h.find?_parent hl hparent) rfl
      · rw [isProgramPart_iff] at hpart ⊢
        exact List.prefix_of_prefix_length_le hpart hbelow (by simpa using hlonger)
      · exact fun hdetached => hname (hdetached.trans hbelow)

/-! ## One logger set up -/

/-- A logger that is set up is heard, and so is what was heard before. -/
theorem Settled.heard_configure (h : r.Settled)
    (hlacks : ((r.register name).logger name).Lacks severity more) :
    (r.configure name severity more).Heard name := by
  obtain ⟨l, hl, hhandlers⟩ := h.exists_find?_configure hlacks
  exact .own hl hhandlers

theorem Heard.configure (hheard : r.Heard other) (h : r.Settled)
    (hlacks : ((r.register name).logger name).Lacks severity more) :
    (r.configure name severity more).Heard other := by
  refine hheard.of_continues_of_heard h (h.continues_configure name severity more) ?_
  rintro _ rfl
  exact h.heard_configure hlacks

theorem Heard.configure_of_register (hheard : (r.register name).Heard other) (h : r.Settled)
    (severity : Severity) (more : List Handler) : (r.configure name severity more).Heard other :=
  hheard.of_continues_of_heard (h.register name) (r.continues_configured name severity more)
    fun _ hnew => hnew.elim

/-- What was heard is heard with a new logger that is heard. -/
theorem Heard.register_of_heard (hheard : r.Heard other) (h : r.Settled)
    (hnew : (r.register new).Heard new) : (r.register new).Heard other := by
  refine hheard.of_continues_of_heard h (h.continues_register new) ?_
  rintro _ rfl
  exact hnew

theorem Settled.heard_of_hasHandlers_register (h : r.Settled)
    (hhandlers : (r.register name).hasHandlers name = true) : (r.register name).Heard name :=
  ((h.register name).hasHandlers_iff (h.find?_register_self name)).mp hhandlers

end Registry

/-! ## Calls -/

inductive LogCall where
  | setup (name level : Text) (file : Option Path)
  | get (name : Text)
  | setLevel (name level : Text)
  deriving DecidableEq, Repr

namespace LogCall

open Logger Logging Registry

/-- What a call does. The logger whose level is set is looked up by its name. -/
def run : LogCall → Logging Unit
  | setup name level file => Logging.setup name level file
  | get name => Logging.prepare name
  | setLevel name level => do
    Logging.register name
    Logging.setLevel name level

/-- The state after a call, whether it fails or not. -/
def after (call : LogCall) (s : LogState) : LogState := (outcome call.run s).2

/-- The state after calls one after the other. -/
def afterAll (calls : List LogCall) (s : LogState) : LogState :=
  calls.foldl (fun s call => call.after s) s

theorem afterAll_cons (call : LogCall) (rest : List LogCall) (s : LogState) :
    afterAll (call :: rest) s = afterAll rest (call.after s) := rfl

variable {s : LogState} {name level : Text} {severity : Severity} {more : List Handler}

theorem registry_after_setup_of_none (h : Severity.ofLevel? level = none) (file : Option Path) :
    ((setup name level file).after s).registry = s.registry := by
  rw [after, run, outcome_setup_of_none h]

theorem exists_registry_after_setup (h : Severity.ofLevel? level = some severity)
    (file : Option Path) :
    ∃ more, ((setup name level file).after s).registry = s.registry.configure name severity more ∧
      ((s.registry.register name).logger name).Lacks severity more := by
  obtain ⟨result, files, more, hsetup, hlacks⟩ := exists_outcome_setup h s name file
  exact ⟨more, by rw [after, run, hsetup], hlacks⟩

theorem registry_after_get_of_hasHandlers
    (h : (s.registry.register name).hasHandlers name = true) :
    ((get name).after s).registry = s.registry.register name := by
  rw [after, run, outcome_prepare, if_pos h]

theorem exists_registry_after_get (h : (s.registry.register name).hasHandlers name ≠ true) :
    ∃ more, ((get name).after s).registry =
        (s.registry.register name).configure (setUpFor name) .info more ∧
      (((s.registry.register name).register (setUpFor name)).logger (setUpFor name)).Lacks
        .info more := by
  obtain ⟨result, files, more, hsetup, hlacks⟩ := exists_outcome_setup ofLevel?_infoLevel
    { s with registry := s.registry.register name } (setUpFor name) none
  refine ⟨more, ?_, hlacks⟩
  rw [after, run, outcome_prepare, if_neg h, hsetup]

theorem registry_after_setLevel (s : LogState) (name level : Text) :
    ((setLevel name level).after s).registry = s.registry.register name ∨
      ∃ severity, ((setLevel name level).after s).registry =
        s.registry.configure name severity [] := by
  rw [after, run, outcome_bind_of_ok (outcome_register s name)]
  cases hlevel : Severity.ofLevel? level with
  | none => exact .inl (by rw [outcome_setLevel_of_none hlevel])
  | some severity =>
    refine .inr ⟨severity, ?_⟩
    rw [outcome_setLevel_of_some hlevel]
    exact Registry.configure_nil s.registry name severity

/-! ## Handlers -/

/-- Every logger has at most one handler of a kind, and a part of the program has one only if it was
set up itself. -/
structure Tidy (calls : List LogCall) (r : Registry) : Prop where
  settled : r.Settled
  single : ∀ name l, r.find? name = some l →
    l.handlers.countP Handler.isConsole ≤ 1 ∧ l.handlers.countP Handler.isFile ≤ 1
  parts : ∀ name l, r.find? name = some l → isProgramPart name = true → l.handlers ≠ [] →
    ∃ level file, setup name level file ∈ calls

variable {calls : List LogCall} {r : Registry}

theorem Tidy.of_bare (h : r.Bare) (calls : List LogCall) : Tidy calls r where
  settled := h.settled
  single name l hl := by simp [h.handlers name l hl]
  parts name l hl _ hhandlers := absurd (h.handlers name l hl) hhandlers

theorem Tidy.register (h : Tidy calls r) (new : Text) : Tidy calls (r.register new) := by
  have hroot := h.settled.root
  refine ⟨h.settled.register new, fun name l hl => ?_, fun name l hl hpart hhandlers => ?_⟩
  · rcases handlers_of_find?_register hroot hl with hnil | ⟨old, hold, heq⟩
    · simp [hnil]
    · rw [heq]
      exact h.single name old hold
  · rcases handlers_of_find?_register hroot hl with hnil | ⟨old, hold, heq⟩
    · exact absurd hnil hhandlers
    · exact h.parts name old hold hpart (heq ▸ hhandlers)

/-- A change of one logger is tidy if its handlers are, and if more of them come to a part of the
program only when it is set up. -/
theorem Tidy.configure (h : Tidy calls r)
    (hsingle : ∀ l, (r.register name).find? name = some l →
      (l.handlers ++ more).countP Handler.isConsole ≤ 1 ∧
        (l.handlers ++ more).countP Handler.isFile ≤ 1)
    (hpart : isProgramPart name = true → more ≠ [] → ∃ level file, setup name level file ∈ calls) :
    Tidy calls (r.configure name severity more) := by
  have hregister := h.register name
  refine ⟨h.settled.configure name severity more, fun other l hl => ?_,
    fun other l hl hother hhandlers => ?_⟩
  · rw [find?_configure] at hl
    split_ifs at hl with hsame
    · obtain ⟨old, hold, rfl⟩ := Option.map_eq_some_iff.mp hl
      exact hsingle old (hsame.find?_eq ▸ hold)
    · exact hregister.single other l hl
  · rw [find?_configure] at hl
    split_ifs at hl with hsame
    · obtain ⟨old, hold, rfl⟩ := Option.map_eq_some_iff.mp hl
      obtain rfl := (sameName_iff_eq (isRootName_of_isProgramPart hother)).mp hsame
      by_cases hmore : more = []
      · rw [configured, hmore, List.append_nil] at hhandlers
        exact hregister.parts other old hold hother hhandlers
      · exact hpart hother hmore
    · exact hregister.parts other l hl hother hhandlers

theorem Tidy.configure_of_lacks (h : Tidy calls r)
    (hlacks : ((r.register name).logger name).Lacks severity more)
    (hpart : isProgramPart name = true → ∃ level file, setup name level file ∈ calls) :
    Tidy calls (r.configure name severity more) := by
  refine h.configure (fun l hl => ?_) fun hname _ => hpart hname
  rw [logger_of_find? hl] at hlacks
  obtain ⟨hconsole, hfile⟩ := (h.register name).single name l hl
  exact ⟨hlacks.countP_isConsole hconsole, hlacks.countP_isFile hfile⟩

/-- A call leaves the loggers tidy. -/
theorem Tidy.after {call : LogCall} (h : Tidy calls s.registry) (hcall : call ∈ calls) :
    Tidy calls (call.after s).registry := by
  cases call with
  | setup name level file =>
    cases hlevel : Severity.ofLevel? level with
    | none => rwa [registry_after_setup_of_none hlevel]
    | some severity =>
      obtain ⟨more, hafter, hlacks⟩ := exists_registry_after_setup hlevel file
      rw [hafter]
      exact h.configure_of_lacks hlacks fun _ => ⟨level, file, hcall⟩
  | get name =>
    by_cases hheard : (s.registry.register name).hasHandlers name = true
    · rw [registry_after_get_of_hasHandlers hheard]
      exact h.register name
    · obtain ⟨more, hafter, hlacks⟩ := exists_registry_after_get hheard
      rw [hafter]
      refine (h.register name).configure_of_lacks hlacks fun hpart => ?_
      -- neither the program's logger nor one that is set up in its own name is a part
      unfold setUpFor at hpart
      split_ifs at hpart with hname
      · exact absurd hpart (by decide)
      · exact absurd hpart hname
  | setLevel name level =>
    rcases registry_after_setLevel s name level with hafter | ⟨severity, hafter⟩
    · rw [hafter]
      exact h.register name
    · rw [hafter]
      refine h.configure (fun l hl => ?_) fun _ hmore => absurd rfl hmore
      rw [List.append_nil]
      exact (h.register name).single name l hl

theorem Tidy.afterAll {done : List LogCall} (h : Tidy calls s.registry) (hdone : done ⊆ calls) :
    Tidy calls (afterAll done s).registry := by
  induction done generalizing s with
  | nil => exact h
  | cons call rest ih =>
    rw [List.cons_subset] at hdone
    exact ih (h.after hdone.1) hdone.2

/-! ## Being heard -/

/-- A logger that is got ready is heard, unless it is detached. -/
theorem heard_after_get (h : s.registry.Settled) (hname : ¬IsDetached name) :
    ((get name).after s).registry.Heard name := by
  by_cases hhandlers : (s.registry.register name).hasHandlers name = true
  · rw [registry_after_get_of_hasHandlers hhandlers]
    exact h.heard_of_hasHandlers_register hhandlers
  · obtain ⟨more, hafter, hlacks⟩ := exists_registry_after_get hhandlers
    rw [hafter]
    have hregister := h.register name
    by_cases hpart : isProgramPart name = true
    · have htarget : setUpFor name = programName := if_pos hpart
      rw [htarget] at hlacks ⊢
      obtain ⟨program, hprogram, hne⟩ := hregister.exists_find?_configure hlacks
      have hsettled := hregister.configure programName .info more
      obtain ⟨l, hl, -⟩ := hregister.continues_configure programName .info more name _
        (h.find?_register_self name)
      exact hsettled.heard_of_program hprogram hne hpart hname hl
    · have htarget : setUpFor name = name := if_neg hpart
      rw [htarget] at hlacks ⊢
      exact hregister.heard_configure hlacks

/-- The level is set of a logger that is known already, if one is set. -/
def OfKnown (s : LogState) (call : LogCall) : Prop :=
  ∀ name level, call = setLevel name level → (s.registry.find? name).isSome = true

variable {other : Text}

/-- A logger that is heard is heard after a call. -/
theorem heard_after {call : LogCall} (hheard : s.registry.Heard other) (h : s.registry.Settled)
    (hother : ¬IsDetached other) (hcall : SingleDots other ∨ call.OfKnown s) :
    (call.after s).registry.Heard other := by
  cases call with
  | setup name level file =>
    cases hlevel : Severity.ofLevel? level with
    | none => rwa [registry_after_setup_of_none hlevel]
    | some severity =>
      obtain ⟨more, hafter, hlacks⟩ := exists_registry_after_setup hlevel file
      rw [hafter]
      exact hheard.configure h hlacks
  | get name =>
    have hgot (hname : ¬IsDetached name) := heard_after_get h hname
    by_cases hhandlers : (s.registry.register name).hasHandlers name = true
    · rw [registry_after_get_of_hasHandlers hhandlers]
      exact hheard.register_of_heard h (h.heard_of_hasHandlers_register hhandlers)
    · obtain ⟨more, hafter, hlacks⟩ := exists_registry_after_get hhandlers
      rw [hafter] at hgot ⊢
      have hcontinues := (h.continues_register name).trans
        ((h.register name).continues_configure (setUpFor name) .info more)
      refine hheard.of_continues (P := fun name => ¬IsDetached name) h hcontinues (by decide) ?_ ?_
        hother
      · exact fun name above hname habove hdetached =>
          hname (hdetached.trans (isPrefix_of_mem_superiors habove))
      · rintro new (rfl | rfl) hnew
        · exact hgot hnew
        · exact (h.register name).heard_configure hlacks
  | setLevel name level =>
    have hregister : (s.registry.register name).Heard other := by
      rcases hcall with hdots | hknown
      · exact hheard.register_of_singleDots h name hdots
      · rwa [register_of_known (hknown name level rfl)]
    rcases registry_after_setLevel s name level with hafter | ⟨severity, hafter⟩
    · rwa [hafter]
    · rw [hafter]
      exact hregister.configure_of_register h severity []

/-- Levels are only set of loggers that are known at that time. -/
def AllOfKnown : LogState → List LogCall → Prop
  | _, [] => True
  | s, call :: rest => call.OfKnown s ∧ AllOfKnown (call.after s) rest

theorem heard_afterAll {done : List LogCall} (hheard : s.registry.Heard other)
    (h : Tidy calls s.registry) (hdone : done ⊆ calls) (hother : ¬IsDetached other)
    (hknown : SingleDots other ∨ AllOfKnown s done) : (afterAll done s).registry.Heard other := by
  induction done generalizing s with
  | nil => exact hheard
  | cons call rest ih =>
    rw [List.cons_subset] at hdone
    have hafter := heard_after hheard h.settled hother (hknown.imp_right And.left)
    exact ih hafter (h.after hdone.1) hdone.2 (hknown.imp_right And.right)

theorem heard_afterAll_of_get {done : List LogCall} (hget : get name ∈ done)
    (h : Tidy calls s.registry) (hdone : done ⊆ calls) (hname : ¬IsDetached name)
    (hknown : SingleDots name ∨ AllOfKnown s done) : (afterAll done s).registry.Heard name := by
  induction done generalizing s with
  | nil => cases hget
  | cons call rest ih =>
    rw [List.cons_subset] at hdone
    have htidy := h.after hdone.1
    have hrest := hknown.imp_right And.right
    rw [afterAll_cons]
    rcases List.mem_cons.mp hget with rfl | hget
    · exact heard_afterAll (heard_after_get h.settled hname) htidy hdone.2 hname hrest
    · exact ih hget htidy hdone.2 hrest

theorem Tidy.hasHandlers_of_heard (h : Tidy calls r) (hheard : r.Heard name) :
    r.hasHandlers name = true := by
  have hknown : ∃ l, r.find? name = some l := by
    cases hheard with
    | own hl _ => exact ⟨_, hl⟩
    | above hl _ _ => exact ⟨_, hl⟩
  obtain ⟨l, hl⟩ := hknown
  exact (h.settled.hasHandlers_iff hl).mpr hheard

/-- At first no logger has handlers. After any calls, failed ones among them, every logger has at
most one handler for the console and one for a file, and a part of the program has one only if it
was set up by its own name. A logger that was got ready is heard if no two dots stand side by side
in its name. If levels are set of known loggers only, it is heard unless the two dots stand right
behind the program's name. -/
theorem calls_never_stack_handlers (start : LogState) (calls : List LogCall)
    (h : start.registry.Bare) :
    (∀ name l, (afterAll calls start).registry.find? name = some l →
      l.handlers.countP Handler.isConsole ≤ 1 ∧ l.handlers.countP Handler.isFile ≤ 1 ∧
        (isProgramPart name = true → l.handlers ≠ [] →
          ∃ level file, setup name level file ∈ calls)) ∧
    ∀ name, get name ∈ calls →
      (SingleDots name → (afterAll calls start).registry.hasHandlers name = true) ∧
      (AllOfKnown start calls → ¬IsDetached name →
        (afterAll calls start).registry.hasHandlers name = true) := by
  have hstart : Tidy calls start.registry := .of_bare h calls
  have hend : Tidy calls (afterAll calls start).registry := hstart.afterAll (List.Subset.refl calls)
  refine ⟨fun name l hl => ?_, fun name hget => ⟨fun hdots => ?_, fun hknown hname => ?_⟩⟩
  · obtain ⟨hconsole, hfile⟩ := hend.single name l hl
    exact ⟨hconsole, hfile, hend.parts name l hl⟩
  · exact hend.hasHandlers_of_heard (heard_afterAll_of_get hget hstart (List.Subset.refl calls)
      (not_isDetached_of_singleDots hdots) (.inl hdots))
  · exact hend.hasHandlers_of_heard (heard_afterAll_of_get hget hstart (List.Subset.refl calls)
      hname (.inr hknown))

/-- A hierarchy in which loggers are known below one that is not. -/
def knownBelow : LogState :=
  { registry := ({} : Registry).register (Text.ofString "a..b.c"), files := default }

/-- A set-up that fails, and a logger that is set up once more after it was got ready. -/
def mixedCalls : List LogCall := [
  setup (Text.ofString "a") (Text.ofString "loud") none,
  get (Text.ofString "a..b"),
  setLevel (Text.ofString "a..b") (Text.ofString "debug"),
  get (Text.ofString "scrubber.core"),
  setup (Text.ofString "a..b") (Text.ofString "error") none]

theorem calls_never_stack_handlers_mixed :
    knownBelow.registry.Bare ∧ AllOfKnown knownBelow mixedCalls ∧
      get (Text.ofString "a..b") ∈ mixedCalls ∧ ¬IsDetached (Text.ofString "a..b") ∧
      (afterAll mixedCalls knownBelow).registry.hasHandlers (Text.ofString "a..b") = true ∧
      get (Text.ofString "scrubber.core") ∈ mixedCalls ∧
      SingleDots (Text.ofString "scrubber.core") ∧
      (afterAll mixedCalls knownBelow).registry.hasHandlers (Text.ofString "scrubber.core") = true ∧
      ∃ l, (afterAll mixedCalls knownBelow).registry.find? (Text.ofString "a..b") = some l ∧
        l.handlers ≠ [] ∧ l.handlers.countP Handler.isConsole ≤ 1 := by
  have hbare : knownBelow.registry.Bare := bare_new.register (Text.ofString "a..b.c")
  have hknown : AllOfKnown knownBelow mixedCalls := by
    refine ⟨by rintro _ _ ⟨⟩, by rintro _ _ ⟨⟩, ?_, by rintro _ _ ⟨⟩, by rintro _ _ ⟨⟩, trivial⟩
    rintro name level ⟨⟩
    rfl
  have hdots : SingleDots (Text.ofString "scrubber.core") := by
    unfold SingleDots
    decide
  obtain ⟨hsingle, hheard⟩ := calls_never_stack_handlers knownBelow mixedCalls hbare
  have hget : get (Text.ofString "a..b") ∈ mixedCalls := by decide
  have hgetPart : get (Text.ofString "scrubber.core") ∈ mixedCalls := by decide
  refine ⟨hbare, hknown, hget, by decide, (hheard _ hget).2 hknown (by decide), hgetPart, hdots,
    (hheard _ hgetPart).1 hdots, ?_⟩
  have hhandlers : ((afterAll mixedCalls knownBelow).registry.find? (Text.ofString "a..b")).map
      Logger.handlers = some [⟨.console, .info⟩] := by decide +kernel
  obtain ⟨l, hl, heq⟩ := Option.map_eq_some_iff.mp hhandlers
  exact ⟨l, hl, heq ▸ List.cons_ne_nil _ _, (hsingle _ l hl).1⟩

/-- A part of the program with two dots is got ready. The program's logger is set up for it and does
not hear it. -/
theorem get_leaves_detached_unheard :
    (afterAll [get (Text.ofString "scrubber..x")] { files := default }).registry.hasHandlers
        (Text.ofString "scrubber..x") = false ∧
      (afterAll [get (Text.ofString "scrubber..x")] { files := default }).registry.hasHandlers
        programName = true :=
  ⟨rfl, rfl⟩

end LogCall

end LiteralScrub
