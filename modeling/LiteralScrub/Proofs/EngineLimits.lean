import Mathlib
import LiteralScrub.Proofs.Configurations
import LiteralScrub.Proofs.JsonLimits
import LiteralScrub.Proofs.PatternLimits

/-!
# How engines fail to be built

An engine is built from a text, or the text is at fault: it is no JSON, no configuration, or one of
its patterns is malformed. Besides, there are texts and patterns that hold too much or are nested
too deep for the host. They are told apart here from all others.
-/
namespace LiteralScrub

open Logged

variable {limits : Limits} {log : Array LogRecord}

/-! ## Texts -/

theorem Config.value_ofJsonText_default {text : Option Text}
    (h : ∀ t, text = some t → t.all isSpace = true) :
    (ofJsonText limits text).run.value log = .ok {} := by
  cases text with
  | none => rfl
  | some t =>
    unfold ofJsonText
    dsimp only
    rw [if_pos (h t rfl)]
    rfl

theorem Config.value_ofJsonText_document {t : Text} {document : Json}
    (hspace : t.all isSpace = false) (h : Json.read limits.json t = .ok document) :
    (ofJsonText limits (some t)).run.value log =
      ((ofDocument document).run.value log).mapError .config := by
  unfold ofJsonText
  dsimp only
  rw [if_neg (by simp [hspace]), h]
  rfl

theorem Config.value_ofJsonText_malformed {t : Text} {cause : Json.ReadCause} {left : Nat}
    (hspace : t.all isSpace = false)
    (h : Json.read limits.json t = .error (.malformed cause left)) :
    (ofJsonText limits (some t)).run.value log =
      .error (.config (.invalidJson ((Json.ReadFault.malformed cause left).message t))) := by
  unfold ofJsonText
  dsimp only
  rw [if_neg (by simp [hspace]), h]
  rfl

theorem Config.value_ofJsonText_unreadable {t : Text} {fault : Json.ReadFault}
    (hspace : t.all isSpace = false) (h : Json.read limits.json t = .error fault)
    (hfault : ∀ cause left, fault ≠ .malformed cause left) :
    (ofJsonText limits (some t)).run.value log = .error (.unreadable t fault) := by
  unfold ofJsonText
  dsimp only
  rw [if_neg (by simp [hspace]), h]
  cases fault with
  | malformed cause left => exact absurd rfl (hfault cause left)
  | _ => rfl

/-- A text is unreadable only for a fault that is not in its writing. -/
theorem Config.value_ofJsonText_eq_unreadable {text : Option Text} {t : Text}
    {fault : Json.ReadFault}
    (h : (ofJsonText limits text).run.value log = .error (.unreadable t fault)) :
    text = some t ∧ t.all isSpace = false ∧ Json.read limits.json t = .error fault ∧
      ∀ cause left, fault ≠ .malformed cause left := by
  by_cases hdefault : ∀ t, text = some t → t.all isSpace = true
  · rw [value_ofJsonText_default hdefault] at h
    cases h
  · obtain ⟨t', hdefault⟩ := not_forall.mp hdefault
    obtain ⟨rfl, hspace⟩ := Classical.not_imp.mp hdefault
    rw [Bool.not_eq_true] at hspace
    cases hread : Json.read limits.json t' with
    | ok document =>
      rw [value_ofJsonText_document hspace hread] at h
      cases hvalue : (ofDocument document).run.value log <;> rw [hvalue] at h <;> cases h
    | error fault' =>
      by_cases hmalformed : ∃ cause left, fault' = .malformed cause left
      · obtain ⟨cause, left, rfl⟩ := hmalformed
        rw [value_ofJsonText_malformed hspace hread] at h
        cases h
      · simp only [not_exists] at hmalformed
        rw [value_ofJsonText_unreadable hspace hread hmalformed] at h
        cases h
        exact ⟨rfl, hspace, hread, hmalformed⟩

namespace Engine

theorem value_ofJsonText (limits : Limits) (text : Option Text) (log : Array LogRecord) :
    ∃ log', (ofJsonText limits text).run.value log =
      ((Config.ofJsonText limits text).run.value log).mapError .document >>=
        fun config => (build limits config).run.value log' :=
  value_run_bind ((Config.ofJsonText limits text).adapt EngineError.document)
    (build limits) log

/-- Building fails for a limit just if the first pattern that does not compile is not malformed. -/
theorem value_build_eq_unsupported_iff (limits : Limits) (config : Config) (e : EngineError) :
    ((build limits config).run.value log = .error e ∧ e.isConfigurationFault = false) ↔
      ∃ before source rest failure, e = .pattern (.unsupported source failure) ∧
        config.sources = before ++ source :: rest ∧ Compile limits before ∧
        Regex.compile limits.patternTooDeep source = .error failure ∧
        ∀ fault position, failure ≠ .malformed fault position := by
  constructor
  · rintro ⟨hbuild, hfault⟩
    rcases compiledFrom_or_fails limits 0 config.sources with
      ⟨patterns, hpatterns⟩ | ⟨before, source, rest, failure, hsources, hbefore, hsource⟩
    · rw [value_build_of_compiledFrom hpatterns] at hbuild
      cases hbuild
    · by_cases hmalformed : ∃ fault position, failure = .malformed fault position
      · obtain ⟨fault, position, rfl⟩ := hmalformed
        rw [value_build_of_fails hsources hbefore (compilePattern_of_malformed hsource)] at hbuild
        cases hbuild
        cases hfault
      · simp only [not_exists] at hmalformed
        rw [value_build_of_fails hsources hbefore
          (compilePattern_of_unsupported hsource hmalformed)] at hbuild
        cases hbuild
        exact ⟨before, source, rest, failure, rfl, hsources, hbefore, hsource, hmalformed⟩
  · rintro ⟨before, source, rest, failure, rfl, hsources, hbefore, hsource, hfailure⟩
    exact ⟨value_build_of_fails hsources hbefore
      (compilePattern_of_unsupported hsource hfailure), rfl⟩

/-- Building an engine from a text fails otherwise than for its configuration in two cases only. The
text cannot be read though it is not malformed: it holds an integer of too many digits, or too many
arrays and objects. Or the first pattern that does not compile is not malformed: it holds a bound or
a code point that is too large, or flags that contradict each other, or it is nested too deep. -/
theorem ofJsonText_fails_beyond_configuration (limits : Limits) (text : Option Text)
    (log : Array LogRecord) (e : EngineError) :
    ((ofJsonText limits text).run.value log = .error e ∧ e.isConfigurationFault = false) ↔
      (∃ t fault, e = .document (.unreadable t fault) ∧ text = some t ∧
        t.all isSpace = false ∧ Json.read limits.json t = .error fault ∧
        (∀ cause left, fault ≠ .malformed cause left) ∧ fault.Founded limits.json t) ∨
      ∃ config before source rest failure, e = .pattern (.unsupported source failure) ∧
        (Config.ofJsonText limits text).run.value log = .ok config ∧
        config.sources = before ++ source :: rest ∧ Compile limits before ∧
        Regex.compile limits.patternTooDeep source = .error failure ∧
        (∀ fault position, failure ≠ .malformed fault position) ∧
        failure.FoundedWithin limits.patternTooDeep source := by
  obtain ⟨log', hvalue⟩ := value_ofJsonText limits text log
  rw [hvalue]
  constructor
  · rintro ⟨herror, hfault⟩
    cases hconfig : (Config.ofJsonText limits text).run.value log with
    | error e' =>
      rw [hconfig] at herror
      obtain rfl : EngineError.document e' = e := Except.error.inj herror
      cases e' with
      | config e' => cases hfault
      | unreadable t fault =>
        obtain ⟨htext, hspace, hread, hnot⟩ := Config.value_ofJsonText_eq_unreadable hconfig
        exact .inl ⟨t, fault, rfl, htext, hspace, hread, hnot, Json.read_founded hread⟩
    | ok config =>
      rw [hconfig] at herror
      obtain ⟨before, source, rest, failure, rfl, hsources, hbefore, hsource, hfailure⟩ :=
        (value_build_eq_unsupported_iff limits config e).mp ⟨herror, hfault⟩
      exact .inr ⟨config, before, source, rest, failure, rfl, rfl, hsources, hbefore, hsource,
        hfailure, Regex.compile_founded hsource⟩
  · rintro (⟨t, fault, rfl, rfl, hspace, hread, hnot, -⟩ |
      ⟨config, before, source, rest, failure, rfl, hconfig, hsources, hbefore, hsource, hfailure, -⟩)
    · rw [Config.value_ofJsonText_unreadable hspace hread hnot]
      exact ⟨rfl, rfl⟩
    · rw [hconfig]
      exact (value_build_eq_unsupported_iff limits config _).mpr
        ⟨before, source, rest, failure, rfl, hsources, hbefore, hsource, hfailure⟩

/-- A text that is JSON, and a configuration in which the only pattern is well written. -/
def overflowing : Text := Text.ofString "\x7b\"matches\": [\"a\x7b4294967295\x7d\"]\x7d"

/-- The failure of a pattern with a large bound is none of the configuration. -/
theorem ofJsonText_overflowing :
    ∃ e, (ofJsonText default (some overflowing)).run.value #[] = .error e ∧
      e.isConfigurationFault = false := by
  have h : (ofJsonText default (some overflowing)).run.value #[] =
      .error (.pattern (.unsupported (Text.ofString "a\x7b4294967295\x7d") .repetitionTooLarge)) := by
    cbv
  exact ⟨_, h, rfl⟩

end Engine

end LiteralScrub
