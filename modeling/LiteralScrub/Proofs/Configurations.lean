import LiteralScrub.Proofs.Records

/-!
# From configurations to engines

A configuration document is checked in a fixed order: what it is, its list of patterns, the entries
of the list, the mask, and at last each pattern. The first check that fails decides, whatever else
is wrong.
-/
namespace LiteralScrub

open Logged

variable {log : Array LogRecord}

/-! ## Patterns -/

/-- All the sources are well-formed patterns. -/
def Compile (limits : Limits) (sources : List Text) : Prop :=
  ∀ source ∈ sources, ∃ program, Regex.compile limits.patternTooDeep source = .ok program

/-- The patterns are the compiled sources in order, with their places counted from `index`. -/
def CompiledFrom (limits : Limits) (index : Nat) (sources : List Text) (patterns : List Pattern) :
    Prop :=
  patterns.length = sources.length ∧ ∀ i source, sources[i]? = some source →
    ∃ program, Regex.compile limits.patternTooDeep source = .ok program ∧
      patterns[i]? = some (⟨index + i, source, program.search⟩ : Pattern)

variable {limits : Limits} {index : Nat} {source : Text} {sources before rest : List Text}
  {patterns : List Pattern}

@[simp] theorem compiledFrom_nil : CompiledFrom limits index [] patterns ↔ patterns = [] := by
  simp [CompiledFrom]

theorem compiledFrom_cons :
    CompiledFrom limits index (source :: sources) patterns ↔
      ∃ program tail, Regex.compile limits.patternTooDeep source = .ok program ∧
        CompiledFrom limits (index + 1) sources tail ∧
        patterns = ⟨index, source, program.search⟩ :: tail := by
  constructor
  · rintro ⟨hlength, hpatterns⟩
    obtain ⟨program, hprogram, hhead⟩ := hpatterns 0 source rfl
    obtain ⟨pattern, tail, rfl⟩ := List.exists_cons_of_length_eq_add_one hlength
    refine ⟨program, tail, hprogram, ⟨by simpa using hlength, fun i later hlater => ?_⟩, ?_⟩
    · obtain ⟨program', hprogram', htail⟩ := hpatterns (i + 1) later (by simpa using hlater)
      exact ⟨program', hprogram', by simpa [Nat.add_assoc, Nat.add_comm 1] using htail⟩
    · simpa using hhead
  · rintro ⟨program, tail, hprogram, ⟨hlength, htail⟩, rfl⟩
    refine ⟨by simp [hlength], fun i later hlater => ?_⟩
    cases i with
    | zero =>
      obtain rfl : source = later := by simpa using hlater
      exact ⟨program, hprogram, rfl⟩
    | succ i =>
      obtain ⟨program', hprogram', hpattern⟩ := htail i later (by simpa using hlater)
      exact ⟨program', hprogram', by simpa [Nat.add_assoc, Nat.add_comm 1] using hpattern⟩

/-- Either all sources compile or there is a first one that does not. -/
theorem compiledFrom_or_fails (limits : Limits) (index : Nat) (sources : List Text) :
    (∃ patterns, CompiledFrom limits index sources patterns) ∨
      ∃ before source rest failure, sources = before ++ source :: rest ∧ Compile limits before ∧
        Regex.compile limits.patternTooDeep source = .error failure := by
  induction sources generalizing index with
  | nil => exact .inl ⟨[], compiledFrom_nil.mpr rfl⟩
  | cons source sources ih =>
    cases hsource : Regex.compile limits.patternTooDeep source with
    | error failure => exact .inr ⟨[], source, sources, failure, rfl, by simp [Compile], hsource⟩
    | ok program =>
      rcases ih (index + 1) with ⟨tail, htail⟩ | ⟨before, later, rest, failure, rfl, hbefore, hlater⟩
      · exact .inl ⟨_, compiledFrom_cons.mpr ⟨program, tail, hsource, htail, rfl⟩⟩
      · refine .inr ⟨source :: before, later, rest, failure, rfl, ?_, hlater⟩
        exact List.forall_mem_cons.mpr ⟨⟨program, hsource⟩, hbefore⟩

theorem compilePattern_of_ok {program : Regex.Program}
    (h : Regex.compile limits.patternTooDeep source = .ok program) :
    compilePattern limits index source = .ok ⟨index, source, program.search⟩ := by
  rw [compilePattern, h]

theorem compilePattern_of_malformed {fault : Regex.Fault} {position : Option Nat}
    (h : Regex.compile limits.patternTooDeep source = .error (.malformed fault position)) :
    compilePattern limits index source = .error (.invalid index source
      ((Regex.Failure.malformed fault position).message source)) := by
  rw [compilePattern, h]

theorem compilePattern_of_unsupported {failure : Regex.Failure}
    (h : Regex.compile limits.patternTooDeep source = .error failure)
    (hfailure : ∀ fault position, failure ≠ .malformed fault position) :
    compilePattern limits index source = .error (.unsupported source failure) := by
  rw [compilePattern, h]
  cases failure with
  | malformed fault position => exact absurd rfl (hfailure fault position)
  | _ => rfl

theorem value_compileFrom_of_error {entries : List Json} {e : PatternError}
    (h : compilePattern limits index source = .error e) :
    (compileFrom limits index (.text source :: entries)).run.value log = .error e := by
  rw [compileFrom, h]
  rfl

theorem value_compileFrom_of_ok (entries : List Json) {pattern : Pattern}
    (h : compilePattern limits index source = .ok pattern) (log : Array LogRecord) :
    ∃ log', (compileFrom limits index (.text source :: entries)).run.value log =
      ((compileFrom limits (index + 1) entries).run.value log').map (pattern :: ·) := by
  rw [compileFrom, h]
  exact ⟨_, value_run_bind_pure (compileFrom limits (index + 1) entries) (pattern :: ·)
    (log.push ⟨.debug, "scrubber.core.patterns", _⟩)⟩

theorem value_compileFrom_of_compiledFrom (h : CompiledFrom limits index sources patterns)
    (log : Array LogRecord) :
    (compileFrom limits index (sources.map .text)).run.value log = .ok patterns := by
  induction sources generalizing index patterns log with
  | nil =>
    obtain rfl := compiledFrom_nil.mp h
    rfl
  | cons source sources ih =>
    obtain ⟨program, tail, hprogram, htail, rfl⟩ := compiledFrom_cons.mp h
    obtain ⟨log', hlog⟩ :=
      value_compileFrom_of_ok (sources.map .text) (compilePattern_of_ok hprogram) log
    rw [List.map_cons, hlog, ih htail]
    rfl

/-- The first source that does not compile decides. -/
theorem value_compileFrom_of_fails {e : PatternError} (hbefore : Compile limits before)
    (h : compilePattern limits (index + before.length) source = .error e) (log : Array LogRecord) :
    (compileFrom limits index ((before ++ source :: rest).map .text)).run.value log = .error e := by
  induction before generalizing index log with
  | nil => exact value_compileFrom_of_error h
  | cons earlier before ih =>
    obtain ⟨⟨program, hprogram⟩, hbefore⟩ := List.forall_mem_cons.mp hbefore
    obtain ⟨log', hlog⟩ := value_compileFrom_of_ok ((before ++ source :: rest).map .text)
      (compilePattern_of_ok hprogram) log
    rw [List.cons_append, List.map_cons, hlog, ih hbefore (by convert h using 2; simp; omega)]
    rfl

namespace Engine

theorem value_build (limits : Limits) (config : Config) (log : Array LogRecord) :
    ∃ log', (build limits config).run.value log =
      (((compileFrom limits 0 (config.sources.map .text)).run.value log').mapError .pattern).map
        (Engine.mk config) := by
  obtain ⟨log₁, h₁⟩ := value_run_lift_bind config.noteValid (fun _ => do
    let patterns ← (compilePatterns limits (config.sources.map .text)).adapt EngineError.pattern
    Logged.write .debug logger
      (Text.ofString s!"ScrubEngine initialized with {patterns.length} pattern(s), replace_with=" ++
        config.mask.quoted)
    return Engine.mk config patterns) log
  obtain ⟨log₂, h₂⟩ := value_run_bind
    ((compilePatterns limits (config.sources.map .text)).adapt EngineError.pattern) _ log₁
  refine ⟨log₁, h₁.trans (h₂.trans ?_)⟩
  rw [value_run_adapt, compilePatterns]
  cases (compileFrom limits 0 (config.sources.map .text)).run.value log₁ <;> rfl

theorem value_build_of_compiledFrom {config : Config}
    (h : CompiledFrom limits 0 config.sources patterns) :
    (build limits config).run.value log = .ok ⟨config, patterns⟩ := by
  obtain ⟨log', hlog⟩ := value_build limits config log
  rw [hlog, value_compileFrom_of_compiledFrom h]
  rfl

theorem value_build_of_fails {config : Config} {e : PatternError}
    (hsources : config.sources = before ++ source :: rest) (hbefore : Compile limits before)
    (h : compilePattern limits before.length source = .error e) :
    (build limits config).run.value log = .error (.pattern e) := by
  obtain ⟨log', hlog⟩ := value_build limits config log
  rw [hlog, hsources, value_compileFrom_of_fails hbefore (by rwa [Nat.zero_add])]
  rfl

end Engine

/-! ## Configurations -/

namespace Config

variable {members : List (Text × Json)} {entries : List Json}

/-- The mask that an object gives; nothing and null stand for an empty one. -/
inductive Masks (members : List (Text × Json)) : Text → Prop where
  | absent (h : members.lookup (Text.ofString "replace_with") = none) : Masks members []
  | null (h : members.lookup (Text.ofString "replace_with") = some .null) : Masks members []
  | text {mask : Text} (h : members.lookup (Text.ofString "replace_with") = some (.text mask)) :
      Masks members mask

/-- The entries are texts, or there is a first one that is none. -/
theorem texts_or_other (entries : List Json) :
    (∃ sources : List Text, entries = sources.map .text) ∨
      ∃ (sources : List Text) (value : Json) (rest : List Json),
        entries = sources.map .text ++ value :: rest ∧ ∀ t, value ≠ .text t := by
  induction entries with
  | nil => exact .inl ⟨[], rfl⟩
  | cons entry entries ih =>
    by_cases htext : ∃ t, entry = .text t
    · obtain ⟨t, rfl⟩ := htext
      rcases ih with ⟨sources, rfl⟩ | ⟨sources, value, rest, rfl, hvalue⟩
      · exact .inl ⟨t :: sources, rfl⟩
      · exact .inr ⟨t :: sources, value, rest, rfl, hvalue⟩
    · exact .inr ⟨[], entry, entries, rfl, fun t h => htext ⟨t, h⟩⟩

theorem texts_append_ne {value : Json} {others : List Json} (h : ∀ t, value ≠ .text t)
    (sources' : List Text) : sources.map .text ++ value :: others ≠ sources'.map .text := by
  intro heq
  have hvalue : value ∈ sources'.map .text := heq ▸ by simp
  obtain ⟨t, -, ht⟩ := List.mem_map.mp hvalue
  exact h t ht.symm

@[simp] theorem textEntries_texts (index : Nat) (sources : List Text) :
    textEntries index (sources.map .text) = .ok sources := by
  induction sources generalizing index with
  | nil => rfl
  | cons t sources ih =>
    rw [List.map_cons, textEntries, ih]
    rfl

/-- The first entry that is no text decides. -/
theorem textEntries_of_other (index : Nat) (sources : List Text) {value : Json} (rest : List Json)
    (h : ∀ t, value ≠ .text t) :
    textEntries index (sources.map .text ++ value :: rest) =
      .error (.entryNotText (index + sources.length) value.kindName) := by
  induction sources generalizing index with
  | nil => exact textEntries.eq_3 index value rest h
  | cons t sources ih =>
    rw [List.map_cons, List.cons_append, textEntries, ih, List.length_cons, Nat.add_right_comm,
      Nat.add_assoc]
    rfl

theorem value_ofDocument_missing (h : members.lookup (Text.ofString "matches") = none) :
    (ofDocument (.object members)).run.value log = .error .missingMatches := by
  unfold ofDocument
  dsimp only
  rw [h]
  split_ifs <;> rfl

theorem value_ofDocument_notList {value : Json}
    (h : members.lookup (Text.ofString "matches") = some value)
    (hvalue : ∀ entries, value ≠ .array entries) :
    (ofDocument (.object members)).run.value log = .error (.matchesNotList value.kindName) := by
  unfold ofDocument
  dsimp only
  rw [h]
  cases value with
  | array entries => exact absurd rfl (hvalue entries)
  | _ => split_ifs <;> rfl

theorem value_validated (entries : List Json) (mask : Json) (log : Array LogRecord) :
    (validated entries mask).run.value log = ofValues entries mask := by
  unfold validated
  cases ofValues entries mask <;> rfl

theorem value_ofDocument_masks {mask : Text}
    (h : members.lookup (Text.ofString "matches") = some (.array entries))
    (hmask : Masks members mask) :
    (ofDocument (.object members)).run.value log = (textEntries 0 entries).map (⟨·, mask⟩) := by
  have hvalues : ofValues entries (.text mask) = (textEntries 0 entries).map (⟨·, mask⟩) := by
    unfold ofValues
    cases textEntries 0 entries <;> rfl
  unfold ofDocument
  dsimp only
  rw [h, ← hvalues]
  cases hmask with
  | absent hmask => rw [hmask]; split_ifs <;> exact value_validated _ _ _
  | null hmask => rw [hmask]; split_ifs <;> exact value_validated _ _ _
  | text hmask => rw [hmask]; split_ifs <;> exact value_validated _ _ _

/-- An entry that is no text comes before the mask. -/
theorem value_ofDocument_maskNotText {value : Json}
    (h : members.lookup (Text.ofString "matches") = some (.array entries))
    (hmask : members.lookup (Text.ofString "replace_with") = some value) (hnull : value ≠ .null)
    (htext : ∀ t, value ≠ .text t) :
    (ofDocument (.object members)).run.value log =
      (textEntries 0 entries).bind fun _ => .error (.maskNotText value.kindName) := by
  have hvalues : ofValues entries value =
      (textEntries 0 entries).bind fun _ => .error (.maskNotText value.kindName) := by
    unfold ofValues
    cases textEntries 0 entries with
    | error e => rfl
    | ok sources =>
      cases value with
      | text t => exact absurd rfl (htext t)
      | _ => rfl
  unfold ofDocument
  dsimp only
  rw [h, ← hvalues, hmask]
  cases value with
  | null => exact absurd rfl hnull
  | _ => split_ifs <;> exact value_validated _ _ _

theorem masks_or_other (members : List (Text × Json)) :
    (∃ mask, Masks members mask) ∨
      ∃ value, members.lookup (Text.ofString "replace_with") = some value ∧ value ≠ .null ∧
        ∀ t, value ≠ .text t := by
  cases h : members.lookup (Text.ofString "replace_with") with
  | none => exact .inl ⟨[], .absent h⟩
  | some value =>
    cases value with
    | null => exact .inl ⟨[], .null h⟩
    | text t => exact .inl ⟨t, .text h⟩
    | _ => exact .inr ⟨_, rfl, by simp, by simp⟩

theorem value_ofDocument_entryNotText {value : Json} {others : List Json}
    (h : members.lookup (Text.ofString "matches") =
      some (.array (sources.map .text ++ value :: others)))
    (hvalue : ∀ t, value ≠ .text t) :
    (ofDocument (.object members)).run.value log =
      .error (.entryNotText sources.length value.kindName) := by
  have hentries := textEntries_of_other 0 sources others hvalue
  rw [Nat.zero_add] at hentries
  rcases masks_or_other members with ⟨mask, hmask⟩ | ⟨other, hother, hnull, htext⟩
  · rw [value_ofDocument_masks h hmask, hentries]
    rfl
  · rw [value_ofDocument_maskNotText h hother hnull htext, hentries]
    rfl

end Config

/-! ## Engines -/

namespace Engine

/-- What a document comes to, by the first rule that it breaks. -/
inductive Decides (limits : Limits) : Json → Except EngineError Engine → Prop where
  | null : Decides limits .null (.ok ⟨⟨[], []⟩, []⟩)
  | notObject {document : Json} (hnull : document ≠ .null)
      (hobject : ∀ members, document ≠ .object members) :
      Decides limits document (.error (.document (.config (.notObject document.kindName))))
  | missingMatches {members : List (Text × Json)}
      (h : members.lookup (Text.ofString "matches") = none) :
      Decides limits (.object members) (.error (.document (.config .missingMatches)))
  | matchesNotList {members : List (Text × Json)} {value : Json}
      (h : members.lookup (Text.ofString "matches") = some value)
      (hlist : ∀ entries, value ≠ .array entries) :
      Decides limits (.object members)
        (.error (.document (.config (.matchesNotList value.kindName))))
  | entryNotText {members : List (Text × Json)} {sources : List Text} {value : Json}
      {rest : List Json}
      (h : members.lookup (Text.ofString "matches") =
        some (.array (sources.map .text ++ value :: rest)))
      (htext : ∀ t, value ≠ .text t) :
      Decides limits (.object members)
        (.error (.document (.config (.entryNotText sources.length value.kindName))))
  | maskNotText {members : List (Text × Json)} {sources : List Text} {value : Json}
      (h : members.lookup (Text.ofString "matches") = some (.array (sources.map .text)))
      (hmask : members.lookup (Text.ofString "replace_with") = some value)
      (hnull : value ≠ .null) (htext : ∀ t, value ≠ .text t) :
      Decides limits (.object members) (.error (.document (.config (.maskNotText value.kindName))))
  | malformed {members : List (Text × Json)} {before : List Text} {source : Text}
      {rest : List Text} {mask : Text} {fault : Regex.Fault} {position : Option Nat}
      (h : members.lookup (Text.ofString "matches") =
        some (.array ((before ++ source :: rest).map .text)))
      (hmask : Config.Masks members mask) (hbefore : Compile limits before)
      (hsource : Regex.compile limits.patternTooDeep source = .error (.malformed fault position)) :
      Decides limits (.object members)
        (.error (.pattern (.invalid before.length source
          ((Regex.Failure.malformed fault position).message source))))
  | unsupported {members : List (Text × Json)} {before : List Text} {source : Text}
      {rest : List Text} {mask : Text} {failure : Regex.Failure}
      (h : members.lookup (Text.ofString "matches") =
        some (.array ((before ++ source :: rest).map .text)))
      (hmask : Config.Masks members mask) (hbefore : Compile limits before)
      (hsource : Regex.compile limits.patternTooDeep source = .error failure)
      (hfailure : ∀ fault position, failure ≠ .malformed fault position) :
      Decides limits (.object members) (.error (.pattern (.unsupported source failure)))
  | built {members : List (Text × Json)} {sources : List Text} {mask : Text}
      {patterns : List Pattern}
      (h : members.lookup (Text.ofString "matches") = some (.array (sources.map .text)))
      (hmask : Config.Masks members mask) (hpatterns : CompiledFrom limits 0 sources patterns) :
      Decides limits (.object members) (.ok ⟨⟨sources, mask⟩, patterns⟩)

theorem value_ofDocument (limits : Limits) (document : Json) (log : Array LogRecord) :
    ∃ log', (ofDocument limits document).run.value log =
      ((Config.ofDocument document).run.value log).mapError (.document ∘ .config) >>=
        fun config => (build limits config).run.value log' :=
  value_run_bind ((Config.ofDocument document).adapt fun e => EngineError.document (.config e))
    (build limits) log

theorem value_ofDocument_of_error {document : Json} {e : ConfigError}
    (h : ∀ log, (Config.ofDocument document).run.value log = .error e) :
    (ofDocument limits document).run.value log = .error (.document (.config e)) := by
  obtain ⟨log', hlog⟩ := value_ofDocument limits document log
  rw [hlog, h]
  rfl

theorem value_ofDocument_of_ok {document : Json} {config : Config} {r : Except EngineError Engine}
    (h : ∀ log, (Config.ofDocument document).run.value log = .ok config)
    (hbuild : ∀ log, (build limits config).run.value log = r) :
    (ofDocument limits document).run.value log = r := by
  obtain ⟨log', hlog⟩ := value_ofDocument limits document log
  rw [hlog, h, ← hbuild log']
  rfl

theorem value_ofDocument_of_masks {members : List (Text × Json)} {mask : Text}
    {r : Except EngineError Engine}
    (h : members.lookup (Text.ofString "matches") = some (.array (sources.map .text)))
    (hmask : Config.Masks members mask)
    (hbuild : ∀ log, (build limits ⟨sources, mask⟩).run.value log = r) :
    (ofDocument limits (.object members)).run.value log = r := by
  refine value_ofDocument_of_ok (fun log => ?_) hbuild
  rw [Config.value_ofDocument_masks h hmask, Config.textEntries_texts]
  rfl

/-- A document comes to what the rule says that it falls under. -/
theorem Decides.value_eq {document : Json} {r : Except EngineError Engine}
    (h : Decides limits document r) (log : Array LogRecord) :
    (ofDocument limits document).run.value log = r := by
  cases h with
  | null =>
    exact value_ofDocument_of_ok (fun log => rfl)
      fun log => value_build_of_compiledFrom (compiledFrom_nil.mpr rfl)
  | notObject hnull hobject =>
    refine value_ofDocument_of_error fun log => ?_
    cases document with
    | null => exact absurd rfl hnull
    | object members => exact absurd rfl (hobject members)
    | _ => rfl
  | missingMatches h =>
    exact value_ofDocument_of_error fun log => Config.value_ofDocument_missing h
  | matchesNotList h hlist =>
    exact value_ofDocument_of_error fun log => Config.value_ofDocument_notList h hlist
  | entryNotText h htext =>
    exact value_ofDocument_of_error fun log => Config.value_ofDocument_entryNotText h htext
  | maskNotText h hmask hnull htext =>
    refine value_ofDocument_of_error fun log => ?_
    rw [Config.value_ofDocument_maskNotText h hmask hnull htext, Config.textEntries_texts]
    rfl
  | malformed h hmask hbefore hsource =>
    exact value_ofDocument_of_masks h hmask fun log =>
      value_build_of_fails rfl hbefore (compilePattern_of_malformed hsource)
  | unsupported h hmask hbefore hsource hfailure =>
    exact value_ofDocument_of_masks h hmask fun log =>
      value_build_of_fails rfl hbefore (compilePattern_of_unsupported hsource hfailure)
  | built h hmask hpatterns =>
    exact value_ofDocument_of_masks h hmask fun log => value_build_of_compiledFrom hpatterns

theorem exists_decides (limits : Limits) (document : Json) : ∃ r, Decides limits document r := by
  by_cases hobject : ∃ members, document = .object members
  · obtain ⟨members, rfl⟩ := hobject
    cases hmatches : members.lookup (Text.ofString "matches") with
    | none => exact ⟨_, .missingMatches hmatches⟩
    | some value =>
      by_cases hlist : ∃ entries, value = .array entries
      · obtain ⟨entries, rfl⟩ := hlist
        rcases Config.texts_or_other entries with ⟨sources, rfl⟩ | ⟨sources, other, rest, rfl, hother⟩
        · rcases Config.masks_or_other members with ⟨mask, hmask⟩ | ⟨other, hmask, hnull, htext⟩
          · rcases compiledFrom_or_fails limits 0 sources with
              ⟨patterns, hpatterns⟩ | ⟨before, source, rest, failure, rfl, hbefore, hsource⟩
            · exact ⟨_, .built hmatches hmask hpatterns⟩
            · by_cases hfailure : ∃ fault position, failure = .malformed fault position
              · obtain ⟨fault, position, rfl⟩ := hfailure
                exact ⟨_, .malformed hmatches hmask hbefore hsource⟩
              · refine ⟨_, .unsupported hmatches hmask hbefore hsource fun fault position h => ?_⟩
                exact hfailure ⟨fault, position, h⟩
          · exact ⟨_, .maskNotText hmatches hmask hnull htext⟩
        · exact ⟨_, .entryNotText hmatches hother⟩
      · exact ⟨_, .matchesNotList hmatches fun entries h => hlist ⟨entries, h⟩⟩
  · by_cases hnull : document = .null
    · exact hnull ▸ ⟨_, .null⟩
    · exact ⟨_, .notObject hnull fun members h => hobject ⟨members, h⟩⟩

theorem value_ofDocument_eq_iff (limits : Limits) (document : Json) (log : Array LogRecord)
    (r : Except EngineError Engine) :
    (ofDocument limits document).run.value log = r ↔ Decides limits document r := by
  refine ⟨fun h => ?_, fun h => h.value_eq log⟩
  obtain ⟨r', hr'⟩ := exists_decides limits document
  rwa [← h, hr'.value_eq log]

/-- What becomes of a document is decided by the rules in order. The key that a complaint names
tells which of them it is about, and a pattern that is refused is an entry of the list and a text. -/
theorem ofDocument_decided_in_order (limits : Limits) (document : Json) (log : Array LogRecord) :
    (∀ r, (ofDocument limits document).run.value log = r ↔ Decides limits document r) ∧
    (∀ e, (ofDocument limits document).run.value log = .error (.document (.config e)) →
      (e.key? = none ↔ ∀ members, document ≠ .object members) ∧
      (e.key? = some "matches" ↔ ∃ members, document = .object members ∧
        ∀ sources : List Text,
          members.lookup (Text.ofString "matches") ≠ some (.array (sources.map .text))) ∧
      (e.key? = some "replace_with" ↔ ∃ members, ∃ sources : List Text,
        document = .object members ∧
          members.lookup (Text.ofString "matches") = some (.array (sources.map .text)))) ∧
    ∀ index pattern detail,
      (ofDocument limits document).run.value log =
        .error (.pattern (.invalid index pattern detail)) →
        ∃ members entries fault position, document = .object members ∧
          members.lookup (Text.ofString "matches") = some (.array entries) ∧
          entries[index]? = some (.text pattern) ∧
          Regex.compile limits.patternTooDeep pattern = .error (.malformed fault position) ∧
          detail = (Regex.Failure.malformed fault position).message pattern := by
  refine ⟨value_ofDocument_eq_iff limits document log, fun e he => ?_,
    fun index pattern detail h => ?_⟩
  · cases (value_ofDocument_eq_iff limits document log _).mp he with
    | notObject hnull hobject =>
      simp [ConfigError.key?, hobject]
    | missingMatches hmatches => simp [ConfigError.key?, hmatches]
    | matchesNotList hmatches hlist => simp [ConfigError.key?, hmatches, hlist]
    | entryNotText hmatches htext =>
      simp [ConfigError.key?, hmatches, Config.texts_append_ne htext]
    | maskNotText hmatches hmask hnull htext => simp [ConfigError.key?, hmatches]
  · cases (value_ofDocument_eq_iff limits document log _).mp h with
    | malformed hmatches hmask hbefore hsource =>
      exact ⟨_, _, _, _, rfl, hmatches, by simp, hsource, rfl⟩

/-- Of a pattern that is malformed, an entry that is no text and a mask that is none, the entry
decides. Where only patterns are wrong, the first of them does. -/
theorem ofDocument_decided_in_order_many_faults :
    let wrong : Json := .object
      [(Text.ofString "matches", .array [.text (Text.ofString "("), .int 1]),
        (Text.ofString "replace_with", .int 2)]
    let malformed : Json := .object
      [(Text.ofString "matches", .array ([Text.ofString "a", Text.ofString "(",
        Text.ofString "["].map .text))]
    (ofDocument default wrong).run.value #[] =
        .error (.document (.config (.entryNotText 1 "int"))) ∧
      (ConfigError.entryNotText 1 "int").key? = some "matches" ∧
      (ofDocument default malformed).run.value #[] =
        .error (.pattern (.invalid 1 (Text.ofString "(")
          (Text.ofString "missing ), unterminated subpattern at position 0"))) ∧
      ∃ fault position, Regex.compile (default : Limits).patternTooDeep (Text.ofString "(") =
        .error (.malformed fault position) := by
  intro wrong malformed
  obtain ⟨hwrong, hkey, -⟩ := ofDocument_decided_in_order default wrong #[]
  obtain ⟨hmalformed, -, hentry⟩ := ofDocument_decided_in_order default malformed #[]
  have hfirst := (hwrong _).mpr
    (@Decides.entryNotText _ _ [Text.ofString "("] (.int 1) [] rfl (by simp))
  have hsecond := (hmalformed _).mpr (@Decides.malformed _ _ [Text.ofString "a"] (Text.ofString "(")
    [Text.ofString "["] [] (.missing "), unterminated subpattern") (some 0) rfl (.absent rfl)
    (List.forall_mem_singleton.mpr ⟨_, rfl⟩) rfl)
  refine ⟨hfirst, (hkey _ hfirst).2.1.mpr ⟨_, rfl, ?_⟩, hsecond, ?_⟩
  · intro sources h
    exact @Config.texts_append_ne [Text.ofString "("] (.int 1) [] (by simp) sources
      (Json.array.inj (Option.some.inj h))
  · obtain ⟨-, -, fault, position, -, -, -, hsource, -⟩ := hentry _ _ _ hsecond
    exact ⟨fault, position, hsource⟩

end Engine

end LiteralScrub
