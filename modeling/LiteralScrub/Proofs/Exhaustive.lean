import LiteralScrub.Engine
import LiteralScrub.Proofs.Substitution

/-!
# No match is missed

A pattern has at most one match at each offset of a text, and its search finds the first one. Then
each match that the scan does not report begins inside one that it reports, and a text is left as
it is only if no pattern has a match in it that is not empty.
-/
namespace LiteralScrub

namespace Pattern

variable {pattern : Pattern} {text : Text} {matchAt : Nat → Option Nat}

/-- `matchAt` tells the matches of the pattern in the text: where the one ends that begins at an
offset. The search reports the first of them. -/
structure Matches (pattern : Pattern) (text : Text) (matchAt : Nat → Option Nat) : Prop where
  within : ∀ start stop, matchAt start = some stop → start ≤ stop ∧ stop ≤ text.length
  first : pattern.FindsFirst text matchAt

/-- What is reported is a match. -/
theorem Matches.of_mem_scan (h : pattern.Matches text matchAt) {s : Span}
    (hs : s ∈ scan pattern text) : s.index = pattern.index ∧ matchAt s.start = some s.stop := by
  obtain ⟨hindex, pos, hpos, hfind⟩ := find_of_mem_scanFrom hs
  exact ⟨hindex, ((h.first pos _ _ hpos).mp hfind).2⟩

/-- A match is reported, or begins strictly inside a reported one. -/
theorem Matches.mem_scan_or_inside (h : pattern.Matches text matchAt) {start stop : Nat}
    (hmatch : matchAt start = some stop) :
    ⟨start, stop, pattern.index⟩ ∈ scan pattern text ∨
      ∃ s ∈ scan pattern text, s.start < start ∧ start < s.stop := by
  obtain ⟨hle, hstop⟩ := h.within start stop hmatch
  exact mem_scanFrom_or_inside h.first (fun q last hq => (h.within q last hq).1)
    (hle.trans hstop) hmatch (Nat.zero_le start)

/-- The scan reports something that is not empty if and only if there is a match that is not. -/
theorem Matches.exists_mem_scan_iff (h : pattern.Matches text matchAt) :
    (∃ s ∈ scan pattern text, 0 < s.length) ↔
      ∃ start stop, matchAt start = some stop ∧ start < stop := by
  constructor
  · rintro ⟨s, hs, hpos⟩
    exact ⟨s.start, s.stop, (h.of_mem_scan hs).2, Span.length_pos.mp hpos⟩
  · rintro ⟨start, stop, hmatch, hlt⟩
    rcases h.mem_scan_or_inside hmatch with hmem | ⟨s, hs, hstart, hstop⟩
    · exact ⟨_, hmem, Span.length_pos.mpr hlt⟩
    · exact ⟨s, hs, Span.length_pos.mpr (hstart.trans hstop)⟩

/-! ## Compiled patterns -/

/-- The end of the match at an offset, as the search from there tells it. -/
def endAt (pattern : Pattern) (text : Text) (start : Nat) : Option Nat :=
  (pattern.find text start).bind fun found => if found.1 = start then some found.2 else none

theorem endAt_eq_some_iff {start stop : Nat} :
    pattern.endAt text start = some stop ↔ pattern.find text start = some (start, stop) := by
  unfold endAt
  cases pattern.find text start with
  | none => simp
  | some found =>
    obtain ⟨first, last⟩ := found
    by_cases hfirst : first = start <;> simp [hfirst]

theorem endAt_search (index : Nat) (source text : Text) (program : Regex.Program) :
    Pattern.endAt ⟨index, source, program.search⟩ text = program.endFrom text.toArray := by
  funext start
  ext stop
  rw [endAt_eq_some_iff]
  show Regex.searchFrom text.toArray program start = some (start, stop) ↔ _
  rw [Regex.searchFrom_eq_some_iff]
  refine and_iff_right_of_imp fun hend => ?_
  exact ⟨⟨le_rfl, by simp [hend]⟩, fun _ hs => hs.1⟩

/-- The search of a compiled pattern finds the first of its matches. -/
theorem matches_of_compilePattern {limits : Limits} {index : Nat} {source : Text}
    (h : compilePattern limits index source = .ok pattern) (text : Text) :
    pattern.Matches text (pattern.endAt text) := by
  obtain ⟨program, -, rfl⟩ := eq_of_compilePattern h
  rw [endAt_search]
  refine ⟨fun start stop hend => ?_, fun pos start stop _ => Regex.searchFrom_eq_some_iff⟩
  simpa using Regex.Program.endFrom_bounds hend

end Pattern

theorem resolve_ne_nil_iff {patterns : List Pattern} {text : Text} :
    resolve text patterns ≠ [] ↔ ∃ pattern ∈ patterns, ∃ s ∈ scan pattern text, 0 < s.length := by
  constructor
  · intro hne
    obtain ⟨s, hs⟩ := List.exists_mem_of_ne_nil _ hne
    obtain ⟨pattern, hpattern, hscan, hpos⟩ := isCandidate_of_mem_resolve hs
    exact ⟨pattern, hpattern, s, hscan, hpos⟩
  · rintro ⟨pattern, hpattern, s, hscan, hpos⟩ hnil
    obtain ⟨t, ht, -⟩ := resolve_outranked ⟨pattern, hpattern, hscan, hpos⟩ (by simp [hnil])
    simp [hnil] at ht

/-- Some pattern of the engine has a match in the text that is not empty. -/
def Engine.Finds (engine : Engine) (t : Text) : Prop := ∃ s, IsCandidate engine.patterns t s

/-- A text changes exactly if something is found in it. -/
theorem Engine.changed_iff_finds {engine : Engine} {t : Text} :
    (engine.rewrite t).changed = true ↔ engine.Finds t := by
  rw [rewrite, rewriteText_changed, resolve_ne_nil_iff]
  constructor
  · rintro ⟨pattern, hpattern, s, hscan, hlength⟩
    exact ⟨s, pattern, hpattern, hscan, hlength⟩
  · rintro ⟨s, pattern, hpattern, hscan, hlength⟩
    exact ⟨pattern, hpattern, s, hscan, hlength⟩

/-- A scan reports matches only, and each match that it does not report begins strictly inside one
that it does. So a text does not change if and only if every match in it is empty. -/
theorem scan_misses_nothing (patterns : List Pattern) (mask text : Text)
    (matchAt : Pattern → Nat → Option Nat)
    (h : ∀ pattern ∈ patterns, pattern.Matches text (matchAt pattern)) :
    (∀ pattern ∈ patterns, ∀ s ∈ scan pattern text,
      s.index = pattern.index ∧ matchAt pattern s.start = some s.stop) ∧
    (∀ pattern ∈ patterns, ∀ start stop, start ≤ text.length →
      matchAt pattern start = some stop →
        ⟨start, stop, pattern.index⟩ ∈ scan pattern text ∨
          ∃ s ∈ scan pattern text, s.start < start ∧ start < s.stop) ∧
    ((rewriteText patterns mask text).changed = false ↔
      ∀ pattern ∈ patterns, ∀ start ≤ text.length,
        matchAt pattern start = none ∨ matchAt pattern start = some start) := by
  refine ⟨fun pattern hpattern s hs => (h pattern hpattern).of_mem_scan hs,
    fun pattern hpattern start stop _ hmatch => (h pattern hpattern).mem_scan_or_inside hmatch, ?_⟩
  rw [Bool.eq_false_iff, ne_eq, rewriteText_changed, resolve_ne_nil_iff]
  constructor
  · intro hsame pattern hpattern start _
    cases hmatch : matchAt pattern start with
    | none => exact .inl rfl
    | some stop =>
      right
      by_contra hne
      have hle := ((h pattern hpattern).within start stop hmatch).1
      have hlt : start < stop := lt_of_le_of_ne hle fun heq => hne (congrArg some heq.symm)
      exact hsame ⟨pattern, hpattern,
        (h pattern hpattern).exists_mem_scan_iff.mpr ⟨start, stop, hmatch, hlt⟩⟩
  · rintro hempty ⟨pattern, hpattern, hreported⟩
    obtain ⟨start, stop, hmatch, hlt⟩ := (h pattern hpattern).exists_mem_scan_iff.mp hreported
    obtain ⟨hle, hstop⟩ := (h pattern hpattern).within start stop hmatch
    rcases hempty pattern hpattern start (hle.trans hstop) with hnone | hsome
    · simp [hmatch] at hnone
    · rw [hmatch, Option.some.injEq] at hsome
      omega

/-- A pattern for any number of letters has a match at every offset. Where it is not empty, the
matches that begin inside it are not reported; where all are empty, the text stays. -/
theorem scan_misses_nothing_repeated :
    (patternsOf [Text.ofString "a*"]).length = 1 ∧
      (∀ pattern ∈ patternsOf [Text.ofString "a*"],
        pattern.endAt (Text.ofString "baac") 2 = some 3 ∧
          ∃ s ∈ scan pattern (Text.ofString "baac"), s.start < 2 ∧ 2 < s.stop) ∧
      (rewriteText (patternsOf [Text.ofString "a*"]) [] (Text.ofString "bc")).changed = false := by
  have hmatches (text : Text) : ∀ pattern ∈ patternsOf [Text.ofString "a*"],
      pattern.Matches text (pattern.endAt text) := by
    intro pattern hpattern
    obtain ⟨index, source, hcompile⟩ := exists_of_mem_patternsOf hpattern
    exact Pattern.matches_of_compilePattern hcompile text
  have hinside : (patternsOf [Text.ofString "a*"]).all (fun pattern =>
      pattern.endAt (Text.ofString "baac") 2 == some 3 &&
        !(scan pattern (Text.ofString "baac")).contains ⟨2, 3, pattern.index⟩) = true := by cbv
  have hempty : (patternsOf [Text.ofString "a*"]).all (fun pattern =>
      (List.range 3).all fun q => pattern.endAt (Text.ofString "bc") q == some q) = true := by cbv
  rw [List.all_eq_true] at hinside hempty
  refine ⟨by cbv, fun pattern hpattern => ?_, ?_⟩
  · obtain ⟨hend, hmissing⟩ : pattern.endAt (Text.ofString "baac") 2 = some 3 ∧
        ⟨2, 3, pattern.index⟩ ∉ scan pattern (Text.ofString "baac") := by
      simpa using hinside pattern hpattern
    obtain ⟨-, hmissed, -⟩ := scan_misses_nothing _ [] (Text.ofString "baac") _ (hmatches _)
    exact ⟨hend, (hmissed pattern hpattern 2 3 (by decide) hend).resolve_left hmissing⟩
  · obtain ⟨-, -, hchanged⟩ := scan_misses_nothing _ [] (Text.ofString "bc") _ (hmatches _)
    refine hchanged.mpr fun pattern hpattern start hstart => .inr ?_
    have hrange : start ∈ List.range 3 := List.mem_range.mpr (Nat.lt_succ_of_le hstart)
    simpa using List.all_eq_true.mp (hempty pattern hpattern) start hrange

end LiteralScrub
