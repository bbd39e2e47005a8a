import Mathlib
import LiteralScrub.Proofs.Configurations
import LiteralScrub.Proofs.Substitution

/-!
# The order of the patterns does not matter for the text

Patterns are known by their places, and a place decides only which of two patterns is credited with
a range that both report. Without these labels the resolved spans depend on nothing but the ranges
that are reported, and so do not change if patterns are moved or repeated.
-/
namespace LiteralScrub

/-! ## Spans without labels -/

namespace Span

def range (s : Span) : Nat × Nat := (s.start, s.stop)

/-- The span as if the first pattern had reported it. -/
def unlabelled (s : Span) : Span := { s with index := 0 }

@[simp] theorem length_unlabelled (s : Span) : s.unlabelled.length = s.length := rfl

@[simp] theorem range_unlabelled (s : Span) : s.unlabelled.range = s.range := rfl

/-- Without labels a span still outranks another one, unless both have the same range. -/
theorem Outranks.unlabelled {s t : Span} (h : s.Outranks t) (hs : 0 < s.length)
    (hne : s.unlabelled ≠ t.unlabelled) : s.unlabelled.Outranks t.unlabelled := by
  rcases h with hstart | ⟨hstart, hlonger | ⟨hlength, -⟩⟩
  · exact .inl hstart
  · exact .inr ⟨hstart, .inl hlonger⟩
  · -- the same start and length make the same range
    have hstop : s.stop = t.stop := by
      rw [length_pos] at hs
      simp only [Span.length] at hlength
      omega
    exact absurd (by simp [Span.unlabelled, hstart, hstop]) hne

end Span

/-- The candidates without labels. -/
def Unlabelled (candidate : Span → Prop) (c : Span) : Prop :=
  ∃ s, candidate s ∧ s.unlabelled = c

/-- A resolution is one of the ranges alone. -/
theorem IsResolution.unlabelled {candidate : Span → Prop} {spans : List Span}
    (h : IsResolution candidate spans) (hpos : ∀ s, candidate s → 0 < s.length) :
    IsResolution (Unlabelled candidate) (spans.map Span.unlabelled) where
  candidates := by
    intro c hc
    obtain ⟨s, hs, rfl⟩ := List.mem_map.mp hc
    exact ⟨s, h.candidates s hs, rfl⟩
  ordered := (List.isChain_map _).mpr h.ordered
  outranked := by
    rintro _ ⟨c, hc, rfl⟩ hout
    have hnot : c ∉ spans := fun hmem => hout (List.mem_map_of_mem hmem)
    obtain ⟨s, hs, hrank, hover⟩ := h.outranked c hc hnot
    have hmem := List.mem_map_of_mem (f := Span.unlabelled) hs
    refine ⟨s.unlabelled, hmem, hrank.unlabelled (hpos s (h.candidates s hs)) ?_, hover⟩
    intro heq
    exact hout (heq ▸ hmem)

/-- What is resolved depends only on the ranges that are reported. -/
theorem resolve_unlabelled_congr {patterns patterns' : List Pattern} {text : Text}
    (h : ∀ c, Unlabelled (IsCandidate patterns text) c ↔
      Unlabelled (IsCandidate patterns' text) c) :
    (resolve text patterns).map Span.unlabelled = (resolve text patterns').map Span.unlabelled := by
  have hpos (patterns : List Pattern) : ∀ s, IsCandidate patterns text s → 0 < s.length := by
    rintro s ⟨_, _, _, hs⟩
    exact hs
  have hcandidates : Unlabelled (IsCandidate patterns text) =
      Unlabelled (IsCandidate patterns' text) := funext fun c => propext (h c)
  have hres := (resolve_isResolution patterns text).unlabelled (hpos patterns)
  have hres' := (resolve_isResolution patterns' text).unlabelled (hpos patterns')
  rw [← hcandidates] at hres'
  obtain ⟨bound, hbound⟩ := exists_length_le patterns text
  refine hres.eq_of_length_le (n := bound) ?_ hres'
  rintro _ ⟨s, hs, rfl⟩
  exact hbound s hs

/-! ## Rewriting looks at the ranges only -/

theorem replaceSpans_map_unlabelled (mask text : Text) (cursor : Nat) (spans : List Span) :
    replaceSpans mask text cursor (spans.map Span.unlabelled) =
      replaceSpans mask text cursor spans := by
  induction spans generalizing cursor with
  | nil => rfl
  | cons s rest ih =>
    rw [List.map_cons, replaceSpans, replaceSpans, ih]
    rfl

theorem rewriteText_congr {patterns patterns' : List Pattern} {text : Text}
    (h : (resolve text patterns).map Span.unlabelled = (resolve text patterns').map Span.unlabelled)
    (mask : Text) :
    (rewriteText patterns mask text).text = (rewriteText patterns' mask text).text ∧
      (rewriteText patterns mask text).changed = (rewriteText patterns' mask text).changed := by
  constructor
  · rw [rewriteText_text, rewriteText_text, ← replaceSpans_map_unlabelled, h,
      replaceSpans_map_unlabelled]
  · rw [Bool.eq_iff_iff, rewriteText_changed, rewriteText_changed, not_iff_not,
      ← List.map_eq_nil_iff (f := Span.unlabelled), h, List.map_eq_nil_iff]

/-! ## Patterns that search alike -/

theorem scanFrom_map_unlabelled {pattern pattern' : Pattern} (h : pattern.find = pattern'.find)
    (text : Text) (length pos : Nat) :
    (scanFrom pattern text length pos).map Span.unlabelled =
      (scanFrom pattern' text length pos).map Span.unlabelled := by
  fun_induction scanFrom pattern text length pos with
  | case1 pos hle hfind =>
    rw [h] at hfind
    rw [scanFrom.eq_def pattern', if_pos hle, hfind]
  | case2 pos hle start stop hfind ih =>
    rw [h] at hfind
    rw [scanFrom.eq_def pattern' text length pos, if_pos hle, hfind]
    by_cases hmove : pos < resumeAfter start stop
    · simp only [if_pos hmove, List.map_cons, ih hmove]
      rfl
    · simp only [if_neg hmove, List.map_cons]
      rfl
  | case3 pos hle => rw [scanFrom.eq_def pattern', if_neg hle]

/-- The one list has, for each pattern of the other list, a pattern that searches alike. -/
def SearchesFor (patterns patterns' : List Pattern) : Prop :=
  ∀ pattern ∈ patterns, ∃ pattern' ∈ patterns', pattern.find = pattern'.find

theorem SearchesFor.unlabelled {patterns patterns' : List Pattern}
    (h : SearchesFor patterns patterns') {text : Text} {c : Span}
    (hc : Unlabelled (IsCandidate patterns text) c) :
    Unlabelled (IsCandidate patterns' text) c := by
  obtain ⟨s, ⟨pattern, hpattern, hscan, hpos⟩, rfl⟩ := hc
  obtain ⟨pattern', hpattern', hfind⟩ := h pattern hpattern
  have hmem : s.unlabelled ∈ (scan pattern' text).map Span.unlabelled := by
    rw [scan, ← scanFrom_map_unlabelled hfind]
    exact List.mem_map_of_mem hscan
  obtain ⟨t, ht, heq⟩ := List.mem_map.mp hmem
  have hlength : t.length = s.length := by rw [← t.length_unlabelled, heq, s.length_unlabelled]
  exact ⟨t, ⟨pattern', hpattern', ht, hlength ▸ hpos⟩, heq⟩

/-! ## Sources -/

section Sources

variable {limits : Limits} {index index' : Nat} {sources sources' : List Text}
  {patterns patterns' : List Pattern}

/-- Where compilation gives patterns, they are those of the sources. -/
theorem compiledFrom_of_value {log : Array LogRecord}
    (h : (compileFrom limits index (sources.map .text)).run.value log = .ok patterns) :
    CompiledFrom limits index sources patterns := by
  induction sources generalizing index patterns log with
  | nil =>
    cases h
    exact compiledFrom_nil.mpr rfl
  | cons source sources ih =>
    rw [List.map_cons] at h
    cases hsource : compilePattern limits index source with
    | error e =>
      rw [value_compileFrom_of_error hsource] at h
      cases h
    | ok pattern =>
      obtain ⟨log', hlog⟩ := value_compileFrom_of_ok (sources.map .text) hsource log
      rw [hlog] at h
      obtain ⟨program, hprogram, rfl⟩ := eq_of_compilePattern hsource
      cases hrest : (compileFrom limits (index + 1) (sources.map .text)).run.value log' with
      | error e =>
        rw [hrest] at h
        cases h
      | ok tail =>
        rw [hrest] at h
        cases h
        exact compiledFrom_cons.mpr ⟨program, tail, hprogram, ih hrest, rfl⟩

/-- Each of the patterns searches as its source says. -/
theorem CompiledFrom.exists_of_mem (h : CompiledFrom limits index sources patterns)
    {pattern : Pattern}
    (hpattern : pattern ∈ patterns) :
    ∃ source ∈ sources, ∃ program, Regex.compile limits.patternTooDeep source = .ok program ∧
      pattern.find = program.search := by
  obtain ⟨i, hi⟩ := List.mem_iff_getElem?.mp hpattern
  have hlt : i < sources.length := h.1 ▸ (List.getElem?_eq_some_iff.mp hi).1
  obtain ⟨program, hprogram, hat⟩ := h.2 i _ (List.getElem?_eq_getElem hlt)
  rw [hi] at hat
  obtain rfl := Option.some.inj hat
  exact ⟨_, List.getElem_mem hlt, program, hprogram, rfl⟩

theorem CompiledFrom.exists_mem (h : CompiledFrom limits index sources patterns) {source : Text}
    (hsource : source ∈ sources) :
    ∃ pattern ∈ patterns, ∃ program, Regex.compile limits.patternTooDeep source = .ok program ∧
      pattern.find = program.search := by
  obtain ⟨i, hi⟩ := List.mem_iff_getElem?.mp hsource
  obtain ⟨program, hprogram, hat⟩ := h.2 i source hi
  exact ⟨_, List.mem_of_getElem? hat, program, hprogram, rfl⟩

theorem CompiledFrom.searchesFor (h : CompiledFrom limits index sources patterns)
    (h' : CompiledFrom limits index' sources' patterns') (hsub : sources ⊆ sources') :
    SearchesFor patterns patterns' := by
  intro pattern hpattern
  obtain ⟨source, hsource, program, hprogram, hfind⟩ := h.exists_of_mem hpattern
  obtain ⟨pattern', hpattern', program', hprogram', hfind'⟩ := h'.exists_mem (hsub hsource)
  rw [hprogram] at hprogram'
  obtain rfl := Except.ok.inj hprogram'
  exact ⟨pattern', hpattern', hfind.trans hfind'.symm⟩

/-- If some sources compile, so do sources that are all among them. -/
theorem CompiledFrom.exists_of_subset (h : CompiledFrom limits index sources patterns)
    (hsub : sources' ⊆ sources) (index' : Nat) :
    ∃ patterns', CompiledFrom limits index' sources' patterns' := by
  rcases compiledFrom_or_fails limits index' sources' with
    hcompiled | ⟨before, source, rest, failure, rfl, -, hfails⟩
  · exact hcompiled
  · obtain ⟨_, _, program, hprogram, _⟩ := h.exists_mem (hsub (by simp : source ∈ _))
    rw [hfails] at hprogram
    cases hprogram

/-- Well-formed sources compile to their patterns. -/
theorem compiledFrom_patternsOf
    (h : ∀ source ∈ sources, (Regex.compile (default : Limits).patternTooDeep source).isOk = true) :
    CompiledFrom default 0 sources (patternsOf sources) := by
  have hfrom (index : Nat) : CompiledFrom default index sources ((sources.zipIdx index).filterMap
      fun entry => (compilePattern default entry.2 entry.1).toOption) := by
    induction sources generalizing index with
    | nil => exact compiledFrom_nil.mpr rfl
    | cons source sources ih =>
      obtain ⟨hsource, hsources⟩ := List.forall_mem_cons.mp h
      cases hprogram : Regex.compile (default : Limits).patternTooDeep source with
      | error failure =>
        rw [hprogram] at hsource
        cases hsource
      | ok program =>
        refine compiledFrom_cons.mpr ⟨program, _, hprogram, ih hsources (index + 1), ?_⟩
        rw [List.zipIdx_cons, List.filterMap_cons_some]
        show (compilePattern default index source).toOption = _
        rw [compilePattern_of_ok hprogram]
        rfl
  exact hfrom 0

end Sources

/-- Sources that are moved or repeated compile just as well. The same ranges are resolved, and a
text becomes the same: only the labels of the spans may differ. -/
theorem rewriteText_of_same_sources {limits : Limits} {sources sources' : List Text}
    (hsame : ∀ source, source ∈ sources ↔ source ∈ sources') {patterns : List Pattern}
    {log : Array LogRecord}
    (h : (compilePatterns limits (sources.map .text)).run.value log = .ok patterns)
    (log' : Array LogRecord) :
    ∃ patterns', (compilePatterns limits (sources'.map .text)).run.value log' = .ok patterns' ∧
      ∀ text, (resolve text patterns).map Span.range = (resolve text patterns').map Span.range ∧
        ∀ mask, (rewriteText patterns mask text).text = (rewriteText patterns' mask text).text ∧
          (rewriteText patterns mask text).changed = (rewriteText patterns' mask text).changed := by
  have hcompiled := compiledFrom_of_value h
  have hsub : sources ⊆ sources' := fun source hsource => (hsame source).mp hsource
  have hsub' : sources' ⊆ sources := fun source hsource => (hsame source).mpr hsource
  obtain ⟨patterns', hcompiled'⟩ := hcompiled.exists_of_subset hsub' 0
  refine ⟨patterns', value_compileFrom_of_compiledFrom hcompiled' log', fun text => ?_⟩
  have hspans : (resolve text patterns).map Span.unlabelled =
      (resolve text patterns').map Span.unlabelled :=
    resolve_unlabelled_congr fun c => ⟨(hcompiled.searchesFor hcompiled' hsub).unlabelled,
      (hcompiled'.searchesFor hcompiled hsub').unlabelled⟩
  refine ⟨?_, rewriteText_congr hspans⟩
  simpa [Function.comp_def] using congrArg (List.map Span.range) hspans

/-- A pattern is given once more, in front of all others. It is credited with its match under the
new place, and the text becomes the same. -/
theorem rewriteText_of_same_sources_repeated :
    (compilePatterns default ([Text.ofString "c", Text.ofString "ab"].map .text)).run.value #[] =
        .ok (patternsOf [Text.ofString "c", Text.ofString "ab"]) ∧
      resolve (Text.ofString "xab") (patternsOf [Text.ofString "c", Text.ofString "ab"]) =
        [⟨1, 3, 1⟩] ∧
      ∃ patterns', (compilePatterns default ([Text.ofString "ab", Text.ofString "c",
          Text.ofString "ab"].map .text)).run.value #[] = .ok patterns' ∧
        (resolve (Text.ofString "xab") patterns').map Span.range = [(1, 3)] ∧
        (rewriteText patterns' [0x2A] (Text.ofString "xab")).text = Text.ofString "x**" ∧
        (rewriteText patterns' [0x2A] (Text.ofString "xab")).changed = true := by
  have hresolve : resolve (Text.ofString "xab")
      (patternsOf [Text.ofString "c", Text.ofString "ab"]) = [⟨1, 3, 1⟩] := by cbv
  have hcompiled : CompiledFrom default 0 [Text.ofString "c", Text.ofString "ab"]
      (patternsOf [Text.ofString "c", Text.ofString "ab"]) := by
    refine compiledFrom_patternsOf (List.forall_mem_cons.mpr ⟨by cbv, ?_⟩)
    exact List.forall_mem_singleton.mpr (by cbv)
  have hvalue := value_compileFrom_of_compiledFrom hcompiled #[]
  have hsources (source : Text) : source ∈ [Text.ofString "c", Text.ofString "ab"] ↔
      source ∈ [Text.ofString "ab", Text.ofString "c", Text.ofString "ab"] := by
    simp [or_comm]
  obtain ⟨patterns', hvalue', hsame⟩ := rewriteText_of_same_sources hsources hvalue #[]
  obtain ⟨hranges, htexts⟩ := hsame (Text.ofString "xab")
  obtain ⟨htext, hchanged⟩ := htexts [0x2A]
  refine ⟨hvalue, hresolve, patterns', hvalue', ?_, ?_, ?_⟩
  · rw [← hranges, hresolve]
    rfl
  · rw [← htext, rewriteText_text, hresolve]
    rfl
  · rw [← hchanged, rewriteText_changed, hresolve]
    simp

end LiteralScrub
