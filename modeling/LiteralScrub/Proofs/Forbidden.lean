import LiteralScrub.Proofs.Substitution

/-!
# Points that cannot survive

If one of the patterns finds each single point of a set, and the mask has none of them, then no
point of the set is left after rewriting. Other patterns may take a match away from that pattern,
but only by covering it.
-/
namespace LiteralScrub

theorem Mask.mem_of_mem_fill {mask : Text} {n : Int} {c : CodePoint} (h : c ∈ Mask.fill mask n) :
    c ∈ mask := by
  rw [Mask.fill_eq_filterMap] at h
  obtain ⟨k, _, hk⟩ := List.mem_filterMap.mp h
  exact List.mem_of_getElem? hk

/-- What is in a rewritten text comes from the mask or from an offset that no span covers. -/
theorem mem_replaceSpans {mask text : Text} {cursor : Nat} {spans : List Span}
    (h : InOrder cursor spans) {c : CodePoint} (hc : c ∈ replaceSpans mask text cursor spans) :
    c ∈ mask ∨ ∃ i, cursor ≤ i ∧ text[i]? = some c ∧ ∀ s ∈ spans, ¬s.Covers i := by
  induction spans generalizing cursor with
  | nil =>
    right
    rw [replaceSpans] at hc
    obtain ⟨k, hk⟩ := List.mem_iff_getElem?.mp hc
    rw [List.getElem?_drop] at hk
    exact ⟨cursor + k, by omega, hk, by simp⟩
  | cons s rest ih =>
    simp only [replaceSpans, List.append_assoc, List.mem_append] at hc
    rcases hc with hc | hc | hc
    · right
      obtain ⟨k, hk⟩ := List.mem_iff_getElem?.mp hc
      have hlt : cursor + k < s.start := by
        have := (List.getElem?_eq_some_iff.mp hk).1
        simp only [List.length_drop, List.length_take] at this
        omega
      rw [List.getElem?_drop, List.getElem?_take_of_lt hlt] at hk
      exact ⟨cursor + k, by omega, hk, h.not_covers_of_lt hlt⟩
    · exact Or.inl (Mask.mem_of_mem_fill hc)
    · rcases ih h.tail hc with hmask | ⟨i, hi, hget, hout⟩
      · exact Or.inl hmask
      · have hstart := h.cursor_le s (by simp)
        have hle := h.start_le_stop s (by simp)
        refine Or.inr ⟨i, by omega, hget, ?_⟩
        intro t ht
        rcases List.mem_cons.mp ht with rfl | ht
        · exact fun hcov => by have := hcov.2; omega
        · exact hout t ht

/-- Each point of the set stands in a resolved span, whatever patterns compete. -/
theorem covered_of_findsOne {patterns : List Pattern} {pattern : Pattern}
    (hmem : pattern ∈ patterns) {points : Set CodePoint} (h : pattern.FindsOne points)
    {text : Text} {i : Nat} {c : CodePoint} (hc : c ∈ points) (hi : text[i]? = some c) :
    ∃ s ∈ resolve text patterns, s.Covers i := by
  have hcand : IsCandidate patterns text ⟨i, i + 1, pattern.index⟩ :=
    ⟨pattern, hmem, mem_scan_of_findsOne h hc hi, by simp [Span.length]⟩
  by_cases hin : ⟨i, i + 1, pattern.index⟩ ∈ resolve text patterns
  · exact ⟨_, hin, le_rfl, Nat.lt_succ_self i⟩
  · -- the span that keeps it out shares an offset with it, and it has only one
    obtain ⟨s, hs, _, j, hsj, hj⟩ := resolve_outranked hcand hin
    obtain rfl : j = i := by
      have := hj.1
      have := hj.2
      simp only at *
      omega
    exact ⟨s, hs, hsj⟩

theorem resolve_singleton_eq_nil {pattern : Pattern} {text : Text} (h : scan pattern text = []) :
    resolve text [pattern] = [] := by
  rw [List.eq_nil_iff_forall_not_mem]
  intro s hs
  obtain ⟨p, hp, hscan, _⟩ := isCandidate_of_mem_resolve hs
  obtain rfl := List.mem_singleton.mp hp
  simp [h] at hscan

/-- No point of the set survives, and rewriting once more by the pattern for the set alone finds
nothing to change. -/
theorem rewriteText_removes_points (points : Set CodePoint) (patterns : List Pattern)
    (pattern : Pattern) (hmem : pattern ∈ patterns) (hone : pattern.FindsOne points) (mask : Text)
    (hmask : ∀ c ∈ mask, c ∉ points) (text : Text) :
    (∀ c ∈ (rewriteText patterns mask text).text, c ∉ points) ∧
      ∀ mask', (rewriteText [pattern] mask' (rewriteText patterns mask text).text).changed =
        false := by
  have hclean : ∀ c ∈ (rewriteText patterns mask text).text, c ∉ points := by
    intro c hc hpoint
    rw [rewriteText_text] at hc
    rcases mem_replaceSpans (resolve_inOrder patterns text) hc with hm | ⟨i, _, hget, hout⟩
    · exact hmask c hm hpoint
    · obtain ⟨s, hs, hcov⟩ := covered_of_findsOne hmem hone hpoint hget
      exact hout s hs hcov
  refine ⟨hclean, fun mask' => ?_⟩
  rw [Bool.eq_false_iff, ne_eq, rewriteText_changed, not_not]
  exact resolve_singleton_eq_nil (scan_eq_nil_of_findsOne hone hclean)

/-- A pattern for the ideographs of the basic plane. -/
def ideographs : Pattern :=
  ⟨1, Text.ofString "[一-鿿]", Regex.Program.search ⟨[.one fun c => 0x4E00 ≤ c && c ≤ 0x9FFF], 0⟩⟩

/-- The first of two ideographs is taken by another pattern, which begins before it. -/
theorem rewriteText_removes_ideographs :
    let patterns := patternsOf [Text.ofString "a."] ++ [ideographs]
    let result := rewriteText patterns [] (Text.ofString "xa中文y")
    result.spans = [⟨1, 3, 0⟩, ⟨3, 4, 1⟩] ∧
      (∀ c ∈ result.text, ¬(0x4E00 ≤ c ∧ c ≤ 0x9FFF)) ∧
      (rewriteText [ideographs] [] result.text).changed = false := by
  have hspans : (rewriteText (patternsOf [Text.ofString "a."] ++ [ideographs]) []
      (Text.ofString "xa中文y")).spans = [⟨1, 3, 0⟩, ⟨3, 4, 1⟩] := by cbv
  obtain ⟨hclean, hagain⟩ :=
    rewriteText_removes_points {c | (0x4E00 ≤ c && c ≤ 0x9FFF) = true}
      (patternsOf [Text.ofString "a."] ++ [ideographs]) ideographs (by simp) findsOne_of_test []
      (by simp) (Text.ofString "xa中文y")
  exact ⟨hspans, fun c hc => by simpa using hclean c hc, hagain []⟩

end LiteralScrub
