import Mathlib.Order.Nat
import LiteralScrub.Pattern.Scan

/-!
# What a scan reports

Of the search it is only asked that what it finds lies at or after the offset and within the text.
If it finds the first of the matches that begin at the offsets of the text, then the scan misses
none of them that does not begin within one reported before.
-/
namespace LiteralScrub

/-- The search reports ranges of the text at or after the offset where it begins. -/
def Pattern.FindsWithin (pattern : Pattern) (text : Text) : Prop :=
  ∀ pos start stop, pos ≤ text.length → pattern.find text pos = some (start, stop) →
    pos ≤ start ∧ start ≤ stop ∧ stop ≤ text.length

/-- The search reports the first match at or after the offset where it begins; `matchAt` gives the
end of the match that begins at an offset, if there is one. -/
def Pattern.FindsFirst (pattern : Pattern) (text : Text) (matchAt : Nat → Option Nat) : Prop :=
  ∀ pos start stop, pos ≤ text.length →
    (pattern.find text pos = some (start, stop) ↔
      IsLeast {s | pos ≤ s ∧ (matchAt s).isSome} start ∧ matchAt start = some stop)

/-- The search reports one point of the set, the first one, and nothing more. -/
def Pattern.FindsOne (pattern : Pattern) (points : Set CodePoint) : Prop :=
  ∀ (text : Text) (pos start stop : Nat), pos ≤ text.length →
    (pattern.find text pos = some (start, stop) ↔
      IsLeast {i | pos ≤ i ∧ ∃ c ∈ points, text[i]? = some c} start ∧ stop = start + 1)

theorem lt_resumeAfter {pos start stop : Nat} (hs : pos ≤ start) (he : start ≤ stop) :
    pos < resumeAfter start stop := by
  unfold resumeAfter
  split_ifs <;> omega

section

variable {pattern : Pattern} {text : Text}

/-- Every reported span is one that a search found, with the index of the pattern. -/
theorem find_of_mem_scanFrom {length pos : Nat} {s : Span}
    (hs : s ∈ scanFrom pattern text length pos) :
    s.index = pattern.index ∧
      ∃ from' ≤ length, pattern.find text from' = some (s.start, s.stop) := by
  fun_induction scanFrom pattern text length pos with
  | case1 => simp at hs
  | case2 pos hpos start stop hfind ih =>
    rcases List.mem_cons.mp hs with rfl | hs
    · exact ⟨rfl, pos, hpos, hfind⟩
    · split_ifs at hs with hmove
      · exact ih hmove hs
      · simp at hs
  | case3 => simp at hs

theorem index_of_mem_scan {s : Span} (hs : s ∈ scan pattern text) : s.index = pattern.index :=
  (find_of_mem_scanFrom hs).1

/-- What is reported from an offset on lies at or after it and within the text. -/
theorem mem_scanFrom_bounds (h : pattern.FindsWithin text) {pos : Nat} {s : Span}
    (hs : s ∈ scanFrom pattern text text.length pos) :
    pos ≤ s.start ∧ s.start ≤ s.stop ∧ s.stop ≤ text.length := by
  fun_induction scanFrom pattern text text.length pos with
  | case1 => simp at hs
  | case2 pos hpos start stop hfind ih =>
    obtain ⟨hstart, hstop, hend⟩ := h pos start stop hpos hfind
    have hmove := lt_resumeAfter hstart hstop
    rw [if_pos hmove] at hs
    rcases List.mem_cons.mp hs with rfl | hs
    · exact ⟨hstart, hstop, hend⟩
    · have := ih hmove hs
      omega
  | case3 => simp at hs

theorem stop_le_of_mem_scan (h : pattern.FindsWithin text) {s : Span}
    (hs : s ∈ scan pattern text) : s.stop ≤ text.length :=
  (mem_scanFrom_bounds h hs).2.2

/-- A match at or after the offset is reported, or begins strictly inside a reported one. -/
theorem mem_scanFrom_or_inside {matchAt : Nat → Option Nat} (h : pattern.FindsFirst text matchAt)
    (hmatch : ∀ q stop, matchAt q = some stop → q ≤ stop) {pos q stop : Nat}
    (hq : q ≤ text.length) (hm : matchAt q = some stop) (hpos : pos ≤ q) :
    ⟨q, stop, pattern.index⟩ ∈ scanFrom pattern text text.length pos ∨
      ∃ s ∈ scanFrom pattern text text.length pos, s.start < q ∧ q < s.stop := by
  fun_induction scanFrom pattern text text.length pos with
  | case1 pos hle hfind =>
    -- the match at `q` is there to be found, so there is a first one
    have hex : ∃ s, pos ≤ s ∧ (matchAt s).isSome := ⟨q, hpos, by simp [hm]⟩
    obtain ⟨last, hlast⟩ := Option.isSome_iff_exists.mp (Nat.find_spec hex).2
    have := (h pos _ last hle).mpr ⟨Nat.isLeast_find hex, hlast⟩
    simp [hfind] at this
  | case2 pos hle first last hfind ih =>
    obtain ⟨hleast, hlast⟩ := (h pos first last hle).mp hfind
    have hfirst : first ≤ q := hleast.2 ⟨hpos, by simp [hm]⟩
    have hmove := lt_resumeAfter hleast.1.1 (hmatch _ _ hlast)
    rw [if_pos hmove]
    rcases hfirst.eq_or_lt with rfl | hlt
    · obtain rfl : last = stop := by simpa [hlast] using hm
      exact Or.inl (by simp)
    · by_cases hin : q < last
      · exact Or.inr ⟨_, List.mem_cons_self, hlt, hin⟩
      · have hnext : resumeAfter first last ≤ q := by
          have := hmatch _ _ hlast
          unfold resumeAfter
          split_ifs <;> omega
        rcases ih hmove hnext with hmem | ⟨s, hs, hinside⟩
        · exact Or.inl (List.mem_cons_of_mem _ hmem)
        · exact Or.inr ⟨s, List.mem_cons_of_mem _ hs, hinside⟩
  | case3 pos hle => omega

/-- A pattern for single points reports each of them. -/
theorem mem_scan_of_findsOne {points : Set CodePoint} (h : pattern.FindsOne points) {i : Nat}
    {c : CodePoint} (hc : c ∈ points) (hi : text[i]? = some c) :
    ⟨i, i + 1, pattern.index⟩ ∈ scan pattern text := by
  classical
  let matchAt : Nat → Option Nat := fun q =>
    if ∃ c ∈ points, text[q]? = some c then some (q + 1) else none
  have hat : ∀ q, (∃ c ∈ points, text[q]? = some c) → matchAt q = some (q + 1) :=
    fun q hq => if_pos hq
  have hfirst : pattern.FindsFirst text matchAt := by
    intro pos start stop hpos
    rw [h text pos start stop hpos]
    constructor
    · rintro ⟨hleast, rfl⟩
      exact ⟨by simpa [matchAt] using hleast, hat _ hleast.1.2⟩
    · rintro ⟨hleast, hstop⟩
      have hset : IsLeast {i | pos ≤ i ∧ ∃ c ∈ points, text[i]? = some c} start := by
        simpa [matchAt] using hleast
      exact ⟨hset, Option.some.inj (hstop.symm.trans (hat _ hset.1.2))⟩
  have hlt : i < text.length := (List.getElem?_eq_some_iff.mp hi).1
  have hle : ∀ q stop, matchAt q = some stop → q ≤ stop := by
    intro q stop hq
    simp only [matchAt, Option.ite_none_right_eq_some, Option.some.injEq] at hq
    omega
  rcases mem_scanFrom_or_inside hfirst hle hlt.le (hat i ⟨c, hc, hi⟩) (Nat.zero_le i) with hmem | ⟨s, hs, hin⟩
  · exact hmem
  · -- a reported span has one offset, and nothing is strictly inside
    obtain ⟨-, pos, hpos, hfind⟩ := find_of_mem_scanFrom hs
    have := ((h text pos _ _ hpos).mp hfind).2
    omega

theorem scan_eq_nil_of_findsOne {points : Set CodePoint} (h : pattern.FindsOne points)
    (hnone : ∀ c ∈ text, c ∉ points) : scan pattern text = [] := by
  rw [List.eq_nil_iff_forall_not_mem]
  intro s hs
  obtain ⟨-, pos, hpos, hfind⟩ := find_of_mem_scanFrom hs
  obtain ⟨⟨⟨_, c, hc, hget⟩, _⟩, _⟩ := (h text pos _ _ hpos).mp hfind
  exact hnone c (List.mem_of_getElem? hget) hc

end

end LiteralScrub
