import Mathlib.Data.List.Chain
import Mathlib.Data.List.Sort
import Mathlib.Data.Prod.Lex
import Mathlib.Algebra.Order.BigOperators.Group.List
import Mathlib.Algebra.Order.Group.Nat
import Mathlib.Order.Bounds.Basic
import LiteralScrub.Pattern.Resolve
import LiteralScrub.Proofs.Scan

/-!
# Which matches are taken

The matches of all patterns compete: one ranks before another if it starts earlier, or is longer
from the same start, or has the pattern that was given first. `resolve` takes the one list of
matches in order and without overlaps in which every match left out gives way to one that ranks
before it. No pattern needs to be well behaved for this.
-/
namespace LiteralScrub

namespace Span

/-- The offsets that a span holds. -/
def Covers (s : Span) (i : Nat) : Prop := s.start ≤ i ∧ i < s.stop

/-- Two spans overlap if they share an offset. -/
def Overlaps (s t : Span) : Prop := ∃ i, s.Covers i ∧ t.Covers i

/-- The earlier start ranks first, then the greater length, then the lower pattern. -/
def Outranks (s t : Span) : Prop :=
  s.start < t.start ∨
    s.start = t.start ∧ (t.length < s.length ∨ s.length = t.length ∧ s.index < t.index)

/-- The one span ends where the other starts, or earlier. -/
def Before (s t : Span) : Prop := s.start < t.start ∧ s.stop ≤ t.start

instance (s : Span) (i : Nat) : Decidable (s.Covers i) := inferInstanceAs (Decidable (_ ∧ _))

theorem length_pos {s : Span} : 0 < s.length ↔ s.start < s.stop := Nat.sub_pos_iff_lt

theorem Overlaps.symm {s t : Span} (h : s.Overlaps t) : t.Overlaps s := by
  obtain ⟨i, hs, ht⟩ := h
  exact ⟨i, ht, hs⟩

theorem not_overlaps_of_stop_le {s t : Span} (h : s.stop ≤ t.start) : ¬s.Overlaps t := by
  rintro ⟨i, ⟨_, hi⟩, ⟨hi', _⟩⟩
  omega

instance : Std.Symm fun s t : Span => ¬s.Overlaps t := ⟨fun _ _ h ho => h ho.symm⟩

theorem Before.trans {s t u : Span} (hst : s.Before t) (htu : t.Before u) : s.Before u :=
  ⟨hst.1.trans htu.1, hst.2.trans htu.1.le⟩

instance : Trans Before Before Before := ⟨Before.trans⟩

instance : Std.Irrefl Before := ⟨fun _ h => lt_irrefl _ h.1⟩

instance : Std.Antisymm Before := ⟨fun _ _ h h' => absurd h'.1 h.1.asymm⟩

theorem eq_of_range {s t : Span} (hs : s.start = t.start) (he : s.stop = t.stop)
    (hi : s.index = t.index) : s = t := by
  cases s
  cases t
  simp_all

theorem precedes_iff {s t : Span} :
    s.precedes t = true ↔ s.start < t.start ∨
      s.start = t.start ∧ (t.length < s.length ∨ s.length = t.length ∧ s.index ≤ t.index) := by
  simp [precedes]

theorem precedes_trans (s t u : Span) (hst : s.precedes t = true) (htu : t.precedes u = true) :
    s.precedes u = true := by
  rw [precedes_iff] at *
  omega

theorem precedes_total (s t : Span) : (s.precedes t || t.precedes s) = true := by
  rw [Bool.or_eq_true, precedes_iff, precedes_iff]
  omega

theorem start_le_of_precedes {s t : Span} (h : s.precedes t = true) : s.start ≤ t.start := by
  rw [precedes_iff] at h
  omega

/-- Only a span itself is as good as the span. -/
theorem outranks_of_precedes {s t : Span} (h : s.precedes t = true) (hne : s ≠ t)
    (hs : 0 < s.length) : s.Outranks t := by
  rw [precedes_iff] at h
  by_contra hn
  unfold Outranks at hn
  have hlen : s.length = t.length := by omega
  rw [length_pos] at hs
  refine hne (eq_of_range (by omega) ?_ (by omega))
  unfold length at hlen
  omega

/-- A key under which outranking is being smaller, for spans of length `n` at most. -/
def key (n : Nat) (s : Span) : ℕ ×ₗ ℕ ×ₗ ℕ := toLex (s.start, toLex (n - s.length, s.index))

theorem key_lt_of_outranks {n : Nat} {s t : Span} (h : s.Outranks t) (hs : s.length ≤ n) :
    s.key n < t.key n := by
  simp only [key, Prod.Lex.toLex_lt_toLex]
  rcases h with h | ⟨h, h' | h'⟩ <;> omega

end Span

/-- A match of one of the patterns that is not empty. -/
def IsCandidate (patterns : List Pattern) (text : Text) (s : Span) : Prop :=
  ∃ pattern ∈ patterns, s ∈ scan pattern text ∧ 0 < s.length

theorem mem_candidates {patterns : List Pattern} {text : Text} {s : Span} :
    s ∈ candidates patterns text ↔ IsCandidate patterns text s := by
  simp [candidates, IsCandidate, List.mem_flatMap, List.mem_filter]

/-- A list of candidates in order and without overlaps in which no place is missing: a candidate
that is left out overlaps a member that outranks it. -/
structure IsResolution (candidate : Span → Prop) (spans : List Span) : Prop where
  candidates : ∀ s ∈ spans, candidate s
  ordered : spans.IsChain Span.Before
  outranked : ∀ c, candidate c → c ∉ spans → ∃ s ∈ spans, s.Outranks c ∧ s.Overlaps c

/-! ## The sweep takes a resolution -/

theorem sweep_sublist (free : Nat) (spans : List Span) : (sweep free spans).Sublist spans := by
  induction spans generalizing free with
  | nil => exact List.Sublist.refl _
  | cons s rest ih =>
    simp only [sweep]
    split_ifs
    · exact (ih _).cons_cons s
    · exact (ih _).cons s

/-- Nothing is taken before the end of what was taken last. -/
theorem le_start_of_mem_sweep {free : Nat} {spans : List Span}
    (hpos : ∀ s ∈ spans, 0 < s.length) : ∀ s ∈ sweep free spans, free ≤ s.start := by
  induction spans generalizing free with
  | nil => simp [sweep]
  | cons s rest ih =>
    have hs := Span.length_pos.mp (hpos s (by simp))
    have hrest : ∀ t ∈ rest, 0 < t.length := fun t ht => hpos t (by simp [ht])
    intro t ht
    simp only [sweep] at ht
    split_ifs at ht with hfree
    · rcases List.mem_cons.mp ht with rfl | ht
      · exact hfree
      · have := ih hrest t ht
        omega
    · exact ih hrest t ht

theorem sweep_pairwise (free : Nat) {spans : List Span} (hpos : ∀ s ∈ spans, 0 < s.length) :
    (sweep free spans).Pairwise fun s t => s.stop ≤ t.start := by
  induction spans generalizing free with
  | nil => simp [sweep]
  | cons s rest ih =>
    have hrest : ∀ t ∈ rest, 0 < t.length := fun t ht => hpos t (by simp [ht])
    simp only [sweep]
    split_ifs
    · exact List.pairwise_cons.mpr ⟨le_start_of_mem_sweep hrest, ih _ hrest⟩
    · exact ih _ hrest

/-- A span is left out because it begins before `free`, or within one taken before it. -/
theorem sweep_rejected {free : Nat} {spans : List Span}
    (hsorted : spans.Pairwise fun s t => s.precedes t = true) {c : Span} (hc : c ∈ spans)
    (hn : c ∉ sweep free spans) :
    c.start < free ∨ ∃ s ∈ sweep free spans, s.precedes c = true ∧ c.start < s.stop := by
  induction spans generalizing free with
  | nil => simp at hc
  | cons s rest ih =>
    obtain ⟨hfirst, hrest⟩ := List.pairwise_cons.mp hsorted
    simp only [sweep] at hn ⊢
    split_ifs at hn ⊢ with hfree
    · -- what `s` pushes out begins before its end, and `s` was sorted before it
      simp only [List.mem_cons, not_or] at hn
      have hmem := (List.mem_cons.mp hc).resolve_left hn.1
      right
      rcases ih hrest hmem hn.2 with h | ⟨t, ht, hp, hlt⟩
      · exact ⟨s, by simp, hfirst c hmem, h⟩
      · exact ⟨t, by simp [ht], hp, hlt⟩
    · rcases List.mem_cons.mp hc with rfl | hmem
      · left
        omega
      · exact ih hrest hmem hn

section Resolve

variable (patterns : List Pattern) (text : Text)

/-- The candidates in the order in which they are swept. -/
def ranked : List Span := (candidates patterns text).mergeSort Span.precedes

theorem mem_ranked {s : Span} : s ∈ ranked patterns text ↔ IsCandidate patterns text s := by
  rw [ranked, List.mem_mergeSort, mem_candidates]

theorem ranked_sorted : (ranked patterns text).Pairwise fun s t => s.precedes t = true :=
  List.pairwise_mergeSort Span.precedes_trans Span.precedes_total _

theorem ranked_length_pos : ∀ s ∈ ranked patterns text, 0 < s.length := by
  intro s hs
  obtain ⟨_, _, _, hpos⟩ := (mem_ranked patterns text).mp hs
  exact hpos

variable {patterns text}

theorem isCandidate_of_mem_resolve {s : Span} (hs : s ∈ resolve text patterns) :
    IsCandidate patterns text s :=
  (mem_ranked patterns text).mp ((sweep_sublist _ _).subset hs)

theorem resolve_pairwise : (resolve text patterns).Pairwise fun s t => s.stop ≤ t.start :=
  sweep_pairwise 0 (ranked_length_pos patterns text)

theorem resolve_length_pos : ∀ s ∈ resolve text patterns, 0 < s.length := by
  intro s hs
  obtain ⟨_, _, _, hpos⟩ := isCandidate_of_mem_resolve hs
  exact hpos

theorem resolve_outranked {c : Span} (hc : IsCandidate patterns text c)
    (hn : c ∉ resolve text patterns) :
    ∃ s ∈ resolve text patterns, s.Outranks c ∧ s.Overlaps c := by
  have hmem := (mem_ranked patterns text).mpr hc
  obtain ⟨_, _, _, hpos⟩ := hc
  have hlt := Span.length_pos.mp hpos
  rcases sweep_rejected (ranked_sorted patterns text) hmem hn with h | ⟨s, hs, hp, hstop⟩
  · simp at h
  · refine ⟨s, hs, ?_, c.start, ⟨Span.start_le_of_precedes hp, hstop⟩, le_rfl, hlt⟩
    apply Span.outranks_of_precedes hp
    · rintro rfl
      exact hn hs
    · exact resolve_length_pos s hs

variable (patterns text) in
theorem resolve_isResolution :
    IsResolution (IsCandidate patterns text) (resolve text patterns) where
  candidates := fun _ => isCandidate_of_mem_resolve
  ordered := by
    refine (resolve_pairwise.imp_of_mem fun {s t} hs _ hst => ?_).isChain
    have := Span.length_pos.mp (resolve_length_pos s hs)
    exact ⟨by omega, hst⟩
  outranked := fun _ => resolve_outranked

end Resolve

/-! ## There is only one resolution -/

namespace IsResolution

variable {candidate : Span → Prop} {spans spans' : List Span}

theorem pairwise (h : IsResolution candidate spans) : spans.Pairwise Span.Before :=
  h.ordered.pairwise

theorem eq_of_overlaps (h : IsResolution candidate spans) {s t : Span} (hs : s ∈ spans)
    (ht : t ∈ spans) (ho : s.Overlaps t) : s = t := by
  by_contra hne
  have hapart : spans.Pairwise fun s t => ¬s.Overlaps t :=
    h.pairwise.imp fun hst => Span.not_overlaps_of_stop_le hst.2
  exact hapart.forall hs ht hne ho

/-- Of two resolutions, each has the members of the other. The induction is along the ranks: a
candidate is kept out only by one that ranks before it. -/
theorem mem_iff_mem {n : Nat} (hlen : ∀ c, candidate c → c.length ≤ n)
    (h : IsResolution candidate spans) (h' : IsResolution candidate spans') (c : Span) :
    c ∈ spans ↔ c ∈ spans' := by
  induction hk : c.key n using WellFoundedLT.induction generalizing c with
  | ind k ih =>
    subst hk
    have agree : ∀ s, candidate s → s.Outranks c → (s ∈ spans ↔ s ∈ spans') :=
      fun s hs ho => ih _ (Span.key_lt_of_outranks ho (hlen s hs)) s rfl
    constructor
    · intro hc
      by_contra hn
      obtain ⟨s, hs, hrank, hover⟩ := h'.outranked c (h.candidates c hc) hn
      have hmem := (agree s (h'.candidates s hs) hrank).mpr hs
      exact hn (h.eq_of_overlaps hmem hc hover ▸ hs)
    · intro hc
      by_contra hn
      obtain ⟨s, hs, hrank, hover⟩ := h.outranked c (h'.candidates c hc) hn
      have hmem := (agree s (h.candidates s hs) hrank).mp hs
      exact hn (h'.eq_of_overlaps hmem hc hover ▸ hs)

theorem eq_of_length_le {n : Nat} (hlen : ∀ c, candidate c → c.length ≤ n)
    (h : IsResolution candidate spans) (h' : IsResolution candidate spans') : spans = spans' :=
  h.pairwise.eq_of_mem_iff h'.pairwise (mem_iff_mem hlen h h')

end IsResolution

theorem exists_length_le (patterns : List Pattern) (text : Text) :
    ∃ bound, ∀ c, IsCandidate patterns text c → c.length ≤ bound :=
  ⟨((candidates patterns text).map Span.length).sum, fun _ hc =>
    List.le_sum_of_mem (List.mem_map_of_mem (mem_candidates.mpr hc))⟩

theorem isResolution_iff {patterns : List Pattern} {text : Text} {spans : List Span} :
    IsResolution (IsCandidate patterns text) spans ↔ spans = resolve text patterns := by
  constructor
  · intro h
    obtain ⟨bound, hbound⟩ := exists_length_le patterns text
    exact h.eq_of_length_le hbound (resolve_isResolution _ _)
  · rintro rfl
    exact resolve_isResolution _ _

/-- Of the patterns that report one range, the first one is credited. -/
theorem index_le_of_mem_resolve {patterns : List Pattern} {text : Text} {s c : Span}
    (hs : s ∈ resolve text patterns) (hc : IsCandidate patterns text c)
    (hstart : c.start = s.start) (hstop : c.stop = s.stop) : s.index ≤ c.index := by
  have hres := resolve_isResolution patterns text
  have hover : ∀ t : Span, t.Overlaps c → t.Overlaps s := by
    rintro t ⟨i, hti, hci⟩
    exact ⟨i, hti, hstart ▸ hci.1, hstop ▸ hci.2⟩
  by_cases hin : c ∈ resolve text patterns
  · have hlt := Span.length_pos.mp (resolve_length_pos c hin)
    rw [hres.eq_of_overlaps hin hs (hover c ⟨c.start, ⟨le_rfl, hlt⟩, le_rfl, hlt⟩)]
  · obtain ⟨t, ht, hrank, ho⟩ := resolve_outranked hc hin
    obtain rfl := hres.eq_of_overlaps ht hs (hover t ho)
    have hlen : t.length = c.length := by simp [Span.length, hstart, hstop]
    rcases hrank with h | ⟨_, h | ⟨_, h⟩⟩ <;> omega

/-- The resolved spans are the one list of candidates in order and without overlaps in which each
candidate left out overlaps a member that outranks it. A member has the first of the patterns that
report its range, and nothing is taken only if there is nothing to take. -/
theorem resolve_unique (patterns : List Pattern) (text : Text) :
    (∀ spans, IsResolution (IsCandidate patterns text) spans ↔ spans = resolve text patterns) ∧
    (∀ s ∈ resolve text patterns,
      IsLeast {index | ∃ pattern ∈ patterns, pattern.index = index ∧
        ∃ t ∈ scan pattern text, t.start = s.start ∧ t.stop = s.stop} s.index) ∧
    (resolve text patterns = [] → ∀ c, ¬IsCandidate patterns text c) := by
  refine ⟨fun spans => isResolution_iff, ?_, ?_⟩
  · intro s hs
    obtain ⟨pattern, hp, hscan, hpos⟩ := isCandidate_of_mem_resolve hs
    refine ⟨⟨pattern, hp, (index_of_mem_scan hscan).symm, s, hscan, rfl, rfl⟩, ?_⟩
    rintro _ ⟨other, ho, rfl, t, ht, hstart, hstop⟩
    have hcand : IsCandidate patterns text t := by
      refine ⟨other, ho, ht, ?_⟩
      rw [Span.length_pos] at hpos ⊢
      omega
    rw [← index_of_mem_scan ht]
    exact index_le_of_mem_resolve hs hcand hstart hstop
  · intro hnone c hc
    obtain ⟨s, hs, _⟩ := resolve_outranked hc (by simp [hnone])
    simp [hnone] at hs

end LiteralScrub
