import Mathlib
import LiteralScrub.Proofs.Search

/-!
# The scan as a loop

The loop searches at a position, reports what it finds and goes on from there. Nothing in it says
that it ends. It does, because each turn begins behind the one before, and for the same reason what
it reports is in order and cannot be more than there are positions.
-/
namespace LiteralScrub

variable {pattern : Pattern} {text : Text}

/-- One turn of the loop at a position: what is reported, and the position of the next turn. There
is none behind the text or if nothing is found. -/
def scanTurn (pattern : Pattern) (text : Text) (pos : Nat) : Option (Span × Nat) :=
  if pos ≤ text.length then
    (pattern.find text pos).map fun (start, stop) =>
      (⟨start, stop, pattern.index⟩, resumeAfter start stop)
  else none

/-- The loop comes to an end from a position and has then reported the spans. -/
inductive ScanEnds (pattern : Pattern) (text : Text) : Nat → List Span → Prop where
  | ended {pos : Nat} (h : scanTurn pattern text pos = none) : ScanEnds pattern text pos []
  | turn {pos next : Nat} {span : Span} {rest : List Span}
      (h : scanTurn pattern text pos = some (span, next))
      (hrest : ScanEnds pattern text next rest) :
      ScanEnds pattern text pos (span :: rest)

/-- The loop can end in one way only. -/
theorem ScanEnds.unique {pos : Nat} {spans others : List Span} (h : ScanEnds pattern text pos spans)
    (h' : ScanEnds pattern text pos others) : spans = others := by
  induction h generalizing others with
  | ended hended =>
    cases h' with
    | ended => rfl
    | turn hturn => cases hended.symm.trans hturn
  | turn hturn _ ih =>
    cases h' with
    | ended hended => cases hended.symm.trans hturn
    | turn hturn' hrest' =>
      obtain ⟨rfl, rfl⟩ := Prod.mk.inj (Option.some.inj (hturn.symm.trans hturn'))
      rw [ih hrest']

/-- A search that stays within the text lets the loop end. -/
theorem scanEnds_scanFrom (h : pattern.FindsWithin text) (pos : Nat) :
    ScanEnds pattern text pos (scanFrom pattern text text.length pos) := by
  fun_induction scanFrom pattern text text.length pos with
  | case1 pos hpos hfind => exact .ended (by simp [scanTurn, hfind])
  | case2 pos hpos start stop hfind ih =>
    obtain ⟨hstart, hstop, -⟩ := h pos start stop hpos hfind
    have hmove := lt_resumeAfter hstart hstop
    rw [if_pos hmove]
    exact .turn (by simp [scanTurn, hpos, hfind]) (ih hmove)
  | case3 pos hpos => exact .ended (if_neg hpos)

/-- What is reported later begins where the search has gone on, or behind it. -/
theorem scanFrom_pairwise (h : pattern.FindsWithin text) (pos : Nat) :
    (scanFrom pattern text text.length pos).Pairwise
      fun s t => resumeAfter s.start s.stop ≤ t.start := by
  fun_induction scanFrom pattern text text.length pos with
  | case1 => exact .nil
  | case2 pos hpos start stop hfind ih =>
    obtain ⟨hstart, hstop, -⟩ := h pos start stop hpos hfind
    have hmove := lt_resumeAfter hstart hstop
    rw [if_pos hmove]
    exact .cons (fun t ht => (mem_scanFrom_bounds h ht).1) (ih hmove)
  | case3 => exact .nil

/-- There are no more turns than positions. -/
theorem length_scanFrom_le (pattern : Pattern) (text : Text) (length pos : Nat) :
    (scanFrom pattern text length pos).length ≤ length + 1 - pos := by
  fun_induction scanFrom pattern text length pos with
  | case1 => exact Nat.zero_le _
  | case2 pos hpos start stop hfind ih =>
    rw [List.length_cons]
    split_ifs with hmove
    · have := ih hmove
      omega
    · rw [List.length_nil]
      omega
  | case3 => exact Nat.zero_le _

/-- If the search stays within the text, the loop ends, and there is one list that it has then
reported. Its spans lie in the text and belong to the pattern. Each begins behind the beginning of
the one before and not before its end, an empty one is left behind by one code point at least, and
there is at most one span more than code points. -/
theorem scan_ends_in_order (pattern : Pattern) (text : Text) (h : pattern.FindsWithin text) :
    (∀ spans, ScanEnds pattern text 0 spans ↔ spans = scan pattern text) ∧
    (scan pattern text).Pairwise (fun s t =>
      s.start < t.start ∧ s.stop ≤ t.start ∧ (s.length = 0 → s.stop + 1 ≤ t.start)) ∧
    (∀ s ∈ scan pattern text,
      s.start ≤ s.stop ∧ s.stop ≤ text.length ∧ s.index = pattern.index) ∧
    (scan pattern text).length ≤ text.length + 1 := by
  have hends : ScanEnds pattern text 0 (scan pattern text) := scanEnds_scanFrom h 0
  have hmem : ∀ s ∈ scan pattern text,
      s.start ≤ s.stop ∧ s.stop ≤ text.length ∧ s.index = pattern.index := by
    intro s hs
    obtain ⟨-, hle, hstop⟩ := mem_scanFrom_bounds h hs
    exact ⟨hle, hstop, index_of_mem_scan hs⟩
  refine ⟨fun spans => ⟨fun hspans => hspans.unique hends, fun heq => heq ▸ hends⟩, ?_, hmem,
    length_scanFrom_le pattern text text.length 0⟩
  refine (scanFrom_pairwise h 0).imp_of_mem fun {s t} hs _ hnext => ?_
  have hle := (hmem s hs).1
  unfold resumeAfter at hnext
  unfold Span.length
  split_ifs at hnext <;> omega

/-- A pattern that also finds nothing but an empty match: empty spans and others stand side by side,
also behind the last code point. -/
theorem scan_ends_in_order_repeated :
    ∃ pattern, compilePattern default 3 (Text.ofString "a*") = .ok pattern ∧
      pattern.FindsWithin (Text.ofString "baac") ∧
      ScanEnds pattern (Text.ofString "baac") 0 [⟨0, 0, 3⟩, ⟨1, 3, 3⟩, ⟨3, 3, 3⟩, ⟨4, 4, 3⟩] := by
  have hscan : ((compilePattern default 3 (Text.ofString "a*")).map
      fun pattern => scan pattern (Text.ofString "baac")).toOption =
        some [⟨0, 0, 3⟩, ⟨1, 3, 3⟩, ⟨3, 3, 3⟩, ⟨4, 4, 3⟩] := by cbv
  cases hcompile : compilePattern default 3 (Text.ofString "a*") with
  | error e =>
    rw [hcompile] at hscan
    cases hscan
  | ok pattern =>
    rw [hcompile] at hscan
    have hwithin := compilePattern_findsWithin hcompile (Text.ofString "baac")
    obtain ⟨hends, -⟩ := scan_ends_in_order pattern (Text.ofString "baac") hwithin
    exact ⟨pattern, rfl, hwithin, (hends _).mpr (Option.some.inj hscan).symm⟩

end LiteralScrub
