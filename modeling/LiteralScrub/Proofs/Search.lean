import Mathlib.Order.Bounds.Basic
import LiteralScrub.Pattern.Compile
import LiteralScrub.Proofs.Scan

/-!
# Where compiled patterns find their matches

Whatever steps a program has, it ends at or after the position where it begins and within the
text. So a compiled pattern reports ranges of the text only.
-/
namespace LiteralScrub

namespace Regex

/-- No step goes back: a look-behind returns to the position from where it looked. -/
theorem run_bounds {text : Array CodePoint} {steps : List Step} {pos stop : Nat}
    {marks marks' : Marks} (h : run text steps pos marks = some (stop, marks'))
    (hpos : pos ≤ text.size) : pos ≤ stop ∧ stop ≤ text.size := by
  fun_induction run text steps pos marks generalizing stop marks' <;> grind

theorem searchFrom_bounds {text : Array CodePoint} {program : Program} {pos start stop : Nat}
    (h : searchFrom text program pos = some (start, stop)) :
    pos ≤ start ∧ start ≤ stop ∧ stop ≤ text.size := by
  fun_induction searchFrom text program pos with
  | case1 pos hpos last marks hrun =>
    obtain ⟨rfl, rfl⟩ : pos = start ∧ last = stop := by simpa using h
    exact ⟨le_rfl, run_bounds hrun hpos⟩
  | case2 pos hpos hrun ih =>
    have := ih h
    omega
  | case3 => simp at h

/-- Where the match ends that begins at a position, if there is one. -/
def Program.endFrom (program : Program) (text : Array CodePoint) (pos : Nat) : Option Nat :=
  if pos ≤ text.size then
    (run text program.steps pos (Array.replicate (2 * program.groups) none)).map Prod.fst
  else none

theorem Program.endFrom_bounds {text : Array CodePoint} {program : Program} {pos stop : Nat}
    (h : program.endFrom text pos = some stop) : pos ≤ stop ∧ stop ≤ text.size := by
  unfold Program.endFrom at h
  split_ifs at h with hpos
  obtain ⟨⟨last, marks⟩, hrun, rfl⟩ := Option.map_eq_some_iff.mp h
  exact run_bounds hrun hpos

/-- The search finds the first of the matches. -/
theorem searchFrom_eq_some_iff {text : Array CodePoint} {program : Program}
    {pos start stop : Nat} :
    searchFrom text program pos = some (start, stop) ↔
      IsLeast {s | pos ≤ s ∧ (program.endFrom text s).isSome} start ∧
        program.endFrom text start = some stop := by
  fun_induction searchFrom text program pos with
  | case1 pos hpos last marks hrun =>
    have hend : program.endFrom text pos = some last := by
      rw [Program.endFrom, if_pos hpos, hrun]
      rfl
    have hleast : IsLeast {s | pos ≤ s ∧ (program.endFrom text s).isSome} pos :=
      ⟨⟨le_rfl, by simp [hend]⟩, fun _ hs => hs.1⟩
    constructor
    · intro h
      obtain ⟨rfl, rfl⟩ : pos = start ∧ last = stop := by simpa using h
      exact ⟨hleast, hend⟩
    · rintro ⟨h, hstop⟩
      obtain rfl := hleast.unique h
      rw [hend] at hstop
      rw [Option.some.inj hstop]
  | case2 pos hpos hrun ih =>
    have hnone : program.endFrom text pos = none := by
      rw [Program.endFrom, if_pos hpos, hrun]
      rfl
    -- nothing begins at the position itself, so nothing is lost by going on
    have hset : {s | pos ≤ s ∧ (program.endFrom text s).isSome} =
        {s | pos + 1 ≤ s ∧ (program.endFrom text s).isSome} := by
      ext s
      refine ⟨fun ⟨hle, hs⟩ => ⟨?_, hs⟩, fun ⟨hle, hs⟩ => ⟨by omega, hs⟩⟩
      rcases hle.eq_or_lt with rfl | hlt
      · simp [hnone] at hs
      · exact hlt
    rw [ih, hset]
  | case3 pos hpos =>
    constructor
    · intro h
      simp at h
    · rintro ⟨⟨⟨hle, hstart⟩, _⟩, _⟩
      rw [Program.endFrom, if_neg (by omega)] at hstart
      simp at hstart

/-- A program of one test stops after the point that passes it. -/
theorem endFrom_one (text : Array CodePoint) (test : CodePoint → Bool) (groups pos : Nat) :
    Program.endFrom ⟨[.one test], groups⟩ text pos =
      if (text[pos]?).any test then some (pos + 1) else none := by
  unfold Program.endFrom
  by_cases hpos : pos < text.size
  · by_cases htest : test text[pos] <;> simp [run, hpos, hpos.le, htest]
  · simp [run, hpos]

theorem searchFrom_one {text : Array CodePoint} {test : CodePoint → Bool} {groups : Nat}
    {pos start stop : Nat} :
    searchFrom text ⟨[.one test], groups⟩ pos = some (start, stop) ↔
      IsLeast {i | pos ≤ i ∧ (text[i]?).any test} start ∧ stop = start + 1 := by
  have hset : {i | pos ≤ i ∧ (Program.endFrom ⟨[.one test], groups⟩ text i).isSome} =
      {i | pos ≤ i ∧ (text[i]?).any test} := by
    ext i
    simp [endFrom_one]
  rw [searchFrom_eq_some_iff, hset]
  refine and_congr_right fun hleast => ?_
  rw [endFrom_one, if_pos hleast.1.2, Option.some.injEq, eq_comm]

end Regex

/-- A pattern that tests a single point finds one point of a set. -/
theorem findsOne_of_test {index : Nat} {source : Text} {test : CodePoint → Bool} {groups : Nat} :
    (⟨index, source, Regex.Program.search ⟨[.one test], groups⟩⟩ : Pattern).FindsOne
      {c | test c = true} := by
  intro text pos start stop _
  simp only [Regex.Program.search]
  rw [Regex.searchFrom_one]
  simp [Option.any_eq_true, and_comm]

theorem eq_of_compilePattern {limits : Limits} {index : Nat} {source : Text} {pattern : Pattern}
    (h : compilePattern limits index source = .ok pattern) :
    ∃ program, Regex.compile limits.patternTooDeep source = .ok program ∧
      pattern = ⟨index, source, program.search⟩ := by
  unfold compilePattern at h
  split at h
  · next program hprogram => exact ⟨program, hprogram, (Except.ok.inj h).symm⟩
  · cases h
  · cases h

theorem compilePattern_findsWithin {limits : Limits} {index : Nat} {source : Text}
    {pattern : Pattern} (h : compilePattern limits index source = .ok pattern) (text : Text) :
    pattern.FindsWithin text := by
  obtain ⟨program, -, rfl⟩ := eq_of_compilePattern h
  intro pos start stop _ hfind
  simpa using Regex.searchFrom_bounds hfind

/-- The patterns that well-formed sources compile to, each at its place. -/
def patternsOf (sources : List Text) : List Pattern :=
  sources.zipIdx.filterMap fun (source, index) => (compilePattern default index source).toOption

theorem exists_of_mem_patternsOf {sources : List Text} {pattern : Pattern}
    (h : pattern ∈ patternsOf sources) :
    ∃ index source, compilePattern default index source = .ok pattern := by
  obtain ⟨⟨source, index⟩, _, hcompile⟩ := List.mem_filterMap.mp h
  refine ⟨index, source, ?_⟩
  cases hsource : compilePattern default index source with
  | error e => simp [hsource, Except.toOption] at hcompile
  | ok p => simpa [hsource, Except.toOption] using hcompile

theorem patternsOf_findsWithin (sources : List Text) (text : Text) :
    ∀ pattern ∈ patternsOf sources, pattern.FindsWithin text := by
  intro pattern hp
  obtain ⟨index, source, h⟩ := exists_of_mem_patternsOf hp
  exact compilePattern_findsWithin h text

end LiteralScrub
