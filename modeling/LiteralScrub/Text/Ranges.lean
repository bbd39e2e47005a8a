import LiteralScrub.Text.Basic

/-!
# Sets of code points as sorted runs

A property of code points is kept as an increasing array of runs, each given by its first and last
member, and is looked up by halving.
-/
namespace LiteralScrub

/-- The last of the runs `lo, …, hi - 1` that starts at or before `c`. -/
def lastRunFrom (runs : Array (Nat × Nat)) (c : Nat) (lo hi : Nat) : Option (Nat × Nat) :=
  if hi ≤ lo + 1 then runs[lo]?
  else
    let mid := (lo + hi) / 2
    match runs[mid]? with
    | none => none
    | some run => if run.1 ≤ c then lastRunFrom runs c mid hi else lastRunFrom runs c lo mid
termination_by hi - lo

/-- Whether some run holds `c`. -/
def inRanges (runs : Array (Nat × Nat)) (c : Nat) : Bool :=
  match lastRunFrom runs c 0 runs.size with
  | none => false
  | some run => run.1 ≤ c && c ≤ run.2

end LiteralScrub
