import LiteralScrub.Pattern.Basic

/-!
# The matches of one pattern

The search goes on at the end of a match, and one code point further after an empty one, so it
comes to an end.
-/
namespace LiteralScrub

/-- Where the search goes on after a match. -/
def resumeAfter (start stop : Nat) : Nat := if stop > start then stop else stop + 1

/-- The matches from `pos` on. A search that does not move on has nothing more to report. -/
def scanFrom (pattern : Pattern) (text : Text) (length pos : Nat) : List Span :=
  if pos ≤ length then
    match pattern.find text pos with
    | none => []
    | some (start, stop) =>
      ⟨start, stop, pattern.index⟩ ::
        if pos < resumeAfter start stop then
          scanFrom pattern text length (resumeAfter start stop)
        else []
  else []
termination_by length + 1 - pos

/-- The leftmost matches of a pattern that do not overlap, empty ones included. -/
def scan (pattern : Pattern) (text : Text) : List Span :=
  scanFrom pattern text text.length 0

end LiteralScrub
