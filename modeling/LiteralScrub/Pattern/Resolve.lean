import LiteralScrub.Pattern.Scan

/-!
# The matches of several patterns

All matches that are not empty are put in order and taken greedily: a match counts if it begins
at or after the end of the last one taken.
-/
namespace LiteralScrub

/-- The matches of all patterns, without empty ones. -/
def candidates (patterns : List Pattern) (text : Text) : List Span :=
  patterns.flatMap fun pattern => (scan pattern text).filter fun span => span.length > 0

/-- Takes each span that begins at or after `free`, where the last one taken ends. -/
def sweep (free : Nat) : List Span → List Span
  | [] => []
  | span :: rest =>
    if free ≤ span.start then span :: sweep span.stop rest else sweep free rest

/-- The spans to replace, in order and without overlaps. -/
def resolve (text : Text) (patterns : List Pattern) : List Span :=
  sweep 0 ((candidates patterns text).mergeSort Span.precedes)

end LiteralScrub
