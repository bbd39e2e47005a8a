import LiteralScrub.Text.Basic

/-!
# Patterns and spans

A pattern finds the first match in a text from an offset on; nothing else of it matters for
rewriting. A span is the half-open range of a match together with the place of its pattern among
the patterns of a configuration.
-/
namespace LiteralScrub

structure Pattern where
  index : Nat
  source : Text
  /-- The first match `(start, stop)` at or after an offset. -/
  find : Text → Nat → Option (Nat × Nat)

structure Span where
  start : Nat
  stop : Nat
  index : Nat
  deriving DecidableEq, Repr, Inhabited

namespace Span

def length (s : Span) : Nat := s.stop - s.start

/-- Whether `s` goes before `t`: the earlier start first, then the longer span, then the pattern
that was given first. -/
def precedes (s t : Span) : Bool :=
  s.start < t.start ||
    (s.start == t.start &&
      (t.length < s.length || (s.length == t.length && s.index ≤ t.index)))

end Span

end LiteralScrub
