import LiteralScrub.Pattern.Resolve
import LiteralScrub.Rewrite.Mask

/-!
# Rewriting a text

The resolved spans of a text are replaced by the mask and all else stays.
-/
namespace LiteralScrub

structure Rewriting where
  text : Text
  spans : List Span
  changed : Bool
  deriving DecidableEq, Repr, Inhabited

/-- Replaces the spans, which are given in order, from the offset `cursor` on. -/
def replaceSpans (mask : Text) (text : Text) (cursor : Nat) : List Span → Text
  | [] => text.drop cursor
  | span :: rest =>
    (text.take span.start).drop cursor ++ Mask.between mask span.start span.stop ++
      replaceSpans mask text span.stop rest

/-- Replaces every resolved span by the mask. -/
def rewriteText (patterns : List Pattern) (mask : Text) (text : Text) : Rewriting :=
  match resolve text patterns with
  | [] => ⟨text, [], false⟩
  | spans => ⟨replaceSpans mask text 0 spans, spans, true⟩

end LiteralScrub
