import LiteralScrub.Log
import LiteralScrub.Rewrite.Basic
import LiteralScrub.Tree.Display
import LiteralScrub.Tree.Problem

/-!
# Scrubbing literals

A walk through a tree hands the text of each literal to a rewriting function, counts the literals
that change and writes a record for each.
-/
namespace LiteralScrub.Scrub

/-- A walk counts the literals that it has changed. -/
abbrev WalkM := StateT Nat Logged

def logger : String := "scrubber.processors.ast_transformer"

/-- How many code points of a literal a record shows. -/
def previewLength : Nat := 20

def preview (t : Text) : Text :=
  if t.length ≤ previewLength then t else t.take previewLength ++ Text.ofString "..."

/-- The new text of a literal, if it changes. -/
def scrubText (rewrite : Text → Rewriting) (line : Value) (t : Text) : WalkM (Option Text) := do
  let result := rewrite t
  if result.changed then
    modify (· + 1)
    Logged.write .debug logger
      (Text.ofString "Scrubbed " ++ Text.ofNat result.spans.length ++
        Text.ofString " match(es) in literal at line " ++ line.plain ++ Text.ofString ": '" ++
        preview t ++ Text.ofString "'")
    return some result.text
  else return none

end LiteralScrub.Scrub
