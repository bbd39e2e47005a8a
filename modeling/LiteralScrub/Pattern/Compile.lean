import LiteralScrub.Json.Basic
import LiteralScrub.Limits
import LiteralScrub.Log
import LiteralScrub.Pattern.Basic
import LiteralScrub.Regex.Matcher

/-!
# Patterns from their sources

Compilation takes all sources or none: the first one that is no text or no well-formed pattern
ends it.
-/
namespace LiteralScrub

inductive PatternError where
  | invalid (index : Nat) (pattern : Text) (detail : Text)
  /-- A number or the flags in the pattern are not supported, or it is nested too deep. -/
  | unsupported (source : Text) (failure : Regex.Failure)
  deriving Repr, Inhabited

def PatternError.message : PatternError → Text
  | invalid index pattern detail =>
    Text.ofString "Invalid pattern #" ++ Text.ofNat index ++ Text.ofString " " ++ pattern.quoted ++
      Text.ofString ": " ++ detail
  | unsupported source failure => failure.message source

/-- Compiles one source at its place among the patterns. -/
def compilePattern (limits : Limits) (index : Nat) (source : Text) : Except PatternError Pattern :=
  match Regex.compile limits.patternTooDeep source with
  | .ok program => .ok ⟨index, source, program.search⟩
  | .error (.malformed fault position) =>
    .error (.invalid index source ((Regex.Failure.malformed fault position).message source))
  | .error failure => .error (.unsupported source failure)

def compileFrom (limits : Limits) (index : Nat) :
    List Json → ExceptT PatternError Logged (List Pattern)
  | [] => return []
  | .text source :: rest => do
    let pattern ← liftExcept (compilePattern limits index source)
    Logged.write .debug "scrubber.core.patterns"
      (Text.ofString "Compiled pattern #" ++ Text.ofNat index ++ Text.ofString ": " ++ source.quoted)
    return pattern :: (← compileFrom limits (index + 1) rest)
  | value :: _ =>
    throw (.invalid index value.display (Text.ofString s!"expected a string, got {value.kindName}"))
where
  liftExcept (x : Except PatternError Pattern) : ExceptT PatternError Logged Pattern :=
    ExceptT.mk (pure x)

/-- Compiles the sources in order. -/
def compilePatterns (limits : Limits) (sources : List Json) :
    ExceptT PatternError Logged (List Pattern) :=
  compileFrom limits 0 sources

end LiteralScrub
