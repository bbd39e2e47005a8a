import LiteralScrub.Config.Document
import LiteralScrub.Language
import LiteralScrub.Path.Basic
import LiteralScrub.Pattern.Compile
import LiteralScrub.Scrub.Transform

/-!
# The engine

An engine holds a configuration and its compiled patterns. It is built once and scrubs any number
of texts and trees.
-/
namespace LiteralScrub

structure Engine where
  config : Config
  patterns : List Pattern

/-- Why an engine cannot be built. -/
inductive EngineError where
  | document (e : DocumentError)
  | pattern (e : PatternError)
  deriving Repr, Inhabited

namespace EngineError

def message : EngineError → Text
  | document e => e.message
  | pattern e => e.message

/-- Whether the configuration is at fault, and not a limit of what can be read. -/
def isConfigurationFault : EngineError → Bool
  | document (.config _) => true
  | pattern (.invalid _ _ _) => true
  | _ => false

end EngineError

namespace Engine

def logger : String := "scrubber.core.engine"

def build (limits : Limits) (config : Config) : ExceptT EngineError Logged Engine := do
  config.noteValid
  let patterns ← (compilePatterns limits (config.sources.map .text)).adapt EngineError.pattern
  Logged.write .debug logger
    (Text.ofString s!"ScrubEngine initialized with {patterns.length} pattern(s), replace_with=" ++
      config.mask.quoted)
  return ⟨config, patterns⟩

/-- Builds an engine from a configuration document. -/
def ofDocument (limits : Limits) (document : Json) : ExceptT EngineError Logged Engine := do
  let config ← (Config.ofDocument document).adapt fun e => EngineError.document (.config e)
  build limits config

/-- Builds an engine from the JSON text of a configuration. -/
def ofJsonText (limits : Limits) (text : Option Text) : ExceptT EngineError Logged Engine := do
  let config ← (Config.ofJsonText limits text).adapt EngineError.document
  build limits config

def rewrite (engine : Engine) (text : Text) : Rewriting :=
  rewriteText engine.patterns engine.config.mask text

def unsupported (language : Text) : Text := Text.ofString "Unsupported language: " ++ language

/-- Scrubs a tree; without patterns it is handed back as it is. -/
def apply (engine : Engine) (tree : Value) (language : Text) (file : Path) :
    Logged Scrub.Outcome := do
  if (Language.ofName? language).isNone then
    let error := unsupported language
    Logged.write .error logger error
    return ⟨none, tree, false, 0, [error]⟩
  else if engine.patterns.isEmpty then
    Logged.write .debug logger
      (Text.ofString "No patterns configured for " ++ file.name ++
        Text.ofString "; returning original AST")
    return ⟨some tree, tree, true, 0, []⟩
  else
    let outcome ← Scrub.transform engine.rewrite tree
    if outcome.success then
      Logged.write .info logger
        (Text.ofString "Literal scrub completed for " ++ file.name ++ Text.ofString ": " ++
          Text.ofNat outcome.count ++ Text.ofString " literal(s) rewritten")
    else
      Logged.write .error logger
        (Text.ofString "Literal scrub failed on " ++ file.name ++ Text.ofString ": " ++
          Text.join (Text.ofString ", ") outcome.errors)
    return outcome

end Engine

end LiteralScrub
