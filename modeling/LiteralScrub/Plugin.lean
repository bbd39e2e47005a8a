import LiteralScrub.Engine

/-!
# Scrubbing a host's tree

A host that has parsed a program hands over the tree and the JSON text of a configuration.
-/
namespace LiteralScrub.Plugin

def name : String := "remove-matched-charset"

inductive Error where
  | engine (e : EngineError)
  | failed (errors : List Text)
  deriving Repr, Inhabited

def Error.message : Error → Text
  | engine e => e.message
  | failed errors =>
    Text.ofString s!"{name} failed: " ++ Text.join (Text.ofString "; ") errors

/-- The language of a program: Python if it is a Python tree, otherwise Lua. -/
def languageOf (program : Value) : Language := if program.isPythonNode then .python else .lua

/-- The name under which a program is reported. -/
def fileOf : Language → Path
  | .python => Path.ofText (Text.ofString "<program>.py")
  | .lua => Path.ofText (Text.ofString "<program>.lua")

/-- Scrubs a program. A configuration at fault is noted before it is refused. -/
def process (limits : Limits) (program : Value) (config : Option Text) :
    ExceptT Error Logged Scrub.Outcome := do
  match ← (Engine.ofJsonText limits config).run with
  | .error e =>
    if e.isConfigurationFault then
      Logged.write .error "scrubber.plugin"
        (Text.ofString s!"Invalid configuration for {name}: " ++ e.message)
    throw (.engine e)
  | .ok engine =>
    let language := languageOf program
    let outcome ← engine.apply program (Text.ofString language.name) (fileOf language)
    if outcome.success then return outcome else throw (.failed outcome.errors)

end LiteralScrub.Plugin
