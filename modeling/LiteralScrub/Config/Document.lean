import LiteralScrub.Config.Basic
import LiteralScrub.Json.Reader
import LiteralScrub.Limits
import LiteralScrub.Text.Space

/-!
# Configurations as JSON texts
-/
namespace LiteralScrub

inductive DocumentError where
  | config (e : ConfigError)
  /-- The document has a number too long, or is nested too deep, to be read. -/
  | unreadable (text : Text) (fault : Json.ReadFault)
  deriving Repr, Inhabited

def DocumentError.message : DocumentError → Text
  | config e => e.message
  | unreadable text fault => fault.message text

namespace Config

/-- Reads a configuration from a JSON text. No text, or one of blanks only, stands for the default
configuration. -/
def ofJsonText (limits : Limits) (text : Option Text) : ExceptT DocumentError Logged Config := do
  match text with
  | none => useDefault
  | some text =>
    if text.all isSpace then useDefault
    else
      match Json.read limits.json text with
      | .ok document => (ofDocument document).adapt DocumentError.config
      | .error (.malformed cause left) =>
        throw (.config (.invalidJson ((Json.ReadFault.malformed cause left).message text)))
      | .error fault => throw (.unreadable text fault)
where
  useDefault : ExceptT DocumentError Logged Config := do
    Logged.write .debug "scrubber.core.config_loader"
      (Text.ofString "No configuration supplied; using defaults")
    return {}

end Config

end LiteralScrub
