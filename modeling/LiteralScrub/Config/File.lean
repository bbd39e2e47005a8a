import LiteralScrub.Config.Document
import LiteralScrub.File.Change
import LiteralScrub.Json.Writer
import LiteralScrub.Text.Lines

/-!
# Configurations in files

A configuration is saved as a JSON text and read back from it. The file is emptied before the text
is written into it.
-/
namespace LiteralScrub

/-- Why a configuration is not loaded or saved. -/
inductive ConfigFileError where
  | unusable (fault : PathFault)
  | notFound (path : Path)
  | file (e : FileError)
  | document (e : DocumentError)
  /-- A text with surrogates cannot be written. -/
  | unwritable (text : Text)
  deriving Repr, Inhabited

def ConfigFileError.message : ConfigFileError → Text
  | unusable fault => fault.message
  | notFound path => Text.ofString "Configuration file not found: " ++ path.toText
  | file e => e.message
  | document e => e.message
  | unwritable text => Utf8.encodeFault text

namespace Config

def fileLogger : String := "scrubber.core.config_loader"

/-- The text that is saved. -/
def toJsonText (config : Config) : Text := config.toDocument.write ++ [0x0A]

/-- The text of the file at an absolute path. -/
def fileText (tree : FileTree) (path : Path) : Except ConfigFileError Text := do
  match tree.probe path with
  | .error e => throw (.file e)
  | .ok none => throw (.notFound path)
  | .ok (some _) =>
    let bytes ← (tree.read path).mapError .file
    match Utf8.decode bytes with
    | .error fault => throw (.document (.config (.notUtf8 path.toText fault.message)))
    | .ok text => return text.unifyLineEnds

/-- Loads a configuration. -/
def load (limits : Limits) (given : PathSource) : ExceptT ConfigFileError LoggedFiling Config := do
  let tree ← get
  let path ← ExceptT.mk (pure ((tree.around.normalize given).mapError .unusable))
  let text ← ExceptT.mk (pure (fileText tree path))
  let config ← LoggedFiling.ofLogged ((ofJsonText limits (some text)).adapt .document)
  Logged.write .info fileLogger
    (Text.ofString "Loaded configuration from " ++ path.toText ++
      Text.ofString s!" ({config.sources.length} pattern(s))")
  return config

/-- Saves a configuration whose parts may be values of any kind. -/
def save (entries : List Json) (mask : Json) (given : PathSource) :
    ExceptT ConfigFileError LoggedFiling Path := do
  let config ← LoggedFiling.ofLogged ((validated entries mask).adapt fun e => .document (.config e))
  let tree ← get
  let path ← ExceptT.mk (pure ((tree.around.normalize given).mapError .unusable))
  LoggedFiling.ofFiling .file (Filing.ensureDirectory path.parent)
  LoggedFiling.ofFiling .file (Filing.clear path)
  match Utf8.encode? config.toJsonText with
  | none => throw (.unwritable config.toJsonText)
  | some bytes =>
    LoggedFiling.ofFiling .file (Filing.write path bytes)
    Logged.write .info fileLogger (Text.ofString "Saved configuration to " ++ path.toText)
    return path

end Config

end LiteralScrub
