import LiteralScrub.Json.Basic
import LiteralScrub.Log

/-!
# Configurations

A configuration holds the sources of the patterns, in the order of their priority, and the mask.
It is read from a JSON document; keys that it does not know are passed over with a warning.
-/
namespace LiteralScrub

structure Config where
  sources : List Text := []
  mask : Text := []
  deriving DecidableEq, Repr, Inhabited

inductive ConfigError where
  | notObject (kind : String)
  | missingMatches
  | matchesNotList (kind : String)
  | entryNotText (index : Nat) (kind : String)
  | maskNotText (kind : String)
  | invalidJson (detail : Text)
  | notUtf8 (path detail : Text)
  deriving DecidableEq, Repr, Inhabited

namespace ConfigError

/-- The key at fault. -/
def key? : ConfigError → Option String
  | notObject _ | invalidJson _ | notUtf8 _ _ => none
  | missingMatches | matchesNotList _ | entryNotText _ _ => some "matches"
  | maskNotText _ => some "replace_with"

def detail : ConfigError → Text
  | notObject kind => Text.ofString s!"configuration must be an object, got {kind}"
  | missingMatches => Text.ofString "missing required field"
  | matchesNotList kind => Text.ofString s!"must be a list of strings, got {kind}"
  | entryNotText index kind => Text.ofString s!"entry {index} must be a string, got {kind}"
  | maskNotText kind => Text.ofString s!"must be a string, got {kind}"
  | invalidJson detail => Text.ofString "invalid JSON: " ++ detail
  | notUtf8 path detail =>
    Text.ofString "configuration file " ++ path ++ Text.ofString " is not UTF-8: " ++ detail

def message (e : ConfigError) : Text :=
  match e.key? with
  | some key => Text.ofString s!"Invalid '{key}': " ++ e.detail
  | none => e.detail

end ConfigError

namespace Config

def logger : String := "scrubber.core.config"

/-- The entries of `matches` as texts. -/
def textEntries (index : Nat) : List Json → Except ConfigError (List Text)
  | [] => .ok []
  | .text t :: rest => (textEntries (index + 1) rest).map (t :: ·)
  | value :: _ => .error (.entryNotText index value.kindName)

/-- A configuration from values of any kind. -/
def ofValues (entries : List Json) (mask : Json) : Except ConfigError Config := do
  let sources ← textEntries 0 entries
  match mask with
  | .text t => .ok ⟨sources, t⟩
  | value => .error (.maskNotText value.kindName)

/-- Notes that a configuration has the right types. -/
def noteValid (config : Config) : Logged Unit :=
  Logged.write .debug logger
    (Text.ofString s!"Configuration validated: {config.sources.length} pattern(s), replace_with=" ++
      config.mask.quoted)

/-- Checks the types of the values. -/
def validated (entries : List Json) (mask : Json) : ExceptT ConfigError Logged Config := do
  let config ← ExceptT.mk (pure (ofValues entries mask))
  config.noteValid
  return config

def knownKeys : List Text := [Text.ofString "matches", Text.ofString "replace_with"]

/-- Keys in the order of their code points. -/
def sortedKeys (keys : List Text) : List Text :=
  keys.mergeSort fun a b => !(List.lex b a)

def unknownKeys (members : List (Text × Json)) : List Text :=
  sortedKeys ((members.map Prod.fst).filter fun key => key ∉ knownKeys)

/-- Reads a configuration from a document; null stands for the default one. -/
def ofDocument : Json → ExceptT ConfigError Logged Config
  | .null => return {}
  | .object members => do
    let unknown := unknownKeys members
    if !unknown.isEmpty then
      Logged.write .warning logger
        (Text.ofString "Ignoring unknown configuration key(s): " ++
          Text.join (Text.ofString ", ") unknown)
    match members.lookup (Text.ofString "matches") with
    | none => throw .missingMatches
    | some (.array entries) =>
      match members.lookup (Text.ofString "replace_with") with
      | none | some .null => validated entries (.text [])
      | some mask => validated entries mask
    | some value => throw (.matchesNotList value.kindName)
  | value => throw (.notObject value.kindName)

/-- The document of a configuration. -/
def toDocument (config : Config) : Json :=
  .object [
    (Text.ofString "matches", .array (config.sources.map .text)),
    (Text.ofString "replace_with", .text config.mask)]

end Config

end LiteralScrub
