import LiteralScrub.File.Change
import LiteralScrub.Log.Registry

/-!
# Setting up loggers

A logger gets a handler for the console and, if a file is given, one for it, each only once. Loggers
below the one of the program write through its handlers.
-/
namespace LiteralScrub

/-- Why a logger is not set up. -/
inductive LogError where
  | unknownLevel (level : Text)
  | file (e : FileError)
  deriving DecidableEq, Repr, Inhabited

def LogError.message : LogError → Text
  | unknownLevel level => Severity.unknownLevelMessage level
  | file e => e.message

/-- The loggers, what they have written on the console, and the files. -/
structure LogState where
  registry : Registry := {}
  console : Text := []
  files : FileTree
  deriving Repr, Inhabited

abbrev Logging := ExceptT LogError (StateM LogState)

namespace Logging

/-- The name of the program's own logger. -/
def programName : Text := Text.ofString "scrubber"

/-- The directory for log files. -/
def directory : Path := Path.ofText (Text.ofString "logs")

/-- The size at which a log file is put aside, and how many are kept. -/
def maxFileSize : Nat := 10 * 1024 * 1024

def keptFiles : Nat := 5

def severityOf (level : Text) : Except LogError Severity :=
  match Severity.ofLevel? level with
  | some severity => .ok severity
  | none => .error (.unknownLevel level)

def register (name : Text) : Logging Unit :=
  modify fun s => { s with registry := s.registry.register name }

def updateLogger (name : Text) (f : Logger → Logger) : Logging Unit :=
  modify fun s => { s with registry := s.registry.update name f }

def filing {α : Type} (x : Filing α) : Logging α := ExceptT.mk fun s =>
  let (result, files) := x.run.run s.files
  (result.mapError .file, { s with files })

/-- Sets the level of a logger. -/
def setLevel (name level : Text) : Logging Unit := do
  let severity ← ExceptT.mk (pure (severityOf level))
  updateLogger name fun l => { l with level := some severity }

/-- Lets a logger write on the console. -/
def addConsole (name level : Text) : Logging Unit := do
  let severity ← ExceptT.mk (pure (severityOf level))
  updateLogger name (·.withHandler ⟨.console, severity⟩)

/-- Lets a logger write into a file, which is made together with its directory. -/
def addFile (name level : Text) (file : Path) : Logging Unit := do
  let severity ← ExceptT.mk (pure (severityOf level))
  filing (Filing.ensureDirectory file.parent)
  let path := ((← get).files.around.current.under file).collapse
  filing (Filing.append path [])
  updateLogger name (·.withHandler ⟨.file path, severity⟩)

def debugLevel : Text := Text.ofString "DEBUG"

def infoLevel : Text := Text.ofString "INFO"

/-- Sets up a logger: its level, and the handlers that it lacks. -/
def setup (name level : Text) (file : Option Path) : Logging Unit := do
  let severity ← ExceptT.mk (pure (severityOf level))
  register name
  let before := (← get).registry.logger name
  updateLogger name fun l => { l with level := some severity }
  if !before.hasConsole then addConsole name level
  if let some file := file then
    if !before.hasFile then addFile name debugLevel file

/-- Whether a logger writes through the handlers of the program's logger. -/
def isProgramPart (name : Text) : Bool := name.startsWith (programName ++ [0x2E])

/-- Gets a logger ready: if no handler would see its entries, the program's logger is set up for a
part of the program, and otherwise the logger itself. -/
def prepare (name : Text) : Logging Unit := do
  register name
  if !(← get).registry.hasHandlers name then
    setup (if isProgramPart name then programName else name) infoLevel none

end Logging

namespace LogState

/-- Hands a line to a handler; a line with surrogates does not go into a file. -/
def emit (entry : LogEntry) (s : LogState) (h : Handler) : LogState :=
  if !h.accepts entry.severity then s
  else
    let line := h.template.line entry
    match h.outlet with
    | .console => { s with console := s.console ++ line }
    | .file path =>
      match Utf8.encode? line with
      | none => s
      | some bytes =>
        match s.files.append path bytes with
        | .ok files => { s with files }
        | .error _ => s

/-- Offers an entry to the handlers of its logger. An entry that no handler is there for comes on
the console if it is a warning or worse. -/
def offer (s : LogState) (entry : LogEntry) : LogState :=
  if !s.registry.isEnabled entry.logger entry.severity then s
  else
    match s.registry.handlersFor entry.logger with
    | [] =>
      if Severity.warning ≤ entry.severity then
        { s with console := s.console ++ LogTemplate.bare.line entry }
      else s
    | handlers => handlers.foldl (emit entry) s

end LogState

end LiteralScrub
