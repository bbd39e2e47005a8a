import LiteralScrub.Log.Template
import LiteralScrub.Path.Basic

/-!
# Loggers

Loggers are known by dotted names and stand under one another: a logger's parent is the nearest one
of a shorter name, cut at a dot, that was known when the parent was last settled; failing that, the
root. A logger without a level of its own has that of its parent, and entries are handed up to the
handlers of the parents.
-/
namespace LiteralScrub

/-- Where a handler writes. -/
inductive Outlet where
  | console
  | file (path : Path)
  deriving DecidableEq, Repr, Inhabited

structure Handler where
  outlet : Outlet
  /-- The least severity that is written. -/
  threshold : Severity
  deriving DecidableEq, Repr, Inhabited

namespace Handler

def isConsole (h : Handler) : Bool := h.outlet = .console

def isFile (h : Handler) : Bool := !h.isConsole

def template (h : Handler) : LogTemplate := if h.isConsole then .brief else .full

/-- How times are written, if the handler says so. -/
def timeFormat? (h : Handler) : Option String := if h.isConsole then none else some "%Y-%m-%d %H:%M:%S"

def accepts (h : Handler) (severity : Severity) : Bool := h.threshold ≤ severity

end Handler

structure Logger where
  name : Text
  /-- The name of the parent; the root has none. -/
  parent : Option Text
  level : Option Severity := none
  /-- Whether entries are handed up. -/
  propagates : Bool := true
  handlers : List Handler := []
  deriving DecidableEq, Repr, Inhabited

namespace Logger

def rootName : Text := Text.ofString "root"

/-- The root is asked for by its name or without a name. -/
def isRootName (name : Text) : Bool := name.isEmpty || name = rootName

/-- The shorter names above a name that is given in reverse. Of two dots side by side only the last
one is a cut. -/
def namesAbove : Text → List Text
  | [] | [_] => []
  | d :: c :: rest =>
    if d = 0x2E then (c :: rest).reverse :: namesAbove rest else namesAbove (c :: rest)

/-- The names above a name, the longest one first. -/
def superiors (name : Text) : List Text := namesAbove name.reverse

def hasConsole (l : Logger) : Bool := l.handlers.any Handler.isConsole

def hasFile (l : Logger) : Bool := l.handlers.any Handler.isFile

def withHandler (l : Logger) (h : Handler) : Logger := { l with handlers := l.handlers ++ [h] }

end Logger

structure Registry where
  root : Logger := { name := Logger.rootName, parent := none, level := some .warning }
  others : List Logger := []
  deriving DecidableEq, Repr, Inhabited

namespace Registry

/-- The known logger of a name. -/
def find? (r : Registry) (name : Text) : Option Logger :=
  if Logger.isRootName name then some r.root else r.others.find? (·.name = name)

/-- The parent of a new logger. -/
def parentFor (r : Registry) (name : Text) : Text :=
  ((Logger.superiors name).find? fun above => (r.find? above).isSome).getD Logger.rootName

/-- Puts a logger below a new one if the new one comes between it and its parent. A parent whose
name begins with the new name is kept. -/
def resettle (name : Text) (l : Logger) : Logger :=
  match l.parent with
  | none => l
  | some parent =>
    if (Logger.superiors l.name).contains name && !parent.startsWith name then
      { l with parent := some name }
    else l

/-- Makes a logger known. -/
def register (r : Registry) (name : Text) : Registry :=
  if (r.find? name).isSome then r
  else
    let new : Logger := { name, parent := some (r.parentFor name) }
    { r with others := r.others.map (resettle name) ++ [new] }

/-- The logger of a name; one that is not known yet is new. -/
def logger (r : Registry) (name : Text) : Logger :=
  (r.find? name).getD { name, parent := some (r.parentFor name) }

/-- Changes a known logger. -/
def update (r : Registry) (name : Text) (f : Logger → Logger) : Registry :=
  if Logger.isRootName name then { r with root := f r.root }
  else { r with others := r.others.map fun l => if l.name = name then f l else l }

/-- A logger and those above it, `bound` of them at most, the root last. -/
def ascend (r : Registry) : Nat → Logger → List Logger
  | 0, l => [l]
  | bound + 1, l =>
    match l.parent with
    | none => [l]
    | some parent => l :: ascend r bound (r.logger parent)

/-- A logger and all those above it. -/
def lineage (r : Registry) (name : Text) : List Logger :=
  ascend r (r.others.length + 1) (r.logger name)

/-- The level that counts for a logger: its own, or the nearest one above. -/
def effectiveLevel? (r : Registry) (name : Text) : Option Severity :=
  (r.lineage name).findSome? Logger.level

def isEnabled (r : Registry) (name : Text) (severity : Severity) : Bool :=
  (r.effectiveLevel? name).all (· ≤ severity)

/-- The loggers up to the first one that hands nothing up, which is among them. -/
def untilSilent : List Logger → List Logger
  | [] => []
  | l :: rest => if l.propagates then l :: untilSilent rest else [l]

/-- The handlers to which the entries of a logger come. -/
def handlersFor (r : Registry) (name : Text) : List Handler :=
  (untilSilent (r.lineage name)).flatMap Logger.handlers

def hasHandlers (r : Registry) (name : Text) : Bool := !(r.handlersFor name).isEmpty

end Registry

end LiteralScrub
