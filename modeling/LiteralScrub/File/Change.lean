import LiteralScrub.File.Basic
import LiteralScrub.Log

/-!
# Changing files

A step on files changes the tree also when it fails later on: what has been made stays.
-/
namespace LiteralScrub

abbrev Filing := ExceptT FileError (StateM FileTree)

namespace Filing

/-- Applies a change of the tree. -/
def change (f : FileTree → Except FileError FileTree) : Filing Unit := do
  match f (← get) with
  | .ok tree => set tree
  | .error e => throw e

/-- Makes a directory, if there is none yet. -/
def makeDirectory (path : Path) : Filing Unit := do
  let tree ← get
  match tree.makeDirectory path with
  | .ok tree => set tree
  | .error e =>
    match tree.probe path with
    | .ok (some .directory) => return ()
    | .ok _ => throw e
    | .error e => throw e

/-- Makes a directory with those above it, `depth` levels up at most. -/
def makeDirectories : Nat → Path → Filing Unit
  | 0, path => makeDirectory path
  | depth + 1, path => do
    match (← get).makeDirectory path with
    | .error (.refused .missing _) =>
      makeDirectories depth path.parent
      makeDirectory path
    | _ => makeDirectory path

/-- Makes sure that there is a directory at a path. -/
def ensureDirectory (path : Path) : Filing Unit := makeDirectories path.names.length path

/-- Makes an empty file at a path, in the place of one that is there. -/
def clear (path : Path) : Filing Unit := change (·.write path [])

def write (path : Path) (bytes : Bytes) : Filing Unit := change (·.write path bytes)

def append (path : Path) (bytes : Bytes) : Filing Unit := change (·.append path bytes)

end Filing

/-- A computation that changes files and keeps a log. -/
abbrev LoggedFiling := StateT FileTree Logged

namespace LoggedFiling

variable {ε α : Type}

/-- A change of files that writes nothing into the log. -/
def ofFiling (wrap : FileError → ε) (x : Filing α) : ExceptT ε LoggedFiling α :=
  ExceptT.mk fun tree =>
    let (result, tree) := x.run.run tree
    pure (result.mapError wrap, tree)

/-- A computation that changes no files. -/
def ofLogged (x : ExceptT ε Logged α) : ExceptT ε LoggedFiling α := ExceptT.mk (StateT.lift x.run)

end LoggedFiling

end LiteralScrub
