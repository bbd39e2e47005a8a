import LiteralScrub.Language
import LiteralScrub.Log
import LiteralScrub.Path.Basic
import LiteralScrub.Source.Fault
import LiteralScrub.Tree.Value

/-!
# Reading and printing sources

A front end reads the sources of one language into trees and prints trees as sources. What goes
wrong is put into words and logged.
-/
namespace LiteralScrub

/-- Why a tree is not printed. -/
inductive PrintFault where
  /-- The tree has no source; this is reported. -/
  | refused (message : Text)
  /-- The tree is malformed, which is left to the caller to see to. -/
  | malformed (className : String) (message : Text)
  deriving DecidableEq, Repr, Inhabited

structure FrontEnd where
  language : Language
  /-- The name of the language in messages. -/
  title : String
  logger : String
  /-- The path of a source that comes from no file. -/
  placeholder : Path
  read : Text → Except ReadFault Value
  /-- What is said of a source that cannot be read. -/
  complaint : Path → ReadFault → Text
  /-- What a check says of a source that cannot be read, if it says anything. -/
  remark : ReadFault → Option Text
  print : Value → Except PrintFault Text

/-- A source after reading. -/
structure Parsed where
  tree : Option Value
  source : Text
  path : Path
  errors : List Text
  deriving Inhabited

def Parsed.success (p : Parsed) : Bool := p.tree.isSome

/-- A source after printing. -/
structure Generated where
  code : Text
  success : Bool
  errors : List Text
  deriving Inhabited

namespace FrontEnd

/-- Reads a source. -/
def parse (frontEnd : FrontEnd) (path : Option Path) (source : Text) : Logged Parsed := do
  let path := path.getD frontEnd.placeholder
  match frontEnd.read source with
  | .error fault =>
    let error := frontEnd.complaint path fault
    Logged.write .error frontEnd.logger error
    return ⟨none, source, path, [error]⟩
  | .ok tree =>
    Logged.write .debug frontEnd.logger
      (Text.ofString s!"Parsed {frontEnd.title} source " ++ path.toText)
    return ⟨some tree, source, path, []⟩

/-- Prints a tree. -/
def generate (frontEnd : FrontEnd) (tree : Value) : ExceptT PrintFault Logged Generated := do
  match frontEnd.print tree with
  | .error (.refused error) =>
    Logged.write .error frontEnd.logger error
    return ⟨[], false, [error]⟩
  | .error fault => throw fault
  | .ok code =>
    Logged.write .debug frontEnd.logger
      (Text.ofString s!"Generated {code.length} characters of {frontEnd.title}")
    return ⟨code, true, []⟩

/-- Whether a source can be read, with a remark if it cannot. A fault on which the front end has
no remark is handed on. -/
def validate (frontEnd : FrontEnd) (source : Text) : Except ReadFault (Bool × Text) :=
  match frontEnd.read source with
  | .ok _ => .ok (true, [])
  | .error fault =>
    match frontEnd.remark fault with
    | some remark => .ok (false, remark)
    | none => .error fault

end FrontEnd

end LiteralScrub
