import LiteralScrub.Python.Printer.Rules
import LiteralScrub.Python.Reader
import LiteralScrub.Source.FrontEnd

/-!
# The front end for Python
-/
namespace LiteralScrub.Python

/-- Prints a tree, nested up to a depth, after filling in its places. -/
def print (maxDepth : Nat) (tree : Value) : Except PrintFault Text :=
  match withPlaces tree with
  | .error problem => .error (.malformed problem.className (Text.ofString problem.message))
  | .ok tree =>
    match Printer.print maxDepth tree with
    | .ok code => .ok code
    | .error .tooDeep =>
      .error (.refused
        (Text.ofString "AST is too deeply nested to generate code (RecursionError)"))
    | .error (.unprintable message) =>
      .error (.refused (Text.ofString s!"Failed to generate code: {message}"))
    | .error (.problem problem) =>
      .error (.malformed problem.className (Text.ofString problem.message))
    | .error (.unknownOperator name) => .error (.malformed "KeyError" (Text.ofString s!"'{name}'"))

def complaint (path : Path) : ReadFault → Text
  | .syntaxError (some (line, column)) message =>
    Text.ofString "Syntax error in " ++ path.toText ++
      Text.ofString s!" at line {line}, column {column}: " ++ message
  | fault => Text.ofString "Value error parsing " ++ path.toText ++ Text.ofString ": " ++ fault.message

/-- A check speaks of syntax errors only. -/
def remark : ReadFault → Option Text
  | .syntaxError (some (line, column)) message =>
    some (Text.ofString s!"Line {line}, column {column}: " ++ message)
  | _ => none

def frontEnd (maxDepth : Nat) : FrontEnd where
  language := .python
  title := "Python"
  logger := "scrubber.processors.python_processor"
  placeholder := Path.ofText (Text.ofString "<string>.py")
  read := read
  complaint := complaint
  remark := remark
  print := print maxDepth

end LiteralScrub.Python
