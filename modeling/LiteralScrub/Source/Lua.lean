import LiteralScrub.Lua.Printer
import LiteralScrub.Lua.Reader
import LiteralScrub.Source.FrontEnd

/-!
# The front end for Lua
-/
namespace LiteralScrub.Lua

def tooDeepToPrint : Text :=
  Text.ofString "AST is too deeply nested to generate code (RecursionError)"

/-- Prints a tree that is nested up to a depth. -/
def print (maxDepth : Nat) (tree : Value) : Except PrintFault Text :=
  match Printer.printValue maxDepth tree with
  | .ok code => .ok code
  | .error .tooDeep => .error (.refused tooDeepToPrint)
  | .error .malformed => .error (.refused (Text.ofString "Failed to generate Lua code"))

def complaint (path : Path) (fault : ReadFault) : Text :=
  let lead := match fault with
    | .syntaxError _ _ => "Syntax error in "
    | _ => "Unexpected error parsing "
  Text.ofString lead ++ path.toText ++ Text.ofString ": " ++ fault.message

def remark (fault : ReadFault) : Text :=
  let lead := match fault with
    | .syntaxError _ _ => "Syntax error: "
    | _ => "Unexpected error validating syntax: "
  Text.ofString lead ++ fault.message

def frontEnd (maxDepth : Nat) : FrontEnd where
  language := .lua
  title := "Lua"
  logger := "scrubber.processors.lua_processor"
  placeholder := Path.ofText (Text.ofString "<string>.lua")
  read := read
  complaint := complaint
  remark := fun fault => some (remark fault)
  print := print maxDepth

end LiteralScrub.Lua
