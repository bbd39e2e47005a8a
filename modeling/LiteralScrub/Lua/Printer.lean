import LiteralScrub.Text.Lines
import LiteralScrub.Tree.Display

/-!
# Printing Lua

A rule prints one node and is given the printing of what is below it. `print` ties the knot and
gives up on trees that are nested too deep. The body of a block stands four columns further in
than what it belongs to.
-/
namespace LiteralScrub.Lua.Printer

/-- Why a tree cannot be printed. -/
inductive Fault where
  /-- The tree is nested too deep. -/
  | tooDeep
  /-- A node holds a value that has no written form. -/
  | malformed
  deriving DecidableEq, Repr, Inhabited

abbrev Print := Value → Except Fault Text

def str (s : String) : Text := Text.ofString s

def attr (attrs : Attrs) (name : String) : Value := (attrs.get? name).getD .null

/-- The items of a list. -/
def itemsOf : Value → Except Fault (List Value)
  | .list items => .ok items
  | _ => .error .malformed

/-- Several items with commas between them. -/
def commaSeparated (go : Print) (items : List Value) : Except Fault Text := do
  return Text.join (str ", ") (← items.mapM go)

/-- An attribute that is a list, with commas between its items. -/
def listAttr (go : Print) (attrs : Attrs) (name : String) : Except Fault Text := do
  commaSeparated go (← itemsOf (attr attrs name))

def indented (t : Text) : Text := t.indented (List.replicate 4 0x20)

/-- A block between its first and last line. -/
def enclosed (head : Text) (body : Text) (last : Text) : Text :=
  head ++ str "\n" ++ indented body ++ str "\n" ++ last

/-- The arguments and the body of a function, after what stands in front of them. -/
def functionRest (go : Print) (head : Text) (attrs : Attrs) : Except Fault Text := do
  let args ← listAttr go attrs "args"
  return enclosed (head ++ str "(" ++ args ++ str ")") (← go (attr attrs "body")) (str "end")

/-- What follows the first branch of a condition. -/
def orElse (go : Print) : Value → Except Fault Text
  | .null => .ok []
  | .node (.lua .elseIf) attrs => do
    return str "\n" ++ (← go (.node (.lua .elseIf) attrs))
  | value => do return str "\nelse\n" ++ indented (← go value)

/-- A condition and its branch, up to the next one. -/
def branch (go : Print) (word : String) (attrs : Attrs) : Except Fault Text := do
  let test ← go (attr attrs "test")
  let body ← go (attr attrs "body")
  return str word ++ test ++ str " then\n" ++ indented body ++
    (← orElse go (attr attrs "orelse"))

/-- The step of a counting loop; a plain one is not written. -/
def step (go : Print) : Value → Except Fault Text
  | .int 1 => .ok []
  | value => do return str ", " ++ (← go value)

def binaryOperator? : Kind → Option String
  | .addOp => some "+"
  | .subOp => some "-"
  | .multOp => some "*"
  | .floatDivOp => some "/"
  | .floorDivOp => some "//"
  | .modOp => some "%"
  | .expoOp => some "^"
  | .bitAndOp => some "&"
  | .bitOrOp => some "|"
  | .bitXorOp => some "~"
  | .shiftRightOp => some ">>"
  | .shiftLeftOp => some "<<"
  | .andOp => some "and"
  | .orOp => some "or"
  | .lessThanOp => some "<"
  | .greaterThanOp => some ">"
  | .lessOrEqThanOp => some "<="
  | .greaterOrEqThanOp => some ">="
  | .eqToOp => some "=="
  | .notEqToOp => some "~="
  | .concat => some ".."
  | _ => none

def unaryOperator? : Kind → Option String
  | .minusOp => some "-"
  | .bitNotOp => some "~"
  | .notOp => some "not "
  | .lengthOp => some "#"
  | _ => none

/-- The body of a string between its delimiters. -/
def string (go : Print) (attrs : Attrs) : Except Fault Text := do
  let raw ← go (attr attrs "raw")
  match attr attrs "delimiter" with
  | .symbol .singleQuote => return str "'" ++ raw ++ str "'"
  | .symbol .doubleQuote => return str "\"" ++ raw ++ str "\""
  | _ => return str "[[" ++ raw ++ str "]]"

def field (go : Print) (attrs : Attrs) : Except Fault Text := do
  let value ← go (attr attrs "value")
  match attr attrs "key", attr attrs "between_brackets" with
  | .null, _ => return value
  | key, .bool true => return str "[" ++ (← go key) ++ str "] = " ++ value
  | key, _ => return (← go key) ++ str " = " ++ value

def table (go : Print) (attrs : Attrs) : Except Fault Text := do
  let fields ← (← itemsOf (attr attrs "fields")).mapM go
  return str "\x7b\n" ++ fields.flatMap (fun t => indented (t ++ str ",\n")) ++ str "\x7d"

def localAssign (go : Print) (attrs : Attrs) : Except Fault Text := do
  let targets ← listAttr go attrs "targets"
  match attr attrs "values" with
  | .null | .list [] => return str "local " ++ targets
  | _ => return str "local " ++ targets ++ str " = " ++ (← listAttr go attrs "values")

/-- Prints operators, and refuses what has no written form. -/
def operation (go : Print) (kind : Kind) (attrs : Attrs) : Except Fault Text := do
  match binaryOperator? kind, unaryOperator? kind with
  | some sign, _ =>
    let left ← go (attr attrs "left")
    return left ++ str s!" {sign} " ++ (← go (attr attrs "right"))
  | none, some sign => return str sign ++ (← go (attr attrs "operand"))
  | none, none => .error .malformed

/-- Prints a node without regard to parentheses around it. -/
def bare (go : Print) (kind : Kind) (attrs : Attrs) : Except Fault Text := do
  let sub (name : String) := go (attr attrs name)
  match kind with
  | .chunk => sub "body"
  | .block => return Text.join (str "\n") (← (← itemsOf (attr attrs "body")).mapM go)
  | .semiColon => return str ";"
  | .assign => return (← listAttr go attrs "targets") ++ str " = " ++ (← listAttr go attrs "values")
  | .localAssign => localAssign go attrs
  | .whileStmt =>
    let test ← sub "test"
    return enclosed (str "while " ++ test ++ str " do") (← sub "body") (str "end")
  | .doStmt => return enclosed (str "do") (← sub "body") (str "end")
  | .repeatStmt =>
    let body ← sub "body"
    return enclosed (str "repeat") body (str "until " ++ (← sub "test"))
  | .ifStmt => return (← branch go "if " attrs) ++ str "\nend"
  | .elseIf => branch go "elseif " attrs
  | .label => return str "::" ++ (← sub "id") ++ str "::"
  | .gotoStmt => return str "goto " ++ (← sub "label")
  | .breakStmt => return str "break"
  | .returnStmt => return str "return " ++ (← listAttr go attrs "values")
  | .fornum =>
    let range := (← sub "target") ++ str " = " ++ (← sub "start") ++ str ", " ++ (← sub "stop")
    let range := range ++ (← step go (attr attrs "step"))
    return enclosed (str "for " ++ range ++ str " do") (← sub "body") (str "end")
  | .forin =>
    let range := (← listAttr go attrs "targets") ++ str " in " ++ (← listAttr go attrs "iter")
    return enclosed (str "for " ++ range ++ str " do") (← sub "body") (str "end")
  | .call => return (← sub "func") ++ str "(" ++ (← listAttr go attrs "args") ++ str ")"
  | .invoke =>
    return (← sub "source") ++ str ":" ++ (← sub "func") ++ str "(" ++
      (← listAttr go attrs "args") ++ str ")"
  | .function => functionRest go (str "function " ++ (← sub "name")) attrs
  | .localFunction => functionRest go (str "local function " ++ (← sub "name")) attrs
  | .method =>
    functionRest go (str "function " ++ (← sub "source") ++ str ":" ++ (← sub "name")) attrs
  | .anonymousFunction => functionRest go (str "function") attrs
  | .nil => return str "nil"
  | .trueExpr => return str "true"
  | .falseExpr => return str "false"
  | .number => sub "n"
  | .varargs | .dots => return str "..."
  | .string => string go attrs
  | .field => field go attrs
  | .table => table go attrs
  | .nameExpr => sub "id"
  | .index =>
    let value ← sub "value"
    let idx ← sub "idx"
    match attr attrs "notation" with
    | .symbol .square => return value ++ str "[" ++ idx ++ str "]"
    | _ => return value ++ str "." ++ idx
  | _ => operation go kind attrs

/-- Prints a node, with the parentheses that stood around it. -/
def node (go : Print) (kind : Kind) (attrs : Attrs) : Except Fault Text := do
  let inner ← bare go kind attrs
  match attr attrs "wrapped" with
  | .bool true => return str "(" ++ inner ++ str ")"
  | _ => return inner

/-- Prints a value up to a depth: a text or a number as it is, nothing for a missing one. -/
def printValue : Nat → Print
  | 0, _ => .error .tooDeep
  | depth + 1, .node (.lua kind) attrs => node (printValue depth) kind attrs
  | _ + 1, .text t => .ok t
  | _ + 1, .int n => .ok (Text.ofInt n)
  | _ + 1, .float x => .ok x.text
  | _ + 1, .null => .ok []
  | _ + 1, _ => .error .malformed

end LiteralScrub.Lua.Printer
