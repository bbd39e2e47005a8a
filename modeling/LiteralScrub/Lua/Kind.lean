/-!
# Kinds of nodes in Lua trees

Each kind has a name and a list of fields, in the order in which a walk visits them.
-/
namespace LiteralScrub.Lua

inductive Kind where
  | chunk
  | block
  | comment
  | semiColon
  | assign
  | localAssign
  | whileStmt
  | doStmt
  | repeatStmt
  | elseIf
  | ifStmt
  | label
  | gotoStmt
  | breakStmt
  | returnStmt
  | fornum
  | forin
  | call
  | invoke
  | function
  | localFunction
  | method
  | nil
  | trueExpr
  | falseExpr
  | number
  | varargs
  | string
  | field
  | table
  | dots
  | anonymousFunction
  | addOp
  | subOp
  | multOp
  | floatDivOp
  | floorDivOp
  | modOp
  | expoOp
  | bitAndOp
  | bitOrOp
  | bitXorOp
  | shiftRightOp
  | shiftLeftOp
  | andOp
  | orOp
  | lessThanOp
  | greaterThanOp
  | lessOrEqThanOp
  | greaterOrEqThanOp
  | eqToOp
  | notEqToOp
  | concat
  | minusOp
  | bitNotOp
  | notOp
  | lengthOp
  | nameExpr
  | index
  | attributeExpr
  deriving DecidableEq, Repr, Inhabited

namespace Kind

/-- The name of the kind, as messages give it. -/
def name : Kind → String
  | chunk => "Chunk"
  | block => "Block"
  | comment => "Comment"
  | semiColon => "SemiColon"
  | assign => "Assign"
  | localAssign => "LocalAssign"
  | whileStmt => "While"
  | doStmt => "Do"
  | repeatStmt => "Repeat"
  | elseIf => "ElseIf"
  | ifStmt => "If"
  | label => "Label"
  | gotoStmt => "Goto"
  | breakStmt => "Break"
  | returnStmt => "Return"
  | fornum => "Fornum"
  | forin => "Forin"
  | call => "Call"
  | invoke => "Invoke"
  | function => "Function"
  | localFunction => "LocalFunction"
  | method => "Method"
  | nil => "Nil"
  | trueExpr => "TrueExpr"
  | falseExpr => "FalseExpr"
  | number => "Number"
  | varargs => "Varargs"
  | string => "String"
  | field => "Field"
  | table => "Table"
  | dots => "Dots"
  | anonymousFunction => "AnonymousFunction"
  | addOp => "AddOp"
  | subOp => "SubOp"
  | multOp => "MultOp"
  | floatDivOp => "FloatDivOp"
  | floorDivOp => "FloorDivOp"
  | modOp => "ModOp"
  | expoOp => "ExpoOp"
  | bitAndOp => "BAndOp"
  | bitOrOp => "BOrOp"
  | bitXorOp => "BXorOp"
  | shiftRightOp => "BShiftROp"
  | shiftLeftOp => "BShiftLOp"
  | andOp => "AndLoOp"
  | orOp => "OrLoOp"
  | lessThanOp => "LessThanOp"
  | greaterThanOp => "GreaterThanOp"
  | lessOrEqThanOp => "LessOrEqThanOp"
  | greaterOrEqThanOp => "GreaterOrEqThanOp"
  | eqToOp => "EqToOp"
  | notEqToOp => "NotEqToOp"
  | concat => "Concat"
  | minusOp => "UMinusOp"
  | bitNotOp => "UBNotOp"
  | notOp => "ULNotOp"
  | lengthOp => "ULengthOP"
  | nameExpr => "Name"
  | index => "Index"
  | attributeExpr => "Attribute"

/-- The fields of a node of the kind, in their order. -/
def fields : Kind → List String
  | chunk | block | doStmt => ["body"]
  | comment => ["s", "is_multi_line"]
  | assign | localAssign => ["targets", "values"]
  | whileStmt => ["test", "body"]
  | repeatStmt => ["body", "test"]
  | elseIf | ifStmt => ["test", "body", "orelse"]
  | label => ["id"]
  | gotoStmt => ["label"]
  | returnStmt => ["values"]
  | fornum => ["target", "start", "stop", "step", "body"]
  | forin => ["body", "iter", "targets"]
  | call => ["func", "args", "style"]
  | invoke => ["source", "func", "args", "style"]
  | function | localFunction => ["name", "args", "body"]
  | method => ["source", "name", "args", "body"]
  | number => ["n"]
  | string => ["s", "raw", "delimiter"]
  | field => ["key", "value", "between_brackets"]
  | table => ["fields"]
  | anonymousFunction => ["args", "body"]
  | addOp | subOp | multOp | floatDivOp | floorDivOp | modOp | expoOp | bitAndOp | bitOrOp
  | bitXorOp | shiftRightOp | shiftLeftOp | andOp | orOp | lessThanOp | greaterThanOp
  | lessOrEqThanOp | greaterOrEqThanOp | eqToOp | notEqToOp | concat => ["left", "right"]
  | minusOp | bitNotOp | notOp | lengthOp => ["operand"]
  | nameExpr => ["id", "attribute"]
  | index => ["idx", "value", "notation"]
  | attributeExpr => ["name"]
  | _ => []

def all : List Kind := [
  .chunk, .block, .comment, .semiColon, .assign, .localAssign, .whileStmt, .doStmt, .repeatStmt,
  .elseIf, .ifStmt, .label, .gotoStmt, .breakStmt, .returnStmt, .fornum, .forin, .call, .invoke,
  .function, .localFunction, .method, .nil, .trueExpr, .falseExpr, .number, .varargs, .string,
  .field, .table, .dots, .anonymousFunction, .addOp, .subOp, .multOp, .floatDivOp, .floorDivOp,
  .modOp, .expoOp, .bitAndOp, .bitOrOp, .bitXorOp, .shiftRightOp, .shiftLeftOp, .andOp, .orOp,
  .lessThanOp, .greaterThanOp, .lessOrEqThanOp, .greaterOrEqThanOp, .eqToOp, .notEqToOp, .concat,
  .minusOp, .bitNotOp, .notOp, .lengthOp, .nameExpr, .index, .attributeExpr]

/-- The kind of a name. -/
def ofName? (name : String) : Option Kind := all.find? (·.name == name)

end Kind

end LiteralScrub.Lua
