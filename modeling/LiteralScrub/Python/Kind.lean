/-!
# Kinds of nodes in Python trees

Each kind has a name and a list of fields. Most kinds have a place in the source besides.
-/
namespace LiteralScrub.Python

inductive Kind where
  | module
  | interactive
  | expression
  | functionType
  | functionDef
  | asyncFunctionDef
  | classDef
  | returnStmt
  | deleteStmt
  | assign
  | augAssign
  | annAssign
  | forStmt
  | asyncFor
  | whileStmt
  | ifStmt
  | withStmt
  | asyncWith
  | matchStmt
  | raiseStmt
  | tryStmt
  | tryStar
  | assertStmt
  | importStmt
  | importFrom
  | globalStmt
  | nonlocalStmt
  | exprStmt
  | passStmt
  | breakStmt
  | continueStmt
  | boolOp
  | namedExpr
  | binOp
  | unaryOp
  | lambda
  | ifExp
  | dict
  | set
  | listComp
  | setComp
  | dictComp
  | generatorExp
  | await
  | yield
  | yieldFrom
  | compare
  | call
  | formattedValue
  | joinedStr
  | constant
  | attributeExpr
  | subscript
  | starred
  | nameExpr
  | list
  | tuple
  | slice
  | load
  | store
  | del
  | and
  | or
  | add
  | sub
  | mult
  | matMult
  | div
  | mod
  | pow
  | lShift
  | rShift
  | bitOr
  | bitXor
  | bitAnd
  | floorDiv
  | invert
  | not
  | uAdd
  | uSub
  | eq
  | notEq
  | lt
  | ltE
  | gt
  | gtE
  | is
  | isNot
  | isIn
  | notIn
  | comprehension
  | exceptHandler
  | arguments
  | arg
  | keyword
  | importAlias
  | withItem
  | matchCase
  | matchValue
  | matchSingleton
  | matchSequence
  | matchMapping
  | matchClass
  | matchStar
  | matchAs
  | matchOr
  | typeIgnore
  deriving DecidableEq, Repr, Inhabited

namespace Kind

/-- The name of the kind, as messages give it. -/
def name : Kind → String
  | module => "Module"
  | interactive => "Interactive"
  | expression => "Expression"
  | functionType => "FunctionType"
  | functionDef => "FunctionDef"
  | asyncFunctionDef => "AsyncFunctionDef"
  | classDef => "ClassDef"
  | returnStmt => "Return"
  | deleteStmt => "Delete"
  | assign => "Assign"
  | augAssign => "AugAssign"
  | annAssign => "AnnAssign"
  | forStmt => "For"
  | asyncFor => "AsyncFor"
  | whileStmt => "While"
  | ifStmt => "If"
  | withStmt => "With"
  | asyncWith => "AsyncWith"
  | matchStmt => "Match"
  | raiseStmt => "Raise"
  | tryStmt => "Try"
  | tryStar => "TryStar"
  | assertStmt => "Assert"
  | importStmt => "Import"
  | importFrom => "ImportFrom"
  | globalStmt => "Global"
  | nonlocalStmt => "Nonlocal"
  | exprStmt => "Expr"
  | passStmt => "Pass"
  | breakStmt => "Break"
  | continueStmt => "Continue"
  | boolOp => "BoolOp"
  | namedExpr => "NamedExpr"
  | binOp => "BinOp"
  | unaryOp => "UnaryOp"
  | lambda => "Lambda"
  | ifExp => "IfExp"
  | dict => "Dict"
  | set => "Set"
  | listComp => "ListComp"
  | setComp => "SetComp"
  | dictComp => "DictComp"
  | generatorExp => "GeneratorExp"
  | await => "Await"
  | yield => "Yield"
  | yieldFrom => "YieldFrom"
  | compare => "Compare"
  | call => "Call"
  | formattedValue => "FormattedValue"
  | joinedStr => "JoinedStr"
  | constant => "Constant"
  | attributeExpr => "Attribute"
  | subscript => "Subscript"
  | starred => "Starred"
  | nameExpr => "Name"
  | list => "List"
  | tuple => "Tuple"
  | slice => "Slice"
  | load => "Load"
  | store => "Store"
  | del => "Del"
  | and => "And"
  | or => "Or"
  | add => "Add"
  | sub => "Sub"
  | mult => "Mult"
  | matMult => "MatMult"
  | div => "Div"
  | mod => "Mod"
  | pow => "Pow"
  | lShift => "LShift"
  | rShift => "RShift"
  | bitOr => "BitOr"
  | bitXor => "BitXor"
  | bitAnd => "BitAnd"
  | floorDiv => "FloorDiv"
  | invert => "Invert"
  | not => "Not"
  | uAdd => "UAdd"
  | uSub => "USub"
  | eq => "Eq"
  | notEq => "NotEq"
  | lt => "Lt"
  | ltE => "LtE"
  | gt => "Gt"
  | gtE => "GtE"
  | is => "Is"
  | isNot => "IsNot"
  | isIn => "In"
  | notIn => "NotIn"
  | comprehension => "comprehension"
  | exceptHandler => "ExceptHandler"
  | arguments => "arguments"
  | arg => "arg"
  | keyword => "keyword"
  | importAlias => "alias"
  | withItem => "withitem"
  | matchCase => "match_case"
  | matchValue => "MatchValue"
  | matchSingleton => "MatchSingleton"
  | matchSequence => "MatchSequence"
  | matchMapping => "MatchMapping"
  | matchClass => "MatchClass"
  | matchStar => "MatchStar"
  | matchAs => "MatchAs"
  | matchOr => "MatchOr"
  | typeIgnore => "TypeIgnore"

/-- The fields of a node of the kind, in their order. -/
def fields : Kind → List String
  | module => ["body", "type_ignores"]
  | interactive | expression => ["body"]
  | functionType => ["argtypes", "returns"]
  | functionDef | asyncFunctionDef =>
    ["name", "args", "body", "decorator_list", "returns", "type_comment"]
  | classDef => ["name", "bases", "keywords", "body", "decorator_list"]
  | returnStmt | exprStmt | await | yield | yieldFrom | matchValue | matchSingleton => ["value"]
  | deleteStmt => ["targets"]
  | assign => ["targets", "value", "type_comment"]
  | augAssign => ["target", "op", "value"]
  | annAssign => ["target", "annotation", "value", "simple"]
  | forStmt | asyncFor => ["target", "iter", "body", "orelse", "type_comment"]
  | whileStmt | ifStmt | ifExp => ["test", "body", "orelse"]
  | withStmt | asyncWith => ["items", "body", "type_comment"]
  | matchStmt => ["subject", "cases"]
  | raiseStmt => ["exc", "cause"]
  | tryStmt | tryStar => ["body", "handlers", "orelse", "finalbody"]
  | assertStmt => ["test", "msg"]
  | importStmt | globalStmt | nonlocalStmt => ["names"]
  | importFrom => ["module", "names", "level"]
  | boolOp => ["op", "values"]
  | namedExpr => ["target", "value"]
  | binOp => ["left", "op", "right"]
  | unaryOp => ["op", "operand"]
  | lambda => ["args", "body"]
  | dict => ["keys", "values"]
  | set => ["elts"]
  | listComp | setComp | generatorExp => ["elt", "generators"]
  | dictComp => ["key", "value", "generators"]
  | compare => ["left", "ops", "comparators"]
  | call => ["func", "args", "keywords"]
  | formattedValue => ["value", "conversion", "format_spec"]
  | joinedStr => ["values"]
  | constant => ["value", "kind"]
  | attributeExpr => ["value", "attr", "ctx"]
  | subscript => ["value", "slice", "ctx"]
  | starred => ["value", "ctx"]
  | nameExpr => ["id", "ctx"]
  | list | tuple => ["elts", "ctx"]
  | slice => ["lower", "upper", "step"]
  | comprehension => ["target", "iter", "ifs", "is_async"]
  | exceptHandler => ["type", "name", "body"]
  | arguments =>
    ["posonlyargs", "args", "vararg", "kwonlyargs", "kw_defaults", "kwarg", "defaults"]
  | arg => ["arg", "annotation", "type_comment"]
  | keyword => ["arg", "value"]
  | importAlias => ["name", "asname"]
  | withItem => ["context_expr", "optional_vars"]
  | matchCase => ["pattern", "guard", "body"]
  | matchSequence | matchOr => ["patterns"]
  | matchMapping => ["keys", "patterns", "rest"]
  | matchClass => ["cls", "patterns", "kwd_attrs", "kwd_patterns"]
  | matchStar => ["name"]
  | matchAs => ["pattern", "name"]
  | typeIgnore => ["lineno", "tag"]
  | _ => []

/-- Whether nodes of the kind have a place in the source. -/
def hasPlace : Kind → Bool
  | module | interactive | expression | functionType | load | store | del | and | or | add | sub
  | mult | matMult | div | mod | pow | lShift | rShift | bitOr | bitXor | bitAnd | floorDiv
  | invert | not | uAdd | uSub | eq | notEq | lt | ltE | gt | gtE | is | isNot | isIn | notIn
  | comprehension | arguments | withItem | matchCase | typeIgnore => false
  | _ => true

/-- The fields that may be left out; left out they read as nothing. -/
def optionalFields : Kind → List String
  | functionDef | asyncFunctionDef => ["returns", "type_comment"]
  | returnStmt | annAssign | yield => ["value"]
  | assign | forStmt | asyncFor | withStmt | asyncWith => ["type_comment"]
  | raiseStmt => ["exc", "cause"]
  | assertStmt => ["msg"]
  | importFrom => ["module", "level"]
  | formattedValue => ["format_spec"]
  | constant => ["kind"]
  | slice => ["lower", "upper", "step"]
  | exceptHandler => ["type", "name"]
  | arguments => ["vararg", "kwarg"]
  | arg => ["annotation", "type_comment"]
  | keyword => ["arg"]
  | importAlias => ["asname"]
  | withItem => ["optional_vars"]
  | matchCase => ["guard"]
  | matchMapping => ["rest"]
  | matchStar => ["name"]
  | matchAs => ["pattern", "name"]
  | _ => []

def all : List Kind := [
  .module, .interactive, .expression, .functionType, .functionDef, .asyncFunctionDef, .classDef,
  .returnStmt, .deleteStmt, .assign, .augAssign, .annAssign, .forStmt, .asyncFor, .whileStmt,
  .ifStmt, .withStmt, .asyncWith, .matchStmt, .raiseStmt, .tryStmt, .tryStar, .assertStmt,
  .importStmt, .importFrom, .globalStmt, .nonlocalStmt, .exprStmt, .passStmt, .breakStmt,
  .continueStmt, .boolOp, .namedExpr, .binOp, .unaryOp, .lambda, .ifExp, .dict, .set, .listComp,
  .setComp, .dictComp, .generatorExp, .await, .yield, .yieldFrom, .compare, .call,
  .formattedValue, .joinedStr, .constant, .attributeExpr, .subscript, .starred, .nameExpr, .list,
  .tuple, .slice, .load, .store, .del, .and, .or, .add, .sub, .mult, .matMult, .div, .mod, .pow,
  .lShift, .rShift, .bitOr, .bitXor, .bitAnd, .floorDiv, .invert, .not, .uAdd, .uSub, .eq,
  .notEq, .lt, .ltE, .gt, .gtE, .is, .isNot, .isIn, .notIn, .comprehension, .exceptHandler,
  .arguments, .arg, .keyword, .importAlias, .withItem, .matchCase, .matchValue, .matchSingleton,
  .matchSequence, .matchMapping, .matchClass, .matchStar, .matchAs, .matchOr, .typeIgnore]

/-- The kind of a name. -/
def ofName? (name : String) : Option Kind := all.find? (·.name == name)

end Kind

end LiteralScrub.Python
