import LiteralScrub.Python.Reader.Atom
import LiteralScrub.Python.Reader.Parameters

/-!
# Expressions

Each level of operators has its rule, from those that bind tightest to the conditional expression.
-/
namespace LiteralScrub.Python.Reader

variable (nested : Nested)

/-! ## Operators -/

def awaited : ReadM Value :=
  around .await (do
    let _ ← keyword "await"
    return [("value", ← nested.tree .primary)]) <|>
  nested.tree .primary

def power : ReadM Value := do
  let first ← peek
  let base ← nested.tree .awaited
  let exponent ← optional (do
    let _ ← sign "**"
    nested.tree .factor)
  match exponent with
  | some exponent => build first .binOp [("left", base), ("op", plain .pow), ("right", exponent)]
  | none => return base

/-- A sign before an operand. -/
def factor : ReadM Value :=
  around .unaryOp (do
    let operator ← signAmong [("+", Kind.uAdd), ("-", .uSub), ("~", .invert)]
    return [("op", plain operator), ("operand", ← nested.tree .factor)]) <|>
  power nested

/-- Operands with operators of one level between them, grouped from the left. -/
def leftGrouped (operators : List (String × Kind)) (operand : ReadM Value) : ReadM Value := do
  let first ← peek
  let step (left : Value) : ReadM Value := do
    let operator ← signAmong operators
    let right ← operand
    build first .binOp [("left", left), ("op", plain operator), ("right", right)]
  extend step (← operand)

def term : ReadM Value :=
  leftGrouped [("*", .mult), ("/", .div), ("//", .floorDiv), ("%", .mod), ("@", .matMult)]
    (nested.tree .factor)

def sum : ReadM Value := leftGrouped [("+", .add), ("-", .sub)] (nested.tree .term)

def shift : ReadM Value := leftGrouped [("<<", .lShift), (">>", .rShift)] (nested.tree .sum)

def bitwiseAnd : ReadM Value := leftGrouped [("&", .bitAnd)] (nested.tree .shift)

def bitwiseXor : ReadM Value := leftGrouped [("^", .bitXor)] (nested.tree .bitwiseAnd)

def bitwiseOr : ReadM Value := leftGrouped [("|", .bitOr)] (nested.tree .bitwiseXor)

/-- An operator that compares. -/
def comparisonOperator : ReadM Kind :=
  signAmong [("==", .eq), ("!=", .notEq), ("<=", .ltE), ("<", .lt), (">=", .gtE), (">", .gt)] <|>
  (do
    let _ ← keyword "not"
    let _ ← keyword "in"
    return .notIn) <|>
  (do
    let _ ← keyword "in"
    return .isIn) <|>
  (do
    let _ ← keyword "is"
    return if (← optional (keyword "not")).isSome then .isNot else .is)

def comparison : ReadM Value := do
  let first ← peek
  let left ← nested.bitwiseOr
  let rest ← many (do
    let operator ← comparisonOperator
    return (plain operator, ← nested.bitwiseOr))
  if rest.isEmpty then return left
  build first .compare
    [("left", left), ("ops", .list (rest.map Prod.fst)), ("comparators", .list (rest.map Prod.snd))]

def inversion : ReadM Value :=
  around .unaryOp (do
    let _ ← keyword "not"
    return [("op", plain .not), ("operand", ← nested.tree .inversion)]) <|>
  comparison nested

/-- Operands with one word between them. -/
def joinedBy (word : String) (kind : Kind) (operand : ReadM Value) : ReadM Value := do
  let first ← peek
  let left ← operand
  let rest ← many (do
    let _ ← keyword word
    operand)
  if rest.isEmpty then return left
  build first .boolOp [("op", plain kind), ("values", .list (left :: rest))]

def conjunction : ReadM Value := joinedBy "and" .and (nested.tree .inversion)

def disjunction : ReadM Value := joinedBy "or" .or (nested.tree .conjunction)

/-! ## Expressions -/

def lambda : ReadM Value :=
  around .lambda do
    let _ ← keyword "lambda"
    let parameters ← optional (lambdaStyle.list nested)
    let _ ← sign ":"
    return [("args", (parameters.getD {}).toNode), ("body", ← nested.expression)]

/-- An expression, without complaints on it as a whole. -/
def plainExpression : ReadM Value :=
  (do
    let first ← peek
    let body ← nested.disjunction
    let condition ← optional (do
      let _ ← keyword "if"
      let test ← nested.disjunction
      let _ ← keyword "else"
      return (test, ← nested.expression))
    match condition with
    | some (test, other) => build first .ifExp [("test", test), ("body", body), ("orelse", other)]
    | none => return body) <|>
  lambda nested

/-- How many brackets are open behind the last token taken. -/
def depthHere : ReadM Nat := fun context mark store =>
  .found ((context.tokens.list[mark - 1]?.map Token.depth).getD 0) mark store

/-- A name before a string, or a name that can begin a statement. -/
def looksLikeStatement : ReadM Unit :=
  (do
    let _ ← nameToken
    unit stringToken) <|>
  unit (softKeyword "_" <|> softKeyword "case" <|> softKeyword "match")

def expressionComplaints : List (ReadM Unit) := [
  do
    notAhead looksLikeStatement
    let left ← nested.disjunction
    let _ ← withoutExplaining (plainExpression nested)
    if !isOldStatement left && (← depthHere) ≠ 0 then
      complainAtNode left "invalid syntax. Perhaps you forgot a comma?",
  do
    let body ← nested.disjunction
    let _ ← keyword "if"
    let _ ← nested.disjunction
    notAhead (unit (keyword "else") <|> unit (sign ":"))
    complainAtNode body "expected 'else' after 'if' expression"]

/-- The complaint on a statement that is a call now. -/
def oldStatementComplaint : ReadM Unit := do
  let (t, token) ← nameToken
  notAhead (sign "(")
  let _ ← nested.starExpressions
  let called := Text.toString t
  if called == "print" || called == "exec" then
    complainAtToken token
      s!"Missing parentheses in call to '{called}'. Did you mean {called}(...)?"

def expression : ReadM Value :=
  explain (expressionComplaints nested) <|>
  explain [oldStatementComplaint nested] <|>
  plainExpression nested

/-- The complaints on an assignment where an expression is expected. -/
def misplacedAssignmentComplaints : List (ReadM Unit) :=
  let notAssigned := notAhead (sign "=" <|> sign ":=")
  [do
    let target ← nested.expression
    let _ ← sign ":="
    let _ ← nested.expression
    complainAtNode target s!"cannot use assignment expressions with {expressionName target}",
  do
    let target ← name
    let _ ← sign "="
    let _ ← nested.bitwiseOr
    notAssigned
    complainAtNode target "invalid syntax. Maybe you meant '==' or ':=' instead of '='?",
  do
    notAhead (unit (list nested) <|> unit (tuple nested) <|> unit (generator nested) <|>
      unit (keyword "True" <|> keyword "None" <|> keyword "False"))
    let target ← nested.bitwiseOr
    let _ ← sign "="
    let _ ← nested.bitwiseOr
    notAssigned
    complainAtNode target
      s!"cannot assign to {expressionName target} here. Maybe you meant '==' instead of '='?"]

def namedExpression : ReadM Value :=
  assignmentExpression nested <|>
  whenExplaining (nested.tree .misplacedAssignment) <|>
  (do
    let value ← nested.expression
    notAhead (sign ":=")
    return value)

/-- Expressions with commas between them, or a single one. -/
def commaExpressions (item : ReadM Value) : ReadM Value := do
  let first ← peek
  let head ← item
  let rest ← many (do
    let _ ← sign ","
    item)
  let comma ← optional (sign ",")
  if rest.isEmpty && comma.isNone then return head
  build first .tuple [("elts", .list (head :: rest)), ("ctx", plain .load)]

/-- Expressions of which none is starred. -/
def expressions : ReadM Value := commaExpressions nested.expression

def starExpression : ReadM Value :=
  around .starred (do
    let _ ← sign "*"
    return [("value", ← nested.bitwiseOr), ("ctx", plain .load)]) <|>
  nested.expression

def starExpressions : ReadM Value := commaExpressions (nested.tree .starExpression)

def yieldExpression : ReadM Value :=
  around .yieldFrom (do
    let _ ← keyword "yield"
    let _ ← keyword "from"
    return [("value", ← nested.expression)]) <|>
  around .yield do
    let _ ← keyword "yield"
    return [("value", orNull (← optional nested.starExpressions))]

end LiteralScrub.Python.Reader
