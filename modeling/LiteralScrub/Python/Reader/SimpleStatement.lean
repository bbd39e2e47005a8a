import LiteralScrub.Python.Reader.Expression
import LiteralScrub.Python.Reader.Target

/-!
# Statements that fit in a line
-/
namespace LiteralScrub.Python.Reader

variable (nested : Nested)

/-! ## Assignments -/

/-- What is assigned. -/
def assignedValue : ReadM Value := nested.yieldExpression <|> nested.starExpressions

/-- The value behind an annotation. -/
def annotatedValue : ReadM Value := do
  return orNull (← optional (do
    let _ ← sign "="
    assignedValue nested))

/-- The operator of an assignment that updates its target. -/
def updateOperator : ReadM Kind :=
  signAmong [
    ("+=", .add), ("-=", .sub), ("*=", .mult), ("@=", .matMult), ("/=", .div), ("%=", .mod),
    ("&=", .bitAnd), ("|=", .bitOr), ("^=", .bitXor), ("<<=", .lShift), (">>=", .rShift),
    ("**=", .pow), ("//=", .floorDiv)]

/-- A target with the sign behind it. -/
def assignedTarget : ReadM Value := do
  let target ← nested.starTargets
  let _ ← sign "="
  return target

/-- A list or a tuple, perhaps in parentheses, where only one target can be annotated; `depth` is
more than the parentheses. -/
def listTarget : Nat → ReadM Value
  | 0 => absent
  | depth + 1 =>
    list nested <|> tuple nested <|> (do
      let _ ← sign "("
      let target ← listTarget depth
      let _ ← sign ")"
      return target)

def assignmentComplaints : List (ReadM Unit) := [
  do
    let target ← listTarget nested (maxBrackets + 1)
    let _ ← sign ":"
    let _ ← nested.expression
    complainAtNode target s!"only single target (not {expressionName target}) can be annotated",
  do
    let target ← starNamedExpression nested
    let _ ← sign ","
    let _ ← many (starNamedExpressions nested)
    let _ ← sign ":"
    let _ ← nested.expression
    complainAtNode target "only single target (not tuple) can be annotated",
  do
    let target ← nested.expression
    let _ ← sign ":"
    let _ ← nested.expression
    complainAtNode target "illegal target for annotation",
  do
    let _ ← many (assignedTarget nested)
    let target ← nested.starExpressions
    let _ ← sign "="
    complainOfTarget .assigned target,
  do
    let _ ← many (assignedTarget nested)
    let target ← nested.yieldExpression
    let _ ← sign "="
    complainAtNode target "assignment to yield expression not possible",
  do
    let target ← nested.starExpressions
    let _ ← updateOperator
    let _ ← assignedValue nested
    complainAtNode target
      s!"'{expressionName target}' is an illegal expression for augmented assignment"]

/-- An assignment. Behind a target and an updating operator there is no other way to read it. -/
def assignment : ReadM Value :=
  around .annAssign (do
    let target ← nameAs .store
    let _ ← sign ":"
    let annotation ← nested.expression
    return [("target", target), ("annotation", annotation), ("value", ← annotatedValue nested),
      ("simple", .int 1)]) <|>
  around .annAssign (do
    let target ← (do
      let _ ← sign "("
      let target ← nested.tree .singleTarget
      let _ ← sign ")"
      pure target) <|> attributeOrItem nested .store
    let _ ← sign ":"
    let annotation ← nested.expression
    return [("target", target), ("annotation", annotation), ("value", ← annotatedValue nested),
      ("simple", .int 0)]) <|>
  around .assign (do
    let targets ← many1 (assignedTarget nested)
    let value ← assignedValue nested
    notAhead (sign "=")
    return [("targets", .list targets), ("value", value), ("type_comment", .null)]) <|>
  (do
    let first ← peek
    let update ← optional (do
      let target ← nested.tree .singleTarget
      return (target, ← updateOperator))
    match update with
    | some (target, operator) =>
      let value ← assignedValue nested
      build first .augAssign [("target", target), ("op", plain operator), ("value", value)]
    | none => explain (assignmentComplaints nested))

/-! ## Imports -/

/-- Names with dots between them, as one text. -/
def dottedName : ReadM Text := do
  let (first, _) ← nameToken
  let rest ← many (do
    let _ ← sign "."
    return (← nameToken).1)
  return Text.join [0x2E] (first :: rest)

/-- An imported name, perhaps under another one. -/
def aliased (imported : ReadM Text) : ReadM Value :=
  around .importAlias do
    let t ← imported
    let other ← optional (do
      let _ ← keyword "as"
      return Value.text (← nameToken).1)
    return [("name", .text t), ("asname", orNull other)]

def importedNames : ReadM (List Value) := separated "," (aliased (do return (← nameToken).1))

def importTargets : ReadM (List Value) :=
  (do
    let _ ← sign "("
    let names ← importedNames
    let _ ← optional (sign ",")
    let _ ← sign ")"
    return names) <|>
  (do
    let names ← importedNames
    notAhead (sign ",")
    return names) <|>
  (do
    let all ← around .importAlias do
      let _ ← sign "*"
      return [("name", .text [0x2A]), ("asname", .null)]
    return [all]) <|>
  explain [do
    let _ ← importedNames
    let _ ← sign ","
    let _ ← newline
    complain (Text.ofString "trailing comma not allowed without surrounding parentheses")]

/-- Dots before the name of a module, by how many levels they go up. -/
def levels : ReadM Nat := signAmong [(".", 1), ("...", 3)]

def importStatement : ReadM Value :=
  around .importStmt (do
    let _ ← keyword "import"
    return [("names", .list (← separated "," (aliased dottedName)))]) <|>
  around .importFrom (do
    let _ ← keyword "from"
    let dots ← many levels
    let module ← dottedName
    let _ ← keyword "import"
    let names ← importTargets
    let level : Nat := dots.foldr (· + ·) 0
    return [("module", .text module), ("names", .list names), ("level", .int level)]) <|>
  around .importFrom do
    let _ ← keyword "from"
    let dots ← many1 levels
    let _ ← keyword "import"
    let names ← importTargets
    let level : Nat := dots.foldr (· + ·) 0
    return [("module", .null), ("names", .list names), ("level", .int level)]

/-! ## Other statements -/

def raiseStatement : ReadM Value :=
  around .raiseStmt (do
    let _ ← keyword "raise"
    let exception ← nested.expression
    let cause ← optional (do
      let _ ← keyword "from"
      nested.expression)
    return [("exc", exception), ("cause", orNull cause)]) <|>
  around .raiseStmt do
    let _ ← keyword "raise"
    return [("exc", .null), ("cause", .null)]

/-- A statement that names variables of another scope. -/
def scopeStatement (word : String) (kind : Kind) : ReadM Value :=
  around kind do
    let _ ← keyword word
    return [("names", .list (← separated "," (do return Value.text (← nameToken).1)))]

def delStatement : ReadM Value :=
  around .deleteStmt (do
    let _ ← keyword "del"
    let targets ← delTargets nested
    ahead (unit (sign ";") <|> unit newline)
    return [("targets", .list targets)]) <|>
  explain [do
    let _ ← keyword "del"
    complainOfTarget .deleted (← nested.starExpressions)]

def assertStatement : ReadM Value :=
  around .assertStmt do
    let _ ← keyword "assert"
    let test ← nested.expression
    let message ← optional (do
      let _ ← sign ","
      nested.expression)
    return [("test", test), ("msg", orNull message)]

/-- A statement of one word. -/
def wordStatement (word : String) (kind : Kind) : ReadM Value :=
  around kind do
    let _ ← keyword word
    return []

def simpleStatement : ReadM Value :=
  assignment nested <|>
  around .exprStmt (do return [("value", ← nested.starExpressions)]) <|>
  (do
    match (← peek).lexeme with
    | .keyword "return" =>
      around .returnStmt do
        let _ ← keyword "return"
        return [("value", orNull (← optional nested.starExpressions))]
    | .keyword "import" | .keyword "from" => importStatement
    | .keyword "raise" => raiseStatement nested
    | .keyword "pass" => wordStatement "pass" .passStmt
    | .keyword "del" => delStatement nested
    | .keyword "yield" => around .exprStmt do return [("value", ← nested.yieldExpression)]
    | .keyword "assert" => assertStatement nested
    | .keyword "break" => wordStatement "break" .breakStmt
    | .keyword "continue" => wordStatement "continue" .continueStmt
    | .keyword "global" => scopeStatement "global" .globalStmt
    | .keyword "nonlocal" => scopeStatement "nonlocal" .nonlocalStmt
    | _ => absent)

/-- The statements of a line. -/
def simpleStatements : ReadM (List Value) := do
  let statements ← separated ";" (nested.tree .simpleStatement)
  let _ ← optional (sign ";")
  let _ ← newline
  return statements

end LiteralScrub.Python.Reader
