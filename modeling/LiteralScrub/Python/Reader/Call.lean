import LiteralScrub.Python.Reader.Blame

/-!
# Comprehensions and arguments of calls
-/
namespace LiteralScrub.Python.Reader

variable (nested : Nested)

/-- A starred expression among arguments. -/
def starredExpression : ReadM Value :=
  around .starred do
    let _ ← sign "*"
    return [("value", ← nested.expression), ("ctx", plain .load)]

/-- A name that gets a value inside an expression. -/
def assignmentExpression : ReadM Value :=
  around .namedExpr do
    let target ← nameAs .store
    let _ ← sign ":="
    return [("target", target), ("value", ← nested.expression)]

/-- An expression that may give a name its value. -/
def assignmentOrExpression : ReadM Value :=
  assignmentExpression nested <|> (do
    let value ← nested.expression
    notAhead (sign ":=")
    return value)

/-! ## Comprehensions -/

/-- The complaint on a bad target of a loop. -/
def badLoopTarget : ReadM Unit := do
  let _ ← optional (keyword "async")
  let _ ← keyword "for"
  complainOfTarget .looped (← nested.starExpressions)

/-- The head of a loop up to `in`; tells whether the loop is asynchronous. -/
def loopHead : ReadM (Bool × Value) := do
  let mark ← optional (keyword "async")
  let _ ← keyword "for"
  let target ← nested.starTargets
  let _ ← keyword "in"
  return (mark.isSome, target)

/-- One loop of a comprehension, with its conditions. -/
def comprehension : ReadM Value := do
  match ← optional (loopHead nested) with
  | some (isAsync, target) =>
    let source ← nested.disjunction
    let conditions ← many (do
      let _ ← keyword "if"
      nested.disjunction)
    return .python .comprehension [
      ("target", target), ("iter", source), ("ifs", .list conditions),
      ("is_async", .int (if isAsync then 1 else 0))]
  | none => explain [badLoopTarget nested]

/-- The loops of a comprehension. -/
def comprehensions : ReadM (List Value) := many1 (comprehension nested)

/-! ## Arguments -/

/-- An argument without a keyword. -/
def positional : ReadM Value :=
  starredExpression nested <|> (do
    let value ← assignmentOrExpression nested
    notAhead (sign "=")
    return value)

def keywordComplaints : List (ReadM Unit) := [
  do
    let word ← keyword "True" <|> keyword "False" <|> keyword "None"
    let _ ← sign "="
    match word.lexeme with
    | .keyword w => complainAtToken word s!"cannot assign to {w}"
    | _ => absent,
  do
    let target ← name
    let _ ← sign "="
    let _ ← nested.expression
    let _ ← comprehensions nested
    complainAtNode target "invalid syntax. Maybe you meant '==' or ':=' instead of '='?",
  do
    notAhead (do
      let _ ← nameToken
      sign "=")
    let target ← nested.expression
    let _ ← sign "="
    complainAtNode target "expression cannot contain assignment, perhaps you meant \"==\"?"]

/-- An argument with a keyword. -/
def keywordArgument : ReadM Value :=
  around .keyword do
    let (t, _) ← nameToken
    let _ ← sign "="
    return [("arg", .text t), ("value", ← nested.expression)]

def keywordOrStarred : ReadM Value :=
  explain (keywordComplaints nested) <|> keywordArgument nested <|> starredExpression nested

def keywordOrDoubleStarred : ReadM Value :=
  explain (keywordComplaints nested) <|> keywordArgument nested <|>
  around .keyword do
    let _ ← sign "**"
    return [("arg", .null), ("value", ← nested.expression)]

/-- Arguments from the first keyword on. -/
def keywordArguments : ReadM (List Value) :=
  (do
    let first ← separated "," (keywordOrStarred nested)
    let _ ← sign ","
    return first ++ (← separated "," (keywordOrDoubleStarred nested))) <|>
  separated "," (keywordOrStarred nested) <|>
  separated "," (keywordOrDoubleStarred nested)

/-- All arguments. Starred ones behind keywords count with those before. -/
def args : ReadM CallArguments := do
  let first ← peek
  let isKeyword (value : Value) : Bool := kindOf? value == some .keyword
  let (before, after) ← (do
    let before ← separated "," (positional nested)
    let after ← optional (do
      let _ ← sign ","
      keywordArguments nested)
    pure (before, after.getD [])) <|> (do return ([], ← keywordArguments nested))
  return {
    positional := before ++ after.filter (!isKeyword ·)
    keywords := after.filter isKeyword
    line := first.line
    column := first.column.getD 0 }

def argumentComplaints : List (ReadM Unit) := [
  do
    let call ← args nested
    let _ ← sign ","
    let _ ← sign "*"
    complainAt call.line (call.column + 1)
      "iterable argument unpacking follows keyword argument unpacking",
  do
    let value ← nested.expression
    let _ ← comprehensions nested
    let _ ← sign ","
    let _ ← optional (unit (args nested) <|> (do
      let _ ← nested.expression
      unit (comprehensions nested)))
    complainAtNode value "Generator expression must be parenthesized",
  do
    let target ← name
    let _ ← sign "="
    let _ ← nested.expression
    let _ ← comprehensions nested
    complainAtNode target "invalid syntax. Maybe you meant '==' or ':=' instead of '='?",
  do
    let call ← args nested
    let _ ← comprehensions nested
    match call.positional.getLast? with
    | some last =>
      if call.positional.length > 1 then
        complainAtNode last "Generator expression must be parenthesized"
    | none => return (),
  do
    let _ ← args nested
    let _ ← sign ","
    let value ← nested.expression
    let _ ← comprehensions nested
    complainAtNode value "Generator expression must be parenthesized",
  do
    let call ← args nested
    let _ ← sign ","
    let _ ← args nested
    if call.keywords.any fun keyword => fieldOf keyword "arg" matches .null then
      complain (Text.ofString "positional argument follows keyword argument unpacking")
    else complain (Text.ofString "positional argument follows keyword argument")]

/-- The arguments of a call up to the closing parenthesis. -/
def callArguments : ReadM CallArguments :=
  (do
    let call ← args nested
    let _ ← optional (sign ",")
    ahead (sign ")")
    return call) <|>
  explain (argumentComplaints nested)

end LiteralScrub.Python.Reader
