import LiteralScrub.Python.Reader.Pattern
import LiteralScrub.Python.Reader.SimpleStatement

/-!
# Statements with blocks
-/
namespace LiteralScrub.Python.Reader

variable (nested : Nested)

/-! ## Complaints on blocks -/

/-- A line ends and no block begins: a complaint that names the statement and its line. -/
def missingBlock (what : String) (first : Token) : ReadM Unit := do
  let _ ← newline
  notAhead indent
  complain (Text.ofString s!"expected an indented block after {what} on line {first.line}")

/-- A line ends where a colon is expected. -/
def missingColon : ReadM Unit := do
  let _ ← newline
  complain (Text.ofString "expected ':'")

/-- The complaints on a statement whose head a rule reads: no colon, or no block. -/
def headComplaints (what : String) (head : ReadM Token) : List (ReadM Unit) := [
  do
    let _ ← head
    missingColon,
  do
    let first ← head
    let _ ← sign ":"
    missingBlock what first]

/-- The complaint on a statement that needs a block and has none. -/
def blockComplaint (what : String) (head : ReadM Token) : List (ReadM Unit) := [do
  let first ← head
  let _ ← sign ":"
  missingBlock what first]

/-! ## Conditions and loops -/

/-- A word with a condition behind it. -/
def conditionHead (word : String) : ReadM Token := do
  let first ← keyword word
  let _ ← nested.namedExpression
  return first

/-- What is done otherwise. -/
def elseBlock : ReadM (List Value) :=
  explain (blockComplaint "'else' statement" (keyword "else")) <|>
  (do
    let _ ← keyword "else"
    let _ ← forced ":"
    nested.block)

def optionalElse : ReadM Value := do return .list ((← optional (elseBlock nested)).getD [])

/-- A condition with a block and further branches; `bound` is more than the branches. -/
def conditional : Nat → String → ReadM Value
  | 0, _ => absent
  | bound + 1, word =>
    explain (headComplaints s!"'{word}' statement" (conditionHead nested word)) <|>
    around .ifStmt (do
      let _ ← keyword word
      let test ← nested.namedExpression
      let _ ← sign ":"
      let body ← nested.block
      let branch ← conditional bound "elif"
      return [("test", test), ("body", .list body), ("orelse", .list [branch])]) <|>
    around .ifStmt do
      let _ ← keyword word
      let test ← nested.namedExpression
      let _ ← sign ":"
      let body ← nested.block
      return [("test", test), ("body", .list body), ("orelse", ← optionalElse nested)]

def ifStatement : ReadM Value := fun context mark store =>
  conditional nested (context.tokens.list.size + 1 - mark) "if" context mark store

def whileStatement : ReadM Value :=
  explain (headComplaints "'while' statement" (conditionHead nested "while")) <|>
  around .whileStmt do
    let _ ← keyword "while"
    let test ← nested.namedExpression
    let _ ← sign ":"
    let body ← nested.block
    return [("test", test), ("body", .list body), ("orelse", ← optionalElse nested)]

/-- The head of a loop, for complaints. -/
def forHead : ReadM Token := do
  let _ ← optional (keyword "async")
  let first ← keyword "for"
  let _ ← nested.starTargets
  let _ ← keyword "in"
  let _ ← nested.starExpressions
  return first

/-- A loop. Behind `in` there is no other way to read it. -/
def forStatement : ReadM Value :=
  explain (headComplaints "'for' statement" (forHead nested)) <|>
  (do
    let first ← peek
    match ← optional (loopHead nested) with
    | some (isAsync, target) =>
      let source ← nested.starExpressions
      let _ ← sign ":"
      let body ← nested.block
      let other ← optionalElse nested
      build first (if isAsync then .asyncFor else .forStmt)
        [("target", target), ("iter", source), ("body", .list body), ("orelse", other),
          ("type_comment", .null)]
    | none => explain [badLoopTarget nested])

/-! ## `with` -/

def withItem : ReadM Value :=
  let item (context target : Value) : Value :=
    .python .withItem [("context_expr", context), ("optional_vars", target)]
  let ending := ahead (sign "," <|> sign ")" <|> sign ":")
  (do
    let context ← nested.expression
    let _ ← keyword "as"
    let target ← nested.tree .starTarget
    ending
    return item context target) <|>
  explain [do
    let _ ← nested.expression
    let _ ← keyword "as"
    let target ← nested.expression
    ending
    complainOfTarget .assigned target] <|>
  (do return item (← nested.expression) .null)

/-- The heads of `with` statements for complaints, without and with parentheses. -/
def withHeads : List (ReadM Token) :=
  let items (expression : ReadM Value) : ReadM Unit := unit (separated "," (do
    let _ ← expression
    optional (do
      let _ ← keyword "as"
      nested.tree .starTarget)))
  [do
    let _ ← optional (keyword "async")
    let first ← keyword "with"
    items nested.expression
    return first,
  do
    let _ ← optional (keyword "async")
    let first ← keyword "with"
    let _ ← sign "("
    items (expressions nested)
    let _ ← optional (sign ",")
    let _ ← sign ")"
    return first]

def withStatement : ReadM Value :=
  let read (items : ReadM (List Value)) : ReadM Value := do
    let first ← peek
    let mark ← optional (keyword "async")
    let _ ← keyword "with"
    let items ← items
    let _ ← sign ":"
    let body ← nested.block
    build first (if mark.isSome then .asyncWith else .withStmt)
      [("items", .list items), ("body", .list body), ("type_comment", .null)]
  explain ((withHeads nested).flatMap (blockComplaint "'with' statement")) <|>
  read (do
    let _ ← sign "("
    let items ← separated "," (withItem nested)
    let _ ← optional (sign ",")
    let _ ← sign ")"
    return items) <|>
  read (separated "," (withItem nested)) <|>
  explain ((withHeads nested).map fun head => do
    let _ ← head
    missingColon)

/-! ## `try` -/

def finallyBlock : ReadM (List Value) :=
  explain (blockComplaint "'finally' statement" (keyword "finally")) <|>
  (do
    let _ ← keyword "finally"
    let _ ← forced ":"
    nested.block)

/-- A name for what was caught. -/
def caughtName : ReadM Value := do
  return orNull (← optional (do
    let _ ← keyword "as"
    return Value.text (← nameToken).1))

/-- The word `except`, with a star for groups of exceptions. -/
def exceptWord (isStarred : Bool) : ReadM Token := do
  let first ← keyword "except"
  if isStarred then
    let _ ← sign "*"
  return first

/-- The head of a handler for complaints. -/
def exceptHead (isStarred : Bool) : ReadM Token := do
  let first ← exceptWord isStarred
  let _ ← nested.expression
  let _ ← caughtName
  return first

def exceptComplaints : List (ReadM Unit) := [
  do
    let _ ← keyword "except"
    let _ ← optional (sign "*")
    let type ← nested.expression
    let _ ← sign ","
    let _ ← expressions nested
    let _ ← caughtName
    let _ ← sign ":"
    complainAtNode type "multiple exception types must be parenthesized",
  do
    let _ ← keyword "except"
    let _ ← optional (sign "*")
    let _ ← nested.expression
    let _ ← caughtName
    missingColon,
  do
    let _ ← keyword "except"
    missingColon,
  do
    let _ ← keyword "except"
    let _ ← sign "*"
    unit newline <|> unit (sign ":")
    complain (Text.ofString "expected one or more exception types")]

/-- A handler of exceptions of a type. -/
def typedHandler (isStarred : Bool) : ReadM Value :=
  around .exceptHandler do
    let _ ← exceptWord isStarred
    let type ← nested.expression
    let name ← caughtName
    let _ ← sign ":"
    let body ← nested.block
    return [("type", type), ("name", name), ("body", .list body)]

def exceptBlock : ReadM Value :=
  explain (blockComplaint "'except' statement" (exceptHead nested false) ++
    blockComplaint "'except' statement" (keyword "except")) <|>
  typedHandler nested false <|>
  around .exceptHandler (do
    let _ ← keyword "except"
    let _ ← sign ":"
    let body ← nested.block
    return [("type", .null), ("name", .null), ("body", .list body)]) <|>
  explain (exceptComplaints nested)

def exceptStarBlock : ReadM Value :=
  explain (blockComplaint "'except*' statement" (exceptHead nested true)) <|>
  typedHandler nested true <|>
  explain (exceptComplaints nested)

def tryComplaints : List (ReadM Unit) :=
  let mixed := "cannot have both 'except' and 'except*' on the same 'try'"
  blockComplaint "'try' statement" (keyword "try") ++ [
  do
    let _ ← keyword "try"
    let _ ← sign ":"
    let _ ← nested.block
    notAhead (keyword "except" <|> keyword "finally")
    complain (Text.ofString "expected 'except' or 'finally' block"),
  do
    let _ ← keyword "try"
    let _ ← sign ":"
    let _ ← many nested.block
    let _ ← many1 (exceptBlock nested)
    let first ← exceptHead nested true
    let _ ← sign ":"
    complainAtToken first mixed,
  do
    let _ ← keyword "try"
    let _ ← sign ":"
    let _ ← many nested.block
    let _ ← many1 (exceptStarBlock nested)
    let first ← exceptHead nested false <|> keyword "except"
    let _ ← sign ":"
    complainAtToken first mixed]

def tryStatement : ReadM Value :=
  let read (kind : Kind) (rest : ReadM (List Value × Value × List Value)) : ReadM Value :=
    around kind do
      let _ ← keyword "try"
      let _ ← forced ":"
      let body ← nested.block
      let (handlers, other, final) ← rest
      return [("body", .list body), ("handlers", .list handlers), ("orelse", other),
        ("finalbody", .list final)]
  let handled (handler : ReadM Value) : ReadM (List Value × Value × List Value) := do
    let handlers ← many1 handler
    let other ← optionalElse nested
    return (handlers, other, (← optional (finallyBlock nested)).getD [])
  explain (tryComplaints nested) <|>
  read .tryStmt (do return ([], .list [], ← finallyBlock nested)) <|>
  read .tryStmt (handled (exceptBlock nested)) <|>
  read .tryStar (handled (exceptStarBlock nested))

/-! ## `match` -/

def subject : ReadM Value :=
  around .tuple (do
    let first ← starNamedExpression nested
    let _ ← sign ","
    let rest ← optional (starNamedExpressions nested)
    return [("elts", .list (first :: rest.getD [])), ("ctx", plain .load)]) <|>
  nested.namedExpression

/-- The condition of a case. -/
def guard : ReadM Value := do
  return orNull (← optional (do
    let _ ← keyword "if"
    nested.namedExpression))

def caseBlock : ReadM Value :=
  explain (headComplaints "'case' statement" (do
    let first ← softKeyword "case"
    let _ ← patterns nested
    let _ ← guard nested
    return first)) <|>
  (do
    let _ ← softKeyword "case"
    let pattern ← patterns nested
    let guard ← guard nested
    let _ ← sign ":"
    let body ← nested.block
    return .python .matchCase [("pattern", pattern), ("guard", guard), ("body", .list body)])

def matchStatement : ReadM Value :=
  around .matchStmt (do
    let _ ← softKeyword "match"
    let subject ← subject nested
    let _ ← sign ":"
    let _ ← newline
    let _ ← indent
    let cases ← many1 (caseBlock nested)
    let _ ← dedent
    return [("subject", subject), ("cases", .list cases)]) <|>
  explain (headComplaints "'match' statement" (do
    let first ← softKeyword "match"
    let _ ← subject nested
    return first))

/-! ## Definitions -/

def decorators : ReadM (List Value) :=
  many1 (do
    let _ ← sign "@"
    let decorator ← nested.namedExpression
    let _ ← newline
    return decorator)

/-- A definition with its decorators, which do not count for its place. -/
def decorated (definition : List Value → ReadM Value) : ReadM Value :=
  (do definition (← decorators nested)) <|> definition []

def functionDefinition (decorators : List Value) : ReadM Value :=
  explain (blockComplaint "function definition" (do
    let _ ← optional (keyword "async")
    let first ← keyword "def"
    let _ ← nameToken
    let _ ← sign "("
    let _ ← optional ((defStyle nested).list nested)
    let _ ← sign ")"
    let _ ← optional (do
      let _ ← sign "->"
      nested.expression)
    return first)) <|>
  (do
    let first ← peek
    let mark ← optional (keyword "async")
    let _ ← keyword "def"
    let (t, _) ← nameToken
    let _ ← forced "("
    let parameters ← optional ((defStyle nested).list nested)
    let _ ← sign ")"
    let returned ← optional (do
      let _ ← sign "->"
      nested.expression)
    let _ ← forced ":"
    let body ← nested.block
    build first (if mark.isSome then .asyncFunctionDef else .functionDef)
      [("name", .text t), ("args", (parameters.getD {}).toNode), ("body", .list body),
        ("decorator_list", .list decorators), ("returns", orNull returned),
        ("type_comment", .null)])

/-- The name of a class and the arguments behind it. -/
def classHead : ReadM (Token × Text × CallArguments) := do
  let first ← keyword "class"
  let (t, _) ← nameToken
  let bases ← optional (do
    let _ ← sign "("
    let call ← optional nested.arguments
    let _ ← sign ")"
    return call.getD {})
  return (first, t, bases.getD {})

def classDefinition (decorators : List Value) : ReadM Value :=
  explain (headComplaints "class definition" (do return (← classHead nested).1)) <|>
  around .classDef do
    let (_, t, call) ← classHead nested
    let _ ← sign ":"
    let body ← nested.block
    return [("name", .text t), ("bases", .list call.positional),
      ("keywords", .list call.keywords), ("body", .list body),
      ("decorator_list", .list decorators)]

/-! ## Statements -/

def compoundStatement : ReadM Value := do
  match (← peek).lexeme with
  | .keyword "def" => decorated nested (functionDefinition nested)
  | .sign "@" =>
    decorated nested (functionDefinition nested) <|> decorated nested (classDefinition nested)
  | .keyword "async" =>
    decorated nested (functionDefinition nested) <|> withStatement nested <|> forStatement nested
  | .keyword "if" => ifStatement nested
  | .keyword "class" => decorated nested (classDefinition nested)
  | .keyword "with" => withStatement nested
  | .keyword "for" => forStatement nested
  | .keyword "try" => tryStatement nested
  | .keyword "while" => whileStatement nested
  | _ => matchStatement nested

def statement : ReadM (List Value) :=
  (do return [← compoundStatement nested]) <|> simpleStatements nested

def statements : ReadM (List Value) := do return (← many1 (statement nested)).flatten

def block : ReadM (List Value) :=
  (do
    let _ ← newline
    let _ ← indent
    let body ← statements nested
    let _ ← dedent
    return body) <|>
  simpleStatements nested <|>
  explain [do
    let _ ← newline
    notAhead indent
    complain (Text.ofString "expected an indented block")]

/-- A whole source. -/
def sourceFile : ReadM Value := do
  let body ← optional (statements nested)
  let _ ← take (· == .endMarker)
  return .python .module [("body", .list (body.getD [])), ("type_ignores", .list [])]

end LiteralScrub.Python.Reader
