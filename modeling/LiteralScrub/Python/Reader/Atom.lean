import LiteralScrub.Python.Reader.Call
import LiteralScrub.Python.Reader.Interpolation
import LiteralScrub.Python.Reader.Number

/-!
# Atoms and what is applied to them

An atom is a name, a literal or something in brackets. Attributes, calls and subscripts follow it.
-/
namespace LiteralScrub.Python.Reader

variable (nested : Nested)

/-- A word or sign that is a constant. -/
def constantWord : ReadM Value := do
  let token ← peek
  let value ← match token.lexeme with
    | .keyword "True" => pure (.bool true)
    | .keyword "False" => pure (.bool false)
    | .keyword "None" => pure .null
    | _ => absent
  let _ ← take fun _ => true
  build token .constant [("value", value), ("kind", .null)]

def dots : ReadM Value :=
  around .constant do
    let _ ← sign "..."
    return [("value", .ellipsis), ("kind", .null)]

/-! ## Lists of expressions -/

/-- An expression that may be starred, as an item of a list. -/
def starNamedExpression : ReadM Value :=
  around .starred (do
    let _ ← sign "*"
    return [("value", ← nested.bitwiseOr), ("ctx", plain .load)]) <|>
  nested.namedExpression

def starNamedExpressions : ReadM (List Value) := do
  let items ← separated "," (starNamedExpression nested)
  let _ ← optional (sign ",")
  return items

/-! ## Brackets -/

def comprehensionComplaints : List (ReadM Unit) := [
  do
    let _ ← sign "[" <|> sign "(" <|> sign "\x7b"
    let value ← starredExpression nested
    let _ ← comprehensions nested
    complainAtNode value "iterable unpacking cannot be used in comprehension",
  do
    let _ ← sign "[" <|> sign "\x7b"
    let value ← starNamedExpression nested
    let _ ← sign ","
    let _ ← starNamedExpressions nested
    let _ ← comprehensions nested
    complainAtNode value "did you forget parentheses around the comprehension target?",
  do
    let _ ← sign "[" <|> sign "\x7b"
    let value ← starNamedExpression nested
    let _ ← sign ","
    let _ ← comprehensions nested
    complainAtNode value "did you forget parentheses around the comprehension target?"]

/-- A comprehension between brackets. -/
def bracketed (kind : Kind) (opening closing : String) (item : ReadM Value) : ReadM Value :=
  around kind (do
    let _ ← sign opening
    let value ← item
    let loops ← comprehensions nested
    let _ ← sign closing
    return [("elt", value), ("generators", .list loops)]) <|>
  explain (comprehensionComplaints nested)

def tuple : ReadM Value :=
  around .tuple do
    let _ ← sign "("
    let items ← optional (do
      let first ← starNamedExpression nested
      let _ ← sign ","
      return first :: ((← optional (starNamedExpressions nested)).getD []))
    let _ ← sign ")"
    return [("elts", .list (items.getD [])), ("ctx", plain .load)]

/-- An expression in parentheses. -/
def group : ReadM Value :=
  (do
    let _ ← sign "("
    let value ← nested.yieldExpression <|> nested.namedExpression
    let _ ← sign ")"
    return value) <|>
  explain [
    do
      let _ ← sign "("
      let value ← starredExpression nested
      let _ ← sign ")"
      complainAtNode value "cannot use starred expression here",
    do
      let _ ← sign "("
      let stars ← sign "**"
      let _ ← nested.expression
      let _ ← sign ")"
      complainAtToken stars "cannot use double starred expression here"]

def generator : ReadM Value :=
  bracketed nested .generatorExp "(" ")" (assignmentOrExpression nested)

def list : ReadM Value :=
  around .list do
    let _ ← sign "["
    let items ← optional (starNamedExpressions nested)
    let _ ← sign "]"
    return [("elts", .list (items.getD [])), ("ctx", plain .load)]

def listComprehension : ReadM Value := bracketed nested .listComp "[" "]" nested.namedExpression

def set : ReadM Value :=
  around .set do
    let _ ← sign "\x7b"
    let items ← starNamedExpressions nested
    let _ ← sign "\x7d"
    return [("elts", .list items)]

def setComprehension : ReadM Value := bracketed nested .setComp "\x7b" "\x7d" nested.namedExpression

/-- A key and its value. -/
def keyValue : ReadM (Value × Value) := do
  let key ← nested.expression
  let _ ← sign ":"
  return (key, ← nested.expression)

/-- A key and its value, or a dictionary whose items are taken over. -/
def dictItem : ReadM (Value × Value) :=
  (do
    let _ ← sign "**"
    return (.null, ← nested.bitwiseOr)) <|>
  keyValue nested

/-- The complaints on a value of a dictionary. -/
def dictValueComplaints : List (ReadM Unit) := [
  do
    let _ ← nested.expression
    let _ ← sign ":"
    let star ← sign "*"
    let _ ← nested.bitwiseOr
    complainAtToken star "cannot use a starred expression in a dictionary value",
  do
    let _ ← nested.expression
    let colon ← sign ":"
    ahead (sign "\x7d" <|> sign ",")
    complainAtToken colon "expression expected after dictionary key and ':'"]

def dictComplaints : List (ReadM Unit) :=
  (do
    let _ ← separated "," (dictItem nested)
    let _ ← sign ","
    insist ((do
      let key ← nested.expression
      notAhead (sign ":")
      complainAt (placePart key "lineno") (placePart key "end_col_offset")
        "':' expected after dictionary key") :: dictValueComplaints nested)) ::
  dictValueComplaints nested

def dict : ReadM Value :=
  around .dict (do
    let _ ← sign "\x7b"
    let items ← optional (do
      let items ← separated "," (dictItem nested)
      let _ ← optional (sign ",")
      return items)
    let _ ← sign "\x7d"
    let items := items.getD []
    return [("keys", .list (items.map Prod.fst)), ("values", .list (items.map Prod.snd))]) <|>
  (do
    let _ ← sign "\x7b"
    insist (dictComplaints nested))

def dictComprehension : ReadM Value :=
  around .dictComp (do
    let _ ← sign "\x7b"
    let (key, value) ← keyValue nested
    let loops ← comprehensions nested
    let _ ← sign "\x7d"
    return [("key", key), ("value", value), ("generators", .list loops)]) <|>
  explain [do
    let _ ← sign "\x7b"
    let stars ← sign "**"
    let _ ← nested.bitwiseOr
    let _ ← comprehensions nested
    let _ ← sign "\x7d"
    complainAtToken stars "dict unpacking cannot be used in dict comprehension"]

/-- A name, a literal or something in brackets. -/
def atom : ReadM Value := do
  match (← peek).lexeme with
  | .name _ => name
  | .keyword _ => constantWord
  | .string _ => nested.tree .strings
  | .number _ => number
  | .sign "(" => tuple nested <|> group nested <|> generator nested
  | .sign "[" => list nested <|> listComprehension nested
  | .sign "\x7b" => dict nested <|> set nested <|> dictComprehension nested <|> setComprehension nested
  | .sign "..." => dots
  | _ => absent

/-! ## Attributes, calls and subscripts -/

/-- A slice, or an index. -/
def slice : ReadM Value :=
  around .slice (do
    let lower ← optional nested.expression
    let _ ← sign ":"
    let upper ← optional nested.expression
    let step ← optional (do
      let _ ← sign ":"
      optional nested.expression)
    return [("lower", orNull lower), ("upper", orNull upper), ("step", orNull (step.getD none))]) <|>
  nested.namedExpression

/-- What stands between the brackets of a subscript. -/
def slices : ReadM Value :=
  (do
    let value ← slice nested
    notAhead (sign ",")
    return value) <|>
  around .tuple do
    let items ← separated "," (slice nested <|> starredExpression nested)
    let _ ← optional (sign ",")
    return [("elts", .list items), ("ctx", plain .load)]

/-- One attribute, call or subscript of an expression, whose first token is given. Each has to pass
a check behind it. -/
def applied (check : ReadM Unit) (first : Token) (value : Value) : ReadM Value :=
  (do
    let _ ← sign "."
    let (t, _) ← nameToken
    check
    build first .attributeExpr [("value", value), ("attr", .text t), ("ctx", plain .load)]) <|>
  (do
    let argument ← generator nested
    check
    build first .call [("func", value), ("args", .list [argument]), ("keywords", .list [])]) <|>
  (do
    let _ ← sign "("
    let call := (← optional nested.arguments).getD {}
    let _ ← sign ")"
    check
    build first .call
      [("func", value), ("args", .list call.positional), ("keywords", .list call.keywords)]) <|>
  (do
    let _ ← sign "["
    let index ← slices nested
    let _ ← sign "]"
    check
    build first .subscript [("value", value), ("slice", index), ("ctx", plain .load)])

/-- Repeats a step that makes an expression longer. -/
def extended (step : Value → ReadM Value) : Nat → Value → ReadM Value
  | 0, value => return value
  | bound + 1, value => do
    match ← optional (step value) with
    | some longer => extended step bound longer
    | none => return value

/-- Repeats a step, which takes a token each time, as long as it finds something. -/
def extend (step : Value → ReadM Value) (value : Value) : ReadM Value := fun context mark store =>
  extended step (context.tokens.list.size + 1 - mark) value context mark store

/-- An atom with all that is applied to it. -/
def primary : ReadM Value := do
  let first ← peek
  extend (applied nested (return ()) first) (← atom nested)

end LiteralScrub.Python.Reader
