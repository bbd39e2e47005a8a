import LiteralScrub.Python.Reader.Basic

/-!
# Parameters of functions

The parameters of a `def` and of a `lambda` follow the same rules. They differ in whether a parameter
may have an annotation and in the sign that ends the list.
-/
namespace LiteralScrub.Python.Reader

/-- How the parameters of one kind of function are written. -/
structure ParameterStyle where
  parameter : ReadM Value
  /-- A parameter for any number of arguments, with an annotation that may be starred. -/
  starParameter : ReadM Value
  closing : String
  /-- The complaint on parameters in parentheses. -/
  parenthesized : ReadM Unit
  /-- The complaint on a bare star, at its token. -/
  bareStar : Token → ReadM Unit

/-- A parameter with its default, if it has one. -/
structure Parameter where
  arg : Value
  default : Option Value
  deriving Inhabited

/-- The parameters from the star on. -/
structure StarParameters where
  any : Option Value := none
  keywordOnly : List Parameter := []
  anyKeyword : Option Value := none
  deriving Inhabited

/-- The parts of a list of parameters. -/
structure ParameterList where
  positionalOnly : List Parameter := []
  positional : List Parameter := []
  star : StarParameters := {}
  deriving Inhabited

def ParameterList.toNode (list : ParameterList) : Value :=
  let args (parameters : List Parameter) : Value := .list (parameters.map Parameter.arg)
  .python .arguments [
    ("posonlyargs", args list.positionalOnly),
    ("args", args list.positional),
    ("vararg", orNull list.star.any),
    ("kwonlyargs", args list.star.keywordOnly),
    ("kw_defaults", .list (list.star.keywordOnly.map fun p => orNull p.default)),
    ("kwarg", orNull list.star.anyKeyword),
    ("defaults", .list ((list.positionalOnly ++ list.positional).filterMap Parameter.default))]

/-- The value that a parameter has by default. -/
def defaultValue (nested : Nested) : ReadM Value :=
  (do
    let _ ← sign "="
    nested.expression) <|>
  explain [do
    let mark ← sign "="
    ahead (sign ")" <|> sign ",")
    complainAtToken mark "expected default value expression"]

namespace ParameterStyle

variable (style : ParameterStyle) (nested : Nested)

/-- A parameter ends with a comma or before the end of the list. -/
def ended : ReadM Unit := unit (sign ",") <|> ahead (sign style.closing)

def withoutDefault : ReadM Parameter := do
  let arg ← style.parameter
  style.ended
  return ⟨arg, none⟩

def withDefault : ReadM Parameter := do
  let arg ← style.parameter
  let value ← defaultValue nested
  style.ended
  return ⟨arg, some value⟩

def maybeDefault : ReadM Parameter := do
  let arg ← style.parameter
  let value ← optional (defaultValue nested)
  style.ended
  return ⟨arg, value⟩

/-- Parameters without defaults before a slash. -/
def slashWithoutDefault : ReadM (List Parameter) := do
  let parameters ← many1 style.withoutDefault
  let _ ← sign "/"
  style.ended
  return parameters

/-- Parameters before a slash of which the last have defaults. -/
def slashWithDefault : ReadM (List Parameter) := do
  let plain ← many style.withoutDefault
  let parameters ← many1 (style.withDefault nested)
  let _ ← sign "/"
  style.ended
  return plain ++ parameters

def slash : ReadM (List Parameter) := style.slashWithoutDefault <|> style.slashWithDefault nested

/-! ## From the star on -/

def keywordsComplaints : List (ReadM Unit) := [
  do
    let _ ← sign "**"
    let _ ← style.parameter
    let mark ← sign "="
    complainAtToken mark "var-keyword argument cannot have default value",
  do
    let _ ← sign "**"
    let _ ← style.parameter
    let _ ← sign ","
    complainAtNode (← style.parameter) "arguments cannot follow var-keyword argument",
  do
    let _ ← sign "**"
    let _ ← style.parameter
    let _ ← sign ","
    let mark ← sign "*" <|> sign "**" <|> sign "/"
    complainAtToken mark "arguments cannot follow var-keyword argument"]

/-- The parameter for any number of keywords. -/
def keywords : ReadM Value :=
  explain style.keywordsComplaints <|>
  (do
    let _ ← sign "**"
    return (← style.withoutDefault).arg)

def starComplaints : List (ReadM Unit) := [
  do
    let star ← sign "*"
    unit (sign style.closing) <|> (do
      let _ ← sign ","
      unit (sign style.closing <|> sign "**"))
    style.bareStar star,
  do
    let _ ← sign "*"
    let _ ← style.parameter
    let mark ← sign "="
    complainAtToken mark "var-positional argument cannot have default value",
  do
    let _ ← sign "*"
    unit style.withoutDefault <|> unit (sign ",")
    let _ ← many (style.maybeDefault nested)
    let star ← sign "*"
    unit style.withoutDefault <|> unit (sign ",")
    complainAtToken star "* argument may appear only once"]

def fromStar : ReadM StarParameters :=
  explain (style.starComplaints nested) <|>
  (do
    let _ ← sign "*"
    let any ← style.withoutDefault
    let keywordOnly ← many (style.maybeDefault nested)
    return ⟨any.arg, keywordOnly, ← optional style.keywords⟩) <|>
  (do
    let _ ← sign "*"
    let any ← style.starParameter
    style.ended
    let keywordOnly ← many (style.maybeDefault nested)
    return ⟨any, keywordOnly, ← optional style.keywords⟩) <|>
  (do
    let _ ← sign "*"
    let _ ← sign ","
    let keywordOnly ← many1 (style.maybeDefault nested)
    return ⟨none, keywordOnly, ← optional style.keywords⟩) <|>
  (do return { anyKeyword := some (← style.keywords) })

/-! ## The list -/

def complaints : List (ReadM Unit) := [
  do
    let _ ← many style.withoutDefault
    unit (style.slashWithDefault nested) <|> unit (many1 (style.withDefault nested))
    let late ← style.withoutDefault
    complainAtNode late.arg "non-default argument follows default argument",
  style.parenthesized,
  do
    let slash ← sign "/"
    let _ ← sign ","
    complainAtToken slash "at least one argument must precede /",
  do
    let _ ← style.slash nested
    let _ ← many (style.maybeDefault nested)
    complainAtToken (← sign "/") "/ may appear only once",
  do
    let _ ← optional (style.slash nested)
    let _ ← many (style.maybeDefault nested)
    let _ ← sign "*"
    unit (sign ",") <|> unit style.withoutDefault
    let _ ← many (style.maybeDefault nested)
    complainAtToken (← sign "/") "/ must be ahead of *",
  do
    let _ ← many1 (style.maybeDefault nested)
    let _ ← sign "/"
    complainAtToken (← sign "*") "expected comma between / and *"]

def list : ReadM ParameterList :=
  let star : ReadM StarParameters := do return (← optional (style.fromStar nested)).getD {}
  explain (style.complaints nested) <|>
  (do
    let positionalOnly ← style.slashWithoutDefault
    let plain ← many style.withoutDefault
    let defaulted ← many (style.withDefault nested)
    return ⟨positionalOnly, plain ++ defaulted, ← star⟩) <|>
  (do
    let positionalOnly ← style.slashWithDefault nested
    let defaulted ← many (style.withDefault nested)
    return ⟨positionalOnly, defaulted, ← star⟩) <|>
  (do
    let plain ← many1 style.withoutDefault
    let defaulted ← many (style.withDefault nested)
    return ⟨[], plain ++ defaulted, ← star⟩) <|>
  (do
    let defaulted ← many1 (style.withDefault nested)
    return ⟨[], defaulted, ← star⟩) <|>
  (do return ⟨[], [], ← style.fromStar nested⟩)

end ParameterStyle

/-- A parameter with an annotation that a rule reads. -/
def annotated (note : ReadM Value) : ReadM Value :=
  around .arg do
    let (t, _) ← nameToken
    return [("arg", .text t), ("annotation", ← note), ("type_comment", .null)]

/-- Parameters between parentheses. -/
def defStyle (nested : Nested) : ParameterStyle :=
  let parameter := annotated (do
    let note ← optional (do
      let _ ← sign ":"
      nested.expression)
    return orNull note)
  let withoutDefault : ReadM Unit := do
    let _ ← parameter
    unit (sign ",") <|> ahead (sign ")")
  { parameter
    starParameter := annotated (do
      let _ ← sign ":"
      nested.tree .starExpression)
    closing := ")"
    parenthesized := do
      let _ ← many withoutDefault
      let opening ← sign "("
      let _ ← many1 withoutDefault
      let _ ← optional (sign ",")
      let _ ← sign ")"
      complainAtToken opening "Function parameters cannot be parenthesized"
    bareStar := fun star => complainAtToken star "named arguments must follow bare *" }

/-- Parameters before a colon. -/
def lambdaStyle : ParameterStyle :=
  let parameter := annotated (return .null)
  let withoutDefault : ReadM Unit := do
    let _ ← parameter
    unit (sign ",") <|> ahead (sign ":")
  { parameter
    starParameter := absent
    closing := ":"
    parenthesized := do
      let _ ← many withoutDefault
      let opening ← sign "("
      let _ ← separated "," parameter
      let _ ← optional (sign ",")
      let _ ← sign ")"
      complainAtToken opening "Lambda expression parameters cannot be parenthesized"
    bareStar := fun _ => complain (Text.ofString "named arguments must follow bare *") }

end LiteralScrub.Python.Reader
