import LiteralScrub.Python.Reader.Expression

/-!
# Patterns of `match` statements
-/
namespace LiteralScrub.Python.Reader

variable (nested : Nested)

/-! ## Literals -/

def signedNumber : ReadM Value :=
  number <|>
  around .unaryOp do
    let _ ← sign "-"
    return [("op", plain .uSub), ("operand", ← number)]

def isComplex (value : Value) : Bool := fieldOf value "value" matches .complex _ _

/-- A number that is not imaginary. -/
def realNumber : ReadM Value := do
  let value ← number
  if isComplex value then complainAtNode value "real number required in complex literal"
  return value

def imaginaryNumber : ReadM Value := do
  let value ← number
  unless isComplex value do complainAtNode value "imaginary number required in complex literal"
  return value

def signedRealNumber : ReadM Value :=
  realNumber <|>
  around .unaryOp do
    let _ ← sign "-"
    return [("op", plain .uSub), ("operand", ← realNumber)]

/-- A number with a real and an imaginary part. -/
def complexNumber : ReadM Value :=
  around .binOp (do
    let real ← signedRealNumber
    let _ ← sign "+"
    return [("left", real), ("op", plain .add), ("right", ← imaginaryNumber)]) <|>
  around .binOp do
    let real ← signedRealNumber
    let _ ← sign "-"
    return [("left", real), ("op", plain .sub), ("right", ← imaginaryNumber)]

/-- A literal that is compared by its value. -/
def comparedLiteral : ReadM Value :=
  (do
    let value ← signedNumber
    notAhead (sign "+" <|> sign "-")
    return value) <|>
  complexNumber <|>
  nested.tree .strings

def literalPattern : ReadM Value :=
  around .matchValue (do return [("value", ← comparedLiteral nested)]) <|>
  around .matchSingleton do return [("value", fieldOf (← constantWord) "value")]

/-- A literal as the key of a mapping. -/
def literalExpression : ReadM Value := comparedLiteral nested <|> constantWord

/-! ## Names -/

/-- A name that is bound by a pattern. -/
def captureTarget : ReadM Text := do
  notAhead (softKeyword "_")
  let (t, _) ← nameToken
  notAhead (sign "." <|> sign "(" <|> sign "=")
  return t

def capturePattern : ReadM Value :=
  around .matchAs do return [("pattern", .null), ("name", .text (← captureTarget))]

def wildcardPattern : ReadM Value :=
  around .matchAs do
    let _ ← softKeyword "_"
    return [("pattern", .null), ("name", .null)]

/-- A name with attributes, at least `least` of them. -/
def nameOrAttribute (least : Nat) : ReadM Value := do
  let first ← peek
  let head ← name
  let step (value : Value) : ReadM Value := do
    let _ ← sign "."
    let (t, _) ← nameToken
    build first .attributeExpr [("value", value), ("attr", .text t), ("ctx", plain .load)]
  let head ← if least = 0 then pure head else step head
  extend step head

def valuePattern : ReadM Value :=
  around .matchValue do
    let value ← nameOrAttribute 1
    notAhead (sign "." <|> sign "(" <|> sign "=")
    return [("value", value)]

/-! ## Sequences -/

def starPattern : ReadM Value :=
  around .matchStar (do
    let _ ← sign "*"
    return [("name", .text (← captureTarget))]) <|>
  around .matchStar do
    let _ ← sign "*"
    let _ ← wildcardPattern
    return [("name", .null)]

def maybeStarPattern : ReadM Value := nested.tree .starPattern <|> nested.tree .pattern

def maybeSequence : ReadM (List Value) := do
  let items ← separated "," (maybeStarPattern nested)
  let _ ← optional (sign ",")
  return items

/-- Patterns of which the first has a comma behind it. -/
def openSequence : ReadM (List Value) := do
  let first ← maybeStarPattern nested
  let _ ← sign ","
  return first :: ((← optional (maybeSequence nested)).getD [])

def groupPattern : ReadM Value := do
  let _ ← sign "("
  let pattern ← nested.tree .pattern
  let _ ← sign ")"
  return pattern

def sequencePattern : ReadM Value :=
  let between (opening closing : String) (items : ReadM (List Value)) : ReadM Value :=
    around .matchSequence do
      let _ ← sign opening
      let patterns ← optional items
      let _ ← sign closing
      return [("patterns", .list (patterns.getD []))]
  between "[" "]" (maybeSequence nested) <|> between "(" ")" (openSequence nested)

/-! ## Mappings -/

def keyPattern : ReadM (Value × Value) := do
  let key ← literalExpression nested <|> nameOrAttribute 1
  let _ ← sign ":"
  return (key, ← nested.tree .pattern)

/-- A name for the items that are left over. -/
def restPattern : ReadM Value := do
  let _ ← sign "**"
  return .text (← captureTarget)

def mappingPattern : ReadM Value :=
  let between (body : ReadM (List (Value × Value) × Value)) : ReadM Value :=
    around .matchMapping do
      let _ ← sign "\x7b"
      let (items, rest) ← body
      let _ ← sign "\x7d"
      return [("keys", .list (items.map Prod.fst)), ("patterns", .list (items.map Prod.snd)),
        ("rest", rest)]
  let withComma {α : Type} (rule : ReadM α) : ReadM α := do
    let a ← rule
    let _ ← optional (sign ",")
    return a
  between (return ([], .null)) <|>
  between (withComma (do return ([], ← restPattern))) <|>
  between (withComma (do
    let items ← separated "," (keyPattern nested)
    let _ ← sign ","
    return (items, ← restPattern))) <|>
  between (withComma (do return (← separated "," (keyPattern nested), .null)))

/-! ## Classes -/

def positionalPatterns : ReadM (List Value) := separated "," (nested.tree .pattern)

def keywordPatterns : ReadM (List (Text × Value)) :=
  separated "," (do
    let (t, _) ← nameToken
    let _ ← sign "="
    return (t, ← nested.tree .pattern))

def classPattern : ReadM Value :=
  let applied (arguments : ReadM (List Value × List (Text × Value))) : ReadM Value :=
    around .matchClass do
      let class' ← nameOrAttribute 0
      let _ ← sign "("
      let (patterns, keywords) ← arguments
      let _ ← sign ")"
      return [("cls", class'), ("patterns", .list patterns),
        ("kwd_attrs", .list (keywords.map fun keyword => .text keyword.1)),
        ("kwd_patterns", .list (keywords.map Prod.snd))]
  applied (return ([], [])) <|>
  applied (do
    let patterns ← positionalPatterns nested
    let _ ← optional (sign ",")
    return (patterns, [])) <|>
  applied (do
    let keywords ← keywordPatterns nested
    let _ ← optional (sign ",")
    return ([], keywords)) <|>
  applied (do
    let patterns ← positionalPatterns nested
    let _ ← sign ","
    let keywords ← keywordPatterns nested
    let _ ← optional (sign ",")
    return (patterns, keywords)) <|>
  explain [do
    let _ ← nameOrAttribute 0
    let _ ← sign "("
    let _ ← optional (do
      let _ ← positionalPatterns nested
      sign ",")
    let _ ← keywordPatterns nested
    let _ ← sign ","
    let late ← positionalPatterns nested
    complainAtNode (late.headD .null) "positional patterns follow keyword patterns"]

/-! ## Patterns -/

def closedPattern : ReadM Value :=
  literalPattern nested <|> capturePattern <|> wildcardPattern <|> valuePattern <|>
  groupPattern nested <|> sequencePattern nested <|> mappingPattern nested <|> classPattern nested

def orPattern : ReadM Value := do
  let first ← peek
  let patterns ← separated "|" (nested.tree .closedPattern)
  match patterns with
  | [pattern] => return pattern
  | _ => build first .matchOr [("patterns", .list patterns)]

def pattern : ReadM Value :=
  around .matchAs (do
    let pattern ← orPattern nested
    let _ ← keyword "as"
    return [("pattern", pattern), ("name", .text (← captureTarget))]) <|>
  explain [
    do
      let _ ← orPattern nested
      let _ ← keyword "as"
      complainAtToken (← softKeyword "_") "cannot use '_' as a target",
    do
      let _ ← orPattern nested
      let _ ← keyword "as"
      notAhead nameToken
      complainAtNode (← nested.expression) "invalid pattern target"] <|>
  orPattern nested

/-- Patterns of a case, with or without brackets around a sequence. -/
def patterns : ReadM Value :=
  around .matchSequence (do return [("patterns", .list (← openSequence nested))]) <|>
  nested.tree .pattern

end LiteralScrub.Python.Reader
