import LiteralScrub.Lua.Escape
import LiteralScrub.Lua.Token
import LiteralScrub.Number.Read
import LiteralScrub.Source.Fault

/-!
# Reading Lua

The rules read statements and expressions from the tokens of a source. They are given the reading
of what is nested in them; `read` ties the knot, no deeper than there are tokens. A source that
keeps the grammar can still hold a string or a numeral without a value: the first such fault is
reported.
-/
namespace LiteralScrub.Lua.Reader

structure State where
  tokens : List Token
  fault : Option ReadFault := none

/-- A reading that fails where the grammar is broken. -/
abbrev ReadM := StateT State Option

/-- The readings of nested blocks, and of expressions whose operators bind tighter than a limit. -/
structure Nested where
  block : ReadM Value
  expression : Nat → ReadM Value

def failure {α : Type} : ReadM α := fun _ => none

/-- The token that comes next; behind the last one there is an empty sign. -/
def peek : ReadM Token := do
  match (← get).tokens with
  | token :: _ => return token
  | [] => return ⟨.sign "", 0⟩

def advance : ReadM Unit := modify fun s => { s with tokens := s.tokens.drop 1 }

def isNext (s : String) : ReadM Bool := return (← peek).lexeme == .sign s

/-- Takes a sign if it comes next. -/
def accept (s : String) : ReadM Bool := do
  if ← isNext s then
    advance
    return true
  else return false

def expect (s : String) : ReadM Unit := do
  unless ← accept s do failure

def name : ReadM Text := do
  match (← peek).lexeme with
  | .name t =>
    advance
    return t
  | _ => failure

/-- Notes a value that cannot be had; the first one counts. -/
def note (fault : ReadFault) : ReadM Unit :=
  modify fun s => { s with fault := s.fault.or (some fault) }

/-- A node with its line. -/
def node (kind : Kind) (line : Nat) (attrs : Attrs) : Value :=
  .lua kind (attrs ++ [("line", .int line)])

/-- A name that is no expression of its own. -/
def nameNode (t : Text) : Value := .lua .nameExpr [("id", .text t), ("attribute", .null)]

def namedAt (line : Nat) (t : Text) : Value :=
  node .nameExpr line [("id", .text t), ("attribute", .null)]

/-- Repeats a reading as long as it finds something; `bound` is more than the tokens left. -/
def many {α : Type} (item : ReadM (Option α)) : Nat → ReadM (List α)
  | 0 => failure
  | bound + 1 => do
    match ← item with
    | some a => return a :: (← many item bound)
    | none => return []

def manyHere {α : Type} (item : ReadM (Option α)) : ReadM (List α) := do
  many item ((← get).tokens.length + 1)

/-- One or more items with commas between them. -/
def commaSeparated {α : Type} (item : ReadM α) : ReadM (List α) := do
  let first ← item
  let rest ← manyHere do
    if ← accept "," then return some (← item) else return none
  return first :: rest

def expressions (nested : Nested) : ReadM Value :=
  return .list (← commaSeparated (nested.expression 0))

/-! ## Literals -/

/-- The number that a numeral stands for. A whole number that begins with a zero is read as one
with a fraction. -/
def numberOf? (t : Text) : Option Value :=
  match t with
  | 0x30 :: x :: rest =>
    if x == 0x78 || x == 0x58 then
      if rest.all isHexDigit then some (.int (Text.toNatBase 16 rest)) else none
    else if t.all (· == 0x30) then some (.int 0)
    else (Double.read? t).map .float
  | _ =>
    if t.all isAsciiDigit then some (.int (Text.toNatBase 10 t))
    else (Double.read? t).map .float

def number (t : Text) (line : Nat) : ReadM Value := do
  match numberOf? t with
  | some n => return node .number line [("n", n)]
  | none =>
    note (.badNumber t)
    return node .number line [("n", .null)]

/-- The attributes of a string. -/
def stringAttrs (delimiter : Symbol) (raw : Text) : ReadM Attrs := do
  let text := if delimiter = .doubleSquare then raw else unescape raw
  let bytes ← match Utf8.encode? text with
    | some bytes => pure bytes
    | none =>
      note (.surrogates text)
      pure []
  return [("s", .bytes bytes), ("raw", .text raw), ("delimiter", .symbol delimiter)]

/-! ## Functions and tables -/

/-- The name of a parameter, or dots for any number of arguments. -/
def parameter : ReadM Value := do
  let token ← peek
  if token.lexeme = .sign "..." then
    advance
    return node .varargs token.line []
  else return nameNode (← name)

/-- Dots may only stand last. -/
def dotsOnlyLast : List Value → Bool
  | [] | [_] => true
  | .node (.lua .varargs) _ :: _ => false
  | _ :: rest => dotsOnlyLast rest

/-- The parameters and the body of a function. -/
def functionRest (nested : Nested) : ReadM (Value × Value) := do
  expect "("
  let args ← if ← isNext ")" then pure [] else commaSeparated parameter
  unless dotsOnlyLast args do failure
  expect ")"
  let body ← nested.block
  expect "end"
  return (.list args, body)

def fieldNode (line : Nat) (key value : Value) (brackets : Bool) : Value :=
  node .field line [("key", key), ("value", value), ("between_brackets", .bool brackets)]

/-- Whether a name with an equals sign behind it comes next. -/
def isNamedField : ReadM Bool := do
  match (← get).tokens with
  | ⟨.name _, _⟩ :: ⟨.sign "=", _⟩ :: _ => return true
  | _ => return false

def field (nested : Nested) : ReadM Value := do
  let line := (← peek).line
  if ← accept "[" then
    let key ← nested.expression 0
    expect "]"
    expect "="
    return fieldNode line key (← nested.expression 0) true
  else if ← isNamedField then
    let key := nameNode (← name)
    expect "="
    return fieldNode line key (← nested.expression 0) false
  else return fieldNode line .null (← nested.expression 0) false

/-- Takes a comma or a semicolon, if one of them comes next. -/
def acceptSeparator : ReadM Bool := do
  if ← accept "," then return true
  accept ";"

/-- A table from its opening brace on. Fields are divided by commas or semicolons, and one of
these may follow the last field. -/
def table (nested : Nested) : ReadM Value := do
  let line := (← peek).line
  expect "\x7b"
  let fields ← manyHere do
    if ← isNext "\x7d" then return none
    let item ← field nested
    unless ← acceptSeparator do
      unless ← isNext "\x7d" do failure
    return some item
  expect "\x7d"
  return node .table line [("fields", .list fields)]

/-! ## Expressions -/

/-- The arguments of a call, and whether they stand in parentheses. -/
def arguments? (nested : Nested) : ReadM (Option (Value × Symbol)) := do
  let token ← peek
  match token.lexeme with
  | .string delimiter raw =>
    advance
    let argument := Value.lua .string (← stringAttrs delimiter raw)
    return some (.list [argument], .noParenthesis)
  | .sign "\x7b" => return some (.list [← table nested], .noParenthesis)
  | .sign "(" =>
    advance
    let args ← if ← isNext ")" then pure (Value.list []) else expressions nested
    expect ")"
    return some (args, .default)
  | _ => return none

/-- What an expression that can be called or indexed is. -/
inductive Form where
  /-- A name or an indexed expression: it can be assigned to. -/
  | place
  | call
  | other
  deriving DecidableEq

def indexNode (line : Nat) (idx value : Value) (way : Symbol) : Value :=
  node .index line [("idx", idx), ("value", value), ("notation", .symbol way)]

/-- One index or call behind an expression. -/
def suffix? (nested : Nested) (line : Nat) (head : Value) : ReadM (Option (Value × Form)) := do
  if ← accept "." then
    return some (indexNode line (nameNode (← name)) head .dot, .place)
  else if ← accept "[" then
    let idx ← nested.expression 0
    expect "]"
    return some (indexNode line idx head .square, .place)
  else if ← accept ":" then
    let method := nameNode (← name)
    match ← arguments? nested with
    | some (args, style) =>
      return some (node .invoke line
        [("source", head), ("func", method), ("args", args), ("style", .symbol style)], .call)
    | none => failure
  else
    match ← arguments? nested with
    | some (args, style) =>
      return some
        (node .call line [("func", head), ("args", args), ("style", .symbol style)], .call)
    | none => return none

def suffixes (nested : Nested) (line : Nat) : Nat → Value × Form → ReadM (Value × Form)
  | 0, _ => failure
  | bound + 1, (head, form) => do
    match ← suffix? nested line head with
    | some longer => suffixes nested line bound longer
    | none => return (head, form)

/-- A name or an expression in parentheses, with all that is called on it. A name alone gets a
line only where it is an expression. -/
def prefixed (nested : Nested) : ReadM (Value × Form) := do
  let token ← peek
  let head ← match token.lexeme with
    | .name t =>
      advance
      pure (nameNode t, Form.place)
    | .sign "(" =>
      advance
      let inner ← nested.expression 0
      expect ")"
      match inner with
      | .node kind attrs => pure (Value.node kind (attrs ++ [("wrapped", .bool true)]), Form.other)
      | _ => failure
    | _ => failure
  suffixes nested token.line ((← get).tokens.length + 1) head

/-- How tightly a binary operator binds on its left and on its right. -/
def binary? : String → Option (Kind × Nat × Nat)
  | "or" => some (.orOp, 1, 1)
  | "and" => some (.andOp, 2, 2)
  | "<" => some (.lessThanOp, 3, 3)
  | ">" => some (.greaterThanOp, 3, 3)
  | "<=" => some (.lessOrEqThanOp, 3, 3)
  | ">=" => some (.greaterOrEqThanOp, 3, 3)
  | "~=" => some (.notEqToOp, 3, 3)
  | "==" => some (.eqToOp, 3, 3)
  | "|" => some (.bitOrOp, 4, 4)
  | "~" => some (.bitXorOp, 5, 5)
  | "&" => some (.bitAndOp, 6, 6)
  | "<<" => some (.shiftLeftOp, 7, 7)
  | ">>" => some (.shiftRightOp, 7, 7)
  | ".." => some (.concat, 9, 8)
  | "+" => some (.addOp, 10, 10)
  | "-" => some (.subOp, 10, 10)
  | "*" => some (.multOp, 11, 11)
  | "/" => some (.floatDivOp, 11, 11)
  | "//" => some (.floorDivOp, 11, 11)
  | "%" => some (.modOp, 11, 11)
  | "^" => some (.expoOp, 14, 13)
  | _ => none

def unary? : String → Option Kind
  | "not" => some .notOp
  | "#" => some .lengthOp
  | "-" => some .minusOp
  | "~" => some .bitNotOp
  | _ => none

/-- How tightly a unary operator binds. -/
def unaryBinding : Nat := 12

/-- An expression that begins with a sign. -/
def signed (nested : Nested) (line : Nat) (sign : String) : ReadM Value := do
  match sign, unary? sign with
  | "nil", _ => advance; return node .nil line []
  | "true", _ => advance; return node .trueExpr line []
  | "false", _ => advance; return node .falseExpr line []
  | "...", _ => advance; return node .dots line []
  | "function", _ =>
    advance
    let (args, body) ← functionRest nested
    return node .anonymousFunction line [("args", args), ("body", body)]
  | "\x7b", _ => table nested
  | _, some kind =>
    advance
    return node kind line [("operand", ← nested.expression unaryBinding)]
  | _, none => return (← prefixed nested).1

/-- An expression up to its first binary operator. -/
def operand (nested : Nested) : ReadM Value := do
  let token ← peek
  match token.lexeme with
  | .number t =>
    advance
    number t token.line
  | .string delimiter raw =>
    advance
    return node .string token.line (← stringAttrs delimiter raw)
  | .name _ =>
    match (← prefixed nested).1 with
    | .node (.lua .nameExpr) attrs => return .lua .nameExpr (Attrs.set "line" (.int token.line) attrs)
    | value => return value
  | .sign s => signed nested token.line s

/-- The binary operators behind an operand that bind tighter than the limit. -/
def operators (nested : Nested) (limit line : Nat) : Nat → Value → ReadM Value
  | 0, _ => failure
  | bound + 1, left => do
    match (← peek).lexeme with
    | .sign s =>
      match binary? s with
      | some (kind, leftBinding, rightBinding) =>
        if leftBinding > limit then
          advance
          let right ← nested.expression rightBinding
          operators nested limit line bound (node kind line [("left", left), ("right", right)])
        else return left
      | none => return left
    | _ => return left

def expression (nested : Nested) (limit : Nat) : ReadM Value := do
  let line := (← peek).line
  let left ← operand nested
  operators nested limit line ((← get).tokens.length + 1) left

/-! ## Statements -/

/-- The branches behind the first one of a condition, up to its end. -/
def elseBranches (nested : Nested) : Nat → ReadM Value
  | 0 => failure
  | bound + 1 => do
    let line := (← peek).line
    if ← accept "elseif" then
      let test ← nested.expression 0
      expect "then"
      let body ← nested.block
      let rest ← elseBranches nested bound
      return node .elseIf line [("test", test), ("body", body), ("orelse", rest)]
    else if ← accept "else" then
      let body ← nested.block
      expect "end"
      return body
    else
      expect "end"
      return .null

def ifStatement (nested : Nested) (line : Nat) : ReadM Value := do
  let test ← nested.expression 0
  expect "then"
  let body ← nested.block
  let rest ← elseBranches nested ((← get).tokens.length + 1)
  return node .ifStmt line [("test", test), ("body", body), ("orelse", rest)]

def whileStatement (nested : Nested) (line : Nat) : ReadM Value := do
  let test ← nested.expression 0
  expect "do"
  let body ← nested.block
  expect "end"
  return node .whileStmt line [("test", test), ("body", body)]

def repeatStatement (nested : Nested) (line : Nat) : ReadM Value := do
  let body ← nested.block
  expect "until"
  return node .repeatStmt line [("body", body), ("test", ← nested.expression 0)]

/-- A loop that counts; without a step it counts by one. -/
def countingLoop (nested : Nested) (line : Nat) (target : Value) : ReadM Value := do
  let start ← nested.expression 0
  expect ","
  let stop ← nested.expression 0
  let step ← if ← accept "," then nested.expression 0 else pure (.int 1)
  expect "do"
  let body ← nested.block
  expect "end"
  return node .fornum line
    [("target", target), ("start", start), ("stop", stop), ("step", step), ("body", body)]

def forStatement (nested : Nested) (line : Nat) : ReadM Value := do
  let names ← commaSeparated name
  let targets := names.map nameNode
  match targets, ← accept "=" with
  | [target], true => countingLoop nested line target
  | _, true => failure
  | _, false =>
    expect "in"
    let iter ← expressions nested
    expect "do"
    let body ← nested.block
    expect "end"
    return node .forin line [("body", body), ("iter", iter), ("targets", .list targets)]

/-- The function that a statement defines: a path of names, and a method behind a colon. -/
def functionStatement (nested : Nested) (line : Nat) : ReadM Value := do
  let first ← name
  let rest ← manyHere do
    if ← accept "." then return some (← name) else return none
  let path := rest.foldl (fun value part => indexNode line (nameNode part) value .dot)
    (namedAt line first)
  if ← accept ":" then
    let method := nameNode (← name)
    let (args, body) ← functionRest nested
    return node .method line
      [("source", path), ("name", method), ("args", args), ("body", body)]
  else
    let (args, body) ← functionRest nested
    return node .function line [("name", path), ("args", args), ("body", body)]

/-- A local name with its attribute. -/
def localName : ReadM Value := do
  let t ← name
  if ← accept "<" then
    let mark := Value.lua .attributeExpr [("name", .text (← name))]
    expect ">"
    return .lua .nameExpr [("id", .text t), ("attribute", mark)]
  else return nameNode t

def localStatement (nested : Nested) (line : Nat) : ReadM Value := do
  if ← accept "function" then
    let function := nameNode (← name)
    let (args, body) ← functionRest nested
    return node .localFunction line [("name", function), ("args", args), ("body", body)]
  else
    let targets ← commaSeparated localName
    let values ← if ← accept "=" then expressions nested else pure (.list [])
    return node .localAssign line [("targets", .list targets), ("values", values)]

/-- An assignment or a call. -/
def expressionStatement (nested : Nested) (line : Nat) : ReadM Value := do
  let (first, form) ← prefixed nested
  if form = .call && !(← isNext "=") && !(← isNext ",") then return first
  else
    let target (found : Value × Form) : ReadM Value :=
      if found.2 = .place then return found.1 else failure
    let head ← target (first, form)
    let rest ← manyHere do
      if ← accept "," then return some (← target (← prefixed nested)) else return none
    expect "="
    return node .assign line [("targets", .list (head :: rest)), ("values", ← expressions nested)]

/-- The statement that a word or sign begins. -/
def signedStatement (nested : Nested) (line : Nat) (sign : String) : ReadM Value := do
  match sign with
  | ";" => advance; return .lua .semiColon []
  | "break" => advance; return node .breakStmt line []
  | "goto" =>
    advance
    return node .gotoStmt line [("label", nameNode (← name))]
  | "::" =>
    advance
    let label := nameNode (← name)
    expect "::"
    return node .label line [("id", label)]
  | "do" =>
    advance
    let body ← nested.block
    expect "end"
    return node .doStmt line [("body", body)]
  | "while" => advance; whileStatement nested line
  | "repeat" => advance; repeatStatement nested line
  | "if" => advance; ifStatement nested line
  | "for" => advance; forStatement nested line
  | "function" => advance; functionStatement nested line
  | "local" => advance; localStatement nested line
  | _ => expressionStatement nested line

/-- The words that end a block. -/
def blockEnds : List String := ["", "end", "else", "elseif", "until"]

/-- A return, which ends its block. -/
def returnStatement (nested : Nested) (line : Nat) : ReadM Value := do
  let isEnd ← match (← peek).lexeme with
    | .sign s => pure (s ∈ ";" :: blockEnds : Bool)
    | _ => pure false
  let values ← if isEnd then pure (Value.list []) else expressions nested
  let _ ← accept ";"
  return node .returnStmt line [("values", values)]

/-- The statements of a block; nothing may follow a return. -/
def statements (nested : Nested) : Nat → ReadM (List Value)
  | 0 => failure
  | bound + 1 => do
    let token ← peek
    match token.lexeme with
    | .sign "return" =>
      advance
      return [← returnStatement nested token.line]
    | .sign s =>
      if s ∈ blockEnds then return []
      else
        let first ← signedStatement nested token.line s
        return first :: (← statements nested bound)
    | _ =>
      let first ← expressionStatement nested token.line
      return first :: (← statements nested bound)

def block (nested : Nested) : ReadM Value := do
  let line := (← peek).line
  let body ← statements nested ((← get).tokens.length + 1)
  return node .block line [("body", .list body)]

/-- The readings to a depth of nesting. -/
def nested : Nat → Nested
  | 0 => ⟨failure, fun _ => failure⟩
  | depth + 1 =>
    ⟨fun state => block (nested depth) state,
      fun limit state => expression (nested depth) limit state⟩

def chunk (depth : Nat) : ReadM Value := do
  let line := (← peek).line
  let body ← block (nested depth)
  expect ""
  return node .chunk line [("body", body)]

end Reader

/-- The message for a source that breaks the grammar. -/
def grammarFault : ReadFault := .syntaxError none (Text.ofString "syntax errors")

/-- The tree of a source. -/
def read (source : Text) : Except ReadFault Value :=
  match Token.list? source with
  | none => .error grammarFault
  | some tokens =>
    let last : Token := ⟨.sign "", 1 + source.count 0x0A⟩
    match (Reader.chunk (tokens.length + 1)).run ⟨tokens ++ [last], none⟩ with
    | none => .error grammarFault
    | some (tree, state) =>
      match state.fault with
      | some fault => .error fault
      | none => .ok tree

end LiteralScrub.Lua
