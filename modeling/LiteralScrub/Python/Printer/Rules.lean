import LiteralScrub.Python.Place
import LiteralScrub.Python.Printer.Strings

/-!
# How each kind of node is printed

The rules print one node; they are given the printing of what is below it. `print` ties the knot
and gives up on trees that are nested too deep.
-/
namespace LiteralScrub.Python.Printer

/-- Prints a node in a context of some precedence. -/
abbrev Print := Precedence → Value → PrintM Unit

/-- Prints a node, or the nodes of a list one after the other. -/
def traverse (go : Print) (p : Precedence) : Value → PrintM Unit
  | .list items => items.forM (go p)
  | value => go p value

def commaSeparated (go : Print) (items : List Value) : PrintM Unit :=
  interleave ", " (go Precedence.test) items

/-- Items with commas; one alone has a comma behind it. -/
def itemsView (go : Print) : List Value → PrintM Unit
  | [item] => do
    go Precedence.test item
    write ","
  | items => commaSeparated go items

def parens (context own : Precedence) (x : PrintM Unit) : PrintM Unit :=
  delimitIf "(" ")" (context > own) x

/-- The constant that documents a body. -/
def docstring? (body : List Value) : Option Attrs :=
  match body with
  | .node (.python .exprStmt) attrs :: _ =>
    match Attrs.get? attrs "value" with
    | some (.node (.python .constant) constant) =>
      match Attrs.get? constant "value" with
      | some (.text _) => some constant
      | _ => none
    | _ => none
  | _ => none

def isUnicodeKind (attrs : Attrs) : Bool :=
  match attrs.get? "kind" with
  | some (.text t) => t = Text.ofString "u"
  | _ => false

def writeDocstring (attrs : Attrs) : PrintM Unit := do
  fill ""
  if isUnicodeKind attrs then write "u"
  match attrs.get? "value" with
  | some (.text t) => writeLiteral t multiQuotes
  | _ => return ()

/-- Prints a body that may begin with its documentation. -/
def documentedBody (go : Print) (body : Value) : PrintM Unit := do
  let items ← itemsOf body
  match docstring? items with
  | some constant =>
    writeDocstring constant
    (items.drop 1).forM (go Precedence.test)
  | none => traverse go Precedence.test body

/-- The remark on the type behind a statement. -/
def typeComment (kind : Kind) (attrs : Attrs) : PrintM (Option Text) := do
  let line ← attr kind attrs "lineno"
  let sameLine (entry : Value × Text) : Bool :=
    match entry.1, line with
    | .int a, .int b => a == b
    | _, _ => false
  let remark (t : Text) : Text := Text.ofString " # type: " ++ t
  match (← readThe Context).typeIgnores.reverse.find? sameLine with
  | some (_, t) => return some (remark t)
  | none =>
    match ← attr kind attrs "type_comment" with
    | .null => return none
    | value => return some (remark value.plain)

def binaryOperator? : Kind → Option (String × Precedence)
  | .add => some ("+", Precedence.arith)
  | .sub => some ("-", Precedence.arith)
  | .mult => some ("*", Precedence.term)
  | .matMult => some ("@", Precedence.term)
  | .div => some ("/", Precedence.term)
  | .mod => some ("%", Precedence.term)
  | .lShift => some ("<<", Precedence.shift)
  | .rShift => some (">>", Precedence.shift)
  | .bitOr => some ("|", Precedence.expr)
  | .bitXor => some ("^", Precedence.bitXor)
  | .bitAnd => some ("&", Precedence.bitAnd)
  | .floorDiv => some ("//", Precedence.term)
  | .pow => some ("**", Precedence.power)
  | _ => none

def unaryOperator? : Kind → Option (String × Precedence)
  | .invert => some ("~", Precedence.factor)
  | .not => some ("not ", Precedence.not)
  | .uAdd => some ("+", Precedence.factor)
  | .uSub => some ("-", Precedence.factor)
  | _ => none

def comparison? : Kind → Option (String × Precedence)
  | .eq => some ("==", Precedence.cmp)
  | .notEq => some ("!=", Precedence.cmp)
  | .lt => some ("<", Precedence.cmp)
  | .ltE => some ("<=", Precedence.cmp)
  | .gt => some (">", Precedence.cmp)
  | .gtE => some (">=", Precedence.cmp)
  | .is => some ("is", Precedence.cmp)
  | .isNot => some ("is not", Precedence.cmp)
  | .isIn => some ("in", Precedence.cmp)
  | .notIn => some ("not in", Precedence.cmp)
  | _ => none

def boolOperator? : Kind → Option (String × Precedence)
  | .and => some ("and", Precedence.and)
  | .or => some ("or", Precedence.or)
  | _ => none

/-- Looks an operator up. -/
def operator (table : Kind → Option (String × Precedence)) (value : Value) :
    PrintM (String × Precedence) := do
  match value with
  | .node (.python kind) _ =>
    match table kind with
    | some found => return found
    | none => throw (.unknownOperator kind.name)
  | _ => throw (.unknownOperator value.typeName)

/-- Prints the text inside an interpolated string: pieces with doubled braces, and values. -/
def fstringInner (formatted : Attrs → PrintM Unit) : Nat → Value → PrintM Unit
  | 0, _ => throw .tooDeep
  | fuel + 1, .node (.python .joinedStr) attrs => do
    (← attrItems .joinedStr attrs "values").forM (fstringInner formatted fuel)
  | _ + 1, .node (.python .constant) attrs =>
    match Attrs.get? attrs "value" with
    | some (.text t) =>
      writeText (t.flatMap fun c => if c == 0x7B || c == 0x7D then [c, c] else [c])
    | some _ => throw (.unprintable "Unexpected node inside JoinedStr, <ast.Constant object>")
    | none => throw (.problem (.noAttribute "Constant" "value"))
  | _ + 1, .node (.python .formattedValue) attrs => formatted attrs
  | _ + 1, value => throw (.unprintable s!"Unexpected node inside JoinedStr, <ast.{value.typeName} object>")

/-- The letter of a conversion. -/
def writeConversion : Value → PrintM Unit
  | .int (-1) => return ()
  | .int n =>
    if 0 ≤ n && n ≤ 0x10FFFF then writeText [0x21, n.toNat]
    else throw (.unprintable "chr() arg not in range(0x110000)")
  | value => throw (.problem (.noAttribute value.typeName "__index__"))

/-- How deep format specifications may be nested. -/
def maxSpecDepth : Nat := 100

/-- Prints an interpolated value in its braces. No backslash may stand in it. -/
def formattedValue (go : Print) : Nat → Attrs → PrintM Unit
  | 0, _ => throw .tooDeep
  | fuel + 1, attrs => do
    write "\x7b"
    let value ← attr .formattedValue attrs "value"
    let inner ← buffered (withReader (fun _ => { avoidBackslashes := true })
      (traverse go (Precedence.next Precedence.test) value))
    let text := inner.text
    if 0x5C ∈ text then
      throw (.unprintable "Unable to avoid backslash in f-string expression part")
    if text.head? = some 0x7B then write " "
    writeText text
    writeConversion (← attr .formattedValue attrs "conversion")
    let spec ← attr .formattedValue attrs "format_spec"
    if isPresent spec then
      write ":"
      fstringInner (formattedValue go fuel) maxSpecDepth spec
    write "\x7d"

def isConstantNode : Value → Bool
  | .node (.python .constant) _ => true
  | _ => false

def joinedStr (go : Print) (attrs : Attrs) : PrintM Unit := do
  write "f"
  let inner := fstringInner (formattedValue go maxSpecDepth) maxSpecDepth
  if (← readThe Context).avoidBackslashes then
    let out ← buffered (inner (.python .joinedStr attrs))
    writeLiteral out.text allQuotes
  else
    let values ← attrItems .joinedStr attrs "values"
    let parts ← values.mapM fun value => do
      let out ← buffered (inner value)
      return (out.text, isConstantNode value)
    writeParts parts

/-- The decorators, then the head of a definition on a line of its own. -/
def decorated (go : Print) (kind : Kind) (attrs : Attrs) (head : String) : PrintM Unit := do
  maybeNewline
  (← attrItems kind attrs "decorator_list").forM fun decorator => do
    fill "@"
    go Precedence.test decorator
  fill head
  writeName (← attr kind attrs "name")

def functionDef (go : Print) (kind : Kind) (attrs : Attrs) (head : String) : PrintM Unit := do
  decorated go kind attrs head
  delimit "(" ")" (do traverse go Precedence.test (← attr kind attrs "args"))
  let returns ← attr kind attrs "returns"
  if isPresent returns then
    write " -> "
    traverse go Precedence.test returns
  block (← typeComment kind attrs) (do documentedBody go (← attr kind attrs "body"))

def classDef (go : Print) (attrs : Attrs) : PrintM Unit := do
  decorated go .classDef attrs "class "
  let arguments := (← attrItems .classDef attrs "bases") ++ (← attrItems .classDef attrs "keywords")
  delimitIf "(" ")" (!arguments.isEmpty) (commaSeparated go arguments)
  block none (do documentedBody go (← attr .classDef attrs "body"))

/-- A block behind a word, if it holds anything. -/
def optionalBlock (go : Print) (word : String) (body : Value) : PrintM Unit := do
  if isPresent body then
    fill word
    block none (traverse go Precedence.test body)

def forLoop (go : Print) (kind : Kind) (attrs : Attrs) (head : String) : PrintM Unit := do
  fill head
  traverse go Precedence.tuple (← attr kind attrs "target")
  write " in "
  traverse go Precedence.test (← attr kind attrs "iter")
  block (← typeComment kind attrs) (do traverse go Precedence.test (← attr kind attrs "body"))
  optionalBlock go "else" (← attr kind attrs "orelse")

def withBlock (go : Print) (kind : Kind) (attrs : Attrs) (head : String) : PrintM Unit := do
  fill head
  commaSeparated go (← attrItems kind attrs "items")
  block (← typeComment kind attrs) (do traverse go Precedence.test (← attr kind attrs "body"))

/-- How many alternatives one conditional statement may have. -/
def maxElifs : Nat := 1000000

/-- The condition and block of a conditional, the alternatives that are conditionals alone, and
the last alternative. -/
def ifStmt (go : Print) : Nat → String → Attrs → PrintM Unit
  | 0, _, _ => throw .tooDeep
  | fuel + 1, word, attrs => do
    fill word
    traverse go Precedence.test (← attr .ifStmt attrs "test")
    block none (do traverse go Precedence.test (← attr .ifStmt attrs "body"))
    match ← attr .ifStmt attrs "orelse" with
    | .list [.node (.python .ifStmt) inner] => ifStmt go fuel "elif " inner
    | orelse => optionalBlock go "else" orelse

def tryStmt (go : Print) (kind : Kind) (attrs : Attrs) : PrintM Unit := do
  withReader (fun c => { c with inTryStar := kind = .tryStar }) do
    fill "try"
    block none (do traverse go Precedence.test (← attr kind attrs "body"))
    (← attrItems kind attrs "handlers").forM (go Precedence.test)
    optionalBlock go "else" (← attr kind attrs "orelse")
    optionalBlock go "finally" (← attr kind attrs "finalbody")

def exceptHandler (go : Print) (attrs : Attrs) : PrintM Unit := do
  fill (if (← readThe Context).inTryStar then "except*" else "except")
  let type ← attr .exceptHandler attrs "type"
  if isPresent type then
    write " "
    traverse go Precedence.test type
  let name ← attr .exceptHandler attrs "name"
  if isPresent name then
    write " as "
    writeName name
  block none (do traverse go Precedence.test (← attr .exceptHandler attrs "body"))

/-- A word and an optional expression behind it. -/
def wordAndValue (go : Print) (word : String) (p : Precedence) (value : Value) : PrintM Unit := do
  write word
  if isPresent value then
    write " "
    traverse go p value

/-- A default value behind an equals sign. -/
def defaultValue (go : Print) (value : Value) : PrintM Unit := do
  if isPresent value then
    write "="
    traverse go Precedence.test value

/-- The name and the annotation of a parameter that takes all others. -/
def restParameter (go : Print) (value : Value) : PrintM Unit := do
  match value with
  | .node (.python kind) attrs =>
    writeName (← attr kind attrs "arg")
    let annotation ← attr kind attrs "annotation"
    if isPresent annotation then
      write ": "
      traverse go Precedence.test annotation
  | _ => throw (.problem (.noAttribute value.typeName "arg"))

/-- The parameters of a function. -/
def arguments (go : Print) (attrs : Attrs) : PrintM Unit := do
  let positionalOnly ← attrItems .arguments attrs "posonlyargs"
  let positional := positionalOnly ++ (← attrItems .arguments attrs "args")
  let defaults ← attrItems .arguments attrs "defaults"
  let defaults := List.replicate (positional.length - defaults.length) Value.null ++ defaults
  let rest ← attr .arguments attrs "vararg"
  let keywordOnly ← attrItems .arguments attrs "kwonlyargs"
  let keywordDefaults ← attrItems .arguments attrs "kw_defaults"
  let restKeywords ← attr .arguments attrs "kwarg"
  let mut pieces : Array (PrintM Unit) := #[]
  for ((parameter, value), index) in (positional.zip defaults).zipIdx 1 do
    pieces := pieces.push (do
      traverse go Precedence.test parameter
      defaultValue go value
      if index = positionalOnly.length then write ", /")
  if isPresent rest || !keywordOnly.isEmpty then
    pieces := pieces.push (do
      write "*"
      if isPresent rest then restParameter go rest)
  for (parameter, value) in keywordOnly.zip keywordDefaults do
    pieces := pieces.push (do
      traverse go Precedence.test parameter
      defaultValue go value)
  if isPresent restKeywords then
    pieces := pieces.push (do
      write "**"
      restParameter go restKeywords)
  interleave ", " id pieces.toList

def lambda (go : Print) (context : Precedence) (attrs : Attrs) : PrintM Unit := do
  parens context Precedence.test do
    write "lambda"
    let parameters ← attr .lambda attrs "args"
    let out ← buffered (traverse go Precedence.test parameters)
    if out.started then
      write " "
      writeText out.text
    write ": "
    traverse go Precedence.test (← attr .lambda attrs "body")

def comprehension (go : Print) (attrs : Attrs) : PrintM Unit := do
  write (if isPresent (← attr .comprehension attrs "is_async") then " async for " else " for ")
  traverse go Precedence.tuple (← attr .comprehension attrs "target")
  write " in "
  let inner := Precedence.next Precedence.test
  let conditions ← attrItems .comprehension attrs "ifs"
  traverse go inner (← attr .comprehension attrs "iter")
  conditions.forM fun condition => do
    write " if "
    traverse go inner condition

/-- An element with the loops that produce it. -/
def generated (go : Print) (kind : Kind) (attrs : Attrs) (first last : String)
    (element : PrintM Unit) : PrintM Unit :=
  delimit first last do
    element
    (← attrItems kind attrs "generators").forM (go Precedence.test)

/-- The operands of a chain; each binds tighter than the one before. -/
def boolOperands (go : Print) (separator : String) : Precedence → List Value → PrintM Unit
  | _, [] => return ()
  | p, [value] => traverse go (Precedence.next p) value
  | p, value :: rest => do
    traverse go (Precedence.next p) value
    write separator
    boolOperands go separator (Precedence.next p) rest

def binOp (go : Print) (context : Precedence) (attrs : Attrs) : PrintM Unit := do
  let (symbol, own) ← operator binaryOperator? (← attr .binOp attrs "op")
  parens context own do
    let (left, right) :=
      if symbol = "**" then (Precedence.next own, own) else (own, Precedence.next own)
    traverse go left (← attr .binOp attrs "left")
    write s!" {symbol} "
    traverse go right (← attr .binOp attrs "right")

def compare (go : Print) (context : Precedence) (attrs : Attrs) : PrintM Unit := do
  parens context Precedence.cmp do
    let inner := Precedence.next Precedence.cmp
    let left ← attr .compare attrs "left"
    let comparators ← attrItems .compare attrs "comparators"
    traverse go inner left
    let operators ← attrItems .compare attrs "ops"
    (operators.zip comparators).forM fun (op, value) => do
      let (symbol, _) ← operator comparison? op
      write s!" {symbol} "
      traverse go inner value

/-- Whether a value is an integer literal, behind which a point needs a blank. -/
def isIntegerConstant : Value → Bool
  | .node (.python .constant) attrs =>
    match Attrs.get? attrs "value" with
    | some (.int _) | some (.bool _) => true
    | _ => false
  | _ => false

def call (go : Print) (attrs : Attrs) : PrintM Unit := do
  traverse go Precedence.atom (← attr .call attrs "func")
  delimit "(" ")" do
    let arguments ← attrItems .call attrs "args"
    let keywords ← attrItems .call attrs "keywords"
    commaSeparated go (arguments ++ keywords)

/-- The items of a tuple that is not empty. -/
def tupleItems? : Value → Option (List Value)
  | .node (.python .tuple) attrs =>
    match Attrs.get? attrs "elts" with
    | some (.list (item :: rest)) => some (item :: rest)
    | _ => none
  | _ => none

def subscript (go : Print) (attrs : Attrs) : PrintM Unit := do
  traverse go Precedence.atom (← attr .subscript attrs "value")
  delimit "[" "]" do
    let slice ← attr .subscript attrs "slice"
    match tupleItems? slice with
    | some items => itemsView go items
    | none => traverse go Precedence.test slice

def dict (go : Print) (attrs : Attrs) : PrintM Unit := do
  delimit "\x7b" "\x7d" do
    let keys ← attrItems .dict attrs "keys"
    let values ← attrItems .dict attrs "values"
    interleave ", " (fun (key, value) => do
      match key with
      | .null =>
        write "**"
        traverse go Precedence.expr value
      | _ =>
        traverse go Precedence.test key
        write ": "
        traverse go Precedence.test value) (keys.zip values)

/-- Pairs of two lists that have to be of one length. -/
def strictZip (a b : List Value) : PrintM (List (Value × Value)) := do
  if a.length < b.length then throw (.unprintable "zip() argument 2 is longer than argument 1")
  if b.length < a.length then throw (.unprintable "zip() argument 2 is shorter than argument 1")
  return a.zip b

def matchMapping (go : Print) (attrs : Attrs) : PrintM Unit := do
  delimit "\x7b" "\x7d" do
    let keys ← attrItems .matchMapping attrs "keys"
    let pairs ← strictZip keys (← attrItems .matchMapping attrs "patterns")
    interleave ", " (fun (key, pattern) => do
      traverse go Precedence.test key
      write ": "
      traverse go Precedence.test pattern) pairs
    match ← attr .matchMapping attrs "rest" with
    | .null => return ()
    | rest =>
      if !keys.isEmpty then write ", "
      write "**"
      writeText rest.plain

def matchClass (go : Print) (attrs : Attrs) : PrintM Unit := do
  traverse go Precedence.atom (← attr .matchClass attrs "cls")
  delimit "(" ")" do
    let patterns ← attrItems .matchClass attrs "patterns"
    commaSeparated go patterns
    let names ← attrItems .matchClass attrs "kwd_attrs"
    if !names.isEmpty then
      if !patterns.isEmpty then write ", "
      let pairs ← strictZip names (← attrItems .matchClass attrs "kwd_patterns")
      interleave ", " (fun (name, pattern) => do
        writeText name.plain
        write "="
        traverse go Precedence.test pattern) pairs

def matchAs (go : Print) (context : Precedence) (attrs : Attrs) : PrintM Unit := do
  let name ← attr .matchAs attrs "name"
  let pattern ← attr .matchAs attrs "pattern"
  match name, pattern with
  | .null, _ => write "_"
  | _, .null => writeName name
  | _, _ =>
    parens context Precedence.test do
      traverse go Precedence.expr pattern
      write " as "
      writeText name.plain

def importFrom (go : Print) (attrs : Attrs) : PrintM Unit := do
  fill "from "
  match ← attr .importFrom attrs "level" with
  | .int n => writeText (List.replicate n.toNat 0x2E)
  | _ => return ()
  let module ← attr .importFrom attrs "module"
  if isPresent module then writeName module
  write " import "
  commaSeparated go (← attrItems .importFrom attrs "names")

/-- A name and an optional other name behind `as`. -/
def importAlias (attrs : Attrs) : PrintM Unit := do
  writeName (← attr .importAlias attrs "name")
  let other ← attr .importAlias attrs "asname"
  if isPresent other then
    write " as "
    writeName other

/-- The remarks on ignored type errors in a module. -/
def typeIgnores (attrs : Attrs) : PrintM (List (Value × Text)) := do
  (← attrItems .module attrs "type_ignores").mapM fun ignore => do
    match ignore with
    | .node (.python kind) inner =>
      let line ← attr kind inner "lineno"
      let tag ← attr kind inner "tag"
      return (line, Text.ofString "ignore" ++ tag.plain)
    | _ => throw (.problem (.noAttribute ignore.typeName "lineno"))

/-- A node without a form of its own: what is written is that of its last part. -/
def lastPart (go : Print) (kind : Kind) (attrs : Attrs) : PrintM Unit := do
  for (name, value) in attrs do
    if name ∈ kind.fields then
      let nodes :=
        match value with
        | .list items => items.filter Value.isPythonNode
        | value => if value.isPythonNode then [value] else []
      for node in nodes do
        set ({} : Output)
        go Precedence.test node

def statement (go : Print) (kind : Kind) (attrs : Attrs) : PrintM Unit := do
  let get := attr kind attrs
  match kind with
  | .module =>
    let ignores ← typeIgnores attrs
    withReader (fun c => { c with typeIgnores := ignores }) do
      documentedBody go (← get "body")
  | .exprStmt =>
    fill ""
    traverse go Precedence.yield (← get "value")
  | .importStmt =>
    fill "import "
    commaSeparated go (← attrItems kind attrs "names")
  | .importFrom => importFrom go attrs
  | .assign =>
    fill ""
    (← attrItems kind attrs "targets").forM fun target => do
      traverse go Precedence.tuple target
      write " = "
    traverse go Precedence.test (← get "value")
    if let some remark ← typeComment kind attrs then writeText remark
  | .augAssign =>
    fill ""
    traverse go Precedence.test (← get "target")
    let (symbol, _) ← operator binaryOperator? (← get "op")
    write s!" {symbol}= "
    traverse go Precedence.test (← get "value")
  | .annAssign =>
    fill ""
    let target ← get "target"
    let isName :=
      match target with
      | .node (.python .nameExpr) _ => true
      | _ => false
    let simple ← get "simple"
    delimitIf "(" ")" (!isPresent simple && isName) (traverse go Precedence.test target)
    write ": "
    traverse go Precedence.test (← get "annotation")
    let value ← get "value"
    if isPresent value then
      write " = "
      traverse go Precedence.test value
  | .returnStmt =>
    fill ""
    wordAndValue go "return" Precedence.test (← get "value")
  | .passStmt => fill "pass"
  | .breakStmt => fill "break"
  | .continueStmt => fill "continue"
  | .deleteStmt =>
    fill "del "
    commaSeparated go (← attrItems kind attrs "targets")
  | .assertStmt =>
    fill "assert "
    traverse go Precedence.test (← get "test")
    let message ← get "msg"
    if isPresent message then
      write ", "
      traverse go Precedence.test message
  | .globalStmt =>
    fill "global "
    interleave ", " writeName (← attrItems kind attrs "names")
  | .nonlocalStmt =>
    fill "nonlocal "
    interleave ", " writeName (← attrItems kind attrs "names")
  | .raiseStmt =>
    fill "raise"
    let exception ← get "exc"
    let cause ← get "cause"
    if isPresent exception then
      write " "
      traverse go Precedence.test exception
      if isPresent cause then
        write " from "
        traverse go Precedence.test cause
    else if isPresent cause then
      throw (.unprintable "Node can't use cause without an exception.")
  | .tryStmt | .tryStar => tryStmt go kind attrs
  | .exceptHandler => exceptHandler go attrs
  | .classDef => classDef go attrs
  | .functionDef => functionDef go kind attrs "def "
  | .asyncFunctionDef => functionDef go kind attrs "async def "
  | .forStmt => forLoop go kind attrs "for "
  | .asyncFor => forLoop go kind attrs "async for "
  | .ifStmt => ifStmt go maxElifs "if " attrs
  | .whileStmt =>
    fill "while "
    traverse go Precedence.test (← get "test")
    block none (do traverse go Precedence.test (← get "body"))
    optionalBlock go "else" (← get "orelse")
  | .withStmt => withBlock go kind attrs "with "
  | .asyncWith => withBlock go kind attrs "async with "
  | .matchStmt =>
    fill "match "
    traverse go Precedence.test (← get "subject")
    block none (do (← attrItems kind attrs "cases").forM (go Precedence.test))
  | .matchCase =>
    fill "case "
    traverse go Precedence.test (← get "pattern")
    let guard ← get "guard"
    if isPresent guard then
      write " if "
      traverse go Precedence.test guard
    block none (do traverse go Precedence.test (← get "body"))
  | _ => lastPart go kind attrs

def pattern (go : Print) (context : Precedence) (kind : Kind) (attrs : Attrs) : PrintM Unit := do
  let get := attr kind attrs
  match kind with
  | .matchValue => traverse go Precedence.test (← get "value")
  | .matchSingleton => writeConstant (← get "value")
  | .matchSequence =>
    delimit "[" "]" (do commaSeparated go (← attrItems kind attrs "patterns"))
  | .matchStar =>
    write "*"
    match ← get "name" with
    | .null => write "_"
    | name => writeText name.plain
  | .matchMapping => matchMapping go attrs
  | .matchClass => matchClass go attrs
  | .matchAs => matchAs go context attrs
  | .matchOr =>
    parens context Precedence.expr do
      interleave " | " (go (Precedence.next Precedence.expr)) (← attrItems kind attrs "patterns")
  | _ => statement go kind attrs

def expression (go : Print) (context : Precedence) (kind : Kind) (attrs : Attrs) : PrintM Unit := do
  let get := attr kind attrs
  match kind with
  | .functionType =>
    delimit "(" ")" (do commaSeparated go (← attrItems kind attrs "argtypes"))
    write " -> "
    traverse go Precedence.test (← get "returns")
  | .namedExpr =>
    parens context Precedence.namedExpr do
      traverse go Precedence.atom (← get "target")
      write " := "
      traverse go Precedence.atom (← get "value")
  | .await =>
    parens context Precedence.await (do
      wordAndValue go "await" Precedence.atom (← get "value"))
  | .yield =>
    parens context Precedence.yield (do
      wordAndValue go "yield" Precedence.atom (← get "value"))
  | .yieldFrom =>
    parens context Precedence.yield do
      write "yield from "
      let value ← get "value"
      if !isPresent value then
        throw (.unprintable "Node can't be used without a value attribute.")
      traverse go Precedence.atom value
  | .joinedStr => joinedStr go attrs
  | .formattedValue => formattedValue go maxSpecDepth attrs
  | .nameExpr => writeName (← get "id")
  | .constant =>
    match ← get "value" with
    | .ellipsis => write "..."
    | value =>
      if isUnicodeKind attrs then write "u"
      writeConstant value
  | .list => delimit "[" "]" (do commaSeparated go (← attrItems kind attrs "elts"))
  | .listComp =>
    generated go kind attrs "[" "]" (do traverse go Precedence.test (← get "elt"))
  | .generatorExp =>
    generated go kind attrs "(" ")" (do traverse go Precedence.test (← get "elt"))
  | .setComp =>
    generated go kind attrs "\x7b" "\x7d" (do traverse go Precedence.test (← get "elt"))
  | .dictComp =>
    generated go kind attrs "\x7b" "\x7d" do
      traverse go Precedence.test (← get "key")
      write ": "
      traverse go Precedence.test (← get "value")
  | .comprehension => comprehension go attrs
  | .ifExp =>
    parens context Precedence.test do
      let inner := Precedence.next Precedence.test
      traverse go inner (← get "body")
      write " if "
      traverse go inner (← get "test")
      write " else "
      traverse go Precedence.test (← get "orelse")
  | .set =>
    let items ← get "elts"
    if isPresent items then
      delimit "\x7b" "\x7d" (do commaSeparated go (← itemsOf items))
    else write "\x7b*()\x7d"
  | .dict => dict go attrs
  | .tuple =>
    let items ← attrItems kind attrs "elts"
    delimitIf "(" ")" (items.isEmpty || context > Precedence.tuple) (itemsView go items)
  | .unaryOp =>
    let (symbol, own) ← operator unaryOperator? (← get "op")
    parens context own do
      write symbol
      traverse go own (← get "operand")
  | .binOp => binOp go context attrs
  | .compare => compare go context attrs
  | .boolOp =>
    let (symbol, own) ← operator boolOperator? (← get "op")
    parens context own do
      boolOperands go s!" {symbol} " own (← attrItems kind attrs "values")
  | .attributeExpr =>
    let value ← get "value"
    traverse go Precedence.atom value
    if isIntegerConstant value then write " "
    write "."
    writeName (← get "attr")
  | .call => call go attrs
  | .subscript => subscript go attrs
  | .starred =>
    write "*"
    traverse go Precedence.expr (← get "value")
  | .slice =>
    let lower ← get "lower"
    if isPresent lower then traverse go Precedence.test lower
    write ":"
    let upper ← get "upper"
    if isPresent upper then traverse go Precedence.test upper
    let step ← get "step"
    if isPresent step then
      write ":"
      traverse go Precedence.test step
  | .arg =>
    writeName (← get "arg")
    let annotation ← get "annotation"
    if isPresent annotation then
      write ": "
      traverse go Precedence.test annotation
  | .arguments => arguments go attrs
  | .keyword =>
    match ← get "arg" with
    | .null => write "**"
    | name =>
      writeName name
      write "="
    traverse go Precedence.test (← get "value")
  | .lambda => lambda go context attrs
  | .importAlias => importAlias attrs
  | .withItem =>
    traverse go Precedence.test (← get "context_expr")
    let target ← get "optional_vars"
    if isPresent target then
      write " as "
      traverse go Precedence.test target
  | _ => pattern go context kind attrs

/-- Prints a node up to a depth. -/
def printNode : Nat → Print
  | 0, _, _ => throw .tooDeep
  | depth + 1, context, .node (.python kind) attrs =>
    expression (printNode depth) context kind attrs
  | _ + 1, _, value => throw (.problem (.noAttribute value.typeName "_fields"))

/-- The source of a tree that is nested up to a depth. -/
def print (maxDepth : Nat) (tree : Value) : Except Fault Text := do
  let ((), out) ← ((traverse (printNode maxDepth) Precedence.test tree).run {}).run {}
  return out.text

end LiteralScrub.Python.Printer
