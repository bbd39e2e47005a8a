import LiteralScrub.Python.Reader.Basic
import LiteralScrub.Python.StringEscape
import LiteralScrub.Python.Token.Lexer

/-!
# Strings

Strings that stand side by side are one string. In an interpolated string, expressions in braces
stand between pieces of text; each expression is read from its own text, put into parentheses. A
format may follow it, which is an interpolated string itself, but only to one more level.
-/
namespace LiteralScrub.Python.Reader

/-- Why a string cannot be read. -/
inductive StringFault where
  /-- A fault that is reported at the last token seen. -/
  | here (message : Text)
  /-- A fault in an interpolated expression, which has its place. -/
  | inside (fault : SyntaxFault)
  deriving Inhabited

def StringFault.say {α : Type} (message : String) : Except StringFault α :=
  .error (.here (Text.ofString message))

/-! ## Constants -/

def constant (span : Span) (value : Value) (kind : Value) : Value :=
  node .constant span [("value", value), ("kind", kind)]

/-- The mark of a text whose first string begins with `u`. -/
def textKind (written : Text) : Value :=
  if written.head? = some 0x75 then .text [0x75] else .null

/-! ## The parts of an interpolated string -/

/-- A string as it is written. -/
structure Written where
  token : Token
  text : Text
  /-- Whether backslashes stand for themselves. -/
  isRaw : Bool
  /-- How many characters of it come behind the body. -/
  closing : Nat
  deriving Inhabited

/-- The text up to a brace that begins or ends an expression, as it is written; behind it comes what
is left. A doubled brace ends the text too, as one brace; then there is more text to come. -/
def plainPart (isRaw isInner : Bool) : Nat → Text → Text → Except StringFault (Text × Text × Bool)
  | 0, done, t => .ok (done.reverse, t, false)
  | _ + 1, done, [] => .ok (done.reverse, [], false)
  | bound + 1, done, c :: rest =>
    if !isRaw && c == 0x5C && rest.head? = some 0x4E then
      let behind := rest.drop 1
      match behind with
      | 0x7B :: inner =>
        let name := inner.takeWhile (· != 0x7D)
        let taken := 0x7B :: inner.take (name.length + 1)
        plainPart isRaw isInner bound (taken.reverse ++ 0x4E :: 0x5C :: done)
          (inner.drop (name.length + 1))
      | d :: more => plainPart isRaw isInner bound (d :: 0x4E :: 0x5C :: done) more
      | [] => .ok ((0x4E :: 0x5C :: done).reverse, [], false)
    else
      let (done, c, rest) :=
        if !isRaw && c == 0x5C then
          match rest with
          | d :: more => (c :: done, d, more)
          | [] => (done, c, rest)
        else (done, c, rest)
      if c == 0x7B || c == 0x7D then
        if isInner then .ok (done.reverse, c :: rest, false)
        else if rest.head? = some c then .ok ((c :: done).reverse, rest.drop 1, true)
        else if c == 0x7D then StringFault.say "f-string: single '\x7d' is not allowed"
        else .ok (done.reverse, c :: rest, false)
      else plainPart isRaw isInner bound (c :: done) rest

/-- The quote of the string that a scan is in, and whether it stands three times. -/
structure InnerString where
  quote : CodePoint
  isTriple : Bool
  deriving Inhabited

/-- Finds the end of an expression: a mark that is inside no bracket and no string. Gives what is
before it and from it on. -/
def expressionEnd : Nat → Option InnerString → List CodePoint → Text → Text →
    Except StringFault (Text × Text)
  | 0, _, _, done, t => .ok (done.reverse, t)
  | _ + 1, some _, _, _, [] => StringFault.say "f-string: unterminated string"
  | _ + 1, none, b :: _, _, [] =>
    StringFault.say s!"f-string: unmatched '{Text.toString [b]}'"
  | _ + 1, none, [], done, [] => .ok (done.reverse, [])
  | bound + 1, inner, brackets, done, c :: rest =>
    let next := expressionEnd bound inner brackets (c :: done) rest
    let isTripled := rest.take 2 = [c, c]
    if c == 0x5C then StringFault.say "f-string expression part cannot include a backslash"
    else
      match inner with
      | some string =>
        if c == string.quote then
          if !string.isTriple then expressionEnd bound none brackets (c :: done) rest
          else if isTripled then
            expressionEnd bound none brackets (c :: c :: c :: done) (rest.drop 2)
          else next
        else next
      | none =>
        if isQuote c then
          if isTripled then
            expressionEnd bound (some ⟨c, true⟩) brackets (c :: c :: c :: done) (rest.drop 2)
          else expressionEnd bound (some ⟨c, false⟩) brackets (c :: done) rest
        else if c == 0x28 || c == 0x5B || c == 0x7B then
          if brackets.length ≥ maxBrackets then
            StringFault.say "f-string: too many nested parenthesis"
          else expressionEnd bound none (c :: brackets) (c :: done) rest
        else if c == 0x23 then
          StringFault.say "f-string expression part cannot include '#'"
        else if brackets.isEmpty && [0x21, 0x3A, 0x7D, 0x3D, 0x3C, 0x3E].contains c then
          if [0x21, 0x3D, 0x3C, 0x3E].contains c && rest.head? = some 0x3D then
            expressionEnd bound none brackets (0x3D :: c :: done) (rest.drop 1)
          else if c == 0x3C || c == 0x3E then next
          else .ok (done.reverse, c :: rest)
        else
          match Lexer.partner? c with
          | none => next
          | some partner =>
            match brackets with
            | [] => StringFault.say s!"f-string: unmatched '{Text.toString [c]}'"
            | b :: outer =>
              if b == partner then expressionEnd bound none outer (c :: done) rest
              else
                StringFault.say
                  (s!"f-string: closing parenthesis '{Text.toString [c]}' " ++
                    s!"does not match opening parenthesis '{Text.toString [b]}'")

/-- Blanks inside an expression. -/
def isInnerBlank (c : CodePoint) : Bool := c == 0x20 || c == 0x09 || c == 0x0A || c == 0x0C

/-- The place of an expression whose brace stands behind the first `n` characters of a string. If
nothing follows the brace in its line, the lines of the expression begin at the margin. -/
def originOf (written : Written) (n : Nat) : Origin :=
  let before := written.text.take n
  let lines := before.count 0x0A
  let behind := (written.text.drop (n + 1)).dropWhile fun c => c == 0x20 || c == 0x09 || c == 0x0C
  let line := (before.reverse.takeWhile (· != 0x0A)).reverse
  let column :=
    if behind.head? = some 0x0A || behind.head? = some 0x7D then 0
    else (line.map Utf8.width).foldr (· + ·) 0
  { line := written.token.line + lines
    column := if lines = 0 then (written.token.column.getD 0) + column else column }

/-- Reads an expression from its text; `mark` is the character behind it. -/
def readEmbedded (nested : Nested) (origin : Origin) (text : Text) (mark : CodePoint) :
    Except StringFault Value :=
  if text.all isInnerBlank then
    if mark == 0x21 || mark == 0x3A || mark == 0x3D then
      StringFault.say s!"f-string: expression required before '{Text.toString [mark]}'"
    else StringFault.say "f-string: empty expression not allowed"
  else
    (nested.embedded origin (0x28 :: text ++ [0x29])).mapError .inside

/-! ## Joining -/

/-- What has been read of strings that stand side by side. -/
structure Joined where
  /-- The pieces, the newest first. -/
  pieces : List Value := []
  /-- Text that is no piece yet. -/
  text : Text := []
  isInterpolated : Bool := false
  deriving Inhabited

/-- Makes a piece of the text that has been gathered. -/
def Joined.flush (joined : Joined) (span : Span) (kind : Value) : Joined :=
  if joined.text.isEmpty then joined
  else { joined with pieces := constant span (.text joined.text) kind :: joined.pieces, text := [] }

def Joined.finish (joined : Joined) (span : Span) (kind : Value) : Value :=
  if joined.isInterpolated then
    node .joinedStr span [("values", .list (joined.flush span kind).pieces.reverse)]
  else constant span (.text joined.text) kind

def expectingBrace {α : Type} : Except StringFault α :=
  StringFault.say "f-string: expecting '\x7d'"

/-- The text of a part of a string. -/
def partText (isRaw : Bool) (t : Text) : Except StringFault Text :=
  if isRaw then .ok t else (StringEscape.resolve t).mapError fun fault => .here fault.message

/-- The conversion behind an expression, as the code of its letter. -/
def conversion (t : Text) : Except StringFault (Option CodePoint × Text) :=
  match t with
  | 0x21 :: rest =>
    match rest with
    | [] => expectingBrace
    | c :: rest =>
      if c == 0x73 || c == 0x72 || c == 0x61 then .ok (some c, rest)
      else
        StringFault.say "f-string: invalid conversion character: expected 's', 'r', or 'a'"
  | _ => .ok (none, t)

/-- The strings that are being joined. -/
structure Joint where
  span : Span
  kind : Value
  deriving Inhabited

/-- Reads the body of an interpolated string, or of a format at a level above zero. -/
def interpolate (nested : Nested) (joint : Joint) (written : Written) :
    Nat → Nat → Joined → Text → Except StringFault (Joined × Text)
  | 0, _, joined, t => .ok (joined, t)
  | bound + 1, level, joined, t => do
    let (plain, rest, isDoubled) ← plainPart written.isRaw (level ≠ 0) (t.length + 1) [] t
    let text ← partText written.isRaw plain
    let joined := { joined with text := joined.text ++ text, isInterpolated := true }
    if isDoubled then interpolate nested joint written bound level joined rest
    else
      match rest with
      | [] => if level = 0 then return (joined, []) else expectingBrace
      | 0x7D :: _ => return (joined, rest)
      | _ :: inner =>
        if level ≥ 2 then StringFault.say "f-string: expressions nested too deeply"
        else
          let (source, behind) ← expressionEnd (inner.length + 1) none [] [] inner
          match behind with
          | [] => expectingBrace
          | mark :: afterMark =>
            let origin := originOf written (written.text.length - written.closing - rest.length)
            let value ← readEmbedded nested origin source mark
            let isShown := mark == 0x3D
            let behind :=
              if isShown then afterMark.dropWhile fun c => c == 0x20 || (0x09 ≤ c && c ≤ 0x0D)
              else behind
            if behind.isEmpty then expectingBrace
            else
              let shown := if isShown then inner.take (inner.length - behind.length) else []
              let (letter, behind) ← conversion behind
              let (format, behind) ← match behind with
                | [0x3A] => expectingBrace
                | 0x3A :: format => do
                  let (inside, behind) ← interpolate nested joint written bound (level + 1) {} format
                  let token := written.token
                  let span : Span :=
                    ⟨token.line, token.column.getD 0, token.endLine, token.endColumn⟩
                  pure (some (inside.finish span (textKind written.text)), behind)
                | _ => pure (none, behind)
              match behind with
              | 0x7D :: behind =>
                let joined := { joined with text := joined.text ++ shown }
                let code : Int := match letter with
                  | some c => c
                  | none => if isShown && format.isNone then 0x72 else -1
                let field := node .formattedValue joint.span
                  [("value", value), ("conversion", .int code), ("format_spec", orNull format)]
                let joined := joined.flush joint.span joint.kind
                interpolate nested joint written bound level
                  { joined with pieces := field :: joined.pieces } behind
              | _ => expectingBrace

/-! ## The rule -/

/-- The letters before the quote of a string, in lower case, and the rest. -/
def lettersOf (t : Text) : Text × Text :=
  let letters := t.takeWhile (!isQuote ·)
  (letters.map fun c => if c < 0x60 then c + 0x20 else c, t.drop letters.length)

/-- The body between the quotes, and how many quotes close it. -/
def bodyOf (quoted : Text) : Text × Nat :=
  let size := match quoted with
    | a :: b :: c :: _ => if quoted.length ≥ 6 && a == b && b == c then 3 else 1
    | _ => 1
  ((quoted.drop size).take (quoted.length - 2 * size), size)

/-- Either kind of string, joined so far. -/
inductive Strings where
  | bytes (b : Bytes)
  | text (joined : Joined)
  deriving Inhabited

/-- Joins one more string. -/
def addString (nested : Nested) (joint : Joint) (sofar : Option Strings) (token : Token)
    (written : Text) : Except StringFault Strings := do
  let (letters, quoted) := lettersOf written
  let (body, size) := bodyOf quoted
  let isRaw := letters.any (· == 0x72)
  let mixed : Except StringFault Strings :=
    StringFault.say "cannot mix bytes and nonbytes literals"
  if letters.any (· == 0x62) then
    if body.any (· ≥ 0x80) then
      StringFault.say "bytes can only contain ASCII literal characters"
    else
      let bytes ←
        if isRaw then pure (body.map fun c => UInt8.ofNat c)
        else
          (StringEscape.resolveBytes body).mapError fun place =>
            StringFault.here
              (Text.ofString s!"(value error) invalid \\x escape at position {place}")
      match sofar with
      | none => return .bytes bytes
      | some (.bytes before) => return .bytes (before ++ bytes)
      | some (.text _) => mixed
  else if letters.any (· == 0x66) then
    match sofar with
    | some (.bytes _) => mixed
    | _ =>
      let joined := match sofar with
        | some (.text joined) => joined
        | _ => {}
      let (joined, _) ←
        interpolate nested joint ⟨token, written, isRaw, size⟩ (body.length + 1) 0 joined body
      return .text joined
  else
    let text ← partText isRaw body
    match sofar with
    | none => return .text { text }
    | some (.text joined) => return .text { joined with text := joined.text ++ text }
    | some (.bytes _) => mixed

/-- Joins strings side by side. -/
def joinStrings (nested : Nested) (joint : Joint) :
    Option Strings → List (Text × Token) → Except StringFault (Option Strings)
  | sofar, [] => .ok sofar
  | sofar, (written, token) :: rest => do
    joinStrings nested joint (some (← addString nested joint sofar token written)) rest

/-- A token that is a string. -/
def stringToken : ReadM (Text × Token) := do
  let token ← peek
  match token.lexeme with
  | .string t => fun _ mark store => .found (t, token) (mark + 1) store
  | _ => absent

/-- Strings side by side. -/
def strings (nested : Nested) : ReadM Value := do
  let first ← peek
  let parts ← many1 stringToken
  let span ← spanFrom first
  let kind := textKind ((parts.map Prod.fst).headD [])
  match joinStrings nested ⟨span, kind⟩ none parts with
  | .ok (some (.bytes b)) => return constant span (.bytes b) .null
  | .ok (some (.text joined)) => return joined.finish span kind
  | .ok none => absent
  | .error (.here message) => complain message
  | .error (.inside fault) => breakOff fault

end LiteralScrub.Python.Reader
