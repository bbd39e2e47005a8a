import LiteralScrub.Python.Token.Numeral
import LiteralScrub.Text.IdentifierContinue
import LiteralScrub.Text.IdentifierStart
import LiteralScrub.Text.Printable

/-!
# From text to tokens

A text is cut into tokens line by line. Indentation opens and closes blocks, and is compared twice:
with tabs that reach to a multiple of eight and with tabs that count as one. Lines inside brackets,
blank lines and comments have no say in it. `Tokens.ofText` also tells why the tokens end, if they
end before the text does.
-/
namespace LiteralScrub.Python

/-- A bracket that waits to be closed. -/
structure Bracket where
  char : CodePoint
  line : Nat
  column : Nat
  deriving Inhabited

structure Lexer where
  page : Page
  cursor : Cursor
  /-- Where the line began, counting lines that are joined as one. -/
  shown : Cursor
  /-- Whether a line is about to begin. -/
  isFresh : Bool := true
  /-- The widths of the open blocks, the innermost first, by both ways of counting tabs. -/
  indents : List (Nat × Nat) := []
  brackets : List Bracket := []
  deriving Inhabited

/-- How many blocks may be open at once. -/
def maxIndents : Nat := 99

/-- How many brackets may be open at once. -/
def maxBrackets : Nat := 200

/-! ## Names and strings -/

def isQuote (c : CodePoint) : Bool := c == 0x22 || c == 0x27

def isNameStart (c : CodePoint) : Bool := isAsciiLetter c || c == 0x5F || c ≥ 0x80

/-- Whether a code point is the letter, given as a capital, in either case. -/
def isLetter (letter c : CodePoint) : Bool := c == letter || c == letter + 0x20

/-- The letters that have been seen before the quote of a string. -/
structure StringMarks where
  bytes : Bool := false
  raw : Bool := false
  unicode : Bool := false
  formatted : Bool := false
  deriving Inhabited

/-- How many letters stand before the quote of a string, if one begins here. -/
def lettersBeforeQuote? (seen : StringMarks) : Nat → Text → Option Nat
  | n, c :: rest =>
    if isQuote c then some n
    else if isLetter 0x42 c && !(seen.bytes || seen.unicode || seen.formatted) then
      lettersBeforeQuote? { seen with bytes := true } (n + 1) rest
    else if isLetter 0x55 c && !(seen.bytes || seen.unicode || seen.raw || seen.formatted) then
      lettersBeforeQuote? { seen with unicode := true } (n + 1) rest
    else if isLetter 0x52 c && !(seen.raw || seen.unicode) then
      lettersBeforeQuote? { seen with raw := true } (n + 1) rest
    else if isLetter 0x46 c && !(seen.formatted || seen.bytes || seen.unicode) then
      lettersBeforeQuote? { seen with formatted := true } (n + 1) rest
    else none
  | _, [] => none

/-- The length of a string from behind its opening, which is of `size` quotes; `closing` quotes have
been seen in a row. The error is how many lines further on it is found not to end. -/
def closedFrom (quote size : Nat) : Nat → Nat → Nat → Text → Except Nat Nat
  | _, _, lines, [] => .error (lines - 1)
  | closing, n, lines, c :: rest =>
    if c == 0x0A && size == 1 then .error lines
    else if c == quote then
      if closing + 1 == size then .ok (n + 1) else closedFrom quote size (closing + 1) (n + 1) lines rest
    else if c == 0x5C then
      match rest with
      | d :: rest' => closedFrom quote size 0 (n + 2) (if d == 0x0A then lines + 1 else lines) rest'
      | [] => .error (lines - 1)
    else closedFrom quote size 0 (n + 1) (if c == 0x0A then lines + 1 else lines) rest

/-- The length of the string at the beginning of a text, whose quote stands behind `letters`
letters. The error has the number of its quotes and of the lines that were looked at. -/
def stringLength (letters : Nat) (t : Text) : Except (Nat × Nat) Nat :=
  match t.drop letters with
  | a :: b :: c :: rest =>
    if b == a then
      if c == a then (closedFrom a 3 0 (letters + 3) 0 rest).mapError (3, ·) else .ok (letters + 2)
    else (closedFrom a 1 0 (letters + 1) 0 (b :: c :: rest)).mapError (1, ·)
  | a :: rest => (closedFrom a 1 0 (letters + 1) 0 rest).mapError (1, ·)
  | [] => .error (1, 0)

/-- The first character of a word that cannot stand there in a name, with its index. -/
def misfit? (word : Text) : Option (Nat × CodePoint) :=
  let bad (i : Nat) (c : CodePoint) : Bool :=
    if i = 0 then !(c == 0x5F || isIdentifierStart c) else !isIdentifierContinue c
  (word.zipIdx.find? fun (c, i) => bad i c).map fun (c, i) => (i, c)

/-- The signs of two and of three characters. -/
def longSigns : List String := [
  "**=", "//=", "<<=", ">>=", "!=", "%=", "&=", "**", "*=", "+=", "-=", "->", "//", "/=", ":=", "<<",
  "<=", "<>", "==", ">=", ">>", "@=", "^=", "|=", "..."]

/-- The sign at the beginning of a text; any character that is nothing else is a sign. -/
def signAt (t : Text) : String :=
  match longSigns.find? fun s => t.startsWith (Text.ofString s) with
  | some s => s
  | none => Text.toString (t.take 1)

/-! ## Faults -/

namespace Lexer

/-- How far the text has been looked at. Behind its last line one still looks at that line. -/
def sight (lexer : Lexer) : Sight :=
  let c := lexer.cursor
  if c.rest.isEmpty then ⟨c.line - 1, c.passed, lexer.shown.rest⟩
  else ⟨c.line, c.column, lexer.shown.rest⟩

/-- The fault that the innermost open bracket was never closed. -/
def unclosed? (lexer : Lexer) : Option (Nat × SyntaxFault) :=
  match lexer.brackets with
  | b :: _ =>
    some (b.line, lexer.page.fault lexer.sight b.line (b.column + 1)
      (Text.ofString s!"'{Text.toString [b.char]}' was never closed"))
  | [] => none

/-- Stops at a fault that is reported only if reading comes that far. -/
def quiet (lexer : Lexer) (line column : Nat) (message : String) : Halt where
  fault := lexer.page.fault lexer.sight line column (Text.ofString message)
  isLoud := false
  unclosed := lexer.unclosed?

/-- Stops at a fault of the text itself. -/
def loud (line column : Nat) (message : String) : Halt where
  fault := ⟨line, column, Text.ofString message⟩
  isLoud := true
  unclosed := none

/-- The fault of a line that ends too early. -/
def endsEarly (lexer : Lexer) : Halt :=
  let halt := lexer.quiet lexer.sight.line lexer.sight.column "unexpected EOF while parsing"
  match lexer.unclosed? with
  | some (_, fault) => { halt with fault }
  | none => halt

/-! ## The beginning of a line -/

/-- Goes behind a backslash that joins a line with the next one. -/
def joinLine (lexer : Lexer) : Except Halt Lexer :=
  let c := lexer.cursor
  match c.rest.drop 1 with
  | 0x0A :: [] => .error { lexer with cursor := c.advance 2 }.endsEarly
  | 0x0A :: _ => .ok { lexer with cursor := c.advance 2 }
  | _ =>
    .error (lexer.quiet c.line (c.position + 2 - lexer.shown.position)
      "unexpected character after line continuation character")

/-- The blanks at the beginning of a line: their width with tabs to eight columns, and with tabs
of one. Of lines that are joined there the first one that has blanks counts. -/
def margin : Nat → Lexer → Nat × Nat → Option Nat → Except Halt (Lexer × Nat × Nat)
  | 0, lexer, _, _ => .error lexer.endsEarly
  | bound + 1, lexer, (width, narrow), fixed =>
    let next := { lexer with cursor := lexer.cursor.step }
    match lexer.cursor.rest with
    | 0x20 :: _ => margin bound next (width + 1, narrow + 1) fixed
    | 0x09 :: _ => margin bound next ((width / 8 + 1) * 8, narrow + 1) fixed
    | 0x0C :: _ => margin bound next (0, 0) fixed
    | 0x5C :: _ =>
      match lexer.joinLine with
      | .error halt => .error halt
      | .ok next =>
        margin bound { next with shown := next.cursor } (width, narrow)
          (fixed.or (if width = 0 then none else some width))
    | _ => .ok (lexer, (fixed.getD width, fixed.getD narrow))

/-- A token that only tells of layout. -/
def layout (lexer : Lexer) (lexeme : Lexeme) : Token where
  lexeme
  line := lexer.sight.line
  column := none
  endLine := lexer.sight.line
  endColumn := lexer.sight.column
  depth := lexer.brackets.length
  sight := lexer.sight

/-- The fault of tabs and blanks that compare in two ways. -/
def mixedTabs (lexer : Lexer) : Halt :=
  lexer.quiet lexer.sight.line 1 "inconsistent use of tabs and spaces in indentation"

/-- Compares the indentation of a line with the open blocks. -/
def indentation (lexer : Lexer) (width narrow : Nat) : Except Halt (List Token × Lexer) :=
  let current := lexer.indents.headD (0, 0)
  if width = current.1 then
    if narrow = current.2 then .ok ([], lexer) else .error lexer.mixedTabs
  else if width > current.1 then
    if lexer.indents.length ≥ maxIndents then
      .error (lexer.quiet lexer.sight.line 1 "too many levels of indentation")
    else if narrow ≤ current.2 then .error lexer.mixedTabs
    else
      .ok ([lexer.layout .indent], { lexer with indents := (width, narrow) :: lexer.indents })
  else
    let closed := lexer.indents.takeWhile fun block => width < block.1
    let open' := lexer.indents.drop closed.length
    let outer := open'.headD (0, 0)
    if width ≠ outer.1 then
      let c := lexer.cursor.skipWhile (· != 0x0A)
      .error (lexer.quiet c.line (c.column + 1)
        "unindent does not match any outer indentation level")
    else if narrow ≠ outer.2 then .error lexer.mixedTabs
    else .ok (closed.map fun _ => lexer.layout .dedent, { lexer with indents := open' })

/-- Begins a line. A line that is blank or holds only a comment is passed over. -/
def beginLine (lexer : Lexer) : Except Halt (List Token × Lexer) := do
  let lexer := if lexer.cursor.rest.isEmpty then lexer else { lexer with shown := lexer.cursor }
  let (lexer, width, narrow) ← margin (lexer.cursor.rest.length + 1) lexer (0, 0) none
  match lexer.cursor.rest with
  | c :: _ =>
    if c == 0x23 || c == 0x0A then
      return ([], { lexer with cursor := (lexer.cursor.skipWhile (· != 0x0A)).step })
    else if lexer.brackets.isEmpty then indentation { lexer with isFresh := false } width narrow
    else return ([], { lexer with isFresh := false })
  | [] =>
    if lexer.brackets.isEmpty then indentation { lexer with isFresh := false } width narrow
    else return ([], { lexer with isFresh := false })

/-! ## Inside a line -/

/-- The token of the next `n` characters. The first line of an interpolated expression is shifted
to its place. -/
def token (lexer : Lexer) (n : Nat) (lexeme : Lexeme) : Token × Lexer :=
  let first := lexer.cursor
  let last := first.advance n
  let next := { lexer with cursor := last }
  let shift := match lexer.page.origin with
    | some origin => if last.line = origin.line then origin.column else 0
    | none => 0
  ({ lexeme
     line := first.line
     column := some (shift + first.column)
     endLine := last.line
     endColumn := shift + last.column
     depth := lexer.brackets.length
     sight := next.sight }, next)

/-- The token for the end of a line, which begins at the comment before it. -/
def newline (lexer : Lexer) : List Token × Lexer :=
  let last := lexer.cursor.skipWhile (· != 0x0A)
  let next := { lexer with cursor := last.step, isFresh := true }
  if lexer.brackets.isEmpty then
    let (token, _) := lexer.token 0 .newline
    ([{ token with
        endColumn := token.endColumn + (last.column - lexer.cursor.column)
        sight := ⟨last.line, last.column + 1, lexer.shown.rest⟩ }], next)
  else ([], next)

def string (lexer : Lexer) (letters : Nat) : Except Halt (List Token × Lexer) :=
  let c := lexer.cursor
  match stringLength letters c.rest with
  | .ok n =>
    let (token, next) := lexer.token n (.string (c.rest.take n))
    .ok ([token], next)
  | .error (size, lines) =>
    let noun := if size = 3 then "triple-quoted string" else "string"
    .error (loud c.line (c.offset + 1)
      s!"unterminated {noun} literal (detected at line {c.line + lines})")

def number (lexer : Lexer) : Except Halt (List Token × Lexer) :=
  let c := lexer.cursor
  match Numeral.length c.rest with
  | .ok n =>
    let (token, next) := lexer.token n (.number (c.rest.take n))
    .ok ([token], next)
  | .error (.upTo n message) => .error (loud c.line (c.offset + n) message)
  | .error .leadingZeros =>
    .error (loud c.line (c.column + 1)
      ("leading zeros in decimal integer literals are not permitted; " ++
        "use an 0o prefix for octal integers"))

/-- The name of a code point in messages. -/
def codeText (c : CodePoint) : String := Text.toString ((Text.ofNatPadded 16 4 c).map upper)
where
  upper (d : CodePoint) : CodePoint := if 0x61 ≤ d && d ≤ 0x7A then d - 0x20 else d

/-- The message on a character that has no place in a source. -/
def strayMessage (c : CodePoint) : String :=
  if isPrintable c then s!"invalid character '{Text.toString [c]}' (U+{codeText c})"
  else s!"invalid non-printable character U+{codeText c}"

def word (lexer : Lexer) : Except Halt (List Token × Lexer) :=
  let c := lexer.cursor
  let text := c.rest.takeWhile Numeral.isNamePart
  let misfit := if text.all (· < 0x80) then none else misfit? text
  match misfit with
  | some (i, x) => .error (loud c.line (c.offset + i + 1) (strayMessage x))
  | none =>
    let written := Text.toString text
    let lexeme := if keywords.contains written then .keyword written else .name text
    let (token, next) := lexer.token text.length lexeme
    .ok ([token], next)

/-- The bracket that a closing bracket closes. -/
def partner? (c : CodePoint) : Option CodePoint :=
  match c with
  | 0x29 => some 0x28
  | 0x5D => some 0x5B
  | 0x7D => some 0x7B
  | _ => none

def sign (lexer : Lexer) : Except Halt (List Token × Lexer) :=
  let c := lexer.cursor
  let s := signAt c.rest
  let found (lexer : Lexer) : Except Halt (List Token × Lexer) :=
    let (token, next) := lexer.token s.length (.sign s)
    .ok ([token], next)
  match c.rest with
  | [] => .error lexer.endsEarly
  | x :: _ =>
    if x == 0x28 || x == 0x5B || x == 0x7B then
      if lexer.brackets.length ≥ maxBrackets then
        .error (loud c.line (c.offset + 1) "too many nested parentheses")
      else found { lexer with brackets := ⟨x, c.line, c.column⟩ :: lexer.brackets }
    else
      match partner? x with
      | some partner =>
        match lexer.brackets with
        | [] => .error (loud c.line (c.offset + 1) s!"unmatched '{s}'")
        | b :: brackets =>
          if b.char = partner then found { lexer with brackets }
          else
            let onLine := if b.line = c.line then "" else s!" on line {b.line}"
            .error (loud c.line (c.offset + 1)
              (s!"closing parenthesis '{s}' does not match opening parenthesis " ++
                s!"'{Text.toString [b.char]}'{onLine}"))
      | none =>
        if s.length = 1 && !isPrintable x then
          .error (loud c.line (c.offset + 1) (strayMessage x))
        else found lexer

/-- The next token of a line, or what is to be left out before it. -/
def insideLine (lexer : Lexer) : Except Halt (List Token × Lexer) :=
  match lexer.cursor.rest with
  | [] => .error lexer.endsEarly
  | c :: rest =>
    if c == 0x20 || c == 0x09 || c == 0x0C then
      .ok ([], { lexer with cursor := lexer.cursor.step })
    else if c == 0x23 || c == 0x0A then .ok lexer.newline
    else if c == 0x5C then (lexer.joinLine).map ([], ·)
    else
      match lettersBeforeQuote? {} 0 (c :: rest) with
      | some letters => lexer.string letters
      | none =>
        if isNameStart c then lexer.word
        else if isAsciiDigit c || (c == 0x2E && (rest.head?.map isAsciiDigit).getD false) then
          lexer.number
        else lexer.sign

/-- The tokens from here on; `bound` is more than the steps that are left. -/
def run : Nat → Lexer → Array Token → Tokens
  | 0, lexer, found => ⟨found, some lexer.endsEarly⟩
  | bound + 1, lexer, found =>
    if !lexer.isFresh && lexer.cursor.rest.isEmpty then
      if lexer.brackets.isEmpty then ⟨found.push (lexer.layout .endMarker), none⟩
      else ⟨found, some lexer.endsEarly⟩
    else
      match if lexer.isFresh then lexer.beginLine else lexer.insideLine with
      | .error halt => ⟨found, some halt⟩
      | .ok (tokens, next) => run bound next (found ++ tokens)

end Lexer

/-- The text with line feeds as its only line ends, and one of them at the end. Behind a line end of
two characters at the very end there is an empty line. -/
def unifyLines : Text → Text
  | [] => [0x0A]
  | [0x0A] | [0x0D] => [0x0A]
  | 0x0D :: 0x0A :: rest => 0x0A :: unifyLines rest
  | 0x0D :: rest => 0x0A :: unifyLines rest
  | c :: rest => c :: unifyLines rest

/-- The tokens of a text whose lines have been unified. -/
def Tokens.ofText (page : Page) (text : Text) : Tokens :=
  let cursor : Cursor := { rest := text, line := (page.origin.map Origin.line).getD 1 }
  Lexer.run (3 * text.length + 3) { page, cursor, shown := cursor } #[]

end LiteralScrub.Python
