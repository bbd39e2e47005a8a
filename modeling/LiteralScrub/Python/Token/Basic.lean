import LiteralScrub.Source.Fault

/-!
# Tokens of Python

A token knows its place in the source, in lines and in bytes of a line, and how far the source had
been looked at when it was found. Faults are reported by line and column; the column counts
characters in the text that was being looked at.
-/
namespace LiteralScrub.Python

/-- A place in a text that is being read. -/
structure Cursor where
  rest : Text
  line : Nat := 1
  /-- Bytes before it in its line. -/
  column : Nat := 0
  /-- Characters before it in its line. -/
  offset : Nat := 0
  /-- Bytes before it in the whole text. -/
  position : Nat := 0
  /-- Bytes in the line before its own, the end of that line included. -/
  passed : Nat := 0
  deriving Inhabited

namespace Cursor

/-- Goes on by one character. -/
def step (c : Cursor) : Cursor :=
  match c.rest with
  | [] => c
  | x :: rest =>
    if x = 0x0A then
      { rest, line := c.line + 1, position := c.position + 1, passed := c.column + 1 }
    else
      { c with
        rest
        column := c.column + Utf8.width x
        offset := c.offset + 1
        position := c.position + Utf8.width x }

/-- Goes on by some characters. -/
def advance : Nat → Cursor → Cursor
  | 0, c => c
  | n + 1, c => advance n c.step

/-- Goes on as long as the characters are of one kind. -/
def skipWhile (p : CodePoint → Bool) (c : Cursor) : Cursor :=
  advance (c.rest.takeWhile p).length c

end Cursor

inductive Lexeme where
  | name (t : Text)
  | keyword (word : String)
  | number (t : Text)
  /-- A string as it is written, with its quotes and the letters before them. -/
  | string (t : Text)
  | sign (s : String)
  | newline
  | indent
  | dedent
  | endMarker
  deriving DecidableEq, Repr, Inhabited

/-- How far a source has been looked at: the line, the bytes of it, and the text from whose
beginning columns are counted in that line. -/
structure Sight where
  line : Nat
  column : Nat
  shown : Text
  deriving Inhabited

structure Token where
  lexeme : Lexeme
  line : Nat
  /-- Where it begins; indentation and the end of the source stand in no column. -/
  column : Option Nat
  endLine : Nat
  endColumn : Nat
  /-- How many brackets are open behind it. -/
  depth : Nat
  sight : Sight
  deriving Inhabited

namespace Token

/-- Whether it only tells where lines and blocks end. -/
def isLayout (t : Token) : Bool :=
  match t.lexeme with
  | .newline | .indent | .dedent | .endMarker => true
  | _ => false

end Token

/-- The words that are no names. -/
def keywords : List String := [
  "False", "None", "True", "and", "as", "assert", "async", "await", "break", "class", "continue",
  "def", "del", "elif", "else", "except", "finally", "for", "from", "global", "if", "import", "in",
  "is", "lambda", "nonlocal", "not", "or", "pass", "raise", "return", "try", "while", "with",
  "yield"]

/-- Where the text of an interpolated expression begins in the source. -/
structure Origin where
  line : Nat
  column : Nat
  deriving Inhabited

/-- The text that is being read. -/
structure Page where
  lines : Array Text
  /-- For the text of an interpolated expression, its place. -/
  origin : Option Origin := none
  deriving Inhabited

/-- How many characters the first bytes of a text belong to. Behind the end there is room for one
more. -/
def charactersIn : Nat → Text → Nat
  | 0, _ => 0
  | _ + 1, [] => 1
  | n + 1, c :: rest => charactersIn (n + 1 - Utf8.width c) rest + 1

/-- A broken rule of the language, with its place. -/
structure SyntaxFault where
  line : Nat
  column : Int
  message : Text
  deriving DecidableEq, Repr, Inhabited

def SyntaxFault.toReadFault (fault : SyntaxFault) : ReadFault :=
  .syntaxError (some (fault.line, fault.column)) fault.message

/-- The fault at a line and a column, of which the last is counted in bytes from one. Columns of an
interpolated expression are left in bytes and counted from its beginning. -/
def Page.fault (page : Page) (sight : Sight) (line column : Nat) (message : Text) : SyntaxFault :=
  match page.origin with
  | some origin => ⟨line, (column : Int) - origin.column, Text.ofString "f-string: " ++ message⟩
  | none =>
    let shown := if sight.line ≤ line then sight.shown else page.lines.getD (line - 1) []
    ⟨line, charactersIn column shown, message⟩

/-- Why there are no more tokens before the end of a source. -/
structure Halt where
  fault : SyntaxFault
  /-- Whether the fault is reported also if the grammar is broken before it. -/
  isLoud : Bool
  /-- The line of the innermost open bracket, with the fault that it was never closed. -/
  unclosed : Option (Nat × SyntaxFault)
  deriving Inhabited

/-- The tokens of a source. Without a halt the last one is the end marker. -/
structure Tokens where
  list : Array Token
  halt : Option Halt
  deriving Inhabited

end LiteralScrub.Python
