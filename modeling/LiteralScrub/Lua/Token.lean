import LiteralScrub.Text.Digit
import LiteralScrub.Tree.Value

/-!
# Tokens of Lua

A source is cut into names, numbers, strings and signs; words of the language are signs. Blanks,
comments and a line that begins with `#!` are left out. Each token knows its line.
-/
namespace LiteralScrub.Lua

inductive Lexeme where
  | name (t : Text)
  | number (t : Text)
  /-- The body of a string between its delimiters. -/
  | string (delimiter : Symbol) (raw : Text)
  | sign (s : String)
  deriving DecidableEq, Repr, Inhabited

structure Token where
  lexeme : Lexeme
  line : Nat
  deriving Repr, Inhabited

/-- The words that are no names. -/
def reservedWords : List String := [
  "and", "break", "do", "else", "elseif", "end", "false", "for", "function", "goto", "if", "in",
  "local", "nil", "not", "or", "repeat", "return", "then", "true", "until", "while"]

/-- The signs, a longer one before its beginnings. -/
def signs : List String := [
  "...", "..", "==", "~=", "<=", ">=", "<<", ">>", "//", "::", "+", "-", "*", "/", "%", "^", "#",
  "&", "~", "|", "<", ">", "=", "(", ")", "\x7b", "\x7d", "[", "]", ";", ":", ",", "."]

namespace Token

def isNameStart (c : CodePoint) : Bool := isAsciiLetter c || c == 0x5F

def isNamePart (c : CodePoint) : Bool := isNameStart c || isAsciiDigit c

def isBlank (c : CodePoint) : Bool := c == 0x20 || c == 0x09 || c == 0x0C || c == 0x0D || c == 0x0A

/-- How many code points of an exponent stand at the beginning; `e` is its mark in lower case. -/
def exponentLength (e : CodePoint) : Text → Nat
  | c :: rest =>
    if c == e || c + 0x20 == e then
      let signLength := match rest with
        | s :: _ => if s == 0x2B || s == 0x2D then 1 else 0
        | [] => 0
      let digits := (rest.drop signLength).takeWhile isAsciiDigit
      if digits.isEmpty then 0 else 1 + signLength + digits.length
    else 0
  | [] => 0

/-- How many code points of a numeral stand at the beginning, for digits of one kind. -/
def mantissaLength (digit : CodePoint → Bool) (e : CodePoint) (t : Text) : Nat :=
  let whole := (t.takeWhile digit).length
  let places := match t.drop whole with
    | 0x2E :: rest =>
      let n := (rest.takeWhile digit).length
      if whole + n = 0 then 0 else n + 1
    | _ => 0
  if whole + places = 0 then 0
  else whole + places + exponentLength e (t.drop (whole + places))

/-- How many code points of a numeral stand at the beginning; zero if there is none. -/
def numberLength (t : Text) : Nat :=
  let hexadecimal := match t with
    | 0x30 :: x :: rest =>
      if x == 0x78 || x == 0x58 then mantissaLength isHexDigit 0x70 rest else 0
    | _ => 0
  if hexadecimal > 0 then hexadecimal + 2 else mantissaLength isAsciiDigit 0x65 t

/-- The number of equal signs of a long bracket that opens here. -/
def longBracket? : Text → Option Nat
  | 0x5B :: rest =>
    let level := (rest.takeWhile (· == 0x3D)).length
    if (rest.drop level).head? == some 0x5B then some level else none
  | _ => none

/-- The bracket that closes a long one. -/
def closing (level : Nat) : Text := 0x5D :: List.replicate level 0x3D ++ [0x5D]

/-- What stands before the first occurrence of `part`, if there is one. -/
def before? (part : Text) : Text → Option Text
  | [] => none
  | c :: rest => if part.isPrefixOf (c :: rest) then some [] else (before? part rest).map (c :: ·)

/-- How many code points an escape takes, behind its backslash. -/
def escapeLength? : Text → Option Nat
  | 0x0D :: 0x0A :: _ => some 2
  | 0x78 :: a :: b :: _ => if isHexDigit a && isHexDigit b then some 3 else none
  | 0x75 :: 0x7B :: rest =>
    let digits := (rest.takeWhile isHexDigit).length
    if digits > 0 && (rest.drop digits).head? == some 0x7D then some (digits + 3) else none
  | c :: _ =>
    if isAsciiDigit c || c ∈ Text.ofString "abfnrtvz\"'\\\n" then some 1 else none
  | [] => none

/-- The body of a string up to its quote. -/
def quotedBody? (quote : CodePoint) : Nat → Text → Option Text
  | 0, _ | _, [] => none
  | fuel + 1, c :: rest =>
    if c == quote then some []
    else if c == 0x5C then do
      let n ← escapeLength? rest
      return c :: rest.take n ++ (← quotedBody? quote fuel (rest.drop n))
    else (quotedBody? quote fuel rest).map (c :: ·)

/-- What stands at the beginning of a text: something to leave out or a lexeme, and its length. -/
def next? (t : Text) : Option (Option Lexeme × Nat) :=
  match t with
  | [] => none
  | 0x23 :: 0x21 :: rest => some (none, 2 + (rest.takeWhile fun c => c != 0x0A && c != 0x0D).length)
  | 0x2D :: 0x2D :: rest =>
    match longBracket? rest with
    | some level => do
      let opening := level + 2
      let body ← before? (closing level) (rest.drop opening)
      return (none, 2 + opening + body.length + opening)
    | none => some (none, 2 + (rest.takeWhile fun c => c != 0x0A && c != 0x0D).length)
  | c :: rest =>
    if isBlank c then some (none, 1)
    else if isNameStart c then
      let word := t.takeWhile isNamePart
      let spelling := Text.toString word
      let lexeme := if spelling ∈ reservedWords then .sign spelling else .name word
      some (some lexeme, word.length)
    else if c == 0x22 || c == 0x27 then do
      let body ← quotedBody? c rest.length rest
      let delimiter := if c == 0x22 then Symbol.doubleQuote else Symbol.singleQuote
      return (some (.string delimiter body), body.length + 2)
    else
      match longBracket? t, numberLength t with
      | some level, _ => do
        let opening := level + 2
        let body ← before? (closing level) (t.drop opening)
        return (some (.string .doubleSquare body), body.length + 2 * opening)
      | none, 0 => do
        let found ← signs.find? fun s => (Text.ofString s).isPrefixOf t
        return (some (.sign found), found.length)
      | none, n + 1 => some (some (.number (t.take (n + 1))), n + 1)

/-- The tokens of a text that begins in the given line. -/
def listFrom : Nat → Nat → Text → Option (List Token)
  | _, _, [] => some []
  | 0, _, _ => none
  | fuel + 1, line, t => do
    let (lexeme?, length) ← next? t
    let rest ← listFrom fuel (line + (t.take length).count 0x0A) (t.drop length)
    match lexeme? with
    | some lexeme => return ⟨lexeme, line⟩ :: rest
    | none => return rest

/-- The tokens of a source; none if it cannot be cut. -/
def list? (source : Text) : Option (List Token) := listFrom source.length 1 source

end Token

end LiteralScrub.Lua
