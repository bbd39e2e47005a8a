import LiteralScrub.Text.Digit
import LiteralScrub.Text.Space

/-!
# Escapes in Lua strings

An escape by a number stands for the character of that number. A backslash in front of the end of
a line takes it away, and `\z` the blanks behind it.
-/
namespace LiteralScrub.Lua

/-- What the letter of an escape stands for. -/
def namedEscape? : CodePoint → Option CodePoint
  | 0x61 => some 0x07
  | 0x62 => some 0x08
  | 0x66 => some 0x0C
  | 0x6E => some 0x0A
  | 0x72 => some 0x0D
  | 0x74 => some 0x09
  | 0x76 => some 0x0B
  | 0x22 => some 0x22
  | 0x27 => some 0x27
  | 0x5C => some 0x5C
  | _ => none

/-- The text of an escape, of which the backslash is gone, and what follows. -/
def unescapeOne (t : Text) : Text × Text :=
  match t with
  | 0x0D :: 0x0A :: rest => ([], rest)
  | 0x0A :: rest => ([], rest)
  | 0x7A :: rest => ([], rest.dropWhile isSpace)
  | 0x78 :: a :: b :: rest => ([Text.toNatBase 16 [a, b]], rest)
  | 0x75 :: 0x7B :: rest =>
    let digits := rest.takeWhile isHexDigit
    ([Text.toNatBase 16 digits], rest.drop (digits.length + 1))
  | c :: rest =>
    if isAsciiDigit c then
      let digits := (t.take 3).takeWhile isAsciiDigit
      ([Text.toNatBase 10 digits], t.drop digits.length)
    else
      match namedEscape? c with
      | some point => ([point], rest)
      | none => ([0x5C, c], rest)
  | [] => ([0x5C], [])

def unescapeFrom : Nat → Text → Text
  | _, [] => []
  | 0, t => t
  | fuel + 1, c :: rest =>
    if c == 0x5C then
      let (head, rest) := unescapeOne rest
      head ++ unescapeFrom fuel rest
    else c :: unescapeFrom fuel rest

/-- The text that the body of a quoted string denotes. -/
def unescape (raw : Text) : Text := unescapeFrom raw.length raw

end LiteralScrub.Lua
