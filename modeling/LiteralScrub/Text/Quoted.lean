import LiteralScrub.Text.Printable

/-!
# Quoted texts

A text is quoted by single quotes, or by double quotes if it holds a single quote and no double one.
A backslash, the quote itself, tab, line feed and carriage return are written with a backslash,
and what is not printable by its code point in hexadecimal.
-/
namespace LiteralScrub.Text

/-- The quote that encloses the text. -/
def quoteFor (t : Text) : CodePoint :=
  if 0x27 ∈ t && 0x22 ∉ t then 0x22 else 0x27

/-- A code point by its hexadecimal number, in the shortest of the three forms that holds it. -/
def hexEscape (c : CodePoint) : Text :=
  if c ≤ 0xFF then ofString "\\x" ++ ofNatPadded 16 2 c
  else if c ≤ 0xFFFF then ofString "\\u" ++ ofNatPadded 16 4 c
  else ofString "\\U" ++ ofNatPadded 16 8 c

def quotedPoint (quote c : CodePoint) : Text :=
  if c == quote || c == 0x5C then [0x5C, c]
  else if c == 0x09 then ofString "\\t"
  else if c == 0x0A then ofString "\\n"
  else if c == 0x0D then ofString "\\r"
  else if isPrintable c then [c]
  else hexEscape c

def quoted (t : Text) : Text :=
  let quote := quoteFor t
  quote :: t.flatMap (quotedPoint quote) ++ [quote]

end LiteralScrub.Text
