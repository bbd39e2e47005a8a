import LiteralScrub.Text.Space

/-!
# Lines of a text

A line ends with any of the separators of Unicode; a carriage return and the line feed behind it
are one end.
-/
namespace LiteralScrub

/-- The code points that end a line. -/
def isLineEnd (c : CodePoint) : Bool :=
  (0x0A ≤ c && c ≤ 0x0D) || (0x1C ≤ c && c ≤ 0x1E) || c == 0x85 || c == 0x2028 || c == 0x2029

namespace Text

/-- The lines of a text, each with its end. -/
def lines : Text → List Text
  | [] => []
  | 0x0D :: 0x0A :: rest => [0x0D, 0x0A] :: lines rest
  | c :: rest =>
    if isLineEnd c then [c] :: lines rest
    else
      match rest, lines rest with
      | [], _ => [[c]]
      | _ :: _, [] => [[c]]
      | _ :: _, line :: others => (c :: line) :: others

/-- The text behind `before`, which is given last code point first, with each carriage return, and
each carriage return with a line feed, made a line feed. -/
def unifyLineEndsOnto (before : Text) : Text → Text
  | [] => before.reverse
  | 0x0D :: 0x0A :: rest => unifyLineEndsOnto (0x0A :: before) rest
  | c :: rest => unifyLineEndsOnto ((if c == 0x0D then 0x0A else c) :: before) rest

def unifyLineEnds (t : Text) : Text := unifyLineEndsOnto [] t

/-- Whether a text holds nothing but white space. -/
def isBlank (t : Text) : Bool := t.all isSpace

/-- Puts `margin` in front of each line that is not blank. -/
def indented (t margin : Text) : Text :=
  t.lines.flatMap fun line => if line.isBlank then line else margin ++ line

end Text

end LiteralScrub
