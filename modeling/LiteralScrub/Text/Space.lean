import LiteralScrub.Text.Ranges

/-!
# White space

The code points of Unicode 14.0 of bidirectional class WS, B or S, or of category Zs.
-/
namespace LiteralScrub

/-- First and last code point of each run, in increasing order. -/
def spaceRanges : Array (Nat × Nat) := #[
  (0x9, 0xd), (0x1c, 0x20), (0x85, 0x85), (0xa0, 0xa0), (0x1680, 0x1680), (0x2000, 0x200a),
  (0x2028, 0x2029), (0x202f, 0x202f), (0x205f, 0x205f), (0x3000, 0x3000)]

/-- White space of any script. -/
def isSpace (c : CodePoint) : Bool := inRanges spaceRanges c

end LiteralScrub
