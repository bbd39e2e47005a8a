import LiteralScrub.Text.Basic

/-!
# Decimal digits

The decimal digits of Unicode 14.0 come in sets of ten, each in increasing order from its zero.
-/
namespace LiteralScrub

def digitZeros : List CodePoint := [
  0x30, 0x660, 0x6f0, 0x7c0, 0x966, 0x9e6, 0xa66, 0xae6, 0xb66, 0xbe6,
  0xc66, 0xce6, 0xd66, 0xde6, 0xe50, 0xed0, 0xf20, 0x1040, 0x1090, 0x17e0,
  0x1810, 0x1946, 0x19d0, 0x1a80, 0x1a90, 0x1b50, 0x1bb0, 0x1c40, 0x1c50, 0xa620,
  0xa8d0, 0xa900, 0xa9d0, 0xa9f0, 0xaa50, 0xabf0, 0xff10, 0x104a0, 0x10d30, 0x11066,
  0x110f0, 0x11136, 0x111d0, 0x112f0, 0x11450, 0x114d0, 0x11650, 0x116c0, 0x11730, 0x118e0,
  0x11950, 0x11c50, 0x11d50, 0x11da0, 0x16a60, 0x16ac0, 0x16b50, 0x1d7ce, 0x1d7d8, 0x1d7e2,
  0x1d7ec, 0x1d7f6, 0x1e140, 0x1e2f0, 0x1e950, 0x1fbf0]

/-- The value of a decimal digit of any script. -/
def digitValue? (c : CodePoint) : Option Nat :=
  (digitZeros.find? fun z => z ≤ c && c < z + 10).map (c - ·)

def isDigit (c : CodePoint) : Bool := (digitValue? c).isSome

/-- A digit `0` to `9`. -/
def isAsciiDigit (c : CodePoint) : Bool := 0x30 ≤ c && c ≤ 0x39

def isAsciiLetter (c : CodePoint) : Bool := (0x41 ≤ c && c ≤ 0x5A) || (0x61 ≤ c && c ≤ 0x7A)

/-- The value of a digit `0` to `9`, `a` to `f` or `A` to `F`. -/
def hexValue? (c : CodePoint) : Option Nat :=
  if 0x30 ≤ c && c ≤ 0x39 then some (c - 0x30)
  else if 0x61 ≤ c && c ≤ 0x66 then some (c - 0x57)
  else if 0x41 ≤ c && c ≤ 0x46 then some (c - 0x37)
  else none

def isHexDigit (c : CodePoint) : Bool := (hexValue? c).isSome

def isOctalDigit (c : CodePoint) : Bool := 0x30 ≤ c && c ≤ 0x37

/-- The number that digits of the given base spell; each is taken by its hexadecimal value. -/
def Text.toNatBase (base : Nat) (t : Text) : Nat :=
  t.foldl (fun n c => n * base + (hexValue? c).getD 0) 0

end LiteralScrub
