/-!
# Text as code points

A text is a sequence of Unicode code points in which a surrogate may stand alone, so that text
read from damaged bytes can be held without loss. `String` covers the texts without surrogates.
-/
namespace LiteralScrub

abbrev CodePoint := Nat

abbrev Text := List CodePoint

/-- The code points that UTF-16 reserves for pairs; no character has one of them. -/
def isSurrogate (c : CodePoint) : Bool := 0xD800 ≤ c && c ≤ 0xDFFF

namespace Text

def ofChars (cs : List Char) : Text := cs.map Char.toNat

def ofString (s : String) : Text := ofChars s.toList

/-- A surrogate has no character and becomes U+FFFD. -/
def toString (t : Text) : String :=
  String.ofList (t.map fun c => if isSurrogate c then Char.ofNat 0xFFFD else Char.ofNat c)

def hasSurrogate (t : Text) : Bool := t.any isSurrogate

/-- The decimal digits of a number. -/
def ofNat (n : Nat) : Text := ofChars (Nat.toDigits 10 n)

def ofInt (n : Int) : Text :=
  if n < 0 then 0x2D :: ofNat n.natAbs else ofNat n.natAbs

/-- The digits of `n` to the given base, filled up on the left with zeros to the width. -/
def ofNatPadded (base width n : Nat) : Text :=
  let digits := ofChars (Nat.toDigits base n)
  List.replicate (width - digits.length) 0x30 ++ digits

def join (separator : Text) : List Text → Text
  | [] => []
  | [t] => t
  | t :: ts => t ++ separator ++ join separator ts

/-- The text split at each occurrence of `c`; there is one part more than occurrences. -/
def splitOn (c : CodePoint) : Text → List Text
  | [] => [[]]
  | x :: xs =>
    match splitOn c xs with
    | [] => [[x]]
    | part :: parts => if x = c then [] :: part :: parts else (x :: part) :: parts

/-- The text up to a bound. A bound below zero counts back from the end, and nothing is left by one
that reaches back beyond the start. -/
def upTo (t : Text) (bound : Int) : Text :=
  t.take (if bound < 0 then t.length + bound else bound).toNat

def startsWith (t lead : Text) : Bool := lead.isPrefixOf t

def endsWith (t tail : Text) : Bool := tail.isSuffixOf t

/-- Whether `part` occurs in the text. -/
def contains (part : Text) : Text → Bool
  | [] => part.isEmpty
  | c :: t => part.isPrefixOf (c :: t) || contains part t

/-- The text with each leftmost occurrence of `part`, which is not empty, replaced by `by'`. -/
def replaceAll (part by' : Text) (t : Text) : Text :=
  go t.length t
where
  go : Nat → Text → Text
    | 0, t => t
    | _ + 1, [] => []
    | n + 1, c :: t =>
      if part.isPrefixOf (c :: t) then by' ++ go n ((c :: t).drop part.length) else c :: go n t

end Text

end LiteralScrub
