import LiteralScrub.Text.CombiningClass
import LiteralScrub.Text.Composition
import LiteralScrub.Text.Decomposition
import LiteralScrub.Text.Digit

/-!
# Names in normal form

Names that differ only in how their characters are written are the same. In the normal form the
characters are taken apart, their marks are put in the order of their classes, and what belongs
together is put together again. The tables hold the characters that can be part of a name.
-/
namespace LiteralScrub.Normal

/-- The codes in a text, with blanks between them. -/
def codesOf (t : Text) : Text :=
  ((Text.splitOn 0x20 t).filter (!·.isEmpty)).map (Text.toNatBase 16)

/-- The rows of a table: the code in front, and the codes in each item. -/
def rowsOf (table : String) : List (CodePoint × List Text) :=
  (table.splitOn "\n").filterMap fun line =>
    match Text.splitOn 0x3B ((Text.ofString line).dropWhile (· == 0x20)) with
    | [] => none
    | first :: items => some (Text.toNatBase 16 first, items.map codesOf)

def decompositionRows : List (CodePoint × List Text) := rowsOf decompositionTable

def compositionRows : List (CodePoint × List Text) := rowsOf compositionTable

/-! ## Hangul -/

def firstSyllable : CodePoint := 0xAC00

/-- The numbers of the sounds of a syllable: beginning, middle and end, of which there are 19, 21
and 28. -/
def soundsOf? (c : CodePoint) : Option (Nat × Nat × Nat) :=
  let n := c - firstSyllable
  if firstSyllable ≤ c && n < 19 * 21 * 28 then some (n / 588, n % 588 / 28, n % 28) else none

def syllableParts? (c : CodePoint) : Option Text := do
  let (first, middle, last) ← soundsOf? c
  return [0x1100 + first, 0x1161 + middle] ++ (if last = 0 then [] else [0x11A7 + last])

/-- Two letters, or a syllable without an end and a letter. -/
def syllableOf? (a b : CodePoint) : Option CodePoint :=
  if 0x1100 ≤ a && a < 0x1100 + 19 && 0x1161 ≤ b && b < 0x1161 + 21 then
    some (firstSyllable + ((a - 0x1100) * 21 + (b - 0x1161)) * 28)
  else
    match soundsOf? a with
    | some (_, _, 0) => if 0x11A7 < b && b < 0x11A7 + 28 then some (a + (b - 0x11A7)) else none
    | _ => none

/-! ## Taking apart -/

def listedParts? (c : CodePoint) : Option Text :=
  decompositionRows.findSome? fun (first, items) =>
    if c < first then none
    else
      match items[c - first]? with
      | some (part :: parts) => some (part :: parts)
      | _ => none

/-- What a character stands for. -/
def parts (c : CodePoint) : Text :=
  if c < 0x80 then [c] else ((syllableParts? c).or (listedParts? c)).getD [c]

/-! ## Ordering marks -/

/-- Puts a character behind others, the last of which comes first; a mark passes marks of higher
classes. -/
def settle (c : CodePoint) : Text → Text
  | [] => [c]
  | b :: before =>
    if combiningClass c ≠ 0 && combiningClass b > combiningClass c then b :: settle c before
    else c :: b :: before

def ordered (t : Text) : Text := (t.foldl (fun before c => settle c before) []).reverse

/-! ## Putting together -/

def listedWhole? (a b : CodePoint) : Option CodePoint :=
  compositionRows.findSome? fun (first, items) =>
    if first ≠ a then none
    else
      items.findSome? fun
        | [second, whole] => if second = b then some whole else none
        | _ => none

/-- The character that two characters make. -/
def whole? (a b : CodePoint) : Option CodePoint := (syllableOf? a b).or (listedWhole? a b)

/-- Puts characters together with the last one of class zero, `base`. Behind it stand the marks
`between`, the last of which comes first; a mark does not reach over one of its own class or a
higher one. -/
def composeFrom (base : CodePoint) (between : Text) : Text → Text
  | [] => base :: between.reverse
  | c :: rest =>
    let isBlocked := match between with
      | [] => false
      | b :: _ => combiningClass b ≥ combiningClass c
    match if isBlocked then none else whole? base c with
    | some whole => composeFrom whole between rest
    | none =>
      if combiningClass c = 0 then base :: between.reverse ++ composeFrom c [] rest
      else composeFrom base (c :: between) rest

def composed : Text → Text
  | [] => []
  | c :: rest => if combiningClass c = 0 then composeFrom c [] rest else c :: composed rest

end LiteralScrub.Normal

namespace LiteralScrub

/-- The normal form of a name. -/
def Text.normalName (name : Text) : Text :=
  if name.all (· < 0x80) then name
  else Normal.composed (Normal.ordered (name.flatMap Normal.parts))

end LiteralScrub
