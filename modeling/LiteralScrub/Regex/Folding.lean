import LiteralScrub.Regex.Syntax
import LiteralScrub.Text.Alphanumeric
import LiteralScrub.Text.Case
import LiteralScrub.Text.Digit
import LiteralScrub.Text.Space

/-!
# Which characters a node takes

Without regard to case a character is compared by its lower case. Some lower-case characters
share their upper case; `caseClasses` lists them. Sets lower their members in the Basic
Multilingual Plane only: a single member above it is compared as it is written.
-/
namespace LiteralScrub.Regex

/-- How case is disregarded. -/
inductive Fold where
  | exact
  | ascii
  | unicode
  deriving DecidableEq, Repr, Inhabited

def Flags.fold (flags : Flags) : Fold :=
  if !flags.ignoreCase then .exact else if flags.unicode then .unicode else .ascii

/-- Lower-case characters of one upper case. -/
def caseClasses : List (List CodePoint) := [
  [0x69, 0x131], [0x73, 0x17F], [0xB5, 0x3BC], [0x345, 0x3B9, 0x1FBE], [0x390, 0x1FD3],
  [0x3B0, 0x1FE3], [0x3B2, 0x3D0], [0x3B5, 0x3F5], [0x3B8, 0x3D1], [0x3BA, 0x3F0],
  [0x3C0, 0x3D6], [0x3C1, 0x3F1], [0x3C2, 0x3C3], [0x3C6, 0x3D5], [0x432, 0x1C80],
  [0x434, 0x1C81], [0x43E, 0x1C82], [0x441, 0x1C83], [0x442, 0x1C84, 0x1C85], [0x44A, 0x1C86],
  [0x463, 0x1C87], [0x1C88, 0xA64B], [0x1E61, 0x1E9B], [0xFB05, 0xFB06]]

/-- The lower-case characters that share their upper case with `c`, and `c` itself. -/
def caseClass (c : CodePoint) : List CodePoint :=
  (caseClasses.find? (·.contains c)).getD [c]

namespace Fold

def lower : Fold → CodePoint → CodePoint
  | exact, c => c
  | ascii, c => if 0x41 ≤ c && c ≤ 0x5A then c + 0x20 else c
  | unicode, c => toLower c

def isCased : Fold → CodePoint → Bool
  | exact, _ => false
  | ascii, c => isAsciiLetter c
  | unicode, c => LiteralScrub.isCased c

/-- The lower-case characters that count as `c`, which is in lower case. -/
def equals : Fold → CodePoint → List CodePoint
  | unicode, c => caseClass c
  | _, c => [c]

/-- The characters whose lower case is `c`. -/
def sources : Fold → CodePoint → List CodePoint
  | exact, c => [c]
  | ascii, c =>
    if 0x41 ≤ c && c ≤ 0x5A then []
    else if 0x61 ≤ c && c ≤ 0x7A then [c, c - 0x20]
    else [c]
  | unicode, c => lowerSources c

end Fold

/-- Whether the character `x` counts as `c`. -/
def matchesPoint (fold : Fold) (c x : CodePoint) : Bool :=
  if fold.isCased c then (fold.equals (fold.lower c)).contains (fold.lower x) else x == c

def isWordPoint (unicode : Bool) (c : CodePoint) : Bool :=
  if unicode then isAlphanumeric c || c == 0x5F
  else isAsciiLetter c || isAsciiDigit c || c == 0x5F

def Category.holds (unicode : Bool) (c : CodePoint) : Category → Bool
  | digit => if unicode then isDigit c else isAsciiDigit c
  | space => if unicode then isSpace c else c == 0x20 || (0x09 ≤ c && c ≤ 0x0D)
  | word => isWordPoint unicode c

namespace SetItem

/-- Whether the item holds the character as it is. -/
def holds (unicode : Bool) (x : CodePoint) : SetItem → Bool
  | point c => x == c
  | range lo hi => lo ≤ x && x ≤ hi
  | category kind negated => kind.holds unicode x != negated

/-- The last code point of the Basic Multilingual Plane. -/
def planeEnd : CodePoint := 0xFFFF

/-- The cased characters of the Basic Multilingual Plane, as the ranges that hold them all. -/
def hasCasedBetween (fold : Fold) (lo hi : CodePoint) : Bool :=
  match fold with
  | .exact => false
  | .ascii => (lo ≤ 0x5A && 0x41 ≤ hi) || (lo ≤ 0x7A && 0x61 ≤ hi)
  | .unicode =>
    let meets : CaseRun → Bool := fun (first, last, step, _) =>
      let from' := if lo ≤ first then first else first + (lo - first + step - 1) / step * step
      from' ≤ last && from' ≤ hi
    lowerRuns.any meets || upperRuns.any meets

/-- Whether case makes a difference for the item; above the Basic Multilingual Plane it always
counts as if it did. -/
def isCased (fold : Fold) : SetItem → Bool
  | point c => fold.isCased c || fold.lower c > planeEnd
  | range lo hi => hasCasedBetween fold lo hi || hi > planeEnd
  | category _ _ => false

/-- Whether the item holds the lower-case character `x` without regard to case. -/
def holdsFolded (fold : Fold) (unicode : Bool) (x : CodePoint) : SetItem → Bool
  | point c =>
    let lowered := fold.lower c
    if lowered ≤ planeEnd then (fold.equals lowered).contains x else x == c
  | range lo hi =>
    let inPlane := (fold.equals x).any fun y => (fold.sources y).any fun source =>
      lo ≤ source && source ≤ hi && source ≤ planeEnd
    inPlane || (hi > planeEnd &&
      ((lo ≤ x && x ≤ hi) || (lo ≤ toUpper x && toUpper x ≤ hi)))
  | category kind negated => kind.holds unicode x != negated

end SetItem

/-- Whether a set takes the character. -/
def matchesSet (fold : Fold) (unicode negated : Bool) (items : List SetItem) (x : CodePoint) :
    Bool :=
  let held :=
    if fold ≠ .exact && items.any (·.isCased fold) then
      items.any (·.holdsFolded fold unicode (fold.lower x))
    else items.any (·.holds unicode x)
  held != negated

end LiteralScrub.Regex
