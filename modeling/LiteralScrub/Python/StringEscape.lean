import LiteralScrub.Text.CharacterName
import LiteralScrub.Text.Digit
import LiteralScrub.Text.Utf8

/-!
# Escapes in strings of Python

A backslash with what follows it stands for one character, for none before the end of a line, and
for itself before a character that makes no escape. Positions in faults are counted as if every
character beyond ASCII were written as an escape of ten characters.
-/
namespace LiteralScrub.Python

/-- What a letter behind a backslash stands for. -/
def simpleEscape? (c : CodePoint) : Option CodePoint :=
  match c with
  | 0x5C | 0x27 | 0x22 => some c
  | 0x61 => some 0x07
  | 0x62 => some 0x08
  | 0x66 => some 0x0C
  | 0x6E => some 0x0A
  | 0x72 => some 0x0D
  | 0x74 => some 0x09
  | 0x76 => some 0x0B
  | _ => none

namespace StringEscape

/-- A fault in the characters from `first` up to `last`. -/
structure Fault where
  first : Nat
  last : Nat
  reason : String
  deriving DecidableEq, Repr, Inhabited

def Fault.message (f : Fault) : Text :=
  Text.ofString
    (s!"(unicode error) 'unicodeescape' codec can't decode bytes in position {f.first}-{f.last}: " ++
      f.reason)

/-- The number of hexadecimal digits of an escape and what it is called. -/
def hexEscape? (c : CodePoint) : Option (Nat × String) :=
  match c with
  | 0x78 => some (2, "\\xXX")
  | 0x75 => some (4, "\\uXXXX")
  | 0x55 => some (8, "\\UXXXXXXXX")
  | _ => none

/-- The width of a character when positions are counted. -/
def countedWidth (c : CodePoint) : Nat := if c < 0x80 then 1 else 10

def countedLength (t : Text) : Nat := (t.map countedWidth).foldr (· + ·) 0

/-- An escape by number, behind its letter; `first` is the position of the backslash. It gives the
character and how many digits it took. -/
def hexEscape (first count : Nat) (name : String) (t : Text) : Except Fault (CodePoint × Nat) :=
  let digits := (t.take count).takeWhile isHexDigit
  if digits.length < count then
    .error ⟨first, first + 1 + digits.length, s!"truncated {name} escape"⟩
  else
    let c := Text.toNatBase 16 digits
    if c ≤ 0x10FFFF then .ok (c, count)
    else .error ⟨first, first + 1 + count, "illegal Unicode character"⟩

/-- An escape by name, behind its letter. It gives the character and how many characters it
took. -/
def namedEscape (first : Nat) (t : Text) : Except Fault (CodePoint × Nat) :=
  let malformed (last : Nat) : Except Fault (CodePoint × Nat) :=
    .error ⟨first, last, "malformed \\N character escape"⟩
  match t with
  | 0x7B :: rest =>
    let name := rest.takeWhile (· != 0x7D)
    let behind := first + 2 + countedLength name
    if name.length = rest.length then malformed behind
    else if name.isEmpty then malformed behind
    else
      match characterNamed? name with
      | some c => .ok (c, name.length + 2)
      | none => .error ⟨first, behind + 1, "unknown Unicode character name"⟩
  | _ => malformed (first + 1)

/-- The octal digits of an escape, of which there are at most three. -/
def octalDigits (t : Text) : Text := (t.take 3).takeWhile isOctalDigit

/-- Resolves escapes from a position on; `bound` is more than the characters left. -/
def resolveFrom : Nat → Nat → Text → Except Fault Text
  | 0, _, _ => .ok []
  | _ + 1, _, [] => .ok []
  | bound + 1, n, c :: rest =>
    if c ≠ 0x5C then (resolveFrom bound (n + countedWidth c) rest).map (c :: ·)
    else
      match rest with
      | [] => .ok [0x5C]
      | d :: more =>
        if d ≥ 0x80 then (resolveFrom bound (n + 6) rest).map (0x5C :: ·)
        else if d == 0x0A then resolveFrom bound (n + 2) more
        else if isOctalDigit d then
          let digits := octalDigits rest
          (resolveFrom bound (n + 1 + digits.length) (rest.drop digits.length)).map
            (Text.toNatBase 8 digits :: ·)
        else if d == 0x4E then do
          let (x, taken) ← namedEscape n more
          return x :: (← resolveFrom bound (n + 2 + taken) (more.drop taken))
        else
          match simpleEscape? d with
          | some x => (resolveFrom bound (n + 2) more).map (x :: ·)
          | none =>
            match hexEscape? d with
            | some (count, name) => do
              let (x, taken) ← hexEscape n count name more
              return x :: (← resolveFrom bound (n + 2 + taken) (more.drop taken))
            | none => (resolveFrom bound (n + 2) more).map (fun t => 0x5C :: d :: t)

/-- The text that a string stands for, given what is written between its quotes. -/
def resolve (t : Text) : Except Fault Text := resolveFrom (t.length + 1) 0 t

/-- Resolves escapes in a string of bytes. The error is the position of an escape by number that
lacks digits. -/
def resolveBytesFrom : Nat → Nat → Text → Except Nat Bytes
  | 0, _, _ => .ok []
  | _ + 1, _, [] => .ok []
  | bound + 1, n, c :: rest =>
    if c ≠ 0x5C then (resolveBytesFrom bound (n + 1) rest).map (.ofNat c :: ·)
    else
      match rest with
      | [] => .ok [0x5C]
      | d :: more =>
        if d == 0x0A then resolveBytesFrom bound (n + 2) more
        else if isOctalDigit d then
          let digits := octalDigits rest
          (resolveBytesFrom bound (n + 1 + digits.length) (rest.drop digits.length)).map
            (.ofNat (Text.toNatBase 8 digits) :: ·)
        else if d == 0x78 then
          let digits := (more.take 2).takeWhile isHexDigit
          if digits.length < 2 then .error n
          else
            (resolveBytesFrom bound (n + 4) (more.drop 2)).map
              (.ofNat (Text.toNatBase 16 digits) :: ·)
        else
          match simpleEscape? d with
          | some x => (resolveBytesFrom bound (n + 2) more).map (.ofNat x :: ·)
          | none => (resolveBytesFrom bound (n + 1) rest).map (0x5C :: ·)

/-- The bytes that a string of bytes stands for. -/
def resolveBytes (t : Text) : Except Nat Bytes := resolveBytesFrom (t.length + 1) 0 t

end StringEscape

end LiteralScrub.Python
