import LiteralScrub.Json.Basic

/-!
# JSON texts

A value is written over several lines, with two blanks for each level. Only quotes, backslashes and
control characters are escaped.
-/
namespace LiteralScrub.Json

/-- The letter behind the backslash of an escape. -/
def escapeLetter? : CodePoint → Option CodePoint
  | 0x22 => some 0x22
  | 0x5C => some 0x5C
  | 0x08 => some 0x62
  | 0x0C => some 0x66
  | 0x0A => some 0x6E
  | 0x0D => some 0x72
  | 0x09 => some 0x74
  | _ => none

/-- A code point within a string. -/
def writePoint (c : CodePoint) : Text :=
  match escapeLetter? c with
  | some letter => [0x5C, letter]
  | none => if c < 0x20 then [0x5C, 0x75] ++ Text.ofNatPadded 16 4 c else [c]

def writeString (t : Text) : Text := [0x22] ++ t.flatMap writePoint ++ [0x22]

def writeFloat : Double → Text
  | .nan => Text.ofString "NaN"
  | .infinity negative => Text.ofString (if negative then "-Infinity" else "Infinity")
  | x => x.text

/-- The beginning of a new line at the given level. -/
def newLine (level : Nat) : Text := 0x0A :: List.replicate (2 * level) 0x20

/-- Parts between brackets, each on a line of its own. -/
def enclose (level : Nat) (opening closing : CodePoint) : List Text → Text
  | [] => [opening, closing]
  | parts =>
    [opening] ++ newLine (level + 1) ++ Text.join (0x2C :: newLine (level + 1)) parts ++
      newLine level ++ [closing]

mutual

/-- A value whose first line is at the given level. -/
def writeAt (level : Nat) : Json → Text
  | null => Text.ofString "null"
  | bool true => Text.ofString "true"
  | bool false => Text.ofString "false"
  | int n => Text.ofInt n
  | float x => writeFloat x
  | text t => writeString t
  | array items => enclose level 0x5B 0x5D (writeItems (level + 1) items)
  | object members => enclose level 0x7B 0x7D (writeMembers (level + 1) members)

def writeItems (level : Nat) : List Json → List Text
  | [] => []
  | item :: rest => writeAt level item :: writeItems level rest

def writeMembers (level : Nat) : List (Text × Json) → List Text
  | [] => []
  | (key, value) :: rest =>
    (writeString key ++ [0x3A, 0x20] ++ writeAt level value) :: writeMembers level rest

end

def write (value : Json) : Text := writeAt 0 value

end LiteralScrub.Json
