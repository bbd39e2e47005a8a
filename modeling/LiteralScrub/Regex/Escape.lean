import LiteralScrub.Regex.Cursor
import LiteralScrub.Text.CharacterName
import LiteralScrub.Text.Digit

/-!
# Escapes in a pattern

A backslash writes a control character, a code point by its number or name, a class, an anchor, or
a reference to a group. Inside a set there are no anchors and no references, and `\b` is the
backspace.
-/
namespace LiteralScrub.Regex

/-- The control characters that have a letter. -/
def controlEscape? : CodePoint → Option CodePoint
  | 0x61 => some 0x07
  | 0x62 => some 0x08
  | 0x66 => some 0x0C
  | 0x6E => some 0x0A
  | 0x72 => some 0x0D
  | 0x74 => some 0x09
  | 0x76 => some 0x0B
  | 0x5C => some 0x5C
  | _ => none

def categoryEscape? : CodePoint → Option SetItem
  | 0x64 => some (.category .digit false)
  | 0x44 => some (.category .digit true)
  | 0x73 => some (.category .space false)
  | 0x53 => some (.category .space true)
  | 0x77 => some (.category .word false)
  | 0x57 => some (.category .word true)
  | _ => none

def anchorEscape? : CodePoint → Option Anchor
  | 0x41 => some .textStart
  | 0x62 => some .boundary
  | 0x42 => some .notBoundary
  | 0x5A => some .textEnd
  | _ => none

/-- Reads exactly `count` hexadecimal digits after `\letter`. -/
def readHex (letter : CodePoint) (count : Nat) : ReadM CodePoint := do
  let digits ← takeUpTo isHexDigit count
  let written := [0x5C, letter] ++ digits
  if digits.length ≠ count then
    refuse (.incompleteEscape written) written.length
  return digits.toNatBase 16

/-- Reads what follows `\U`: eight digits that name a code point. -/
def readLongHex : ReadM CodePoint := do
  let c ← readHex 0x55 8
  if c > 0x7FFFFFFF then throw .codePointTooLarge
  if c > 0x10FFFF then
    let written := (← read).toList.drop ((← tell) - 10) |>.take 10
    refuse (.badEscape written) 10
  return c

/-- Reads what follows `\N`: a name in braces. -/
def readNamed : ReadM CodePoint := do
  if !(← accept 0x7B) then refuse (.missing "\x7b") 0
  let name ← takeUntil 0x7D "character name"
  match characterNamed? name with
  | some c => return c
  | none => refuse (.unknownCharacterName name) (name.length + 4)

/-- Reads a code point written by number or name after `\letter`, if the letter announces one. -/
def readNumbered? (letter : CodePoint) : ReadM (Option CodePoint) := do
  if letter = 0x78 then return some (← readHex letter 2)
  else if letter = 0x75 then return some (← readHex letter 4)
  else if letter = 0x55 then return some (← readLongHex)
  else if letter = 0x4E then return some (← readNamed)
  else return none

/-- An escape that has no other meaning stands for the code point itself, unless it is a letter. -/
def readPlainEscape (c : CodePoint) : ReadM CodePoint := do
  if isAsciiLetter c then refuse (.badEscape [0x5C, c]) 2
  return c

/-- The value of an octal escape, which has to fit in a byte. -/
def octalValue (digits : Text) : ReadM CodePoint := do
  let value := digits.toNatBase 8
  if value > 0o377 then
    let written := 0x5C :: digits
    refuse (.octalTooLarge written) written.length
  return value

def readSetEscape (c : CodePoint) : ReadM SetItem := do
  if let some control := controlEscape? c then return .point control
  if let some category := categoryEscape? c then return category
  if let some number ← readNumbered? c then return .point number
  if isOctalDigit c then
    return .point (← octalValue (c :: (← takeUpTo isOctalDigit 2)))
  if isAsciiDigit c then refuse (.badEscape [0x5C, c]) 2
  return .point (← readPlainEscape c)

/-- Refuses a reference from inside a look-behind to a group that is open or begins in it. -/
def checkLookbehindGroup (group : Nat) : ReadM Unit := do
  let s ← get
  if let some groups := s.lookbehind then
    if ((s.widths[group]?).bind id).isNone then refuse .openGroup 0
    if group ≥ groups then refuse .sameLookbehindGroup 0

/-- Refers to a group that is closed; `back` is the length of what is written. -/
def referTo (group back : Nat) : ReadM Node := do
  let s ← get
  if ((s.widths[group]?).bind id).isNone then refuse .openGroup back
  checkLookbehindGroup group
  return .backref group

/-- Reads a group number or, with three octal digits, a code point. -/
def readReference (c : CodePoint) : ReadM Node := do
  let more ← takeUpTo isAsciiDigit 1
  let digits := c :: more
  if digits.length = 2 && digits.all isOctalDigit then
    let third ← takeUpTo isOctalDigit 1
    if !third.isEmpty then
      return .point (← octalValue (digits ++ third))
  let group := Text.toNatBase 10 digits
  if group < (← get).widths.size then
    referTo group (digits.length + 1)
  else refuse (.invalidGroupReference group) digits.length

def readEscape (c : CodePoint) : ReadM Node := do
  if let some anchor := anchorEscape? c then return .anchor anchor
  if let some category := categoryEscape? c then return .set false [category]
  if let some control := controlEscape? c then return .point control
  if let some number ← readNumbered? c then return .point number
  if c = 0x30 then
    return .point (Text.toNatBase 8 (c :: (← takeUpTo isOctalDigit 2)))
  if isAsciiDigit c then readReference c
  else return .point (← readPlainEscape c)

end LiteralScrub.Regex
