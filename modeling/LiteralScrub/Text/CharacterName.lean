import LiteralScrub.Text.CharacterName.Aliases
import LiteralScrub.Text.CharacterName.Alphabets
import LiteralScrub.Text.CharacterName.Ancient
import LiteralScrub.Text.CharacterName.EastAsia
import LiteralScrub.Text.CharacterName.Pictures
import LiteralScrub.Text.CharacterName.Symbols
import LiteralScrub.Text.Digit
import LiteralScrub.Text.Ranges

/-!
# Characters by name

Most names are listed. Ideographs are named by their codes, and Hangul syllables by the sounds of
which they are made. Letters may be small or capital in a listed name.
-/
namespace LiteralScrub

namespace CharacterName

/-- The lines of a table, without the blanks in front. -/
def linesOf (table : String) : List Text :=
  (table.splitOn "\n").map fun line => (Text.ofString line).dropWhile (· == 0x20)

/-- A code in front of a text, and the text behind the blank. -/
def splitCode (t : Text) : CodePoint × Text :=
  let digits := t.takeWhile (· != 0x20)
  (Text.toNatBase 16 digits, t.drop (digits.length + 1))

/-- The words of a name from those of the name before it. -/
def wordsFrom (before : List Text) : Text → List Text
  | [] => []
  | [count] => before.take (count - 0x30)
  | count :: rest => before.take (count - 0x30) ++ Text.splitOn 0x20 rest

/-- The names that are listed behind the name before them. -/
def namesFrom (before : List Text) : List Text → List (List Text)
  | [] => []
  | item :: rest =>
    let here := wordsFrom before item
    here :: namesFrom here rest

/-- The character with the given words in the lines behind a name. -/
def findInLines (words before : List Text) : List Text → Option CodePoint
  | [] => none
  | line :: rest =>
    let (code, items) := splitCode line
    let names := namesFrom before (Text.splitOn 0x3B items)
    match names.idxOf? words with
    | some place => some (code + place)
    | none => findInLines words (names.getLastD before) rest

/-- A character by its listed name. -/
def listed? (name : Text) : Option CodePoint :=
  let words := Text.splitOn 0x20 name
  [alphabets, symbols, eastAsia, ancient, pictures].findSome? fun table =>
    findInLines words [] (linesOf table)

/-- A character by a name beside its first one. -/
def alias? (name : Text) : Option CodePoint :=
  (linesOf aliases).findSome? fun line =>
    (Text.splitOn 0x3B line).findSome? fun item =>
      let (code, other) := splitCode item
      if other = name then some code else none

/-- The number of a variation selector by its short name. -/
def selector? (name : Text) : Option CodePoint :=
  (List.range 256).findSome? fun n =>
    if name = Text.ofString s!"VS{n + 1}" then some (if n < 16 then 0xFE00 + n else 0xE0100 + n - 16)
    else none

/-- Characters whose names are a lead and their own code. -/
def codedRanges : List (String × Nat × Nat) := [
  ("CJK COMPATIBILITY IDEOGRAPH-", 0xF900, 0xFA6D),
  ("CJK COMPATIBILITY IDEOGRAPH-", 0xFA70, 0xFAD9),
  ("CJK COMPATIBILITY IDEOGRAPH-", 0x2F800, 0x2FA1D),
  ("KHITAN SMALL SCRIPT CHARACTER-", 0x18B00, 0x18CD5),
  ("NUSHU CHARACTER-", 0x1B170, 0x1B2FB)]

/-- The code that stands behind a lead, in capital digits. -/
def codeBehind? (lead : String) (name : Text) : Option (Nat × Nat) :=
  let lead := Text.ofString lead
  let digits := name.drop lead.length
  let isCapital (c : CodePoint) : Bool := (0x30 ≤ c && c ≤ 0x39) || (0x41 ≤ c && c ≤ 0x46)
  if name.startsWith lead && (digits.length = 4 || digits.length = 5) && digits.all isCapital then
    some (Text.toNatBase 16 digits, digits.length)
  else none

def coded? (name : Text) : Option CodePoint :=
  codedRanges.findSome? fun (lead, first, last) => do
    let (code, width) ← codeBehind? lead name
    if first ≤ code && code ≤ last && (width = 4 || code > 0xFFFF) then some code else none

/-- The unified ideographs. -/
def ideographRanges : Array (Nat × Nat) := #[
  (0x3400, 0x4DBF), (0x4E00, 0x9FFF), (0x20000, 0x2A6DF), (0x2A700, 0x2B738), (0x2B740, 0x2B81D),
  (0x2B820, 0x2CEA1), (0x2CEB0, 0x2EBE0), (0x30000, 0x3134A)]

def ideograph? (name : Text) : Option CodePoint := do
  let (code, _) ← codeBehind? "CJK UNIFIED IDEOGRAPH-" name
  if inRanges ideographRanges code then some code else none

/-- The sounds at the beginning, in the middle and at the end of a Hangul syllable. -/
def firstSounds : List String := [
  "G", "GG", "N", "D", "DD", "R", "M", "B", "BB", "S", "SS", "", "J", "JJ", "C", "K", "T", "P", "H"]

def middleSounds : List String := [
  "A", "AE", "YA", "YAE", "EO", "E", "YEO", "YE", "O", "WA", "WAE", "OE", "YO", "U", "WEO", "WE",
  "WI", "YU", "EU", "YI", "I"]

def lastSounds : List String := [
  "", "G", "GG", "GS", "N", "NJ", "NH", "D", "L", "LG", "LM", "LB", "LS", "LT", "LP", "LH", "M",
  "B", "BS", "S", "SS", "NG", "J", "C", "K", "T", "P", "H"]

/-- The place and length of the longest sound with which a text begins. -/
def longestSound? (sounds : List String) (t : Text) : Option (Nat × Nat) :=
  sounds.zipIdx.foldl (fun best (sound, place) =>
    let sound := Text.ofString sound
    if t.startsWith sound && best.all (fun b => b.2 < sound.length) then
      some (place, sound.length)
    else best) none

def syllable? (name : Text) : Option CodePoint := do
  let lead := Text.ofString "HANGUL SYLLABLE "
  if !name.startsWith lead then none
  let t := name.drop lead.length
  let (first, n) ← longestSound? firstSounds t
  let t := t.drop n
  let (middle, n) ← longestSound? middleSounds t
  let t := t.drop n
  let (last, n) ← longestSound? lastSounds t
  if n = t.length then some (0xAC00 + (first * 21 + middle) * 28 + last) else none

def toCapital (c : CodePoint) : CodePoint := if 0x61 ≤ c && c ≤ 0x7A then c - 0x20 else c

end CharacterName

open CharacterName in
/-- The character of a Unicode name. -/
def characterNamed? (name : Text) : Option CodePoint :=
  let capital := name.map toCapital
  (syllable? name).or <| (ideograph? name).or <| (coded? capital).or <| (selector? capital).or <|
    (alias? capital).or (listed? capital)

end LiteralScrub
