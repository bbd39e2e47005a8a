import LiteralScrub.Tree.Value

/-!
# Values as messages show them
-/
namespace LiteralScrub.Value

/-- A number as part of a complex one: a whole number has no decimal point. -/
def complexPart (x : Double) : Text :=
  let t := x.text
  if t.endsWith (Text.ofString ".0") then t.take (t.length - 2) else t

/-- A complex number; a real part of plus zero is left out. -/
def complexText (re im : Double) : Text :=
  let imaginary := complexPart im ++ Text.ofString "j"
  if re = .zero false then imaginary
  else
    let plus := if im.isNegative then [] else Text.ofString "+"
    Text.ofString "(" ++ complexPart re ++ plus ++ imaginary ++ Text.ofString ")"

def bytesQuote (b : Bytes) : UInt8 := if 0x27 ∈ b && 0x22 ∉ b then 0x22 else 0x27

def bytePoint (quote b : UInt8) : Text :=
  if b == quote || b == 0x5C then [0x5C, b.toNat]
  else if b == 0x09 then Text.ofString "\\t"
  else if b == 0x0A then Text.ofString "\\n"
  else if b == 0x0D then Text.ofString "\\r"
  else if b < 0x20 || b ≥ 0x7F then Text.ofString "\\x" ++ Text.ofNatPadded 16 2 b.toNat
  else [b.toNat]

/-- Bytes in quotes behind a `b`. -/
def bytesText (b : Bytes) : Text :=
  let quote := bytesQuote b
  [0x62, quote.toNat] ++ b.flatMap (bytePoint quote) ++ [quote.toNat]

def symbolText (s : Symbol) : Text :=
  let (name, number) :=
    match s with
    | .singleQuote => ("SINGLE_QUOTE", 0)
    | .doubleQuote => ("DOUBLE_QUOTE", 1)
    | .doubleSquare => ("DOUBLE_SQUARE", 2)
    | .dot => ("DOT", 0)
    | .square => ("SQUARE", 1)
    | .default => ("DEFAULT", 0)
    | .noParenthesis => ("NO_PARENTHESIS", 1)
  Text.ofString s!"<{s.typeName}.{name}: {number}>"

/-- A collection of so many items, given as they are shown. -/
def collectionText (type : CollectionType) (count : Nat) (items : Text) : Text :=
  let braced := Text.ofString "\x7b" ++ items ++ Text.ofString "\x7d"
  match type, count with
  | .tuple, 1 => Text.ofString "(" ++ items ++ Text.ofString ",)"
  | .tuple, _ => Text.ofString "(" ++ items ++ Text.ofString ")"
  | .set, 0 => Text.ofString "set()"
  | .set, _ => braced
  | .frozenset, 0 => Text.ofString "frozenset()"
  | .frozenset, _ => Text.ofString "frozenset(" ++ braced ++ Text.ofString ")"
  | .iterator name, _ | .other name _, _ => Text.ofString s!"<{name}>"

mutual

/-- A value with its kind recognisable. -/
def display : Value → Text
  | null => Text.ofString "None"
  | bool true => Text.ofString "True"
  | bool false => Text.ofString "False"
  | int n => Text.ofInt n
  | float x => x.text
  | complex re im => complexText re im
  | ellipsis => Text.ofString "Ellipsis"
  | text t => t.quoted
  | bytes b => bytesText b
  | symbol s => symbolText s
  | list items => Text.ofString "[" ++ displayItems items ++ Text.ofString "]"
  | dict members => Text.ofString "\x7b" ++ displayMembers members ++ Text.ofString "\x7d"
  | collection type items => collectionText type items.length (displayItems items)
  | node kind _ => Text.ofString s!"<{kind.name}>"

def displayItems : List Value → Text
  | [] => []
  | [item] => display item
  | item :: rest => display item ++ Text.ofString ", " ++ displayItems rest

def displayMembers : List (Text × Value) → Text
  | [] => []
  | [(key, value)] => key.quoted ++ Text.ofString ": " ++ display value
  | (key, value) :: rest =>
    key.quoted ++ Text.ofString ": " ++ display value ++ Text.ofString ", " ++ displayMembers rest

end

/-- A value as part of a sentence: a text stands without quotes. -/
def plain : Value → Text
  | text t => t
  | value => value.display

end LiteralScrub.Value
