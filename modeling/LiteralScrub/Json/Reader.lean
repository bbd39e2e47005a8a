import LiteralScrub.Json.Basic

/-!
# Reading JSON

`Json.read` reads a whole text. Besides the standard it takes `NaN`, `Infinity` and `-Infinity`; a
lone surrogate may be written as an escape. A fault is kept with the number of code points that
are left from its place on.
-/
namespace LiteralScrub.Json

inductive ReadCause where
  | byteOrderMark
  | expectingValue
  | expectingName
  | expectingColon
  | expectingComma
  | unterminatedString
  | controlCharacter
  | invalidEscape
  | invalidUnicodeEscape
  | extraData
  deriving DecidableEq, Repr, Inhabited

def ReadCause.message : ReadCause → String
  | byteOrderMark => "Unexpected UTF-8 BOM (decode using utf-8-sig)"
  | expectingValue => "Expecting value"
  | expectingName => "Expecting property name enclosed in double quotes"
  | expectingColon => "Expecting ':' delimiter"
  | expectingComma => "Expecting ',' delimiter"
  | unterminatedString => "Unterminated string starting at"
  | controlCharacter => "Invalid control character at"
  | invalidEscape => "Invalid \\escape"
  | invalidUnicodeEscape => "Invalid \\uXXXX escape"
  | extraData => "Extra data"

inductive ReadFault where
  | malformed (cause : ReadCause) (left : Nat)
  | tooManyDigits (digits : Nat)
  /-- Arrays or objects are nested too deep; `isArray` is the kind of the innermost. -/
  | tooDeep (isArray : Bool)
  deriving DecidableEq, Repr, Inhabited

/-- How many digits an integer may have. -/
def maxDigits : Nat := 4300

def isBlank (c : CodePoint) : Bool := c == 0x20 || c == 0x09 || c == 0x0A || c == 0x0D

def skipBlanks (t : Text) : Text := t.dropWhile isBlank

/-- The value of exactly four hexadecimal digits. -/
def hexQuad? (t : Text) : Option CodePoint :=
  if t.length = 4 && t.all isHexDigit then some (t.toNatBase 16) else none

/-- The character of an escape with one letter. -/
def shortEscape? : CodePoint → Option CodePoint
  | 0x22 => some 0x22
  | 0x5C => some 0x5C
  | 0x2F => some 0x2F
  | 0x62 => some 0x08
  | 0x66 => some 0x0C
  | 0x6E => some 0x0A
  | 0x72 => some 0x0D
  | 0x74 => some 0x09
  | _ => none

def isHighSurrogate (c : CodePoint) : Bool := 0xD800 ≤ c && c ≤ 0xDBFF

def isLowSurrogate (c : CodePoint) : Bool := 0xDC00 ≤ c && c ≤ 0xDFFF

/-- The code point of a surrogate pair. -/
def joinSurrogates (high low : CodePoint) : CodePoint :=
  0x10000 + (high - 0xD800) * 0x400 + (low - 0xDC00)

/-- Reads what follows `\u`: four digits, or a pair of surrogates written as two escapes. Behind
the digits the string has to go on. -/
def readUnicodeEscape (t : Text) : Except ReadFault (CodePoint × Text) :=
  if (t.drop 4).isEmpty then .error (.malformed .invalidUnicodeEscape (t.length + 1))
  else
    match hexQuad? (t.take 4) with
    | none => .error (.malformed .invalidUnicodeEscape (t.length + 1))
    | some c =>
      let rest := t.drop 4
      match rest with
      | 0x5C :: 0x75 :: more =>
        if isHighSurrogate c && !(more.drop 4).isEmpty then
          match hexQuad? (more.take 4) with
          | none => .error (.malformed .invalidUnicodeEscape (more.length + 1))
          | some d =>
            if isLowSurrogate d then .ok (joinSurrogates c d, more.drop 4) else .ok (c, rest)
        else .ok (c, rest)
      | _ => .ok (c, rest)

/-- Reads a string behind its opening quote; `whole` is the text from that quote on. -/
def readString (whole : Text) : Nat → Text → Except ReadFault (Text × Text)
  | 0, _ | _, [] => .error (.malformed .unterminatedString whole.length)
  | fuel + 1, c :: t =>
    if c = 0x22 then .ok ([], t)
    else if c ≤ 0x1F then .error (.malformed .controlCharacter (t.length + 1))
    else if c = 0x5C then
      match t with
      | [] => .error (.malformed .unterminatedString whole.length)
      | 0x75 :: t => do
        let (point, rest) ← readUnicodeEscape t
        let (tail, rest) ← readString whole fuel rest
        return (point :: tail, rest)
      | e :: t =>
        match shortEscape? e with
        | none => .error (.malformed .invalidEscape (t.length + 2))
        | some point => do
          let (tail, rest) ← readString whole fuel t
          return (point :: tail, rest)
    else do
      let (tail, rest) ← readString whole fuel t
      return (c :: tail, rest)

/-- The digits at the beginning of a text, and the rest. -/
def spanDigits (t : Text) : Text × Text := (t.takeWhile isAsciiDigit, t.dropWhile isAsciiDigit)

/-- A point with digits behind it, at the beginning of a text. -/
def readFraction (t : Text) : Option Text × Text :=
  match t with
  | 0x2E :: more =>
    let (digits, rest) := spanDigits more
    if digits.isEmpty then (none, t) else (some digits, rest)
  | _ => (none, t)

/-- An exponent at the beginning of a text. -/
def readExponent (t : Text) : Option Int × Text :=
  match t with
  | e :: more =>
    if e = 0x65 || e = 0x45 then
      let (negative, unsigned) :=
        match more with
        | 0x2B :: u => (false, u)
        | 0x2D :: u => (true, u)
        | _ => (false, more)
      let (digits, rest) := spanDigits unsigned
      if digits.isEmpty then (none, t)
      else
        let n : Int := digits.toNatBase 10
        (some (if negative then -n else n), rest)
    else (none, t)
  | [] => (none, t)

/-- Reads a number; none if the text does not begin with one. -/
def readNumber (t : Text) : Except ReadFault (Option (Json × Text)) :=
  let (negative, unsigned) :=
    match t with
    | 0x2D :: u => (true, u)
    | _ => (false, t)
  let (whole, rest) :=
    match unsigned with
    | 0x30 :: rest => ([0x30], rest)
    | _ => spanDigits unsigned
  if whole.isEmpty then .ok none
  else
    let (fraction, rest) := readFraction rest
    let (exponent, rest) := readExponent rest
    match fraction, exponent with
    | none, none =>
      if whole.length > maxDigits then .error (.tooManyDigits whole.length)
      else
        let n : Int := Text.toNatBase 10 whole
        .ok (some (.int (if negative then -n else n), rest))
    | _, _ =>
      let places := fraction.getD []
      let value := Double.ofDecimal negative (Text.toNatBase 10 (whole ++ places))
        (exponent.getD 0 - places.length)
      .ok (some (.float value, rest))

/-- The values that are written as words. -/
def words : List (Text × Json) := [
  (Text.ofString "null", .null),
  (Text.ofString "true", .bool true),
  (Text.ofString "false", .bool false),
  (Text.ofString "NaN", .float .nan),
  (Text.ofString "Infinity", .float (.infinity false)),
  (Text.ofString "-Infinity", .float (.infinity true))]

/-- Reads a word. -/
def readWord? (t : Text) : Option (Json × Text) :=
  words.findSome? fun (word, value) =>
    if t.startsWith word then some (value, t.drop word.length) else none

mutual

/-- Reads a value; `room` is how many arrays and objects may still be opened. -/
def readValue (fuel room : Nat) (t : Text) : Except ReadFault (Json × Text) :=
  match fuel with
  | 0 => .error (.malformed .expectingValue t.length)
  | fuel + 1 =>
    match t with
    | 0x22 :: rest => do
      let (value, rest) ← readString t fuel rest
      return (.text value, rest)
    | 0x5B :: rest =>
      if room = 0 then .error (.tooDeep true)
      else
        match skipBlanks rest with
        | 0x5D :: rest => .ok (.array [], rest)
        | rest => do
          let (items, rest) ← readItems fuel (room - 1) rest
          return (.array items, rest)
    | 0x7B :: rest =>
      if room = 0 then .error (.tooDeep false)
      else
        match skipBlanks rest with
        | 0x7D :: rest => .ok (.object [], rest)
        | rest => do
          let (members, rest) ← readMembers fuel (room - 1) [] rest
          return (.object members, rest)
    | _ =>
      match readWord? t with
      | some found => .ok found
      | none => do
        match ← readNumber t with
        | some found => return found
        | none => throw (.malformed .expectingValue t.length)

/-- Reads the items of an array up to its closing bracket. -/
def readItems (fuel room : Nat) (t : Text) : Except ReadFault (List Json × Text) :=
  match fuel with
  | 0 => .error (.malformed .expectingValue t.length)
  | fuel + 1 => do
    let (item, rest) ← readValue fuel room t
    match skipBlanks rest with
    | 0x5D :: rest => return ([item], rest)
    | 0x2C :: rest =>
      let (items, rest) ← readItems fuel room (skipBlanks rest)
      return (item :: items, rest)
    | rest => throw (.malformed .expectingComma rest.length)

/-- Reads the members of an object up to its closing brace; `before` are those in front. -/
def readMembers (fuel room : Nat) (before : List (Text × Json)) (t : Text) :
    Except ReadFault (List (Text × Json) × Text) :=
  match fuel with
  | 0 => .error (.malformed .expectingName t.length)
  | fuel + 1 =>
    match t with
    | 0x22 :: rest => do
      let (key, rest) ← readString t fuel rest
      match skipBlanks rest with
      | 0x3A :: rest =>
        let (value, rest) ← readValue fuel room (skipBlanks rest)
        let members := insertMember key value before
        match skipBlanks rest with
        | 0x7D :: rest => return (members, rest)
        | 0x2C :: rest => readMembers fuel room members (skipBlanks rest)
        | rest => throw (.malformed .expectingComma rest.length)
      | rest => throw (.malformed .expectingColon rest.length)
    | _ => .error (.malformed .expectingName t.length)

end

/-- Reads a whole text in which arrays and objects are nested up to a depth. -/
def read (maxDepth : Nat) (t : Text) : Except ReadFault Json := do
  if t.head? = some 0xFEFF then throw (.malformed .byteOrderMark t.length)
  let (value, rest) ← readValue (2 * t.length + 2) maxDepth (skipBlanks t)
  match skipBlanks rest with
  | [] => return value
  | rest => throw (.malformed .extraData rest.length)

/-- What is wrong with the text and where. -/
def ReadFault.message (t : Text) : ReadFault → Text
  | malformed cause left =>
    let place := t.length - left
    let before := t.take place
    let line := before.count 0x0A + 1
    let column := (before.reverse.takeWhile (· != 0x0A)).length + 1
    Text.ofString cause.message ++ Text.ofString ": line " ++ Text.ofNat line ++
      Text.ofString " column " ++ Text.ofNat column ++ Text.ofString " (char " ++
      Text.ofNat place ++ Text.ofString ")"
  | tooManyDigits digits =>
    Text.ofString "Exceeds the limit (4300 digits) for integer string conversion: value has " ++
      Text.ofNat digits ++
      Text.ofString " digits; use sys.set_int_max_str_digits() to increase the limit"
  | tooDeep isArray =>
    Text.ofString "maximum recursion depth exceeded while decoding a JSON " ++
      Text.ofString (if isArray then "array" else "object") ++ Text.ofString " from a unicode string"

end LiteralScrub.Json
