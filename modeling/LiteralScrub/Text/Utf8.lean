import LiteralScrub.Text.Basic

/-!
# UTF-8

`Utf8.sequence?` recognises a well-formed sequence at the beginning of a list of bytes. A byte
that begins none can be kept in a text as a surrogate U+DC80 to U+DCFF, so that every list of
bytes can be read and written back.
-/
namespace LiteralScrub

abbrev Bytes := List UInt8

namespace Utf8

/-- The bytes of a code point; surrogates are written like other code points. -/
def encodePoint (c : CodePoint) : Bytes :=
  if c < 0x80 then [.ofNat c]
  else if c < 0x800 then [.ofNat (0xC0 + c / 0x40), .ofNat (0x80 + c % 0x40)]
  else if c < 0x10000 then
    [.ofNat (0xE0 + c / 0x1000), .ofNat (0x80 + c / 0x40 % 0x40), .ofNat (0x80 + c % 0x40)]
  else
    [.ofNat (0xF0 + c / 0x40000), .ofNat (0x80 + c / 0x1000 % 0x40),
      .ofNat (0x80 + c / 0x40 % 0x40), .ofNat (0x80 + c % 0x40)]

/-- How many bytes a code point takes. -/
def width (c : CodePoint) : Nat :=
  if c < 0x80 then 1 else if c < 0x800 then 2 else if c < 0x10000 then 3 else 4

def isContinuation (b : UInt8) : Bool := 0x80 ≤ b && b ≤ 0xBF

/-- Whether the second byte fits the first: it must not make the sequence too long for its code
point, a surrogate, or a number beyond U+10FFFF. -/
def fitsLead (lead second : UInt8) : Bool :=
  isContinuation second &&
    (lead != 0xE0 || second ≥ 0xA0) && (lead != 0xED || second ≤ 0x9F) &&
    (lead != 0xF0 || second ≥ 0x90) && (lead != 0xF4 || second ≤ 0x8F)

/-- The six bits that a byte behind the first one carries. -/
def low (b : UInt8) : Nat := b.toNat % 0x40

/-- The code point of the well-formed sequence at the beginning, and how many bytes it takes. -/
def sequence? : Bytes → Option (CodePoint × Nat)
  | [] => none
  | a :: rest =>
    if a < 0x80 then some (a.toNat, 1)
    else if a < 0xC2 then none
    else if a < 0xE0 then
      match rest with
      | b :: _ => if isContinuation b then some (a.toNat % 0x20 * 0x40 + low b, 2) else none
      | _ => none
    else if a < 0xF0 then
      match rest with
      | b :: c :: _ =>
        if fitsLead a b && isContinuation c then
          some (a.toNat % 0x10 * 0x1000 + low b * 0x40 + low c, 3)
        else none
      | _ => none
    else if a < 0xF5 then
      match rest with
      | b :: c :: d :: _ =>
        if fitsLead a b && isContinuation c && isContinuation d then
          some (a.toNat % 0x08 * 0x40000 + low b * 0x1000 + low c * 0x40 + low d, 4)
        else none
      | _ => none
    else none

/-- Reads bytes; each one that begins no well-formed sequence becomes a surrogate. -/
def decodeEscaping : Bytes → Text
  | [] => []
  | a :: rest =>
    match sequence? (a :: rest) with
    | some (c, size) => c :: decodeEscaping (rest.drop (size - 1))
    | none => (0xDC00 + a.toNat) :: decodeEscaping rest
termination_by bytes => bytes.length
decreasing_by
  · simp only [List.length_drop, List.length_cons]
    omega
  · simp

/-- Whether a surrogate stands for a byte. -/
def isEscapedByte (c : CodePoint) : Bool := 0xDC80 ≤ c && c ≤ 0xDCFF

/-- The bytes of a text whose surrogates all stand for bytes. -/
def encodeEscaping? : Text → Option Bytes
  | [] => some []
  | c :: t =>
    if isEscapedByte c then (encodeEscaping? t).map (.ofNat (c - 0xDC00) :: ·)
    else if isSurrogate c then none
    else (encodeEscaping? t).map (encodePoint c ++ ·)

/-- Why bytes are not UTF-8. -/
inductive DecodeCause where
  | invalidStart
  | invalidContinuation
  | unexpectedEnd
  deriving DecidableEq, Repr, Inhabited

/-- A fault at the bytes `first` to `last`; `byte` is the first one. -/
structure DecodeFault where
  cause : DecodeCause
  byte : UInt8
  first : Nat
  last : Nat
  deriving DecidableEq, Repr, Inhabited

/-- What is wrong with bytes that begin no well-formed sequence: the cause and how many bytes of a
sequence are there. -/
def faultOf : Bytes → DecodeCause × Nat
  | [] => (.unexpectedEnd, 0)
  | a :: rest =>
    if a < 0xC2 || a ≥ 0xF5 then (.invalidStart, 1)
    else
      match rest with
      | [] => (.unexpectedEnd, 1)
      | b :: rest =>
        if !fitsLead a b then (.invalidContinuation, 1)
        else
          match rest with
          | [] => (.unexpectedEnd, 2)
          | c :: rest =>
            if !isContinuation c then (.invalidContinuation, 2)
            else
              match rest with
              | [] => (.unexpectedEnd, 3)
              | _ => (.invalidContinuation, 3)

/-- Reads bytes that have to be UTF-8; `place` is the offset of the first one, and `before` are the
code points in front of it, the last one first. -/
def decodeOnto (before : Text) (place : Nat) : Bytes → Except DecodeFault Text
  | [] => .ok before.reverse
  | a :: rest =>
    match sequence? (a :: rest) with
    | some (c, size) => decodeOnto (c :: before) (place + size) (rest.drop (size - 1))
    | none =>
      let (cause, size) := faultOf (a :: rest)
      .error ⟨cause, a, place, place + size - 1⟩
termination_by bytes => bytes.length
decreasing_by
  simp only [List.length_drop, List.length_cons]
  omega

def decode (bytes : Bytes) : Except DecodeFault Text := decodeOnto [] 0 bytes

def DecodeCause.message : DecodeCause → String
  | invalidStart => "invalid start byte"
  | invalidContinuation => "invalid continuation byte"
  | unexpectedEnd => "unexpected end of data"

def DecodeFault.message (f : DecodeFault) : Text :=
  let where' :=
    if f.first = f.last then
      Text.ofString "byte 0x" ++ Text.ofNatPadded 16 2 f.byte.toNat ++
        Text.ofString " in position " ++ Text.ofNat f.first
    else
      Text.ofString "bytes in position " ++ Text.ofNat f.first ++ Text.ofString "-" ++
        Text.ofNat f.last
  Text.ofString "'utf-8' codec can't decode " ++ where' ++ Text.ofString ": " ++
    Text.ofString f.cause.message

/-- The bytes of a text; a text with surrogates has none. -/
def encode? (t : Text) : Option Bytes :=
  if t.hasSurrogate then none else some (t.flatMap encodePoint)

/-- Where the surrogates begin and end at which writing a text stops: the first one that is
refused, and those behind it. -/
def surrogateRun? (refused : CodePoint → Bool) (t : Text) : Option (Nat × Nat) :=
  let before := t.takeWhile (!refused ·)
  let run := (t.drop before.length).takeWhile isSurrogate
  if run.isEmpty then none else some (before.length, before.length + run.length - 1)

def faultMessage (refused : CodePoint → Bool) (t : Text) : Text :=
  match surrogateRun? refused t with
  | none => []
  | some (first, last) =>
    let where' :=
      if first = last then
        Text.ofString "character '\\u" ++ Text.ofNatPadded 16 4 (t.getD first 0) ++
          Text.ofString "' in position " ++ Text.ofNat first
      else
        Text.ofString "characters in position " ++ Text.ofNat first ++ Text.ofString "-" ++
          Text.ofNat last
    Text.ofString "'utf-8' codec can't encode " ++ where' ++
      Text.ofString ": surrogates not allowed"

/-- Why a text with surrogates cannot be written. -/
def encodeFault (t : Text) : Text := faultMessage isSurrogate t

/-- Why a text with surrogates cannot be written that may stand for bytes. -/
def escapingFault (t : Text) : Text := faultMessage (fun c => isSurrogate c && !isEscapedByte c) t

end Utf8

end LiteralScrub
