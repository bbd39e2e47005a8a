import LiteralScrub.Text.Utf8

/-!
# Texts as Lua strings

A Lua string is a list of bytes. It is read as UTF-8 with bytes that are none kept as surrogates,
and written back so. In quotes, control characters, single bytes and surrogates are written by
decimal escapes of three digits.
-/
namespace LiteralScrub.Lua

/-- The bytes of one code point. -/
def encodePoint (c : CodePoint) : Bytes :=
  if Utf8.isEscapedByte c then [.ofNat (c - 0xDC00)] else Utf8.encodePoint c

/-- The bytes of a text. If all its surrogates stand for bytes it is written at one go, otherwise
code point by code point. -/
def encode (t : Text) : Bytes :=
  match Utf8.encodeEscaping? t with
  | some bytes => bytes
  | none => t.flatMap encodePoint

def decode (b : Bytes) : Text := Utf8.decodeEscaping b

/-- The escapes that have a letter. -/
def letterEscape? : CodePoint → Option Text
  | 0x5C => some (Text.ofString "\\\\")
  | 0x07 => some (Text.ofString "\\a")
  | 0x08 => some (Text.ofString "\\b")
  | 0x0C => some (Text.ofString "\\f")
  | 0x0A => some (Text.ofString "\\n")
  | 0x0D => some (Text.ofString "\\r")
  | 0x09 => some (Text.ofString "\\t")
  | 0x0B => some (Text.ofString "\\v")
  | _ => none

/-- A byte by its decimal number. -/
def decimalEscape (n : Nat) : Text := 0x5C :: Text.ofNatPadded 10 3 n

/-- A code point between quotes; `quote` is the text of the quote. -/
def escapePoint (quote : Text) (c : CodePoint) : Text :=
  match letterEscape? c with
  | some escape => escape
  | none =>
    if [c] = quote then [0x5C, c]
    else if isSurrogate c then (encodePoint c).flatMap fun b => decimalEscape b.toNat
    else if c < 0x20 || c = 0x7F then decimalEscape c
    else [c]

/-- The body of a quoted string that denotes the text. -/
def escape (quote : Text) (t : Text) : Text := t.flatMap (escapePoint quote)

/-- Whether a text can stand between long brackets as it is. -/
def isLongBracketSafe (t : Text) : Bool :=
  !(Text.contains (Text.ofString "]]") t) && 0x0D ∉ t && !t.endsWith (Text.ofString "]") &&
    !t.hasSurrogate

end LiteralScrub.Lua
