import LiteralScrub.Lua.Text
import LiteralScrub.Tree.Problem

/-!
# String nodes of Lua trees

A string node holds the bytes that the string denotes and the body that is written between its
delimiters. `withText` makes both anew and keeps all other attributes but, maybe, the delimiter.
-/
namespace LiteralScrub.Lua

/-- The text of what a string node denotes. -/
def textOf : Value → Except Problem Text
  | .null => .ok []
  | .text t => .ok t
  | .bytes b => .ok (decode b)
  | value => .error (.noAttribute value.typeName "decode")

/-- The text that a string node denotes. -/
def literalText (attrs : Attrs) : Except Problem Text := do textOf (← Kind.string.read attrs "s")

/-- The delimiter and the body for a new text. A long bracket that cannot hold the text gives way
to double quotes. -/
def delimited (delimiter : Value) (t : Text) : Value × Text :=
  match delimiter with
  | .symbol .doubleSquare =>
    if isLongBracketSafe t then (delimiter, t)
    else (.symbol .doubleQuote, escape (Text.ofString "\"") t)
  | .symbol .singleQuote => (delimiter, escape (Text.ofString "'") t)
  | _ => (delimiter, escape (Text.ofString "\"") t)

/-- The attributes of a string node with a new text, where the delimiter was the given one. -/
def renewed (attrs : Attrs) (delimiter : Value) (t : Text) : Attrs :=
  let (delimiter, raw) := delimited delimiter t
  ((attrs.set "s" (.bytes (encode t))).set "raw" (.text raw)).set "delimiter" delimiter

/-- The attributes of a string node with a new text. -/
def withText (attrs : Attrs) (t : Text) : Except Problem Attrs := do
  return renewed attrs (← Kind.string.read attrs "delimiter") t

end LiteralScrub.Lua
