import LiteralScrub.Text.Quoted
import LiteralScrub.Text.Utf8

/-!
# Why a source cannot be read
-/
namespace LiteralScrub

inductive ReadFault where
  /-- The source breaks a rule of the language, at a line and column if they are known. A column
  that is counted from the beginning of an embedded text can lie before it. -/
  | syntaxError (place : Option (Nat × Int)) (message : Text)
  | nullCharacter
  /-- A text with surrogates, which has no bytes. -/
  | surrogates (text : Text)
  /-- A numeral that stands for no number. -/
  | badNumber (numeral : Text)
  deriving DecidableEq, Repr, Inhabited

namespace ReadFault

def message : ReadFault → Text
  | syntaxError _ message => message
  | nullCharacter => Text.ofString "source code string cannot contain null bytes"
  | surrogates text => Utf8.encodeFault text
  | badNumber numeral => Text.ofString "could not convert string to float: " ++ numeral.quoted

end ReadFault

end LiteralScrub
