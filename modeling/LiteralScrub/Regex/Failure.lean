import LiteralScrub.Regex.Syntax
import LiteralScrub.Text.Quoted

/-!
# Why a pattern is refused

A pattern is refused for a fault in its writing, most often with the position of the fault, or
because a number in it is out of range, two of its flags contradict each other or it is nested too
deep.
-/
namespace LiteralScrub.Regex

/-- A fault in the writing of a pattern. -/
inductive Fault where
  | danglingEscape
  | badEscape (written : Text)
  | incompleteEscape (written : Text)
  | octalTooLarge (written : Text)
  | unknownCharacterName (name : Text)
  | missing (what : String)
  | unterminatedSet
  | badRange (lo hi : Text)
  | minGreaterThanMax
  | nothingToRepeat
  | multipleRepeat
  | unexpectedEnd
  | unknownExtension (written : Text)
  | badGroupName (name : Text)
  | unknownGroupName (name : Text)
  | groupRedefined (name : Text) (index former : Nat)
  | openGroup
  | sameLookbehindGroup
  | invalidGroupReference (index : Nat)
  | badGroupNumber
  | tooManyConditionalBranches
  | unknownFlag
  | globalFlagsNotFirst
  | badFlags (why : String)
  | unbalancedParenthesis
  | lookbehindTooLong
  | lookbehindNotFixed
  | templateRepeat (mode : RepeatMode)
  deriving Repr, Inhabited

/-- The name under which a repetition is reported. -/
def RepeatMode.operatorName : RepeatMode → String
  | greedy => "MAX_REPEAT"
  | lazy => "MIN_REPEAT"
  | possessive => "POSSESSIVE_REPEAT"

open Text in
def Fault.message : Fault → Text
  | danglingEscape => ofString "bad escape (end of pattern)"
  | badEscape t => ofString "bad escape " ++ t
  | incompleteEscape t => ofString "incomplete escape " ++ t
  | octalTooLarge t => ofString "octal escape value " ++ t ++ ofString " outside of range 0-0o377"
  | unknownCharacterName t => ofString "undefined character name " ++ t.quoted
  | missing what => ofString "missing " ++ ofString what
  | unterminatedSet => ofString "unterminated character set"
  | badRange lo hi => ofString "bad character range " ++ lo ++ ofString "-" ++ hi
  | minGreaterThanMax => ofString "min repeat greater than max repeat"
  | nothingToRepeat => ofString "nothing to repeat"
  | multipleRepeat => ofString "multiple repeat"
  | unexpectedEnd => ofString "unexpected end of pattern"
  | unknownExtension t => ofString "unknown extension " ++ t
  | badGroupName t => ofString "bad character in group name " ++ t.quoted
  | unknownGroupName t => ofString "unknown group name " ++ t.quoted
  | groupRedefined t index former =>
    ofString "redefinition of group name " ++ t.quoted ++ ofString " as group " ++ ofNat index ++
      ofString "; was group " ++ ofNat former
  | openGroup => ofString "cannot refer to an open group"
  | sameLookbehindGroup =>
    ofString "cannot refer to group defined in the same lookbehind subpattern"
  | invalidGroupReference n => ofString "invalid group reference " ++ ofNat n
  | badGroupNumber => ofString "bad group number"
  | tooManyConditionalBranches => ofString "conditional backref with more than two branches"
  | unknownFlag => ofString "unknown flag"
  | globalFlagsNotFirst => ofString "global flags not at the start of the expression"
  | badFlags why => ofString "bad inline flags: " ++ ofString why
  | unbalancedParenthesis => ofString "unbalanced parenthesis"
  | lookbehindTooLong => ofString "looks too much behind"
  | lookbehindNotFixed => ofString "look-behind requires fixed-width pattern"
  | templateRepeat mode =>
    ofString "internal: unsupported template operator " ++ ofString mode.operatorName

inductive Failure where
  | malformed (fault : Fault) (position : Option Nat)
  | repetitionTooLarge
  | codePointTooLarge
  | incompatibleFlags
  | tooManyDigits (digits : Nat)
  | nestedTooDeep
  deriving Repr, Inhabited

/-- Where a position stands, by line and column if the pattern has several lines. -/
def describePosition (pattern : Text) (position : Nat) : Text :=
  let before := pattern.take position
  let place := Text.ofString " at position " ++ Text.ofNat position
  if 0x0A ∈ pattern then
    place ++ Text.ofString " (line " ++ Text.ofNat (before.count 0x0A + 1) ++
      Text.ofString ", column " ++ Text.ofNat ((before.reverse.takeWhile (· != 0x0A)).length + 1) ++
      Text.ofString ")"
  else place

def Failure.message (pattern : Text) : Failure → Text
  | malformed fault none => fault.message
  | malformed fault (some position) => fault.message ++ describePosition pattern position
  | repetitionTooLarge => Text.ofString "the repetition number is too large"
  | codePointTooLarge => Text.ofString "Python int too large to convert to C int"
  | incompatibleFlags => Text.ofString "ASCII and UNICODE flags are incompatible"
  | tooManyDigits digits =>
    Text.ofString "Exceeds the limit (4300 digits) for integer string conversion: value has " ++
      Text.ofNat digits ++
      Text.ofString " digits; use sys.set_int_max_str_digits() to increase the limit"
  | nestedTooDeep => Text.ofString "maximum recursion depth exceeded"

end LiteralScrub.Regex
