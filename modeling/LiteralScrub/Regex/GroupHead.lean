import LiteralScrub.Regex.CharacterSet
import LiteralScrub.Text.Alphabetic
import LiteralScrub.Text.IdentifierContinue
import LiteralScrub.Text.IdentifierStart
import LiteralScrub.Text.Space

/-!
# The head of a group

What follows an opening parenthesis decides whether the group captures, looks ahead or behind,
depends on another group, or only sets flags.
-/
namespace LiteralScrub.Regex

inductive GroupHead where
  | capture (name : Option Text)
  | plain (on off : Flags)
  | atomic
  | look (behind negative : Bool)
  | condition (group : Nat)
  /-- A reference by name, which has no body. -/
  | backref (node : Node)
  | comment
  | globalFlags

/-- A letter or underscore, then letters, digits and marks. -/
def isIdentifier : Text → Bool
  | [] => false
  | c :: t => isIdentifierStart c && t.all isIdentifierContinue

/-- Digits of any script, with single underscores between them. -/
def readDecimalDigits : Nat → Text → Option Nat
  | n, [] => some n
  | n, 0x5F :: c :: t => (digitValue? c).bind fun d => readDecimalDigits (10 * n + d) t
  | n, c :: t => (digitValue? c).bind fun d => readDecimalDigits (10 * n + d) t

/-- A number that may stand between blanks and have a sign; below zero it is none. -/
def groupNumber? (t : Text) : Option Nat :=
  let bare := ((t.dropWhile isSpace).reverse.dropWhile isSpace).reverse
  let (negative, digits) :=
    match bare with
    | 0x2B :: rest => (false, rest)
    | 0x2D :: rest => (true, rest)
    | _ => (false, bare)
  match digits with
  | [] => none
  | c :: rest =>
    if (digits.filter isDigit).length > 4300 then none
    else
      ((digitValue? c).bind fun d => readDecimalDigits d rest).bind fun n =>
        if negative && n ≠ 0 then none else some n

/-- Refuses a name that is no identifier. -/
def checkGroupName (name : Text) : ReadM Unit := do
  if !isIdentifier name then refuse (.badGroupName name) (name.length + 1)

/-- Reads what follows `(?P`: a named group or a reference by name. -/
def readNamedHead : ReadM GroupHead := do
  if ← accept 0x3C then
    let name ← takeUntil 0x3E "group name"
    checkGroupName name
    return .capture (some name)
  if ← accept 0x3D then
    let name ← takeUntil 0x29 "group name"
    checkGroupName name
    let some group := (← get).names.lookup name
      | refuse (.unknownGroupName name) (name.length + 1)
    return .backref (← referTo group (name.length + 1))
  let some token ← take | refuse .unexpectedEnd 0
  refuse (.unknownExtension (Text.ofString "?P" ++ token.text)) (token.size + 2)

def readComment (start : Nat) : Nat → ReadM Unit
  | 0 => refuseAt (.missing "), unterminated comment") start
  | fuel + 1 => do
    if (← peek).isNone then refuseAt (.missing "), unterminated comment") start
    if (← take) = some (.plain 0x29) then return ()
    readComment start fuel

def maxGroups : Nat := 2147483647

/-- Reads what follows `(?(`: the group, by name or number, on which a choice depends. -/
def readConditionHead : ReadM GroupHead := do
  let name ← takeUntil 0x29 "group name"
  let back := name.length + 1
  let group ←
    if isIdentifier name then
      match (← get).names.lookup name with
      | some group => pure group
      | none => refuse (.unknownGroupName name) back
    else
      let some group := groupNumber? name | refuse (.badGroupName name) back
      if group = 0 then refuse .badGroupNumber back
      if group ≥ maxGroups then refuse (.invalidGroupReference group) back
      let place := (← tell) - back
      if ((← get).mentions.lookup group).isNone then
        modify fun s => { s with mentions := s.mentions ++ [(group, place)] }
      pure group
  checkLookbehindGroup group
  return .condition group

/-- What is wrong with a token where a flag should be. -/
def flagFault (token : Token) (missing : String) : Fault :=
  match token with
  | .plain c => if isLetter c then .unknownFlag else .missing missing
  | .escaped _ => .missing missing

/-- Reads the flags that are switched on, from `letter`, and the token that ends them. -/
def readFlagsOn : Nat → Flags → CodePoint → ReadM (Flags × CodePoint)
  | 0, on, letter => return (on, letter)
  | fuel + 1, on, letter => do
    if letter = 0x4C then
      refuse (.badFlags "cannot use 'L' flag with a str pattern") 0
    let flag := (Flags.ofLetter? letter).getD {}
    let on := on.union flag
    if flag.overlaps .classes && on.ascii && on.unicode then
      refuse (.badFlags "flags 'a', 'u' and 'L' are incompatible") 0
    let some token ← take | refuse (.missing "-, : or )") 0
    match token with
    | .plain c =>
      if c = 0x29 || c = 0x2D || c = 0x3A then return (on, c)
      if c = 0x4C || (Flags.ofLetter? c).isSome then readFlagsOn fuel on c
      else refuse (flagFault token "-, : or )") token.size
    | .escaped _ => refuse (flagFault token "-, : or )") token.size

/-- Reads the flags that are switched off, up to the colon. -/
def readFlagsOff : Nat → Flags → CodePoint → ReadM Flags
  | 0, off, _ => return off
  | fuel + 1, off, letter => do
    let flag := (Flags.ofLetter? letter).getD {}
    if letter = 0x4C || flag.overlaps .classes then
      refuse (.badFlags "cannot turn off flags 'a', 'u' and 'L'") 0
    let off := off.union flag
    let some token ← take | refuse (.missing ":") 0
    match token with
    | .plain c =>
      if c = 0x3A then return off
      if c = 0x4C || (Flags.ofLetter? c).isSome then readFlagsOff fuel off c
      else refuse (flagFault token ":") token.size
    | .escaped _ => refuse (flagFault token ":") token.size

/-- Reads the flags of a group from the token after `(?`. -/
def readFlags (letter : CodePoint) : ReadM GroupHead := do
  let fuel := (← read).size
  let (on, ending) ←
    if letter = 0x2D then pure (({} : Flags), letter) else readFlagsOn fuel {} letter
  if ending = 0x29 then
    modify fun s => { s with flags := s.flags.union on }
    return .globalFlags
  if on.template then refuse (.badFlags "cannot turn on global flag") 1
  let off ←
    if ending = 0x2D then do
      let some token ← take | refuse (.missing "flag") 0
      match token with
      | .plain c =>
        if c = 0x4C || (Flags.ofLetter? c).isSome then readFlagsOff fuel {} c
        else refuse (flagFault token "flag") token.size
      | .escaped _ => refuse (flagFault token "flag") token.size
    else pure {}
  if off.template then refuse (.badFlags "cannot turn off global flag") 1
  if on.overlaps off then refuse (.badFlags "flag turned on and off") 1
  return .plain on off

/-- Reads the head of the group that opened at `start`. -/
def readGroupHead (start : Nat) : ReadM GroupHead := do
  if !(← accept 0x3F) then return .capture none
  let some token ← take | refuse .unexpectedEnd 0
  match token with
  | .plain 0x50 => readNamedHead
  | .plain 0x3A => return .plain {} {}
  | .plain 0x23 =>
    readComment start ((← read).size + 1)
    return .comment
  | .plain 0x3D => return .look false false
  | .plain 0x21 => return .look false true
  | .plain 0x3C =>
    let some kind ← take | refuse .unexpectedEnd 0
    if kind = .plain 0x3D then return .look true false
    if kind = .plain 0x21 then return .look true true
    refuse (.unknownExtension (Text.ofString "?<" ++ kind.text)) (kind.size + 2)
  | .plain 0x28 => readConditionHead
  | .plain 0x3E => return .atomic
  | .plain c =>
    if c = 0x2D || c = 0x4C || (Flags.ofLetter? c).isSome then readFlags c
    else refuse (.unknownExtension (0x3F :: token.text)) (token.size + 1)
  | .escaped _ => refuse (.unknownExtension (0x3F :: token.text)) (token.size + 1)

end LiteralScrub.Regex
