import LiteralScrub.Regex.Failure

/-!
# Reading position in a pattern

A pattern is read by tokens: a code point, or a backslash with the code point after it. The next
token is always known, so a backslash at the very end is a fault as soon as the token before it
is taken.
-/
namespace LiteralScrub.Regex

inductive Token where
  | plain (c : CodePoint)
  | escaped (c : CodePoint)
  deriving DecidableEq, Repr, Inhabited

namespace Token

def text : Token → Text
  | plain c => [c]
  | escaped c => [0x5C, c]

def size (t : Token) : Nat := t.text.length

end Token

/-- What is known of a pattern while it is read. -/
structure Progress where
  index : Nat := 0
  next : Option Token := none
  flags : Flags := {}
  names : List (Text × Nat) := []
  /-- The width of each group by its number, from group 0; open groups have none yet. -/
  widths : Array (Option Width) := #[none]
  /-- Inside a look-behind, the number of groups when it began. -/
  lookbehind : Option Nat := none
  /-- The groups that conditions name by number, each with the place of its first mention. -/
  mentions : List (Nat × Nat) := []
  deriving Inhabited

/-- Reading has the pattern at hand, moves on in it and may fail. -/
abbrev ReadM := ReaderT (Array CodePoint) (StateT Progress (Except Failure))

/-- The place of the next token. -/
def tell : ReadM Nat := do
  let s ← get
  return s.index - (s.next.map Token.size).getD 0

/-- Refuses the pattern at the place `back` code points before the next token. -/
def refuse {α : Type} (fault : Fault) (back : Nat) : ReadM α := do
  throw (.malformed fault (some ((← tell) - back)))

/-- Takes the next token off. -/
def advance : ReadM Unit := do
  let pattern ← read
  let s ← get
  match pattern[s.index]? with
  | none => set { s with next := none }
  | some 0x5C =>
    match pattern[s.index + 1]? with
    | none => throw (.malformed .danglingEscape (some (pattern.size - 1)))
    | some c => set { s with index := s.index + 2, next := some (.escaped c) }
  | some c => set { s with index := s.index + 1, next := some (.plain c) }

def peek : ReadM (Option Token) := do return (← get).next

def take : ReadM (Option Token) := do
  let token ← peek
  advance
  return token

/-- Takes the token `c` off, if it is the next one. -/
def accept (c : CodePoint) : ReadM Bool := do
  if (← peek) = some (.plain c) then
    advance
    return true
  return false

/-- Goes back to a place. -/
def seek (index : Nat) : ReadM Unit := do
  modify ({ · with index := index })
  advance

/-- Takes up to `n` tokens that satisfy the test. -/
def takeUpTo (test : CodePoint → Bool) : Nat → ReadM Text
  | 0 => return []
  | n + 1 => do
    match ← peek with
    | some (.plain c) =>
      if test c then
        advance
        return c :: (← takeUpTo test n)
      return []
    | _ => return []

/-- Takes all tokens that satisfy the test. -/
def takeAll (test : CodePoint → Bool) : ReadM Text := do
  takeUpTo test (← read).size

/-- Refuses a name that the pattern's end cuts off. -/
def refuseUnterminated {α : Type} (terminator : CodePoint) (kind : String) (taken : Text) :
    ReadM α :=
  if taken.isEmpty then refuse (.missing kind) 0
  else
    let what := String.ofList [Char.ofNat terminator] ++ ", unterminated name"
    refuse (.missing what) taken.length

/-- Takes the tokens up to the terminator, which ends a name of the given kind. -/
def takeUntil (terminator : CodePoint) (kind : String) : ReadM Text := do
  go (← read).size []
where
  go : Nat → Text → ReadM Text
    | 0, taken => do
      advance
      refuseUnterminated terminator kind taken
    | fuel + 1, taken => do
      match ← take with
      | none => refuseUnterminated terminator kind taken
      | some token =>
        if token = .plain terminator then
          if taken.isEmpty then refuse (.missing kind) 1 else return taken
        else go fuel (taken ++ token.text)

end LiteralScrub.Regex
