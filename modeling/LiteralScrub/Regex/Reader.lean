import LiteralScrub.Regex.GroupHead

/-!
# Reading a pattern

`parse` turns the text of a pattern into a sequence of nodes or says why it cannot. Alternatives
that begin alike share their beginning, and alternatives of one character each become a set.
-/
namespace LiteralScrub.Regex

/-- Moves what all alternatives begin with in front of them. -/
def commonStart : Nat → List (List Node) → List Node × List (List Node)
  | 0, alternatives => ([], alternatives)
  | fuel + 1, alternatives =>
    match alternatives with
    | (node :: _) :: _ =>
      let shared := alternatives.all fun alternative =>
        match alternative with
        | first :: _ => node.sameLeaf first
        | [] => false
      if shared then
        let (start, rest) := commonStart fuel (alternatives.map List.tail)
        (node :: start, rest)
      else ([], alternatives)
    | _ => ([], alternatives)

/-- The members of an alternative that matches one character out of a set. -/
def singleItems? : List Node → Option (List SetItem)
  | [.point c] => some [.point c]
  | [.set false items] => some items
  | _ => none

def makeBranch (alternatives : List (List Node)) : List Node :=
  match alternatives with
  | [alternative] => alternative
  | _ =>
    let longest := (alternatives.map List.length).foldl max 0
    let (start, rest) := commonStart (longest + 1) alternatives
    match rest.mapM singleItems? with
    | some items => start ++ [.set false (distinct items.flatten)]
    | none => start ++ [.branch rest]

/-- A group that neither captures nor sets flags is only its body. -/
def unwrap (nodes : List Node) : List Node :=
  nodes.flatMap fun node =>
    match node with
    | .group none on off body => if on.isEmpty && off.isEmpty then body else [node]
    | _ => [node]

def maxRepeat : Nat := 4294967295

/-- A count of repetitions; it has to be below `maxRepeat`. -/
def repeatCount (digits : Text) : ReadM Nat := do
  if digits.length > 4300 then throw (.tooManyDigits digits.length)
  let count := digits.toNatBase 10
  if count ≥ maxRepeat then throw .repetitionTooLarge
  return count

/-- Reads the bounds after `\x7b`; if they are not well formed the brace stands for itself. -/
def readBounds : ReadM (Option (Nat × Option Nat)) := do
  let here ← tell
  if (← peek) = some (.plain 0x7D) then return none
  let lo ← takeAll isAsciiDigit
  let hi ← if ← accept 0x2C then takeAll isAsciiDigit else pure lo
  if !(← accept 0x7D) then
    seek here
    return none
  let least ← if lo.isEmpty then pure 0 else repeatCount lo
  if hi.isEmpty then return some (least, none)
  let greatest ← repeatCount hi
  if greatest < least then refuseAt .minGreaterThanMax here
  return some (least, some greatest)

/-- Reads how a repetition is matched: one mark behind its bounds tells, if there is any. -/
def readRepeatMode : ReadM RepeatMode := do
  if ← accept 0x3F then return .lazy
  if ← accept 0x2B then return .possessive
  return .greedy

/-- Applies bounds, read from `place` on, to the last of the nodes, which are given last first. -/
def applyRepeat (place : Nat) (least : Nat) (greatest : Option Nat) :
    List Node → ReadM (List Node)
  | [] => refuseAt .nothingToRepeat place
  | .anchor _ :: _ => refuseAt .nothingToRepeat place
  | .repeated _ _ _ _ :: _ => refuseAt .multipleRepeat place
  | node :: before => do
    return .repeated (← readRepeatMode) least greatest (unwrap [node]) :: before

/-- Opens a group and gives its number. -/
def openGroup (name : Option Text) : ReadM Nat := do
  let s ← get
  let index := s.widths.size
  match name with
  | none => set { s with widths := s.widths.push none }
  | some name =>
    match s.names.lookup name with
    | some former => refuse (.groupRedefined name index former) (name.length + 1)
    | none => set { s with widths := s.widths.push none, names := (name, index) :: s.names }
  return index

def closeGroup (index : Nat) (body : List Node) : ReadM Unit :=
  modify fun s => { s with widths := s.widths.setIfInBounds index (some (width s.widths body)) }

/-- Takes the parenthesis that closes the group opened at `start`. -/
def closeParenthesis (start : Nat) : ReadM Unit := do
  if !(← accept 0x29) then refuseAt (.missing "), unterminated subpattern") start

/-- Takes the tokens of a comment, up to the end of the line. -/
def skipLine : Nat → ReadM Unit
  | 0 => return ()
  | fuel + 1 => do
    match ← take with
    | none => return ()
    | some (.plain 0x0A) => return ()
    | some _ => skipLine fuel

/-- Blanks, which stand for nothing in a verbose pattern. -/
def isPatternBlank (c : CodePoint) : Bool := c == 0x20 || (0x09 ≤ c && c ≤ 0x0D)

mutual

/-- Reads alternatives up to a closing parenthesis or the end; `done` are those read so far, last
first. At the top of the pattern, flags for the whole of it may stand in front. -/
def readAlternatives (fuel : Nat) (verbose top : Bool) (done : List (List Node)) :
    ReadM (List Node) :=
  match fuel with
  | 0 => return makeBranch done.reverse
  | fuel + 1 => do
    let alternative ← readSequence fuel verbose (top && done.isEmpty) []
    if ← accept 0x7C then
      let flags := (← get).flags
      let verbose := if top then flags.verbose else verbose
      readAlternatives fuel verbose top (alternative :: done)
    else return makeBranch (alternative :: done).reverse

/-- Reads a sequence up to a bar, a closing parenthesis or the end; `nodes` are those read so far,
last first. -/
def readSequence (fuel : Nat) (verbose first : Bool) (nodes : List Node) : ReadM (List Node) :=
  match fuel with
  | 0 => return unwrap nodes.reverse
  | fuel + 1 => do
    let some token ← peek | return unwrap nodes.reverse
    if token = .plain 0x7C || token = .plain 0x29 then return unwrap nodes.reverse
    advance
    match token with
    | .escaped c => readSequence fuel verbose first ((← readEscape c) :: nodes)
    | .plain c =>
      if verbose && isPatternBlank c then readSequence fuel verbose first nodes
      else if verbose && c = 0x23 then
        skipLine (← read).size
        readSequence fuel verbose first nodes
      else if c = 0x5B then
        readSequence fuel verbose first ((← readSet) :: nodes)
      else if c = 0x2A || c = 0x2B || c = 0x3F || c = 0x7B then
        let place := (← tell) - 1
        let bounds ←
          if c = 0x2A then pure (some (0, none))
          else if c = 0x2B then pure (some (1, none))
          else if c = 0x3F then pure (some (0, some 1))
          else readBounds
        match bounds with
        | none => readSequence fuel verbose first (.point c :: nodes)
        | some (least, greatest) =>
          readSequence fuel verbose first (← applyRepeat place least greatest nodes)
      else if c = 0x2E then readSequence fuel verbose first (.any :: nodes)
      else if c = 0x28 then
        let start := (← tell) - 1
        match ← readGroupHead start with
        | .comment => readSequence fuel verbose first nodes
        | .globalFlags =>
          if !first || !nodes.isEmpty then refuseAt .globalFlagsNotFirst start
          readSequence fuel (← get).flags.verbose first nodes
        | .backref node => readSequence fuel verbose first (node :: nodes)
        | head => readSequence fuel verbose first ((← readGroup fuel verbose start head) :: nodes)
      else if c = 0x5E then readSequence fuel verbose first (.anchor .lineStart :: nodes)
      else if c = 0x24 then readSequence fuel verbose first (.anchor .lineEnd :: nodes)
      else readSequence fuel verbose first (.point c :: nodes)

/-- Reads the body of the group that opened at `start`. -/
def readGroup (fuel : Nat) (verbose : Bool) (start : Nat) (head : GroupHead) : ReadM Node :=
  match fuel with
  | 0 => return .any
  | fuel + 1 => do
    match head with
    | .look behind negative =>
      let outer := (← get).lookbehind
      if behind && outer.isNone then
        modify fun s => { s with lookbehind := some s.widths.size }
      let body ← readAlternatives fuel verbose false []
      if behind && outer.isNone then modify fun s => { s with lookbehind := none }
      closeParenthesis start
      return .look behind negative body
    | .condition group =>
      let yes ← readSequence fuel verbose false []
      let no ←
        if ← accept 0x7C then do
          let no ← readSequence fuel verbose false []
          if (← peek) = some (.plain 0x7C) then refuse .tooManyConditionalBranches 0
          pure (some no)
        else pure none
      closeParenthesis start
      return .conditional group yes no
    | .atomic =>
      let body ← readAlternatives fuel verbose false []
      closeParenthesis start
      return .atomic body
    | .plain on off =>
      let body ← readAlternatives fuel ((verbose || on.verbose) && !off.verbose) false []
      closeParenthesis start
      return .group none on off body
    | .capture name =>
      let index ← openGroup name
      let body ← readAlternatives fuel verbose false []
      closeParenthesis start
      closeGroup index body
      return .group (some index) {} {} body
    | .backref node => return node
    | .comment | .globalFlags => return .any

end

/-- A pattern as read: its nodes, the flags for the whole of it and the widths of its groups. -/
structure Parsed where
  nodes : List Node
  flags : Flags
  widths : Array (Option Width)

/-- Reads a whole pattern. -/
def readPattern : ReadM Parsed := do
  advance
  let fuel := 3 * (← read).size + 3
  let nodes ← readAlternatives fuel false true []
  let flags := (← get).flags
  if flags.ascii && flags.unicode then throw .incompatibleFlags
  if (← peek).isSome then refuse .unbalancedParenthesis 0
  let s ← get
  for (group, place) in s.mentions do
    if group ≥ s.widths.size then refuseAt (.invalidGroupReference group) place
  return ⟨nodes, if flags.ascii then flags else { flags with unicode := true }, s.widths⟩

def parse (pattern : Text) : Except Failure Parsed :=
  (readPattern.run pattern.toArray).run' {}

end LiteralScrub.Regex
