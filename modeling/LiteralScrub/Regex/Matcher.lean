import LiteralScrub.Regex.Program

/-!
# Running a pattern

`run` works off a stack of steps from a position in the text and tries the choices in their order.
It ends because each step either nests into a look-around, moves on in the text, or leaves less to
do at the same position: a loop enters its body at one position at most once beyond its least
number of rounds.
-/
namespace LiteralScrub.Regex

/-- The positions where groups begin and end. -/
abbrev Marks := Array (Option Nat)

/-- The part of the text that a group took. -/
def Marks.group? (marks : Marks) (group : Nat) : Option (Nat × Nat) := do
  let first ← (marks[2 * group]?).bind id
  let last ← (marks[2 * group + 1]?).bind id
  if first ≤ last then some (first, last) else none

def isWordAt (unicode : Bool) (text : Array CodePoint) (pos : Nat) : Bool :=
  ((text[pos]?).map (isWordPoint unicode)).getD false

/-- Whether a word begins or ends here. -/
def isBoundary (unicode : Bool) (text : Array CodePoint) (pos : Nat) : Bool :=
  (pos > 0 && isWordAt unicode text (pos - 1)) != isWordAt unicode text pos

def Place.holds (text : Array CodePoint) (pos : Nat) : Place → Bool
  | textStart => pos == 0
  | afterNewline => pos == 0 || text[pos - 1]? == some 0x0A
  | textEnd => pos == text.size
  | beforeLastNewline => pos == text.size || (pos + 1 == text.size && text[pos]? == some 0x0A)
  | beforeNewline => pos == text.size || text[pos]? == some 0x0A
  | boundary unicode => text.size != 0 && isBoundary unicode text pos
  | notBoundary unicode => text.size != 0 && !isBoundary unicode text pos

/-- Whether the text from `pos` on repeats the `length` characters from `first` on. -/
def repeatsAt (fold : Fold) (text : Array CodePoint) (first pos : Nat) : Nat → Bool
  | 0 => true
  | length + 1 =>
    match text[first]?, text[pos]? with
    | some a, some b => fold.lower a == fold.lower b && repeatsAt fold text (first + 1) (pos + 1) length
    | _, _ => false

mutual

/-- How deep look-arounds nest in a sequence. -/
def depth : List Step → Nat
  | [] => 0
  | step :: rest => max (stepDepth step) (depth rest)

def stepDepth : Step → Nat
  | .one _ | .place _ | .mark _ | .backref _ _ => 0
  | .branch alternatives => branchDepth alternatives
  | .loop _ _ _ body _ _ => depth body
  | .possessive _ _ body _ _ => depth body
  | .atomic body => depth body
  | .look _ _ body => depth body + 1
  | .conditional _ yes no => max (depth yes) (depth no)

def branchDepth : List (List Step) → Nat
  | [] => 0
  | alternative :: rest => max (depth alternative) (branchDepth rest)

end

mutual

/-- A bound on the work that is left at one position. -/
def weight (pos : Nat) : List Step → Nat
  | [] => 0
  | step :: rest => stepWeight pos step + weight pos rest

def stepWeight (pos : Nat) : Step → Nat
  | .one _ | .place _ | .mark _ | .backref _ _ => 1
  | .branch alternatives => 1 + branchWeight pos alternatives
  | .loop _ lo _ body count last =>
    1 + (lo - count) * (weight pos body + 1) + (if last = some pos then 0 else weight pos body + 1)
  | .possessive lo _ body count last =>
    1 + (lo - count) * (weight pos body + 1) + (if last = some pos then 0 else weight pos body + 1)
  | .atomic body => 1 + weight pos body
  | .look _ _ body => 1 + weight pos body
  | .conditional _ yes no => 1 + weight pos yes + weight pos no

def branchWeight (pos : Nat) : List (List Step) → Nat
  | [] => 0
  | alternative :: rest => 1 + weight pos alternative + branchWeight pos rest

end

theorem depth_append (a b : List Step) : depth (a ++ b) = max (depth a) (depth b) := by
  induction a with
  | nil => simp [depth]
  | cons step rest ih => simp [depth, ih, Nat.max_assoc]

theorem weight_append (pos : Nat) (a b : List Step) :
    weight pos (a ++ b) = weight pos a + weight pos b := by
  induction a with
  | nil => simp [weight]
  | cons step rest ih => simp [weight, ih, Nat.add_assoc]

/-- Whether a repetition may begin another round. -/
def mayRepeat (count : Nat) : Option Nat → Bool
  | none => true
  | some limit => count < limit

/-- A round that is still missing makes up for the weight of a body. -/
theorem weight_of_missing {lo count : Nat} (h : count < lo) (b : Nat) :
    (lo - count) * (b + 1) = (lo - (count + 1)) * (b + 1) + (b + 1) := by
  have : lo - count = (lo - (count + 1)) + 1 := by omega
  rw [this, Nat.succ_mul]

/-- Works off the steps from a position; the result is the position where they end. -/
def run (text : Array CodePoint) (steps : List Step) (pos : Nat) (marks : Marks) :
    Option (Nat × Marks) :=
  match steps with
  | [] => some (pos, marks)
  | .one test :: rest =>
    if h : pos < text.size then
      if test text[pos] then run text rest (pos + 1) marks else none
    else none
  | .place p :: rest => if p.holds text pos then run text rest pos marks else none
  | .mark index :: rest => run text rest pos (marks.setIfInBounds index (some pos))
  | .backref group fold :: rest =>
    match marks.group? group with
    | none => none
    | some (first, last) =>
      if pos + (last - first) ≤ text.size && repeatsAt fold text first pos (last - first) then
        if pos < pos + (last - first) then
          if pos + (last - first) ≤ text.size then run text rest (pos + (last - first)) marks
          else none
        else run text rest pos marks
      else none
  | .branch [] :: _ => none
  | .branch (alternative :: others) :: rest =>
    match run text (alternative ++ rest) pos marks with
    | some found => some found
    | none => run text (.branch others :: rest) pos marks
  | .loop isLazy lo hi body count last :: rest =>
    if count < lo then
      run text (body ++ .loop isLazy lo hi body (count + 1) last :: rest) pos marks
    else if isLazy then
      match run text rest pos marks with
      | some found => some found
      | none =>
        if mayRepeat count hi then
          if last = some pos then none
          else run text (body ++ .loop isLazy lo hi body (count + 1) (some pos) :: rest) pos marks
        else none
    else if mayRepeat count hi then
      if last = some pos then run text rest pos marks
      else
        match run text (body ++ .loop isLazy lo hi body (count + 1) (some pos) :: rest) pos marks with
        | some found => some found
        | none => run text rest pos marks
    else run text rest pos marks
  | .possessive lo hi body count last :: rest =>
    if count < lo then
      match run text body pos marks with
      | none => none
      | some (pos', marks') =>
        if pos' = pos then
          run text (.possessive lo hi body (count + 1) last :: rest) pos marks'
        else if pos < pos' ∧ pos' ≤ text.size then
          run text (.possessive lo hi body (count + 1) last :: rest) pos' marks'
        else none
    else if mayRepeat count hi then
      if last = some pos then run text rest pos marks
      else
        match run text body pos marks with
        | none => run text rest pos marks
        | some (pos', marks') =>
          if pos' = pos then
            run text (.possessive lo hi body (count + 1) (some pos) :: rest) pos marks'
          else if pos < pos' ∧ pos' ≤ text.size then
            run text (.possessive lo hi body (count + 1) (some pos) :: rest) pos' marks'
          else none
    else run text rest pos marks
  | .atomic body :: rest =>
    match run text body pos marks with
    | none => none
    | some (pos', marks') =>
      if pos' = pos then run text rest pos marks'
      else if pos < pos' ∧ pos' ≤ text.size then run text rest pos' marks'
      else none
  | .look back negative body :: rest =>
    let inside :=
      if back.getD 0 ≤ pos then run text body (pos - back.getD 0) marks else none
    match inside with
    | some (_, marks') => if negative then none else run text rest pos marks'
    | none => if negative then run text rest pos marks else none
  | .conditional group yes no :: rest =>
    if (marks.group? group).isSome then run text (yes ++ rest) pos marks
    else run text (no ++ rest) pos marks
termination_by (depth steps, text.size - pos, weight pos steps)
decreasing_by
  all_goals
    simp only [depth, stepDepth, branchDepth, weight, stepWeight, branchWeight, depth_append,
      weight_append]
  all_goals first
    | exact Prod.Lex.left _ _ (by omega)
    | exact Prod.Lex.right' _ (by omega) (Prod.Lex.left _ _ (by omega))
    | refine Prod.Lex.right' _ (by omega) (Prod.Lex.right' _ (by omega) ?_)
  all_goals first
    | omega
    | have missing := weight_of_missing (by assumption : count < lo) (weight pos body)
      omega
    | have spent : lo - count = 0 := by omega
      have spent' : lo - (count + 1) = 0 := by omega
      simp only [spent, spent', if_true, if_neg ‹¬last = some pos›]
      omega

/-- The first match that begins at or after `start`. -/
def searchFrom (text : Array CodePoint) (program : Program) (start : Nat) : Option (Nat × Nat) :=
  if start ≤ text.size then
    match run text program.steps start (Array.replicate (2 * program.groups) none) with
    | some (stop, _) => some (start, stop)
    | none => searchFrom text program (start + 1)
  else none
termination_by text.size + 1 - start

/-- The first match in a text from an offset on. Anchors and look-behinds see the whole text. -/
def Program.search (program : Program) (text : Text) (start : Nat) : Option (Nat × Nat) :=
  searchFrom text.toArray program start

end LiteralScrub.Regex
