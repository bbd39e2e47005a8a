import LiteralScrub.Regex.Folding
import LiteralScrub.Regex.Reader

/-!
# Patterns made ready to run

A program is a sequence of steps in which flags are resolved: each step knows the characters that
it takes and how it compares them. Look-behinds know how far they go back.
-/
namespace LiteralScrub.Regex

/-- A place that takes no characters. -/
inductive Place where
  | textStart
  | afterNewline
  | textEnd
  | beforeLastNewline
  | beforeNewline
  | boundary (unicode : Bool)
  | notBoundary (unicode : Bool)
  deriving DecidableEq, Repr, Inhabited

inductive Step where
  | one (test : CodePoint → Bool)
  | place (p : Place)
  | mark (index : Nat)
  | backref (group : Nat) (fold : Fold)
  | branch (alternatives : List (List Step))
  /-- A repetition that gives back what it took; `count` rounds are done, and the last one beyond
  the least number began at `last`. -/
  | loop (isLazy : Bool) (min : Nat) (max : Option Nat) (body : List Step) (count : Nat)
      (last : Option Nat)
  | possessive (min : Nat) (max : Option Nat) (body : List Step) (count : Nat) (last : Option Nat)
  | atomic (body : List Step)
  | look (back : Option Nat) (negative : Bool) (body : List Step)
  | conditional (group : Nat) (yes no : List Step)
  deriving Inhabited

def Anchor.place (flags : Flags) : Anchor → Place
  | lineStart => if flags.multiline then .afterNewline else .textStart
  | lineEnd => if flags.multiline then .beforeNewline else .beforeLastNewline
  | textStart => .textStart
  | textEnd => .textEnd
  | boundary => .boundary flags.unicode
  | notBoundary => .notBoundary flags.unicode

/-- How far a look-behind goes back. -/
def lookbehindWidth (groups : Array (Option Width)) (body : List Node) : Except Failure Nat :=
  let w := width groups body
  if w.least > 0xFFFFFFFF then .error (.malformed .lookbehindTooLong none)
  else if w.least ≠ w.greatest then .error (.malformed .lookbehindNotFixed none)
  else .ok w.least

mutual

def compileNodes (groups : Array (Option Width)) (flags : Flags) :
    List Node → Except Failure (List Step)
  | [] => return []
  | node :: rest => do
    let steps ← compileNode groups flags node
    return steps ++ (← compileNodes groups flags rest)

def compileNode (groups : Array (Option Width)) (flags : Flags) : Node → Except Failure (List Step)
  | .point c => return [.one (matchesPoint flags.fold c)]
  | .notPoint c => return [.one fun x => !matchesPoint flags.fold c x]
  | .any => return [.one fun x => flags.dotAll || x != 0x0A]
  | .set negated items => return [.one (matchesSet flags.fold flags.unicode negated items)]
  | .anchor a => return [.place (a.place flags)]
  | .branch alternatives => return [.branch (← compileAlternatives groups flags alternatives)]
  | .repeated mode lo hi body => do
    if flags.template then throw (.malformed (.templateRepeat mode) none)
    let body ← compileNodes groups flags body
    match mode with
    | .greedy => return [.loop false lo hi body 0 none]
    | .lazy => return [.loop true lo hi body 0 none]
    | .possessive => return [.possessive lo hi body 0 none]
  | .group none on off body => compileNodes groups (flags.within on off) body
  | .group (some index) on off body => do
    let body ← compileNodes groups (flags.within on off) body
    return .mark (2 * index) :: body ++ [.mark (2 * index + 1)]
  | .atomic body => return [.atomic (← compileNodes groups flags body)]
  | .look false negative body => return [.look none negative (← compileNodes groups flags body)]
  | .look true negative body => do
    let back ← lookbehindWidth groups body
    return [.look (some back) negative (← compileNodes groups flags body)]
  | .backref group => return [.backref group flags.fold]
  | .conditional group yes none => do
    return [.conditional group (← compileNodes groups flags yes) []]
  | .conditional group yes (some no) => do
    let yes ← compileNodes groups flags yes
    return [.conditional group yes (← compileNodes groups flags no)]

def compileAlternatives (groups : Array (Option Width)) (flags : Flags) :
    List (List Node) → Except Failure (List (List Step))
  | [] => return []
  | alternative :: rest => do
    let steps ← compileNodes groups flags alternative
    return steps :: (← compileAlternatives groups flags rest)

end

structure Program where
  steps : List Step
  groups : Nat

/-- Reads a pattern and makes it ready to run, unless it is nested too deep. -/
def compile (tooDeep : Text → Bool) (pattern : Text) : Except Failure Program :=
  if tooDeep pattern then .error .nestedTooDeep
  else do
    let parsed ← parse pattern
    return ⟨← compileNodes parsed.widths parsed.flags parsed.nodes, parsed.widths.size⟩

end LiteralScrub.Regex
