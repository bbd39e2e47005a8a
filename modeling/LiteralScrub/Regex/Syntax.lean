import LiteralScrub.Text.Basic

/-!
# Syntax of search patterns

A pattern is a sequence of nodes. `width` bounds the number of code points that a sequence can
take; a look-behind is well formed only if the two bounds of its body agree.
-/
namespace LiteralScrub.Regex

/-- How a pattern is to be read; a group may switch flags for its own body. -/
structure Flags where
  ignoreCase : Bool := false
  multiline : Bool := false
  dotAll : Bool := false
  verbose : Bool := false
  ascii : Bool := false
  unicode : Bool := false
  template : Bool := false
  deriving DecidableEq, Repr, Inhabited

namespace Flags

def union (a b : Flags) : Flags where
  ignoreCase := a.ignoreCase || b.ignoreCase
  multiline := a.multiline || b.multiline
  dotAll := a.dotAll || b.dotAll
  verbose := a.verbose || b.verbose
  ascii := a.ascii || b.ascii
  unicode := a.unicode || b.unicode
  template := a.template || b.template

def diff (a b : Flags) : Flags where
  ignoreCase := a.ignoreCase && !b.ignoreCase
  multiline := a.multiline && !b.multiline
  dotAll := a.dotAll && !b.dotAll
  verbose := a.verbose && !b.verbose
  ascii := a.ascii && !b.ascii
  unicode := a.unicode && !b.unicode
  template := a.template && !b.template

def isEmpty (a : Flags) : Bool := a = {}

/-- Whether some flag is in both. -/
def overlaps (a b : Flags) : Bool := a.diff (a.diff b) != {}

/-- The flags that choose the character classes. -/
def classes : Flags := { ascii := true, unicode := true }

/-- The flags inside a group that turns `on` and `off` some of them. -/
def within (a on off : Flags) : Flags :=
  let base := if on.overlaps classes then a.diff classes else a
  (base.union on).diff off

/-- The flag of a letter in a group head. -/
def ofLetter? : CodePoint → Option Flags
  | 0x69 => some { ignoreCase := true }
  | 0x6D => some { multiline := true }
  | 0x73 => some { dotAll := true }
  | 0x78 => some { verbose := true }
  | 0x61 => some { ascii := true }
  | 0x74 => some { template := true }
  | 0x75 => some { unicode := true }
  | _ => none

end Flags

inductive Category where
  | digit
  | space
  | word
  deriving DecidableEq, Repr, Inhabited

inductive SetItem where
  | point (c : CodePoint)
  | range (lo hi : CodePoint)
  | category (kind : Category) (negated : Bool)
  deriving DecidableEq, Repr, Inhabited

inductive Anchor where
  | lineStart
  | lineEnd
  | textStart
  | textEnd
  | boundary
  | notBoundary
  deriving DecidableEq, Repr, Inhabited

inductive RepeatMode where
  | greedy
  | lazy
  | possessive
  deriving DecidableEq, Repr, Inhabited

inductive Node where
  | point (c : CodePoint)
  | notPoint (c : CodePoint)
  | any
  | set (negated : Bool) (items : List SetItem)
  | anchor (a : Anchor)
  | branch (alternatives : List (List Node))
  | repeated (mode : RepeatMode) (min : Nat) (max : Option Nat) (body : List Node)
  | group (index : Option Nat) (on off : Flags) (body : List Node)
  | atomic (body : List Node)
  | look (behind negative : Bool) (body : List Node)
  | backref (group : Nat)
  | conditional (group : Nat) (yes : List Node) (no : Option (List Node))
  deriving Repr, Inhabited

/-- Two nodes that hold no sequence are the same; nodes that do are always told apart. -/
def Node.sameLeaf : Node → Node → Bool
  | point c, point d => c == d
  | notPoint c, notPoint d => c == d
  | any, any => true
  | set n xs, set m ys => n == m && xs == ys
  | anchor a, anchor b => a == b
  | backref g, backref h => g == h
  | _, _ => false

/-- The least and the greatest number of code points that a sequence takes. -/
structure Width where
  least : Nat
  greatest : Nat
  deriving DecidableEq, Repr, Inhabited

namespace Width

/-- Widths are cut at this bound, which stands for "no bound". -/
def unbounded : Nat := Nat.pow 2 64

def add (a b : Width) : Width := ⟨a.least + b.least, a.greatest + b.greatest⟩

def capped (a : Width) : Width := ⟨min a.least unbounded, min a.greatest unbounded⟩

def join (a b : Width) : Width := ⟨min a.least b.least, max a.greatest b.greatest⟩

/-- The body taken `lo` to `hi` times. -/
def times (body : Width) (lo : Nat) : Option Nat → Width
  | some hi => ⟨body.least * lo, body.greatest * hi⟩
  | none => ⟨body.least * lo, if body.greatest = 0 then 0 else unbounded⟩

end Width

mutual

/-- The width of a sequence, given the widths of the closed groups. -/
def width (groups : Array (Option Width)) : List Node → Width
  | [] => ⟨0, 0⟩
  | node :: rest => ((nodeWidth groups node).add (width groups rest)).capped

def nodeWidth (groups : Array (Option Width)) : Node → Width
  | .point _ | .notPoint _ | .any | .set _ _ => ⟨1, 1⟩
  | .anchor _ | .look _ _ _ => ⟨0, 0⟩
  | .branch alternatives => branchWidth groups alternatives
  | .repeated _ lo hi body => (width groups body).times lo hi
  | .group _ _ _ body => width groups body
  | .atomic body => width groups body
  | .backref group => ((groups[group]?).bind id).getD ⟨0, 0⟩
  | .conditional _ yes none => { width groups yes with least := 0 }
  | .conditional _ yes (some no) => (width groups yes).join (width groups no)

def branchWidth (groups : Array (Option Width)) : List (List Node) → Width
  | [] => ⟨Width.unbounded, 0⟩
  | alternative :: rest => (width groups alternative).join (branchWidth groups rest)

end

end LiteralScrub.Regex
