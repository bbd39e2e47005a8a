import LiteralScrub.Text.Basic

/-!
# Paths

A path is a root and a list of names. Empty names and single dots are left out when a path is
read; two slashes in front are a root of their own.
-/
namespace LiteralScrub

structure Path where
  root : Text := []
  names : List Text := []
  deriving DecidableEq, Repr, Inhabited

namespace Path

/-- The slashes that make a root: one, or exactly two. -/
def rootOf (t : Text) : Text :=
  match (t.takeWhile (· == 0x2F)).length with
  | 0 => []
  | 2 => [0x2F, 0x2F]
  | _ => [0x2F]

/-- The names between slashes, without empty ones and single dots. -/
def namesOf (t : Text) : List Text :=
  (Text.splitOn 0x2F t).filter fun name => name ≠ [] ∧ name ≠ [0x2E]

def ofText (t : Text) : Path := ⟨rootOf t, namesOf t⟩

def toText (p : Path) : Text :=
  match p.root, p.names with
  | [], [] => [0x2E]
  | root, names => root ++ Text.join [0x2F] names

/-- The last name; empty if there is none. -/
def name (p : Path) : Text := p.names.getLast?.getD []

/-- The part of a name from its last dot on, which is neither its first nor its last character. -/
def suffixOf (name : Text) : Text :=
  let tail := (name.reverse.takeWhile (· != 0x2E)).reverse
  let dot := name.length - tail.length
  if dot ≤ 1 || tail.isEmpty then [] else 0x2E :: tail

def suffix (p : Path) : Text := suffixOf p.name

def parent (p : Path) : Path := { p with names := p.names.dropLast }

def isAbsolute (p : Path) : Bool := !p.root.isEmpty

/-- A path taken from another one: an absolute path stays. -/
def under (base p : Path) : Path :=
  if p.isAbsolute then p else { base with names := base.names ++ p.names }

end Path

end LiteralScrub
