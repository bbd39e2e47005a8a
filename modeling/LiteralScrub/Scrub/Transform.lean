import LiteralScrub.Scrub.Lua
import LiteralScrub.Scrub.Python

/-!
# Scrubbing a tree

The language of a tree is that of its root; a value that is no tree is taken for a Python one and
refused. A failure is reported, with the tree as the walk left it.
-/
namespace LiteralScrub.Scrub

inductive Mode where
  | python
  | lua
  deriving DecidableEq, Repr, Inhabited

def Mode.name : Mode → String
  | python => "python"
  | lua => "lua"

/-- What has become of a tree. -/
structure Outcome where
  /-- The new tree, if there was no failure. -/
  tree : Option Value
  /-- The given tree as it is now. -/
  left : Value
  /-- Whether the root is still the given one. -/
  sameRoot : Bool
  count : Nat
  errors : List Text
  deriving Inhabited

def Outcome.success (o : Outcome) : Bool := o.tree.isSome

/-- A failure, with the tree as it was left. It comes behind the errors that there are already. -/
def failed (errors : List Text) (left : Value) (count : Nat) (problem : Problem) :
    Logged Outcome := do
  let error := Text.ofString s!"Transformation failed: {problem.className}: {problem.message}"
  Logged.write .error logger error
  return ⟨none, left, false, count, errors ++ [error]⟩

/-- Walks through a Python tree, with the places filled in before and after. The walk goes on from a
count and from errors. -/
def transformPythonFrom (start : Nat) (errors : List Text) (visitor : Visitor) (tree : Value) :
    Logged Outcome := do
  match Python.withPlaces tree with
  | .error problem => failed errors tree start problem
  | .ok placed =>
    let (visited, count) ← (visit visitor placed).run start
    match visited.result with
    | .error problem => failed errors visited.left count problem
    | .ok none => failed errors visited.left count .nothingLeft
    | .ok (some new) =>
      match Python.withPlaces new with
      | .error problem => failed errors visited.left count problem
      | .ok new =>
        Logged.write .debug logger
          (Text.ofString s!"Transformation completed: {count} nodes transformed")
        let replaced := count > start &&
          match tree with
          | .node (.python .constant) _ => true
          | _ => false
        return ⟨some new, if replaced then visited.left else new, !replaced, count, errors⟩

def transformPython (visitor : Visitor) (tree : Value) : Logged Outcome :=
  transformPythonFrom 0 [] visitor tree

/-- Walks through a Lua tree, from a count and from errors. -/
def transformLuaFrom (start : Nat) (errors : List Text) (rewrite : Text → Rewriting)
    (tree : Value) : Logged Outcome := do
  let ((tree, problem), count) ← (walkLua rewrite tree).run start
  match problem with
  | some problem => failed errors tree count problem
  | none =>
    Logged.write .debug logger
      (Text.ofString s!"Lua literal scrub completed: {count} literals rewritten")
    return ⟨some tree, tree, true, count, errors⟩

def transformLua (rewrite : Text → Rewriting) (tree : Value) : Logged Outcome :=
  transformLuaFrom 0 [] rewrite tree

/-- The language that a value is walked in. -/
def modeOf (tree : Value) : Mode := if tree.isLuaNode then .lua else .python

/-- Scrubs every string literal of a tree. -/
def transform (rewrite : Text → Rewriting) (tree : Value) : Logged Outcome :=
  match modeOf tree with
  | .lua => transformLua rewrite tree
  | .python => transformPython (.rewriting rewrite) tree

end LiteralScrub.Scrub
