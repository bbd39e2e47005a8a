import LiteralScrub.Scrub.Transform

/-!
# Transformers

A transformer scrubs one tree after another. Its count and its errors stay until the next tree. A
tree is changed in place, and a report holds that very tree and the very list of errors that the
transformer writes to. So trees and lists of errors are kept in a memory, and transformers and
reports know them by their places. Trees at different places have no node in common.
-/
namespace LiteralScrub.Scrub

structure Memory where
  /-- The lists of errors, in the order in which they were made. -/
  lists : List (List Text)
  /-- The trees: those that the host has made, then new ones. -/
  trees : List Value
  deriving Inhabited

namespace Memory

def list (memory : Memory) (place : Nat) : List Text := memory.lists.getD place []

def tree (memory : Memory) (place : Nat) : Value := memory.trees.getD place .null

/-- The place of the new tree: that of the given one, or behind all trees if the root is another. -/
def rootPlace (memory : Memory) (given : Nat) (outcome : Outcome) : Option Nat :=
  outcome.tree.map fun _ => if outcome.sameRoot then given else memory.trees.length

/-- The memory once the tree at a place was walked through. The tree is changed in place, and errors
go into the list that is there. -/
def record (memory : Memory) (given errors : Nat) (outcome : Outcome) : Memory where
  lists := memory.lists.set errors outcome.errors
  trees := memory.trees.set given outcome.left ++
    if outcome.sameRoot then [] else outcome.tree.toList

end Memory

/-- What a transformer keeps from one tree to the next. -/
structure Transformer where
  count : Nat
  /-- The place of its list of errors. -/
  errors : Nat
  /-- The language of the last tree. -/
  mode : Option Mode
  deriving DecidableEq, Repr, Inhabited

/-- What a transformer reports of a tree. -/
structure Report where
  /-- The place of the new tree, if there was no failure. -/
  tree : Option Nat
  /-- The place of the given tree. -/
  given : Nat
  count : Nat
  /-- The place of its list of errors. -/
  errors : Nat
  deriving DecidableEq, Repr, Inhabited

/-- What a report says, as the memory is. -/
def Report.read (report : Report) (memory : Memory) : Outcome :=
  ⟨report.tree.map memory.tree, memory.tree report.given, report.tree = some report.given,
    report.count, memory.list report.errors⟩

/-- A computation of a transformer, which may add to the memory and write to it. -/
abbrev TransformM := StateT (Transformer × Memory) Logged

namespace Transformer

/-- A new transformer has a new list. -/
def new (memory : Memory) : Transformer × Memory :=
  (⟨0, memory.lists.length, none⟩, { memory with lists := memory.lists ++ [[]] })

/-- Gets ready for a tree: nothing is counted yet, and the list is a new one. -/
def reset : TransformM Unit :=
  modify fun (self, memory) =>
    ({ self with count := 0, errors := memory.lists.length },
      { memory with lists := memory.lists ++ [[]] })

def setMode (mode : Mode) : TransformM Unit :=
  modify fun (self, memory) => ({ self with mode := some mode }, memory)

/-- Walks through the tree at a place, on from the count and the errors so far. -/
def proceed (walk : Nat → List Text → Value → Logged Outcome) (given : Nat) :
    TransformM Report := do
  let (self, memory) ← get
  let outcome ← walk self.count (memory.list self.errors) (memory.tree given)
  set ({ self with count := outcome.count }, memory.record given self.errors outcome)
  return ⟨memory.rootPlace given outcome, given, outcome.count, self.errors⟩

/-- Scrubs every string literal of the tree at a place. -/
def transform (rewrite : Text → Rewriting) (given : Nat) : TransformM Report := do
  let (_, memory) ← get
  match modeOf (memory.tree given) with
  | .lua =>
    reset
    setMode .lua
    proceed (fun count errors tree => transformLuaFrom count errors rewrite tree) given
  | .python =>
    setMode .python
    reset
    proceed (fun count errors tree => transformPythonFrom count errors (.rewriting rewrite) tree)
      given

end Transformer

end LiteralScrub.Scrub
