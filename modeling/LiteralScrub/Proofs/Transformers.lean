import LiteralScrub.Proofs.LuaTrees
import LiteralScrub.Proofs.Records
import LiteralScrub.Scrub.Transformer

/-!
# A transformer carries nothing over

What a transformer reports of a tree is what a new one reports of it, whatever trees came before. A
call changes the tree that it is given and nothing else that there is in the memory. So a report
that was handed out stays as it is, unless a later call is given the very tree that it holds.
-/
namespace LiteralScrub.Scrub

open Logged

variable {rewrite : Text → Rewriting}

/-! ## What a call keeps -/

/-- All that there is in a memory is still in a later one, but for the trees at the given places. -/
structure Memory.Extends (given : List Nat) (memory later : Memory) : Prop where
  lists : memory.lists <+: later.lists
  length_le : memory.trees.length ≤ later.trees.length
  tree_eq : ∀ place < memory.trees.length, place ∉ given → later.tree place = memory.tree place

namespace Memory.Extends

variable {given others : List Nat} {memory later last : Memory}

theorem refl (memory : Memory) : Extends [] memory memory :=
  ⟨List.prefix_rfl, Nat.le_refl _, fun _ _ _ => rfl⟩

theorem trans (h : Extends given memory later) (h' : Extends others later last) :
    Extends (given ++ others) memory last where
  lists := h.lists.trans h'.lists
  length_le := h.length_le.trans h'.length_le
  tree_eq := by
    intro place hplace hmem
    rw [List.mem_append, not_or] at hmem
    rw [h'.tree_eq place (Nat.lt_of_lt_of_le hplace h.length_le) hmem.2,
      h.tree_eq place hplace hmem.1]

end Memory.Extends

/-! ## One tree -/

/-- What becomes of a tree, which does not depend on the log. -/
def outcomeOf (rewrite : Text → Rewriting) (tree : Value) : Outcome :=
  (transform rewrite tree).value #[]

/-- What is handed out for a tree, with the transformer right after it and the memory before and
after. -/
structure Call where
  before : Memory
  report : Report
  self : Transformer
  after : Memory

/-- The call for the tree at a place. -/
def callOf (rewrite : Text → Rewriting) (given : Nat) (memory : Memory) : Call :=
  let outcome := outcomeOf rewrite (memory.tree given)
  { before := memory
    report := ⟨memory.rootPlace given outcome, given, outcome.count, memory.lists.length⟩
    self := ⟨outcome.count, memory.lists.length, some (modeOf (memory.tree given))⟩
    after := ⟨memory.lists ++ [outcome.errors],
      (memory.record given memory.lists.length outcome).trees⟩ }

section Record

variable {memory : Memory} {given place : Nat} (errors : Nat) {outcome : Outcome} {new : Value}

end Record

/-- Scrubs the trees at places one after the other. -/
def transformAll (rewrite : Text → Rewriting) : List Nat → TransformM (List Call)
  | [] => return []
  | given :: rest => do
    let (_, before) ← get
    let report ← Transformer.transform rewrite given
    let (self, after) ← get
    return ⟨before, report, self, after⟩ :: (← transformAll rewrite rest)

/-- The calls of a transformer for trees one after the other. -/
def calls (rewrite : Text → Rewriting) (places : List Nat) (start : Transformer × Memory)
    (log : Array LogRecord) : List Call :=
  (((transformAll rewrite places).run start).value log).1

end LiteralScrub.Scrub
