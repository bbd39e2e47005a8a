import LiteralScrub.Tree.Display
import LiteralScrub.Tree.Problem

/-!
# Printing Python

Printing writes a text piece by piece, with the indentation of the block that it is in. A
precedence says how tightly the context binds: an expression that binds less is put in
parentheses.
-/
namespace LiteralScrub.Python.Printer

/-- Why a tree cannot be printed. -/
inductive Fault where
  /-- The tree is nested too deep. -/
  | tooDeep
  /-- A node holds a value that has no written form. -/
  | unprintable (message : String)
  /-- The tree is malformed. -/
  | problem (p : Problem)
  | unknownOperator (name : String)
  deriving Repr, Inhabited

structure Context where
  indent : Nat := 0
  /-- Inside the braces of an interpolated string no backslash may be written. -/
  avoidBackslashes : Bool := false
  inTryStar : Bool := false
  /-- The remarks on ignored type errors, by line. -/
  typeIgnores : List (Value × Text) := []
  deriving Inhabited

/-- What is written, last code point first, and whether anything was written at all. -/
structure Output where
  reversed : Text := []
  started : Bool := false
  deriving Inhabited

abbrev PrintM := ReaderT Context (StateT Output (Except Fault))

def writeText (t : Text) : PrintM Unit :=
  modify fun out => ⟨t.reverse ++ out.reversed, true⟩

def write (s : String) : PrintM Unit := writeText (Text.ofString s)

/-- A line break, except at the very beginning. -/
def maybeNewline : PrintM Unit := do
  if (← get).started then write "\n"

/-- Begins a line in the current block. -/
def fill (s : String) : PrintM Unit := do
  maybeNewline
  writeText (List.replicate (4 * (← readThe Context).indent) 0x20 ++ Text.ofString s)

/-- Writes into a text of its own. -/
def buffered (x : PrintM Unit) : PrintM Output := do
  let outer ← get
  set ({} : Output)
  x
  let inner ← get
  set outer
  return inner

def Output.text (out : Output) : Text := out.reversed.reverse

def delimit (first last : String) (x : PrintM Unit) : PrintM Unit := do
  write first
  x
  write last

def delimitIf (first last : String) (condition : Bool) (x : PrintM Unit) : PrintM Unit :=
  if condition then delimit first last x else x

/-- Writes items with a separator between them. -/
def interleave {α : Type} (separator : String) (f : α → PrintM Unit) : List α → PrintM Unit
  | [] => return ()
  | [item] => f item
  | item :: rest => do
    f item
    write separator
    interleave separator f rest

/-- A colon, a remark if there is one, and an indented block. -/
def block (remark : Option Text) (x : PrintM Unit) : PrintM Unit := do
  write ":"
  if let some remark := remark then writeText remark
  withReader (fun c => { c with indent := c.indent + 1 }) x

/-- How tightly an operator binds; more is tighter. -/
abbrev Precedence := Nat

namespace Precedence

def namedExpr : Precedence := 1
def tuple : Precedence := 2
def yield : Precedence := 3
def test : Precedence := 4
def or : Precedence := 5
def and : Precedence := 6
def not : Precedence := 7
def cmp : Precedence := 8
def expr : Precedence := 9
def bitXor : Precedence := 10
def bitAnd : Precedence := 11
def shift : Precedence := 12
def arith : Precedence := 13
def term : Precedence := 14
def factor : Precedence := 15
def power : Precedence := 16
def await : Precedence := 17
def atom : Precedence := 18

/-- The next tighter precedence. -/
def next (p : Precedence) : Precedence := min (p + 1) atom

end Precedence

/-- Reads an attribute of a node. -/
def attr (kind : Kind) (attrs : Attrs) (name : String) : PrintM Value :=
  match kind.read attrs name with
  | .ok value => return value
  | .error p => throw (.problem p)

/-- The items of a list. -/
def itemsOf : Value → PrintM (List Value)
  | .list items | .collection _ items => return items
  | .text t => return t.map fun c => .text [c]
  | value => throw (.problem (.notIterable value.typeName))

/-- The items of an attribute. -/
def attrItems (kind : Kind) (attrs : Attrs) (name : String) : PrintM (List Value) := do
  itemsOf (← attr kind attrs name)

/-- Whether an optional part is there. -/
def isPresent : Value → Bool
  | .null => false
  | .bool b => b
  | .int n => n ≠ 0
  | .float x => !x.isZero
  | .complex re im => !(re.isZero && im.isZero)
  | .text t => !t.isEmpty
  | .bytes b => !b.isEmpty
  | .list items => !items.isEmpty
  | .dict members => !members.isEmpty
  | .collection (.iterator _) _ => true
  | .collection _ items => !items.isEmpty
  | _ => true

/-- Writes a name. -/
def writeName : Value → PrintM Unit
  | .text t => writeText t
  | value => throw (.problem (.noAttribute value.typeName "join"))

end LiteralScrub.Python.Printer
