import LiteralScrub.Tree.Value

/-!
# What goes wrong in a malformed tree
-/
namespace LiteralScrub

inductive Problem where
  | noAttribute (owner name : String)
  | notIterable (owner : String)
  | unhashable (owner : String)
  | nothingLeft
  deriving DecidableEq, Repr, Inhabited

namespace Problem

/-- The class of the problem, as messages give it. -/
def className : Problem → String
  | noAttribute _ _ => "AttributeError"
  | notIterable _ | unhashable _ => "TypeError"
  | nothingLeft => "ValueError"

def message : Problem → String
  | noAttribute owner name => s!"'{owner}' object has no attribute '{name}'"
  | notIterable owner => s!"'{owner}' object is not iterable"
  | unhashable owner => s!"unhashable type: '{owner}'"
  | nothingLeft => "Transformation returned None"

end Problem

/-- Reads an attribute of a Python node. One that may be left out reads as nothing. -/
def Python.Kind.read (kind : Python.Kind) (attrs : Attrs) (name : String) : Except Problem Value :=
  match attrs.get? name with
  | some value => .ok value
  | none =>
    if name ∈ kind.optionalFields then .ok .null else .error (.noAttribute kind.name name)

/-- Reads an attribute of a Lua node. -/
def Lua.Kind.read (kind : Lua.Kind) (attrs : Attrs) (name : String) : Except Problem Value :=
  match attrs.get? name with
  | some value => .ok value
  | none => .error (.noAttribute kind.name name)

namespace Value

mutual

/-- Whether a value has a hash. A tuple has one if its items have, and Lua nodes have none, since
they are compared by what they hold. -/
def requireHash : Value → Except Problem Unit
  | .list _ => .error (.unhashable "list")
  | .dict _ => .error (.unhashable "dict")
  | .node (.lua kind) _ => .error (.unhashable kind.name)
  | .collection .tuple items => requireHashes items
  | .collection .set _ => .error (.unhashable "set")
  | .collection (.other name false) _ => .error (.unhashable name)
  | _ => .ok ()

def requireHashes : List Value → Except Problem Unit
  | [] => .ok ()
  | item :: rest => do
    requireHash item
    requireHashes rest

end

/-- Whether a set can be asked for a value. For a set it is, as if that were frozen. -/
def requireLookup : Value → Except Problem Unit
  | .collection .set _ => .ok ()
  | value => value.requireHash

end Value

end LiteralScrub
