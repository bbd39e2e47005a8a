import LiteralScrub.Lua.Kind
import LiteralScrub.Number.Shortest
import LiteralScrub.Python.Kind
import LiteralScrub.Text.Quoted
import LiteralScrub.Text.Utf8

/-!
# Values in syntax trees

A tree is built by hosts that need not fill in all fields and may put values of any kind into
them. So a node is a kind with a list of named attributes: the fields that are there, in the order
of the kind, then places and other remarks. What is not in the list is not there.

Besides lists and dictionaries with texts for keys there are other collections: whatever gives out
items, one after the other, is known by these items.
-/
namespace LiteralScrub

/-- The words by which Lua nodes say how they are written. -/
inductive Symbol where
  | singleQuote
  | doubleQuote
  | doubleSquare
  | dot
  | square
  | default
  | noParenthesis
  deriving DecidableEq, Repr, Inhabited

inductive NodeKind where
  | python (kind : Python.Kind)
  | lua (kind : Lua.Kind)
  deriving DecidableEq, Repr, Inhabited

/-- The types of the collections that are neither lists nor dictionaries with texts for keys. -/
inductive CollectionType where
  | tuple
  | set
  | frozenset
  /-- A collection that gives out each item once. -/
  | iterator (name : String)
  | other (name : String) (hashable : Bool)
  deriving DecidableEq, Repr, Inhabited

inductive Value where
  | null
  | bool (b : Bool)
  | int (n : Int)
  | float (x : Double)
  | complex (re im : Double)
  | ellipsis
  | text (t : Text)
  | bytes (b : Bytes)
  | symbol (s : Symbol)
  | list (items : List Value)
  | dict (members : List (Text × Value))
  | collection (type : CollectionType) (items : List Value)
  | node (kind : NodeKind) (attrs : List (String × Value))
  deriving Repr, Inhabited

abbrev Attrs := List (String × Value)

namespace Attrs

def get? (attrs : Attrs) (name : String) : Option Value := attrs.lookup name

/-- Sets an attribute; a new one goes to the end. -/
def set (name : String) (value : Value) : Attrs → Attrs
  | [] => [(name, value)]
  | (n, v) :: rest => if n = name then (n, value) :: rest else (n, v) :: set name value rest

def has (attrs : Attrs) (name : String) : Bool := (attrs.get? name).isSome

end Attrs

def Symbol.typeName : Symbol → String
  | singleQuote | doubleQuote | doubleSquare => "StringDelimiter"
  | dot | square => "IndexNotation"
  | default | noParenthesis => "CallStyle"

def NodeKind.name : NodeKind → String
  | python kind => kind.name
  | lua kind => kind.name

def CollectionType.name : CollectionType → String
  | tuple => "tuple"
  | set => "set"
  | frozenset => "frozenset"
  | iterator name | other name _ => name

namespace Value

/-- The name of the type of a value, as messages give it. -/
def typeName : Value → String
  | null => "NoneType"
  | bool _ => "bool"
  | int _ => "int"
  | float _ => "float"
  | complex _ _ => "complex"
  | ellipsis => "ellipsis"
  | text _ => "str"
  | bytes _ => "bytes"
  | symbol s => s.typeName
  | list _ => "list"
  | dict _ => "dict"
  | collection type _ => type.name
  | node kind _ => kind.name

def isPythonNode : Value → Bool
  | node (.python _) _ => true
  | _ => false

def isLuaNode : Value → Bool
  | node (.lua _) _ => true
  | _ => false

/-- A Python node with the fields in the order of its kind. -/
def python (kind : Python.Kind) (attrs : Attrs) : Value := node (.python kind) attrs

def lua (kind : Lua.Kind) (attrs : Attrs) : Value := node (.lua kind) attrs

end Value

end LiteralScrub
