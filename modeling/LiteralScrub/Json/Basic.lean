import LiteralScrub.Number.Shortest
import LiteralScrub.Text.Quoted

/-!
# JSON values

Integers and floating-point numbers are told apart. The members of an object keep the order in
which their keys came first.
-/
namespace LiteralScrub

inductive Json where
  | null
  | bool (b : Bool)
  | int (n : Int)
  | float (x : Double)
  | text (t : Text)
  | array (items : List Json)
  | object (members : List (Text × Json))
  deriving Repr, Inhabited

namespace Json

/-- Sets a member: a known key keeps its place and takes the new value. -/
def insertMember (key : Text) (value : Json) : List (Text × Json) → List (Text × Json)
  | [] => [(key, value)]
  | (k, v) :: rest => if k = key then (k, value) :: rest else (k, v) :: insertMember key value rest

/-- The name of the kind of value, as messages give it. -/
def kindName : Json → String
  | null => "NoneType"
  | bool _ => "bool"
  | int _ => "int"
  | float _ => "float"
  | text _ => "str"
  | array _ => "list"
  | object _ => "dict"

mutual

/-- A value as messages show it. -/
def display : Json → Text
  | null => Text.ofString "None"
  | bool true => Text.ofString "True"
  | bool false => Text.ofString "False"
  | int n => Text.ofInt n
  | float x => x.text
  | text t => t.quoted
  | array items => Text.ofString "[" ++ displayItems items ++ Text.ofString "]"
  | object members => Text.ofString "\x7b" ++ displayMembers members ++ Text.ofString "\x7d"

def displayItems : List Json → Text
  | [] => []
  | [item] => display item
  | item :: rest => display item ++ Text.ofString ", " ++ displayItems rest

def displayMembers : List (Text × Json) → Text
  | [] => []
  | [(key, value)] => key.quoted ++ Text.ofString ": " ++ display value
  | (key, value) :: rest =>
    key.quoted ++ Text.ofString ": " ++ display value ++ Text.ofString ", " ++ displayMembers rest

end

/-- The value of a member. -/
def get? (key : Text) : Json → Option Json
  | object members => members.lookup key
  | _ => none

end Json

end LiteralScrub
