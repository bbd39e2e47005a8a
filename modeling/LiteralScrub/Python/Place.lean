import LiteralScrub.Python.Literal

/-!
# Places in a Python tree

A node without a place takes that of the node above it. Going down from the beginning of the
source, each part of a place that a node lacks is filled in, and one that it has is handed on.
-/
namespace LiteralScrub.Python

/-- The place that is handed down. -/
structure Place where
  line : Value := .int 1
  column : Value := .int 0
  endLine : Value := .int 1
  endColumn : Value := .int 0
  deriving Inhabited

/-- One part of a place: the attributes with it filled in, and what is handed on. -/
def fillIn (attrs : Attrs) (name : String) (handed : Value) (nullCounts : Bool) : Attrs × Value :=
  match attrs.get? name with
  | none => (attrs.set name handed, handed)
  | some .null => if nullCounts then (attrs, .null) else (attrs.set name handed, handed)
  | some value => (attrs, value)

/-- Fills in the place of a node. Where a node begins may be nothing, where it ends may not. -/
def fillPlace (kind : Kind) (attrs : Attrs) (place : Place) : Attrs × Place :=
  if kind.hasPlace then
    let (attrs, line) := fillIn attrs "lineno" place.line true
    let (attrs, endLine) := fillIn attrs "end_lineno" place.endLine false
    let (attrs, column) := fillIn attrs "col_offset" place.column true
    let (attrs, endColumn) := fillIn attrs "end_col_offset" place.endColumn false
    (attrs, ⟨line, column, endLine, endColumn⟩)
  else (attrs, place)

/-- The attributes of a node that are no fields of its kind. -/
def remarks (kind : Kind) (attrs : Attrs) : Attrs :=
  attrs.filter fun attr => attr.1 ∉ kind.fields

mutual

/-- Fills in the places of a node and the nodes below it. -/
def fixPlaces (place : Place) : Value → Value
  | .node (.python kind) attrs =>
    let (filled, inner) := fillPlace kind attrs place
    .node (.python kind) (fixFields kind inner attrs ++ remarks kind filled)
  | value => value

/-- The fields of a node with the places below filled in. -/
def fixFields (kind : Kind) (place : Place) : Attrs → Attrs
  | [] => []
  | (name, value) :: rest =>
    if name ∈ kind.fields then (name, fixField place value) :: fixFields kind place rest
    else fixFields kind place rest

def fixField (place : Place) : Value → Value
  | .list items => .list (fixItems place items)
  | .node (.python kind) attrs =>
    let (filled, inner) := fillPlace kind attrs place
    .node (.python kind) (fixFields kind inner attrs ++ remarks kind filled)
  | value => value

def fixItems (place : Place) : List Value → List Value
  | [] => []
  | item :: rest => fixPlaces place item :: fixItems place rest

end

/-- Fills in all places of a tree. -/
def withPlaces (tree : Value) : Except Problem Value :=
  if tree.isPythonNode then .ok (fixPlaces {} tree)
  else .error (.noAttribute tree.typeName "_attributes")

end LiteralScrub.Python
