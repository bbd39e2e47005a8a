import LiteralScrub.Tree.Problem

/-!
# String constants of Python trees
-/
namespace LiteralScrub.Python

/-- The attributes that say where a node stands. -/
def placeNames : List String := ["lineno", "col_offset", "end_lineno", "end_col_offset"]

/-- The place of the old node for a new one. Where it ends is always set, if only to nothing. -/
def copyPlace (old : Attrs) (names : List String) : Attrs :=
  names.filterMap fun name =>
    let isEnd := name == "end_lineno" || name == "end_col_offset"
    match old.get? name with
    | none => if isEnd then some (name, .null) else none
    | some .null => if isEnd then some (name, .null) else none
    | some value => some (name, value)

/-- The attributes of a constant with a new text. -/
def withText (attrs : Attrs) (t : Text) : Attrs :=
  ("value", .text t) :: ("kind", (attrs.get? "kind").getD .null) :: copyPlace attrs placeNames

end LiteralScrub.Python
