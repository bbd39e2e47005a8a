import LiteralScrub.Python.Place
import LiteralScrub.Scrub.Basic

/-!
# Walking a Python tree

The walk changes nodes in place, but a list of nodes takes its new items only when all of them
have been visited. So visiting gives two things: what the node has become, and how the node itself
is left, which is what the tree holds if the walk fails later on.

The pieces of an interpolated string may be given by any collection, and a list takes its place.

The arguments of dynamic imports and the format specifications of interpolated strings are not
visited. Pieces of an interpolated string that are empty afterwards are dropped.
-/
namespace LiteralScrub.Scrub

/-- What the walk does: it rewrites texts, or it only drops the nodes of some kinds. -/
inductive Visitor where
  | rewriting (rewrite : Text → Rewriting)
  | dropping (kinds : List String)

/-- How a node is left, and what stands in its place: nothing if it is dropped. -/
structure Visited where
  left : Value
  result : Except Problem (Option Value)

/-- A node that stays as it is. -/
def Visited.same (value : Value) : Visited := ⟨value, .ok (some value)⟩

def Visited.failed (value : Value) (problem : Problem) : Visited := ⟨value, .error problem⟩

def importFunctions : List Text := [Text.ofString "__import__", Text.ofString "import_module"]

def isTextIn (value : Value) (texts : List Text) : Bool :=
  match value with
  | .text t => texts.contains t
  | _ => false

/-- Whether a call imports a module by name. -/
def isImportCall (attrs : Attrs) : Except Problem Bool := do
  match ← Python.Kind.call.read attrs "func" with
  | .node (.python .nameExpr) funcAttrs =>
    let id ← Python.Kind.nameExpr.read funcAttrs "id"
    id.requireLookup
    return isTextIn id importFunctions
  | .node (.python .attributeExpr) funcAttrs =>
    let attr ← Python.Kind.attributeExpr.read funcAttrs "attr"
    return isTextIn attr [Text.ofString "import_module"]
  | _ => return false

/-- Visits a constant: a text is rewritten, all else stays. -/
def visitConstant (rewrite : Text → Rewriting) (attrs : Attrs) : WalkM Visited := do
  let self := Value.python .constant attrs
  match Python.Kind.constant.read attrs "value" with
  | .error problem => return .failed self problem
  | .ok (.text t) =>
    let line := (attrs.get? "lineno").getD (.text (Text.ofString "?"))
    match ← scrubText rewrite line t with
    | some new => return ⟨self, .ok (some (.python .constant (Python.withText attrs new)))⟩
    | none => return .same self
  | .ok _ => return .same self

/-- How items are left, which of them have not been visited, and the new items if there is no
problem. -/
structure VisitedItems where
  left : List Value
  rest : List Value
  result : Except Problem (List Value)

/-- A collection after its items have been asked for up to a problem, by all items and by those
that are to come. -/
def leave (type : CollectionType) (left rest : List Value) : Value :=
  match type with
  | .iterator _ => .collection type rest
  | _ => .collection type left

/-- Whether a piece of an interpolated string is empty. -/
def isEmptyPiece : Value → Bool
  | .node (.python .constant) attrs =>
    match Attrs.get? attrs "value" with
    | some (.text []) => true
    | _ => false
  | _ => false

/-- How an attribute of a node is visited. -/
inductive FieldRule where
  /-- A node or a list of nodes is visited, all else passed over. -/
  | descend
  /-- The value has to be a node. -/
  | always
  /-- The items have to be nodes, and empty pieces are dropped. -/
  | pieces
  | skip
  deriving DecidableEq, Repr, Inhabited

def Visitor.fieldRule (visitor : Visitor) (kind : Python.Kind) (name : String) : FieldRule :=
  match visitor, kind with
  | .rewriting _, .formattedValue => if name = "value" then .always else .skip
  | .rewriting _, .joinedStr => if name = "values" then .pieces else .skip
  | _, _ => if name ∈ kind.fields then .descend else .skip

/-- The attributes without which a node of the kind cannot be visited. -/
def Visitor.requiredField (visitor : Visitor) (kind : Python.Kind) : Option String :=
  match visitor, kind with
  | .rewriting _, .formattedValue => some "value"
  | .rewriting _, .joinedStr => some "values"
  | .dropping _, .constant => some "value"
  | _, _ => none

/-- What to do with a node before its attributes are visited. -/
inductive Entry where
  | enter
  | stay
  | drop
  | fail (problem : Problem)

def Visitor.entry (visitor : Visitor) (kind : Python.Kind) (attrs : Attrs) : Entry :=
  let required :=
    match visitor.requiredField kind with
    | none => Entry.enter
    | some name =>
      match kind.read attrs name with
      | .ok _ => .enter
      | .error problem => .fail problem
  match visitor with
  | .dropping kinds => if kind.name ∈ kinds then .drop else required
  | .rewriting _ =>
    match kind with
    | .call =>
      match isImportCall attrs with
      | .error problem => .fail problem
      | .ok true => .stay
      | .ok false => .enter
    | _ => required

mutual

/-- Visits a value that has to be a node. -/
def visit (visitor : Visitor) : Value → WalkM Visited
  | .node (.python kind) attrs => do
    match visitor, kind with
    | .rewriting rewrite, .constant => visitConstant rewrite attrs
    | _, _ =>
      let self := Value.python kind attrs
      match visitor.entry kind attrs with
      | .stay => return .same self
      | .drop => return ⟨self, .ok none⟩
      | .fail problem => return .failed self problem
      | .enter =>
        let (attrs, problem) ← visitAttrs visitor kind attrs
        let self := Value.python kind attrs
        match problem with
        | some problem => return .failed self problem
        | none => return .same self
  | value => return .failed value (.noAttribute value.typeName "_fields")

/-- Visits the attributes of a node in turn, up to the first problem. -/
def visitAttrs (visitor : Visitor) (kind : Python.Kind) : Attrs → WalkM (Attrs × Option Problem)
  | [] => return ([], none)
  | (name, value) :: rest => do
    match ← visitAttr visitor (visitor.fieldRule kind name) value with
    | (new, some problem) => return ((name, new.getD value) :: rest, some problem)
    | (new, none) =>
      let (rest, problem) ← visitAttrs visitor kind rest
      match new with
      | some new => return ((name, new) :: rest, problem)
      | none => return (rest, problem)

/-- Visits one attribute: what it has become, nothing if it is dropped, and a problem if there is
one. -/
def visitAttr (visitor : Visitor) (rule : FieldRule) :
    Value → WalkM (Option Value × Option Problem)
  | .list items => do
    match rule with
    | .skip => return (some (.list items), none)
    | .always => return (some (.list items), some (.noAttribute "list" "_fields"))
    | .descend | .pieces =>
      let visited ← visitItems visitor rule items
      match visited.result with
      | .ok new => return (some (.list new), none)
      | .error problem => return (some (.list visited.left), some problem)
  | .collection type items => do
    match rule with
    | .skip | .descend => return (some (.collection type items), none)
    | .always => return (some (.collection type items), some (.noAttribute type.name "_fields"))
    | .pieces =>
      let visited ← visitItems visitor rule items
      match visited.result with
      | .ok new => return (some (.list new), none)
      | .error problem => return (some (leave type visited.left visited.rest), some problem)
  | .node (.python kind) attrs => do
    match rule with
    | .skip => return (some (.node (.python kind) attrs), none)
    | .pieces => return (some (.node (.python kind) attrs), some (.notIterable kind.name))
    | .descend | .always =>
      let visited ← visit visitor (.node (.python kind) attrs)
      match visited.result with
      | .ok new => return (new, none)
      | .error problem => return (some visited.left, some problem)
  | value => do
    match rule, value with
    | .always, _ => return (some value, some (.noAttribute value.typeName "_fields"))
    | .pieces, .text [] | .pieces, .bytes [] | .pieces, .dict [] => return (some (.list []), none)
    | .pieces, .text _ | .pieces, .dict _ =>
      return (some value, some (.noAttribute "str" "_fields"))
    | .pieces, .bytes _ => return (some value, some (.noAttribute "int" "_fields"))
    | .pieces, _ => return (some value, some (.notIterable value.typeName))
    | _, _ => return (some value, none)

/-- Visits items in turn, up to the first problem. -/
def visitItems (visitor : Visitor) (rule : FieldRule) : List Value → WalkM VisitedItems
  | [] => return ⟨[], [], .ok []⟩
  | item :: rest => do
    if rule = .descend && !item.isPythonNode then
      let others ← visitItems visitor rule rest
      return ⟨item :: others.left, others.rest, others.result.map (item :: ·)⟩
    else
      let visited ← visit visitor item
      match visited.result with
      | .error problem => return ⟨visited.left :: rest, rest, .error problem⟩
      | .ok new =>
        let others ← visitItems visitor rule rest
        let kept :=
          match new with
          | none => []
          | some new => if rule = .pieces && isEmptyPiece new then [] else [new]
        return ⟨visited.left :: others.left, others.rest, others.result.map (kept ++ ·)⟩

end

end LiteralScrub.Scrub
