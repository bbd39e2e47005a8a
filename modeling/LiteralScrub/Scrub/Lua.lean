import LiteralScrub.Lua.Literal
import LiteralScrub.Scrub.Basic

/-!
# Walking a Lua tree

The walk goes through the attributes of a node in their order and replaces each string node that
changes at once. So when it fails, the tree holds all that was replaced until then. The arguments
of `require` are not visited.
-/
namespace LiteralScrub.Scrub

/-- Whether a node is a call that loads a module by name. -/
def isRequireCall (kind : Lua.Kind) (attrs : Attrs) : Except Problem Bool := do
  match kind with
  | .call =>
    match ← Lua.Kind.call.read attrs "func" with
    | .node (.lua .nameExpr) funcAttrs =>
      let id ← Lua.Kind.nameExpr.read funcAttrs "id"
      id.requireLookup
      match id with
      | .text t => return t = Text.ofString "require"
      | _ => return false
    | _ => return false
  | _ => return false

/-- Whether the walk passes over an attribute: the comments of a node, the line of its first token,
and what is noted under a name that begins with an underscore. -/
def isPassedOver (name : String) : Bool :=
  name = "comments" || name = "line" || name.toList.head? = some '_'

/-- Visits a string node. It is counted before it is made anew. -/
def visitString (rewrite : Text → Rewriting) (attrs : Attrs) : WalkM (Value × Option Problem) := do
  let self := Value.lua .string attrs
  match Lua.literalText attrs with
  | .error problem => return (self, some problem)
  | .ok t =>
    let line := (attrs.get? "line").getD (.text (Text.ofString "?"))
    match ← scrubText rewrite line t with
    | some new =>
      match Lua.withText attrs new with
      | .ok attrs => return (.lua .string attrs, none)
      | .error problem => return (self, some problem)
    | none => return (self, none)

mutual

/-- Visits what an attribute holds: a string node may be replaced, another node is walked
through. -/
def visitLuaValue (rewrite : Text → Rewriting) : Value → WalkM (Value × Option Problem)
  | .node (.lua kind) attrs => do
    if kind = .string then visitString rewrite attrs
    else
      match isRequireCall kind attrs with
      | .error problem => return (.node (.lua kind) attrs, some problem)
      | .ok true => return (.node (.lua kind) attrs, none)
      | .ok false =>
        let (attrs, problem) ← walkLuaAttrs rewrite attrs
        return (.node (.lua kind) attrs, problem)
  | value => return (value, none)

/-- Walks through the attributes of a node, up to the first problem. -/
def walkLuaAttrs (rewrite : Text → Rewriting) : Attrs → WalkM (Attrs × Option Problem)
  | [] => return ([], none)
  | (name, value) :: rest => do
    let (value, problem) ← if isPassedOver name then pure (value, none)
      else visitLuaField rewrite value
    match problem with
    | some problem => return ((name, value) :: rest, some problem)
    | none =>
      let (rest, problem) ← walkLuaAttrs rewrite rest
      return ((name, value) :: rest, problem)

/-- Visits an attribute that holds a list or a node. -/
def visitLuaField (rewrite : Text → Rewriting) : Value → WalkM (Value × Option Problem)
  | .list items => do
    let (items, problem) ← visitLuaItems rewrite items
    return (.list items, problem)
  | .node kind attrs => visitLuaValue rewrite (.node kind attrs)
  | value => return (value, none)

def visitLuaItems (rewrite : Text → Rewriting) : List Value → WalkM (List Value × Option Problem)
  | [] => return ([], none)
  | item :: rest => do
    let (item, problem) ← visitLuaValue rewrite item
    match problem with
    | some problem => return (item :: rest, some problem)
    | none =>
      let (rest, problem) ← visitLuaItems rewrite rest
      return (item :: rest, problem)

end

/-- Walks through a tree from its root, which is never replaced itself. -/
def walkLua (rewrite : Text → Rewriting) : Value → WalkM (Value × Option Problem)
  | .node (.lua kind) attrs => do
    match isRequireCall kind attrs with
    | .error problem => return (.node (.lua kind) attrs, some problem)
    | .ok true => return (.node (.lua kind) attrs, none)
    | .ok false =>
      let (attrs, problem) ← walkLuaAttrs rewrite attrs
      return (.node (.lua kind) attrs, problem)
  | value => return (value, none)

end LiteralScrub.Scrub
