import LiteralScrub.Python.Reader.Atom

/-!
# Targets of assignments, loops and deletions
-/
namespace LiteralScrub.Python.Reader

variable (nested : Nested)

/-- What can be applied to an expression comes next. -/
def applicationAhead : ReadM Unit := ahead (sign "(" <|> sign "[" <|> sign ".")

def noApplicationAhead : ReadM Unit := notAhead (sign "(" <|> sign "[" <|> sign ".")

/-- An expression to which more is applied. -/
def targetPrimary : ReadM Value := do
  let first ← peek
  let value ← atom nested
  applicationAhead
  extend (applied nested applicationAhead first) value

/-- An attribute or an item, with what is done to it. -/
def attributeOrItem (usage : Kind) : ReadM Value :=
  around .attributeExpr (do
    let value ← nested.tree .targetPrimary
    let _ ← sign "."
    let (t, _) ← nameToken
    noApplicationAhead
    return [("value", value), ("attr", .text t), ("ctx", plain usage)]) <|>
  around .subscript do
    let value ← nested.tree .targetPrimary
    let _ ← sign "["
    let index ← slices nested
    let _ ← sign "]"
    noApplicationAhead
    return [("value", value), ("slice", index), ("ctx", plain usage)]

/-- A list of targets between brackets. -/
def bracketedTargets (kind usage : Kind) (opening closing : String) (targets : ReadM (List Value)) :
    ReadM Value :=
  around kind do
    let _ ← sign opening
    let items ← optional targets
    let _ ← sign closing
    return [("elts", .list (items.getD [])), ("ctx", plain usage)]

/-! ## Targets of assignments -/

/-- The items of a tuple of targets; a single one has a comma behind it. -/
def tupleTargets : ReadM (List Value) :=
  (do
    let first ← nested.tree .starTarget
    let rest ← many1 (do
      let _ ← sign ","
      nested.tree .starTarget)
    let _ ← optional (sign ",")
    return first :: rest) <|>
  (do
    let first ← nested.tree .starTarget
    let _ ← sign ","
    return [first])

def listTargets : ReadM (List Value) := do
  let items ← separated "," (nested.tree .starTarget)
  let _ ← optional (sign ",")
  return items

def starAtom : ReadM Value :=
  nameAs .store <|>
  (do
    let _ ← sign "("
    let target ← nested.tree .targetWithStarAtom
    let _ ← sign ")"
    return target) <|>
  bracketedTargets .tuple .store "(" ")" (tupleTargets nested) <|>
  bracketedTargets .list .store "[" "]" (listTargets nested)

def targetWithStarAtom : ReadM Value := attributeOrItem nested .store <|> starAtom nested

def starTarget : ReadM Value :=
  around .starred (do
    let _ ← sign "*"
    notAhead (sign "*")
    return [("value", ← nested.tree .starTarget), ("ctx", plain .store)]) <|>
  nested.tree .targetWithStarAtom

/-- Targets with commas between them, or a single one. -/
def starTargets : ReadM Value := do
  let first ← peek
  let head ← nested.tree .starTarget
  let rest ← many (do
    let _ ← sign ","
    nested.tree .starTarget)
  let comma ← optional (sign ",")
  if rest.isEmpty && comma.isNone then return head
  build first .tuple [("elts", .list (head :: rest)), ("ctx", plain .store)]

/-- A target that is one thing. -/
def singleTarget : ReadM Value :=
  attributeOrItem nested .store <|>
  nameAs .store <|>
  (do
    let _ ← sign "("
    let target ← nested.tree .singleTarget
    let _ ← sign ")"
    return target)

/-! ## Targets of deletions -/

def delTargets : ReadM (List Value) := do
  let items ← separated "," (nested.tree .delTarget)
  let _ ← optional (sign ",")
  return items

def delAtom : ReadM Value :=
  nameAs .del <|>
  (do
    let _ ← sign "("
    let target ← nested.tree .delTarget
    let _ ← sign ")"
    return target) <|>
  bracketedTargets .tuple .del "(" ")" (delTargets nested) <|>
  bracketedTargets .list .del "[" "]" (delTargets nested)

def delTarget : ReadM Value := attributeOrItem nested .del <|> delAtom nested

end LiteralScrub.Python.Reader
