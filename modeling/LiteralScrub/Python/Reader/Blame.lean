import LiteralScrub.Python.Reader.Basic

/-!
# What complaints say of expressions
-/
namespace LiteralScrub.Python.Reader

/-- What a constant is called. -/
def constantName : Value → String
  | .null => "None"
  | .bool true => "True"
  | .bool false => "False"
  | .ellipsis => "ellipsis"
  | _ => "literal"

/-- What an expression is called. -/
def expressionName (value : Value) : String :=
  match kindOf? value with
  | some .attributeExpr => "attribute"
  | some .subscript => "subscript"
  | some .starred => "starred"
  | some .nameExpr => "name"
  | some .list => "list"
  | some .tuple => "tuple"
  | some .lambda => "lambda"
  | some .call => "function call"
  | some .boolOp | some .binOp | some .unaryOp => "expression"
  | some .generatorExp => "generator expression"
  | some .yield | some .yieldFrom => "yield expression"
  | some .await => "await expression"
  | some .listComp => "list comprehension"
  | some .setComp => "set comprehension"
  | some .dictComp => "dict comprehension"
  | some .dict => "dict literal"
  | some .set => "set display"
  | some .joinedStr | some .formattedValue => "f-string expression"
  | some .constant => constantName (fieldOf value "value")
  | some .compare => "comparison"
  | some .ifExp => "conditional expression"
  | some .namedExpr => "named expression"
  | _ => "expression"

/-- What a target is for. -/
inductive TargetUse where
  | assigned
  | looped
  | deleted
  deriving DecidableEq, Repr, Inhabited

/-- The first part of an expression that cannot be a target. Of a loop, the part before `in` counts,
which has been read as a comparison. -/
def badTarget? (use : TargetUse) : Nat → Value → Option Value
  | 0, _ => none
  | depth + 1, value =>
    match kindOf? value with
    | some .nameExpr | some .subscript | some .attributeExpr => none
    | some .list | some .tuple => (itemsOf (fieldOf value "elts")).findSome? (badTarget? use depth)
    | some .starred =>
      if use = .deleted then some value else badTarget? use depth (fieldOf value "value")
    | some .compare =>
      if use = .looped then
        match (itemsOf (fieldOf value "ops")).head?.bind kindOf? with
        | some .isIn => badTarget? use depth (fieldOf value "left")
        | _ => none
      else some value
    | _ => some value

/-- How deep targets are searched; brackets do not go as deep. -/
def targetDepth : Nat := 500

/-- Breaks off if an expression cannot be a target. -/
def complainOfTarget (use : TargetUse) (value : Value) : ReadM Unit :=
  match badTarget? use targetDepth value with
  | some bad =>
    let verb := if use = .deleted then "delete" else "assign to"
    complainAtNode bad s!"cannot {verb} {expressionName bad}"
  | none => return ()

/-- Whether an expression is one of two names that once began statements. -/
def isOldStatement (value : Value) : Bool :=
  match kindOf? value, fieldOf value "id" with
  | some .nameExpr, .text t => t = Text.ofString "print" || t = Text.ofString "exec"
  | _, _ => false

end LiteralScrub.Python.Reader
