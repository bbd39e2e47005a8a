import Std.Data.HashMap
import LiteralScrub.Python.Token.Basic
import LiteralScrub.Text.Normal
import LiteralScrub.Tree.Value

/-!
# Rules that read tokens

A rule tries to find something at a mark among the tokens. It finds it and moves the mark, or it
finds nothing, or it breaks off with a fault. Alternatives are tried in order from the same mark.

What some rules found at a mark is kept, so that no rule is tried there again. It is also kept how
far the tokens have been looked at, because a fault is often reported at the last token seen. Rules
that only explain what is wrong are tried when a source is read for the second time.
-/
namespace LiteralScrub.Python.Reader

/-- The rules that are given to other rules, either because they are nested in them or because what
they find is kept. -/
inductive Rule where
  | expression
  | namedExpression
  | misplacedAssignment
  | starExpression
  | starExpressions
  | yieldExpression
  | disjunction
  | conjunction
  | inversion
  | bitwiseOr
  | bitwiseXor
  | bitwiseAnd
  | shift
  | sum
  | term
  | factor
  | awaited
  | primary
  | strings
  | starTarget
  | starTargets
  | targetWithStarAtom
  | targetPrimary
  | singleTarget
  | delTarget
  | pattern
  | closedPattern
  | starPattern
  | simpleStatement
  deriving DecidableEq, Hashable, Repr, Inhabited

/-- Whether it is kept what a rule found. -/
def Rule.isKept : Rule → Bool
  | namedExpression | starExpressions | yieldExpression | starTargets | singleTarget | pattern => false
  | _ => true

/-- The arguments of a call. -/
structure CallArguments where
  positional : List Value := []
  keywords : List Value := []
  /-- Where they begin. -/
  line : Nat := 0
  column : Nat := 0
  deriving Inhabited

/-- What rules found at marks, each with the mark behind it. -/
structure Memo where
  trees : Std.HashMap (Rule × Nat) (Option (Value × Nat)) := {}
  blocks : Std.HashMap Nat (Option (List Value × Nat)) := {}
  calls : Std.HashMap Nat (Option (CallArguments × Nat)) := {}
  deriving Inhabited

structure Context where
  page : Page
  tokens : Tokens
  /-- Whether rules that explain faults are tried. -/
  isExplaining : Bool

structure Store where
  /-- How many tokens have been looked at. -/
  reach : Nat := 0
  memo : Memo := {}
  deriving Inhabited

inductive Outcome (α : Type) where
  | found (a : α) (mark : Nat) (store : Store)
  | absent (store : Store)
  | broken (fault : SyntaxFault) (store : Store)
  deriving Inhabited

def ReadM (α : Type) : Type := Context → Nat → Store → Outcome α

namespace ReadM

instance : Monad ReadM where
  pure a := fun _ mark store => .found a mark store
  bind rule next := fun context mark store =>
    match rule context mark store with
    | .found a mark store => next a context mark store
    | .absent store => .absent store
    | .broken fault store => .broken fault store

instance {α : Type} : Inhabited (ReadM α) := ⟨fun _ _ store => .absent store⟩

/-- Tries a second rule where the first one finds nothing. -/
instance {α : Type} : OrElse (ReadM α) where
  orElse first second := fun context mark store =>
    match first context mark store with
    | .absent store => second () context mark store
    | outcome => outcome

end ReadM

/-- Finds nothing. -/
def absent {α : Type} : ReadM α := fun _ _ store => .absent store

def breakOff {α : Type} (fault : SyntaxFault) : ReadM α := fun _ _ store => .broken fault store

/-- The token at the mark. Where the tokens have halted, reading breaks off. -/
def peek : ReadM Token := fun context mark store =>
  match context.tokens.list[mark]? with
  | some token => .found token mark { store with reach := max store.reach (mark + 1) }
  | none =>
    match context.tokens.halt with
    | some halt => .broken halt.fault { store with reach := mark + 1 }
    | none => .absent store

/-- Takes the next token if it passes a test. -/
def take (test : Lexeme → Bool) : ReadM Token := do
  let token ← peek
  if test token.lexeme then fun _ mark store => .found token (mark + 1) store else absent

def sign (s : String) : ReadM Token := take (· == .sign s)

def keyword (word : String) : ReadM Token := take (· == .keyword word)

def newline : ReadM Token := take (· == .newline)

def indent : ReadM Token := take (· == .indent)

def dedent : ReadM Token := take (· == .dedent)

/-- A name in its normal form, with its token. -/
def nameToken : ReadM (Text × Token) := do
  let token ← take fun
    | .name _ => true
    | _ => false
  match token.lexeme with
  | .name t => return (t.normalName, token)
  | _ => absent

/-- A name that is a word of the language only in some places. -/
def softKeyword (word : String) : ReadM Token := take (· == .name (Text.ofString word))

/-- Succeeds where a rule finds something, and takes nothing. -/
def ahead {α : Type} (rule : ReadM α) : ReadM Unit := fun context mark store =>
  match rule context mark store with
  | .found _ _ store => .found () mark store
  | .absent store => .absent store
  | .broken fault store => .broken fault store

/-- Succeeds where a rule finds nothing. -/
def notAhead {α : Type} (rule : ReadM α) : ReadM Unit := fun context mark store =>
  match rule context mark store with
  | .found _ _ store => .absent store
  | .absent store => .found () mark store
  | .broken fault store => .broken fault store

def optional {α : Type} (rule : ReadM α) : ReadM (Option α) := fun context mark store =>
  match rule context mark store with
  | .found a mark store => .found (some a) mark store
  | .absent store => .found none mark store
  | .broken fault store => .broken fault store

/-- Forgets what was found. -/
def unit {α : Type} (rule : ReadM α) : ReadM Unit := do
  let _ ← rule
  return ()

/-- Repeats a rule at most `bound` times. -/
def manyUpTo {α : Type} (rule : ReadM α) : Nat → ReadM (List α)
  | 0 => return []
  | bound + 1 => do
    match ← optional rule with
    | some a => return a :: (← manyUpTo rule bound)
    | none => return []

/-- Repeats a rule, which takes a token each time, as long as it finds something. -/
def many {α : Type} (rule : ReadM α) : ReadM (List α) := fun context mark store =>
  manyUpTo rule (context.tokens.list.size + 1 - mark) context mark store

def many1 {α : Type} (rule : ReadM α) : ReadM (List α) := do
  let first ← rule
  return first :: (← many rule)

/-- One or more things with a sign between them. -/
def separated {α : Type} (s : String) (rule : ReadM α) : ReadM (List α) := do
  let first ← rule
  return first :: (← many (do let _ ← sign s; rule))

/-- The first rule of a list that finds something. -/
def firstOf {α : Type} : List (ReadM α) → ReadM α
  | [] => absent
  | rule :: rules => rule <|> firstOf rules

/-- One of several signs, with what it stands for. -/
def signAmong {α : Type} (table : List (String × α)) : ReadM α := do
  let token ← peek
  match token.lexeme with
  | .sign s =>
    match table.lookup s with
    | some a => fun _ mark store => .found a (mark + 1) store
    | none => absent
  | _ => absent

/-! ## Faults -/

/-- Breaks off with a fault at a line and a column, counted in bytes from one. -/
def complainAt {α : Type} (line column : Nat) (message : String) : ReadM α :=
  fun context _ store =>
    let sight := (context.tokens.list[store.reach - 1]?.map Token.sight).getD ⟨0, 0, []⟩
    .broken (context.page.fault sight line column (Text.ofString message)) store

/-- Breaks off with a fault at a token. -/
def complainAtToken {α : Type} (token : Token) (message : String) : ReadM α :=
  complainAt token.line ((token.column.map (· + 1)).getD 0) message

/-- Breaks off with a fault at the last token that has been looked at. -/
def complain {α : Type} (message : Text) : ReadM α := fun context _ store =>
  match context.tokens.list[store.reach - 1]? with
  | some token =>
    let column := match token.column with
      | some column => column + 1
      | none => token.sight.column
    .broken (context.page.fault token.sight token.line column message) store
  | none => .broken (context.page.fault ⟨0, 0, []⟩ 0 0 message) store

/-- Takes a sign that has to be there. -/
def forced (s : String) : ReadM Token := do
  let token ← peek
  match ← optional (sign s) with
  | some token => return token
  | none => complainAtToken token s!"expected '{s}'"

/-- Tries rules that break off with a fault, if faults are to be explained. The first one that finds
something without breaking off ends the attempt. -/
def explain {α : Type} (rules : List (ReadM Unit)) : ReadM α := fun context mark store =>
  if context.isExplaining then
    match firstOf rules context mark store with
    | .found _ _ store | .absent store => .absent store
    | .broken fault store => .broken fault store
  else .absent store

/-- Tries rules that break off with a fault in any case. -/
def insist {α : Type} (rules : List (ReadM Unit)) : ReadM α := do
  firstOf rules
  absent

/-- Tries a rule only if faults are to be explained. -/
def whenExplaining {α : Type} (rule : ReadM α) : ReadM α := fun context mark store =>
  if context.isExplaining then rule context mark store else .absent store

/-- Reads without explaining faults. -/
def withoutExplaining {α : Type} (rule : ReadM α) : ReadM α := fun context mark store =>
  rule { context with isExplaining := false } mark store

/-! ## Nodes -/

/-- The place of a node: where it begins and where it ends. -/
structure Span where
  line : Nat
  column : Nat
  endLine : Nat
  endColumn : Nat
  deriving Inhabited

/-- A node with its place. -/
def node (kind : Kind) (span : Span) (fields : Attrs) : Value :=
  .python kind (fields ++ [
    ("lineno", .int span.line), ("col_offset", .int span.column),
    ("end_lineno", .int span.endLine), ("end_col_offset", .int span.endColumn)])

/-- A node without fields and place. -/
def plain (kind : Kind) : Value := .python kind []

/-- The last of the first tokens that is more than layout. -/
def lastOf (tokens : Array Token) : Nat → Option Token
  | 0 => none
  | n + 1 =>
    match tokens[n]? with
    | some token => if token.isLayout then lastOf tokens n else some token
    | none => lastOf tokens n

/-- The place from a token to the last one taken. -/
def spanFrom (first : Token) : ReadM Span := fun context mark store =>
  let last := (lastOf context.tokens.list mark).getD first
  .found ⟨first.line, first.column.getD 0, last.endLine, last.endColumn⟩ mark store

/-- A node from a token to the last one taken. -/
def build (first : Token) (kind : Kind) (fields : Attrs) : ReadM Value := do
  return node kind (← spanFrom first) fields

/-- A node around what a rule finds. -/
def around (kind : Kind) (fields : ReadM Attrs) : ReadM Value := do
  let first ← peek
  let fields ← fields
  build first kind fields

/-- The value of a part of a place. -/
def placePart (value : Value) (name : String) : Nat :=
  match value with
  | .node _ attrs =>
    match Attrs.get? attrs name with
    | some (.int n) => n.toNat
    | _ => 0
  | _ => 0

/-- Breaks off with a fault at the beginning of a node. -/
def complainAtNode {α : Type} (value : Value) (message : String) : ReadM α :=
  complainAt (placePart value "lineno") (placePart value "col_offset" + 1) message

/-- The kind of a node. -/
def kindOf? : Value → Option Kind
  | .node (.python kind) _ => some kind
  | _ => none

/-- A field of a node. -/
def fieldOf (value : Value) (name : String) : Value :=
  match value with
  | .node _ attrs => (Attrs.get? attrs name).getD .null
  | _ => .null

/-- A list as its items. -/
def itemsOf : Value → List Value
  | .list items => items
  | _ => []

/-- A value that may be missing. -/
def orNull (value : Option Value) : Value := value.getD .null

/-- A name as an expression, with what is done to it. -/
def nameAs (usage : Kind) : ReadM Value := do
  let (t, token) ← nameToken
  build token .nameExpr [("id", .text t), ("ctx", plain usage)]

/-- A name that is read. -/
def name : ReadM Value := nameAs .load

/-! ## Nested rules -/

/-- The rules that are nested in other rules. -/
structure Nested where
  tree : Rule → ReadM Value
  block : ReadM (List Value)
  arguments : ReadM CallArguments
  /-- Reads an interpolated expression. -/
  embedded : Origin → Text → Except SyntaxFault Value

namespace Nested

def expression (nested : Nested) : ReadM Value := nested.tree .expression

def namedExpression (nested : Nested) : ReadM Value := nested.tree .namedExpression

def starExpressions (nested : Nested) : ReadM Value := nested.tree .starExpressions

def yieldExpression (nested : Nested) : ReadM Value := nested.tree .yieldExpression

def disjunction (nested : Nested) : ReadM Value := nested.tree .disjunction

def bitwiseOr (nested : Nested) : ReadM Value := nested.tree .bitwiseOr

def starTargets (nested : Nested) : ReadM Value := nested.tree .starTargets

end Nested

/-- Keeps what a rule found at a mark. -/
def kept (rule : Rule) (read : ReadM Value) : ReadM Value := fun context mark store =>
  match store.memo.trees[(rule, mark)]? with
  | some (some (value, behind)) => .found value behind store
  | some none => .absent store
  | none =>
    match read context mark store with
    | .found value behind store =>
      .found value behind
        { store with memo.trees := store.memo.trees.insert (rule, mark) (some (value, behind)) }
    | .absent store =>
      .absent { store with memo.trees := store.memo.trees.insert (rule, mark) none }
    | .broken fault store => .broken fault store

def keptBlock (read : ReadM (List Value)) : ReadM (List Value) := fun context mark store =>
  match store.memo.blocks[mark]? with
  | some (some (block, behind)) => .found block behind store
  | some none => .absent store
  | none =>
    match read context mark store with
    | .found block behind store =>
      .found block behind
        { store with memo.blocks := store.memo.blocks.insert mark (some (block, behind)) }
    | .absent store => .absent { store with memo.blocks := store.memo.blocks.insert mark none }
    | .broken fault store => .broken fault store

def keptCall (read : ReadM CallArguments) : ReadM CallArguments := fun context mark store =>
  match store.memo.calls[mark]? with
  | some (some (call, behind)) => .found call behind store
  | some none => .absent store
  | none =>
    match read context mark store with
    | .found call behind store =>
      .found call behind
        { store with memo.calls := store.memo.calls.insert mark (some (call, behind)) }
    | .absent store => .absent { store with memo.calls := store.memo.calls.insert mark none }
    | .broken fault store => .broken fault store

end LiteralScrub.Python.Reader
