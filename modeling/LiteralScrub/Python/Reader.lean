import LiteralScrub.Python.Reader.Statement

/-!
# Reading Python

`nestedRules` ties the rules together: each rule is given all rules one level down. Reading goes as
deep as the rules can nest in a text.

A source that cannot be read is read a second time, with rules that explain faults. If nothing
explains the fault, it is reported where the first reading stopped. A fault in the tokens behind is
reported in place of a fault in the grammar.
-/
namespace LiteralScrub.Python.Reader

/-- The rule by its name, given the nested rules. -/
def ruleOf (nested : Nested) : Rule → ReadM Value
  | .expression => expression nested
  | .namedExpression => namedExpression nested
  | .misplacedAssignment => explain (misplacedAssignmentComplaints nested)
  | .starExpression => starExpression nested
  | .starExpressions => starExpressions nested
  | .yieldExpression => yieldExpression nested
  | .disjunction => disjunction nested
  | .conjunction => conjunction nested
  | .inversion => inversion nested
  | .bitwiseOr => bitwiseOr nested
  | .bitwiseXor => bitwiseXor nested
  | .bitwiseAnd => bitwiseAnd nested
  | .shift => shift nested
  | .sum => sum nested
  | .term => term nested
  | .factor => factor nested
  | .awaited => awaited nested
  | .primary => primary nested
  | .strings => strings nested
  | .starTarget => starTarget nested
  | .starTargets => starTargets nested
  | .targetWithStarAtom => targetWithStarAtom nested
  | .targetPrimary => targetPrimary nested
  | .singleTarget => singleTarget nested
  | .delTarget => delTarget nested
  | .pattern => pattern nested
  | .closedPattern => closedPattern nested
  | .starPattern => starPattern
  | .simpleStatement => simpleStatement nested

/-- The fault that ends a reading. A fault in the tokens that have not been looked at goes before
it, and so does a bracket in an earlier line that was never closed. -/
def reported (tokens : Tokens) (reach : Nat) (fault : SyntaxFault) : SyntaxFault :=
  match tokens.halt with
  | some halt =>
    if reach > tokens.list.size then fault
    else if halt.isLoud then halt.fault
    else
      match halt.unclosed, tokens.list[reach - 1]? with
      | some (line, unclosed), some token => if token.line > line then unclosed else fault
      | _, _ => fault
  | none => fault

/-- The fault where nothing explains it. It is reported at the token where the first reading
stopped; only indentation is reported at the last token that was looked at. -/
def unexplained (page : Page) (token last : Token) : SyntaxFault :=
  let indentation (message : String) : SyntaxFault :=
    page.fault last.sight last.line ((last.column.map (· + 1)).getD last.sight.column)
      (Text.ofString message)
  match token.lexeme with
  | .indent => indentation "unexpected indent"
  | .dedent => indentation "unexpected unindent"
  | _ =>
    page.fault last.sight token.line ((token.column.map (· + 1)).getD 0)
      (Text.ofString "invalid syntax")

/-- Where no token has been looked at, the fault has no place. -/
def placeless (page : Page) : SyntaxFault :=
  page.fault ⟨0, 0, []⟩ 0 0 (Text.ofString "invalid syntax")

/-- Reads a text by a rule, at most twice. -/
def readText (rule : ReadM Value) (origin : Option Origin) (text : Text) : Except SyntaxFault Value :=
  let text := unifyLines text
  let page : Page := { lines := (Text.splitOn 0x0A text).toArray, origin }
  let tokens := Tokens.ofText page text
  match rule { page, tokens, isExplaining := false } 0 {} with
  | .found value _ _ => .ok value
  | .broken fault store => .error (reported tokens store.reach fault)
  | .absent first =>
    match rule { page, tokens, isExplaining := true } 0 { reach := first.reach } with
    | .broken fault store => .error (reported tokens store.reach fault)
    | .found _ _ second | .absent second =>
      match tokens.list[first.reach - 1]?, tokens.list[second.reach - 1]? with
      | some token, some last =>
        let fault := unexplained page token last
        if token.lexeme == .indent || token.lexeme == .dedent then .error fault
        else .error (reported tokens second.reach fault)
      | _, _ => .error (placeless page)

/-- The rules with rules nested in them to a depth. -/
def nestedRules : Nat → Nested
  | 0 =>
    { tree := fun _ => absent
      block := absent
      arguments := absent
      embedded := fun origin _ => .error (placeless { lines := #[], origin }) }
  | depth + 1 =>
    { tree := fun rule context mark store =>
        let read := ruleOf (nestedRules depth) rule
        if rule.isKept then kept rule read context mark store else read context mark store
      block := fun context mark store =>
        keptBlock (block (nestedRules depth)) context mark store
      arguments := fun context mark store =>
        keptCall (callArguments (nestedRules depth)) context mark store
      embedded := fun origin text =>
        readText ((nestedRules depth).tree .starExpressions) (some origin) text }

/-- How deep the rules can nest between two characters of a source. -/
def rulesBetween : Nat := 40

end Reader

/-- Reads a source. It must have bytes, of which none is zero. -/
def read (source : Text) : Except ReadFault Value :=
  if Text.hasSurrogate source then .error (.surrogates source)
  else if source.any (· == 0) then .error .nullCharacter
  else
    let depth := Reader.rulesBetween * (source.length + 2)
    (Reader.readText (Reader.sourceFile (Reader.nestedRules depth)) none source).mapError
      SyntaxFault.toReadFault

end LiteralScrub.Python
