import LiteralScrub.Python.Printer.Basic

/-!
# Printing string literals

A literal is written with as few escapes as can be: the quotes are chosen so that they do not
occur in it.
-/
namespace LiteralScrub.Python.Printer

def singleQuotes : List Text := [Text.ofString "'", Text.ofString "\""]

def multiQuotes : List Text := [Text.ofString "\"\"\"", Text.ofString "'''"]

def allQuotes : List Text := singleQuotes ++ multiQuotes

/-- A character that is not printable, or a backslash, by an escape. -/
def escapePoint (escapeBlanks : Bool) (c : CodePoint) : Text :=
  if !escapeBlanks && (c == 0x0A || c == 0x09) then [c]
  else if c == 0x5C then [0x5C, 0x5C]
  else if isPrintable c then [c]
  else if c == 0x09 then Text.ofString "\\t"
  else if c == 0x0A then Text.ofString "\\n"
  else if c == 0x0D then Text.ofString "\\r"
  else Text.hexEscape c

/-- The quotes that end a text's last character last. -/
def preferOtherQuote (last : CodePoint) (quotes : List Text) : List Text :=
  let (same, other) := quotes.partition fun q => q.head? == some last
  other ++ same

/-- The body of a literal and the quotes it can stand in, the best first. If no quotes are fit the
body is escaped for one kind of them. -/
def literalBody (t : Text) (quotes : List Text) (escapeBlanks : Bool) : Text × List Text :=
  let escaped := t.flatMap (escapePoint escapeBlanks)
  let fit := if 0x0A ∈ escaped then quotes.filter (multiQuotes.contains ·) else quotes
  let fit := fit.filter fun q => !Text.contains q escaped
  match fit with
  | [] =>
    let quoted := t.quoted
    let first := quoted.head?.getD 0x27
    let quote := (quotes.find? fun q => first ∈ q).getD [first]
    ((quoted.drop 1).dropLast, [quote])
  | _ =>
    match escaped.getLast? with
    | none => (escaped, fit)
    | some last =>
      let fit := preferOtherQuote last fit
      if (fit.head?.bind List.head?) == some last then
        (escaped.dropLast ++ [0x5C, last], fit)
      else (escaped, fit)

/-- Writes a literal with as few backslashes as can be. -/
def writeLiteral (t : Text) (quotes : List Text) : PrintM Unit := do
  let (body, quotes) := literalBody t quotes false
  let quote := quotes.head?.getD []
  writeText (quote ++ body ++ quote)

/-- The bodies of the parts of an interpolated string and the quotes fit for all of them, or none
if there are no such quotes. -/
def joinParts (quotes : List Text) : List (Text × Bool) → Option (List Text × List Text)
  | [] => some ([], quotes)
  | (part, isConstant) :: rest =>
    let (body, fit) := literalBody part quotes isConstant
    if fit.any (· ∈ quotes) then
      (joinParts fit rest).map fun (bodies, quotes) => (body :: bodies, quotes)
    else none

/-- The body of a part between three single quotes. -/
def quotedPart (part : Text) : Text := ((Text.quoted (0x22 :: part)).drop 2).dropLast

/-- Writes an interpolated string from its parts; those that are constant may have blanks
escaped. -/
def writeParts (parts : List (Text × Bool)) : PrintM Unit := do
  let (bodies, quote) :=
    match joinParts allQuotes parts with
    | some (bodies, quotes) => (bodies, quotes.head?.getD [])
    | none => (parts.map (fun (part : Text × Bool) => quotedPart part.1), Text.ofString "'''")
  writeText (quote ++ bodies.flatten ++ quote)

/-- What is written for numbers beyond the greatest. -/
def infinityText : Text := Text.ofString "1e309"

/-- A number, with infinity as a number too large and no number as a difference of two such. -/
def numberText (t : Text) : Text :=
  let noNumber :=
    Text.ofString "(" ++ infinityText ++ Text.ofString "-" ++ infinityText ++ Text.ofString ")"
  Text.replaceAll (Text.ofString "nan") noNumber
    (Text.replaceAll (Text.ofString "inf") infinityText t)

/-- How many digits an integer may have. -/
def maxDigits : Nat := 4300

/-- Writes the value of a constant. -/
def writeConstant (value : Value) : PrintM Unit := do
  match value with
  | .float x => writeText (numberText x.text)
  | .complex re im => writeText (numberText (Value.complexText re im))
  | .text t => if (← readThe Context).avoidBackslashes then writeLiteral t allQuotes else writeText t.quoted
  | .int n =>
    let digits := Text.ofInt n
    if digits.length > maxDigits + 1 || (n ≥ 0 && digits.length > maxDigits) then
      throw (.unprintable
        "Exceeds the limit (4300 digits) for integer string conversion; use sys.set_int_max_str_digits() to increase the limit")
    writeText digits
  | _ => writeText value.display

end LiteralScrub.Python.Printer
