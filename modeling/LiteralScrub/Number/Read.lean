import LiteralScrub.Number.Double

/-!
# Reading floating-point numbers
-/
namespace LiteralScrub.Double

/-- The exponent behind `e`, with an optional sign. -/
def readExponent? (t : Text) : Option Int :=
  let (negative, digits) :=
    match t with
    | 0x2B :: rest => (false, rest)
    | 0x2D :: rest => (true, rest)
    | _ => (false, t)
  if digits.isEmpty || !digits.all isAsciiDigit then none
  else
    let n : Int := Text.toNatBase 10 digits
    some (if negative then -n else n)

/-- A decimal without sign: digits, a point and an exponent, of which digits have to be there. -/
def readUnsigned? (negative : Bool) (t : Text) : Option Double :=
  let mantissa := t.takeWhile fun c => c != 0x65 && c != 0x45
  let rest := t.drop mantissa.length
  let whole := mantissa.takeWhile (· != 0x2E)
  let places := (mantissa.drop whole.length).drop 1
  if (whole ++ places).isEmpty || !(whole ++ places).all isAsciiDigit then none
  else
    let value (e : Int) := ofDecimal negative (Text.toNatBase 10 (whole ++ places)) (e - places.length)
    match rest with
    | [] => some (value 0)
    | _ :: exponent => (readExponent? exponent).map value

/-- A number as `Double.text` writes it. -/
def read? (t : Text) : Option Double :=
  let (negative, unsigned) :=
    match t with
    | 0x2D :: rest => (true, rest)
    | _ => (false, t)
  if unsigned = Text.ofString "inf" then some (.infinity negative)
  else if unsigned = Text.ofString "nan" then some .nan
  else readUnsigned? negative unsigned

end LiteralScrub.Double
