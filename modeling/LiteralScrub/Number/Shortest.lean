import LiteralScrub.Number.Double

/-!
# The shortest decimal of a number

A number is written by the fewest digits that read back to it, and of those by the nearest.
-/
namespace LiteralScrub.Double

/-- A decimal `digits * 10 ^ exponent`. -/
structure Decimal where
  digits : Nat
  exponent : Int
  deriving DecidableEq, Repr, Inhabited

/-- Without zeros at the end; fuel is the number of digits. -/
def Decimal.trim : Nat → Decimal → Decimal
  | 0, d => d
  | fuel + 1, d =>
    if d.digits % 10 = 0 ∧ d.digits ≠ 0 then trim fuel ⟨d.digits / 10, d.exponent + 1⟩ else d

/-- The decimal of `k` digits that reads back to `m * 2 ^ e`, if there is one; `p` is the place of
the decimal point, counted from the first digit. Quarters of the last binary place are counted. -/
def decimalOfSize (m : Nat) (e p : Int) (k : Nat) : Option Decimal :=
  let unit := p - k
  let a := Nat.pow 2 (e - 2).toNat * Nat.pow 10 (-unit).toNat
  let b := Nat.pow 2 (2 - e).toNat * Nat.pow 10 unit.toNat
  let narrow := m = Nat.pow 2 52 ∧ e > leastExponent
  let low := (4 * m - (if narrow then 1 else 2)) * a
  let high := (4 * m + 2) * a
  let value := 4 * m * a
  let inside (d : Nat) : Bool :=
    if m % 2 = 0 then low ≤ d * b && d * b ≤ high else low < d * b && d * b < high
  let d := value / b
  let below := value - d * b
  let above := (d + 1) * b - value
  let downFirst := below < above || (below == above && d % 2 == 0)
  match inside d, inside (d + 1) with
  | true, true => some ⟨if downFirst then d else d + 1, unit⟩
  | true, false => some ⟨d, unit⟩
  | false, true => some ⟨d + 1, unit⟩
  | false, false => none

/-- The place of the decimal point of `m * 2 ^ e`: `10 ^ (p - 1)` is at most the number, which is
below `10 ^ p`. -/
def decimalPoint (m : Nat) (e : Int) : Int :=
  let guess := Int.fdiv (((Nat.log2 m : Int) + e) * 30103) 100000 + 1
  let reaches (p : Int) : Bool :=
    m * Nat.pow 2 e.toNat * Nat.pow 10 (-p).toNat ≥ Nat.pow 10 p.toNat * Nat.pow 2 (-e).toNat
  if reaches guess then guess + 1 else if reaches (guess - 1) then guess else guess - 1

/-- The shortest decimal that reads back to `m * 2 ^ e`, for a mantissa that is not zero. -/
def shortest (m : Nat) (e : Int) : Decimal :=
  let p := decimalPoint m e
  let found := (List.range 17).findSome? fun k => decimalOfSize m e p (k + 1)
  Decimal.trim 20 (found.getD ⟨m, e⟩)

/-- An exponent with its sign and at least two digits. -/
def exponentText (e : Int) : Text :=
  (if e < 0 then 0x2D else 0x2B) :: Text.ofNatPadded 10 2 e.natAbs

/-- Positional from 0.0001 up to 10 ^ 16, otherwise with an exponent. -/
def decimalText (d : Decimal) : Text :=
  let digits := Text.ofNat d.digits
  let point := (digits.length : Int) + d.exponent
  if -4 < point ∧ point ≤ 16 then
    if point ≤ 0 then Text.ofString "0." ++ List.replicate (-point).toNat 0x30 ++ digits
    else if point ≥ digits.length then
      digits ++ List.replicate (point.toNat - digits.length) 0x30 ++ Text.ofString ".0"
    else digits.take point.toNat ++ Text.ofString "." ++ digits.drop point.toNat
  else
    let mantissa :=
      match digits with
      | [] => []
      | [d] => [d]
      | d :: ds => d :: 0x2E :: ds
    mantissa ++ Text.ofString "e" ++ exponentText (point - 1)

def signText (negative : Bool) : Text := if negative then Text.ofString "-" else []

/-- A number as it is written: always with a decimal point or an exponent. -/
def text : Double → Text
  | nan => Text.ofString "nan"
  | infinity negative => signText negative ++ Text.ofString "inf"
  | finite negative 0 _ => signText negative ++ Text.ofString "0.0"
  | finite negative m e => signText negative ++ decimalText (shortest m e)

end LiteralScrub.Double
