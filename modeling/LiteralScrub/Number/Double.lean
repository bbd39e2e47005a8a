import LiteralScrub.Text.Digit

/-!
# Binary floating-point numbers of 64 bits

A finite number is kept by sign, mantissa and exponent and stands for `mantissa * 2 ^ exponent`.
The mantissa has at most 53 bits; it has fewer only at the least exponent. `ofRatio` rounds a
quotient to the nearest number, a tie to the even mantissa.
-/
namespace LiteralScrub

inductive Double where
  | nan
  | infinity (negative : Bool)
  | finite (negative : Bool) (mantissa : Nat) (exponent : Int)
  deriving DecidableEq, Repr, Inhabited

namespace Double

def leastExponent : Int := -1074

def greatestExponent : Int := 971

def zero (negative : Bool) : Double := .finite negative 0 leastExponent

/-- The quotient rounded to the nearest integer, a tie to the even one. -/
def roundDiv (num den : Nat) : Nat :=
  let q := num / den
  let r := num % den
  if 2 * r > den || (2 * r == den && q % 2 == 1) then q + 1 else q

/-- Numerator and denominator of `num / den / 2 ^ e`. -/
def shifted (num den : Nat) (e : Int) : Nat × Nat :=
  if e ≥ 0 then (num, den * Nat.pow 2 e.toNat) else (num * Nat.pow 2 (-e).toNat, den)

/-- The number nearest to `num / den`. -/
def ofRatio (negative : Bool) (num den : Nat) : Double :=
  if num = 0 then zero negative
  else
    let low := max ((Nat.log2 num : Int) - Nat.log2 den - 53) leastExponent
    let (a, b) := shifted num den low
    let e := if a / b ≥ Nat.pow 2 53 then low + 1 else low
    let (a, b) := shifted num den e
    let m := roundDiv a b
    let (m, e) := if m = Nat.pow 2 53 then (Nat.pow 2 52, e + 1) else (m, e)
    if e > greatestExponent then .infinity negative else .finite negative m e

/-- The number nearest to `digits * 10 ^ e`. -/
def ofDecimal (negative : Bool) (digits : Nat) (e : Int) : Double :=
  let size : Int := (Nat.toDigits 10 digits).length
  if digits = 0 then zero negative
  else if e + size > 400 then .infinity negative
  else if e + size < -400 then zero negative
  else if e ≥ 0 then ofRatio negative (digits * Nat.pow 10 e.toNat) 1
  else ofRatio negative digits (Nat.pow 10 (-e).toNat)

/-- The number nearest to an integer. -/
def ofInt (n : Int) : Double := ofRatio (n < 0) n.natAbs 1

def isNegative : Double → Bool
  | nan => false
  | infinity negative => negative
  | finite negative _ _ => negative

def isZero : Double → Bool
  | finite _ 0 _ => true
  | _ => false

end Double

end LiteralScrub
