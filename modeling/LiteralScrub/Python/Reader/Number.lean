import LiteralScrub.Number.Read
import LiteralScrub.Python.Reader.Basic

/-!
# Numbers
-/
namespace LiteralScrub.Python.Reader

/-- How many digits a decimal numeral of a whole number may have. -/
def maxDigits : Nat := 4300

/-- The number that a numeral stands for. The error is how many digits it has if they are too
many. -/
def numberOf (written : Text) : Except Nat Value :=
  let t := written.filter (· != 0x5F)
  let double (t : Text) : Double := (Double.readUnsigned? false t).getD .nan
  match t with
  | 0x30 :: x :: digits =>
    if x == 0x78 || x == 0x58 then .ok (.int (Text.toNatBase 16 digits))
    else if x == 0x6F || x == 0x4F then .ok (.int (Text.toNatBase 8 digits))
    else if x == 0x62 || x == 0x42 then .ok (.int (Text.toNatBase 2 digits))
    else decimal t double
  | _ => decimal t double
where
  /-- A numeral without a letter for its base. -/
  decimal (t : Text) (double : Text → Double) : Except Nat Value :=
    if t.all isAsciiDigit then
      if t.length > maxDigits && t.any (· != 0x30) then .error t.length
      else .ok (.int (Text.toNatBase 10 t))
    else
      match t.getLast? with
      | some c =>
        if c == 0x6A || c == 0x4A then .ok (.complex (.zero false) (double t.dropLast))
        else .ok (.float (double t))
      | none => .ok (.int 0)

/-- A numeral. -/
def number : ReadM Value := do
  let token ← take fun
    | .number _ => true
    | _ => false
  match token.lexeme with
  | .number t =>
    match numberOf t with
    | .ok value => build token .constant [("value", value), ("kind", .null)]
    | .error n =>
      complainAt token.line 0
        (s!"Exceeds the limit ({maxDigits} digits) for integer string conversion: value has {n} " ++
          "digits; use sys.set_int_max_str_digits() to increase the limit - Consider hexadecimal " ++
          "for huge integer literals to avoid decimal conversion limits.")
  | _ => absent

end LiteralScrub.Python.Reader
