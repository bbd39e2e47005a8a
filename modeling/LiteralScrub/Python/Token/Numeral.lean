import LiteralScrub.Python.Token.Basic
import LiteralScrub.Text.Digit

/-!
# How far a numeral goes

The functions count characters from the beginning of a numeral. Digits may have single underscores
between them. A numeral that runs into a name is refused, unless the name begins with a word that
can follow a number.
-/
namespace LiteralScrub.Python.Numeral

/-- Why a numeral is refused. -/
inductive Fault where
  /-- A message on the characters up to some length. -/
  | upTo (length : Nat) (message : String)
  | leadingZeros
  deriving DecidableEq, Repr, Inhabited

def isNamePart (c : CodePoint) : Bool :=
  isAsciiLetter c || isAsciiDigit c || c == 0x5F || c ≥ 0x80

/-- Digits with underscores between them, when `n` characters have been counted and the last one
was a digit. The error is the length up to an underscore that has no digit behind it. -/
def digitsFrom (digit : CodePoint → Bool) : Nat → Text → Except Nat Nat
  | n, 0x5F :: d :: rest => if digit d then digitsFrom digit (n + 2) rest else .error (n + 1)
  | n, c :: rest =>
    if digit c then digitsFrom digit (n + 1) rest else if c == 0x5F then .error (n + 1) else .ok n
  | n, [] => .ok n

/-- Digits that may begin with an underscore. -/
def digitsBehindMark (digit : CodePoint → Bool) (n : Nat) (t : Text) : Except Nat Nat :=
  let (n, t) := match t with
    | 0x5F :: rest => (n + 1, rest)
    | _ => (n, t)
  match t with
  | c :: rest => if digit c then digitsFrom digit (n + 1) rest else .error n
  | [] => .error n

/-- Zeros with underscores between them, up to what is no zero. -/
def zerosFrom : Nat → Text → Except Nat Nat
  | n, 0x30 :: rest => zerosFrom (n + 1) rest
  | n, 0x5F :: d :: rest =>
    if d == 0x30 then zerosFrom (n + 2) rest
    else if isAsciiDigit d then .ok (n + 1) else .error (n + 1)
  | n, [0x5F] => .error (n + 1)
  | n, _ => .ok n

/-- The words that may follow a number without a blank. -/
def followers : List Text :=
  ["and", "else", "for", "if", "in", "is", "or", "not"].map Text.ofString

/-- Checks what comes behind the first `n` characters; `noun` says what kind of numeral it is. -/
def ended (noun : String) (t : Text) (n : Nat) : Except Fault Nat :=
  match t.drop n with
  | c :: rest =>
    if followers.any fun word => Text.startsWith (c :: rest) word then .ok n
    else if isNamePart c then .error (.upTo n s!"invalid {noun} literal") else .ok n
  | [] => .ok n

def decimalDigits (n : Nat) (t : Text) : Except Fault Nat :=
  (digitsFrom isAsciiDigit n (t.drop n)).mapError fun n => .upTo n "invalid decimal literal"

/-- A numeral to a base that a letter says. -/
def radix (noun : String) (digit : CodePoint → Bool) (t : Text) : Except Fault Nat :=
  let refused (n : Nat) : Except Fault Nat :=
    match t.drop n with
    | c :: _ =>
      if isAsciiDigit c then
        .error (.upTo (n + 1) s!"invalid digit '{Text.toString [c]}' in {noun} literal")
      else .error (.upTo n s!"invalid {noun} literal")
    | [] => .error (.upTo n s!"invalid {noun} literal")
  match digitsBehindMark digit 2 (t.drop 2) with
  | .error n => refused n
  | .ok n =>
    match t.drop n with
    | c :: _ => if isAsciiDigit c then refused n else ended noun t n
    | [] => .ok n

/-- What follows the digits and the point: the sign of an imaginary number. -/
def imaginary (n : Nat) (t : Text) : Except Fault Nat :=
  match t.drop n with
  | c :: _ => if c == 0x6A || c == 0x4A then ended "imaginary" t (n + 1) else ended "decimal" t n
  | [] => .ok n

/-- What follows the digits and the point: an exponent. A letter `e` without digits is left. -/
def exponent (n : Nat) (t : Text) : Except Fault Nat :=
  match t.drop n with
  | e :: rest =>
    if e == 0x65 || e == 0x45 then
      match rest with
      | s :: more =>
        if s == 0x2B || s == 0x2D then
          if (more.head?.map isAsciiDigit).getD false then do
            imaginary (← decimalDigits (n + 3) t) t
          else .error (.upTo (n + 2) "invalid decimal literal")
        else if isAsciiDigit s then do imaginary (← decimalDigits (n + 2) t) t
        else ended "decimal" t n
      | [] => ended "decimal" t n
    else imaginary n t
  | [] => .ok n

/-- What follows the point. -/
def fraction (n : Nat) (t : Text) : Except Fault Nat := do
  match t.drop n with
  | c :: _ => if isAsciiDigit c then exponent (← decimalDigits (n + 1) t) t else exponent n t
  | [] => return n

/-- What follows the digits before a point. -/
def afterWhole (n : Nat) (t : Text) : Except Fault Nat :=
  match t.drop n with
  | 0x2E :: _ => fraction (n + 1) t
  | _ => exponent n t

/-- A numeral that begins with a zero. Other digits may follow only in a number with a point, an
exponent or an imaginary unit. -/
def afterZero (t : Text) : Except Fault Nat := do
  let n ← (zerosFrom 1 (t.drop 1)).mapError fun n => .upTo n "invalid decimal literal"
  let isNonzero := ((t.drop n).head?.map isAsciiDigit).getD false
  let n ← if isNonzero then decimalDigits (n + 1) t else pure n
  let goesOn := match t.drop n with
    | c :: _ => [0x2E, 0x65, 0x45, 0x6A, 0x4A].contains c
    | [] => false
  if isNonzero && !goesOn then .error .leadingZeros else afterWhole n t

/-- The length of the numeral at the beginning of a text, which is a digit, or a point with a digit
behind it. -/
def length (t : Text) : Except Fault Nat :=
  match t with
  | 0x2E :: _ => fraction 1 t
  | 0x30 :: x :: _ =>
    if x == 0x78 || x == 0x58 then radix "hexadecimal" isHexDigit t
    else if x == 0x6F || x == 0x4F then radix "octal" isOctalDigit t
    else if x == 0x62 || x == 0x42 then radix "binary" (fun c => c == 0x30 || c == 0x31) t
    else afterZero t
  | _ => do afterWhole (← decimalDigits 1 t) t

end LiteralScrub.Python.Numeral
