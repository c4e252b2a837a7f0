import LobsterServer.Host.Raw
import LobsterServer.Text.Digit

set_option autoImplicit false

/-!
# Numbers in raw texts

Programs read integers in three ways: as decimal digits, as digits with a sign, and as constants
whose front tells their base.
-/

namespace LobsterServer.Host

/-- The value of a digit in bases up to 36. -/
def digitValue? (c : Char) : Option Nat :=
  if '0' ≤ c ∧ c ≤ '9' then some (c.toNat - '0'.toNat)
  else if 'a' ≤ c ∧ c ≤ 'z' then some (c.toNat - 'a'.toNat + 10)
  else if 'A' ≤ c ∧ c ≤ 'Z' then some (c.toNat - 'A'.toNat + 10)
  else none

/-- Whether a character is a digit of a base. -/
def isDigitOf (base : Nat) (c : Char) : Bool := (digitValue? c).any (· < base)

/-- The value of digits. -/
def ofDigits (base : Nat) (digits : Raw) : Nat :=
  digits.foldl (fun n c => n * base + (digitValue? c).getD 0) 0

/-- Digits of a base at the front of a text: their value if there are any, and the rest. -/
def readDigits (base : Nat) (r : Raw) : Option Nat × Raw :=
  let digits := r.takeWhile (isDigitOf base)
  (if digits = [] then none else some (ofDigits base digits), r.drop digits.length)

/-- Decimal digits at the front of a text: their value, and the rest. -/
def leadingNumber (r : Raw) : Nat × Raw :=
  let (n, rest) := readDigits 10 r
  (n.getD 0, rest)

/-- A number that is nothing but decimal digits. -/
def number? (r : Raw) : Option Nat :=
  match readDigits 10 r with
  | (n, []) => n
  | _ => none

/-- Splits off a sign: whether it is negative, and the rest. -/
def splitSign : Raw → Bool × Raw
  | '-' :: rest => (true, rest)
  | '+' :: rest => (false, rest)
  | r => (false, r)

/-- An integer from its sign and its size. -/
def withSign (negative : Bool) (n : Nat) : Int := if negative then -(n : Int) else n

/-- A decimal integer with an optional sign. -/
def integer? (r : Raw) : Option Int :=
  let (negative, digits) := splitSign r
  (number? digits).map (withSign negative)

/-- Reads a constant: hexadecimal after `0x`, octal after another zero, else decimal. -/
def readConstant (r : Raw) : Option Nat × Raw :=
  match r with
  | '0' :: x :: c :: rest =>
    if (x = 'x' || x = 'X') && isDigitOf 16 c then readDigits 16 (c :: rest)
    else readDigits 8 r
  | '0' :: _ => readDigits 8 r
  | _ => readDigits 10 r

/-- Reads a constant with gaps and a sign in front. -/
def readInteger (r : Raw) : Option Int × Raw :=
  let (negative, digits) := splitSign (r.dropWhile isGap)
  let (n, rest) := readConstant digits
  (n.map (withSign negative), if n.isSome then rest else r)

/-- The largest 64-bit integer. -/
def maxInteger : Int := 0x7fffffffffffffff

/-- An integer within 64 bits; sums and products wrap around. -/
def wrap (n : Int) : Int := Int.bmod n 0x10000000000000000

example : readInteger " -0x1fz".toList = (some (-31), ['z']) := by decide
example : integer? "+".toList = none := by decide

end LobsterServer.Host
