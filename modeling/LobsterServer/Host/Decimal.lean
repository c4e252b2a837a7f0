import LobsterServer.Host.Number

set_option autoImplicit false

/-!
# Decimal fractions

Numbers with a fraction are held in binary with 53 digits.  They are read from decimal digits and
written with a number of places, both rounded to the nearest; a tie goes to the even neighbour.
-/

namespace LobsterServer.Host.Decimal

/-- A value that can be written: a sign, and `mantissa * 2 ^ exponent`. -/
structure Binary where
  negative : Bool
  mantissa : Nat
  exponent : Int
  deriving DecidableEq, Repr

/-- A number as it is read. -/
inductive Value where
  | finite (b : Binary)
  | infinite (negative : Bool)
  | notANumber (negative : Bool)
  deriving DecidableEq, Repr

/-- The quotient rounded to the nearest, where a tie goes to the even neighbour. -/
def roundDiv (num den : Nat) : Nat :=
  let q := num / den
  let r := num % den
  if 2 * r < den then q else if den < 2 * r then q + 1 else if q % 2 = 0 then q else q + 1

/-- The parts of a floating-point number. -/
def ofFloat (x : Float) : Value :=
  let bits : Nat := x.toBits.toNat
  let negative := bits / 0x8000000000000000 = 1
  let exponent : Nat := bits / 0x10000000000000 % 0x800
  let fraction : Nat := bits % 0x10000000000000
  if exponent = 2047 then if fraction = 0 then .infinite negative else .notANumber negative
  else if exponent = 0 then .finite ⟨negative, fraction, -1074⟩
  else .finite ⟨negative, fraction + 0x10000000000000, (exponent : Int) - 1075⟩

/-- Reads a decimal number: the value at the front of a text, and the rest.  Where there is none the
value is zero and all is left. -/
def read (t : Raw) : Value × Raw :=
  let (negative, body) := splitSign (t.dropWhile isGap)
  let lower := body.map Char.toLower
  if (ascii "inf").isPrefixOf lower then
    (.infinite negative, body.drop (if (ascii "infinity").isPrefixOf lower then 8 else 3))
  else if (ascii "nan").isPrefixOf lower then (.notANumber negative, body.drop 3)
  else
    let whole := body.takeWhile Char.isDigit
    let (fraction, rest) :=
      match body.drop whole.length with
      | '.' :: rest =>
        let digits := rest.takeWhile Char.isDigit
        if whole = [] ∧ digits = [] then ([], '.' :: rest) else (digits, rest.drop digits.length)
      | rest => ([], rest)
    if whole = [] ∧ fraction = [] then (.finite ⟨false, 0, 0⟩, t)
    else
      let (scale, rest) : Int × Raw :=
        match rest with
        | e :: more =>
          let (down, digits) := splitSign more
          if (e = 'e' ∨ e = 'E') ∧ (digits.head?.any Char.isDigit) then
            let (n, rest) := leadingNumber digits
            (withSign down (min n 100000), rest)
          else (0, rest)
        | [] => (0, rest)
      let scale := scale - fraction.length
      let x := Float.ofScientific (ofDigits 10 (whole ++ fraction)) (scale < 0) scale.natAbs
      match ofFloat x with
      | .finite b => (.finite { b with negative }, rest)
      | .infinite _ => (.infinite negative, rest)
      | v => (v, rest)

/-- Digits with at least a number of places, filled with zeros at the front. -/
def padded (width n : Nat) : Raw :=
  let digits := decimal n
  List.replicate (width - digits.length) '0' ++ digits

/-- The value times a power of ten, rounded. -/
def Binary.scaled (b : Binary) (power : Int) : Nat :=
  let num := b.mantissa * Nat.pow 2 b.exponent.toNat * Nat.pow 10 power.toNat
  let den := Nat.pow 2 (-b.exponent).toNat * Nat.pow 10 (-power).toNat
  roundDiv num den

/-- Whether the value is at least a power of ten. -/
def Binary.reaches (b : Binary) (power : Int) : Bool :=
  b.mantissa * Nat.pow 2 b.exponent.toNat * Nat.pow 10 (-power).toNat
    ≥ Nat.pow 2 (-b.exponent).toNat * Nat.pow 10 power.toNat

/-- The greatest power of ten that a value reaches, from an upper bound downwards. -/
def Binary.magnitudeFrom (b : Binary) : Nat → Int → Int
  | 0, power => power
  | fuel + 1, power => if b.reaches power then power else magnitudeFrom b fuel (power - 1)

/-- The greatest power of ten that a value reaches; zero for zero. -/
def Binary.magnitude (b : Binary) : Int :=
  if b.mantissa = 0 then 0 else b.magnitudeFrom 700 310

/-- Writes the digits of a value with a number of places behind the point. -/
def Binary.fixed (b : Binary) (places : Nat) (keepsPoint : Bool) : Raw :=
  let n := b.scaled places
  let whole := decimal (n / Nat.pow 10 places)
  if places = 0 then if keepsPoint then whole ++ ['.'] else whole
  else whole ++ '.' :: padded places (n % Nat.pow 10 places)

/-- The digits and the power of ten of a value with one digit in front of the point. -/
def Binary.parts (b : Binary) (places : Nat) : Nat × Int :=
  let power := b.magnitude
  let n := b.scaled (places - power)
  if Nat.pow 10 (places + 1) ≤ n then (n / 10, power + 1) else (n, power)

/-- Writes digits with one in front of the point, and a power of ten. -/
def exponential (n : Nat) (power : Int) (places : Nat) (keepsPoint : Bool) (e : Char) : Raw :=
  let whole := decimal (n / Nat.pow 10 places)
  let digits :=
    if places = 0 then if keepsPoint then whole ++ ['.'] else whole
    else whole ++ '.' :: padded places (n % Nat.pow 10 places)
  digits ++ e :: (if power < 0 then '-' else '+') :: padded 2 power.natAbs

/-- A number without the zeros at the end of its fraction. -/
def stripZeros (t : Raw) : Raw :=
  if t.contains '.' then
    let cut := Text.dropEndWhile (· = '0') t
    if cut.getLast? = some '.' then cut.dropLast else cut
  else t

/-- Writes a value in the shorter of both ways with a number of digits. -/
def Binary.general (b : Binary) (digits : Nat) (keepsZeros : Bool) (e : Char) : Raw :=
  let digits := max 1 digits
  let (n, power) := b.parts (digits - 1)
  if power < -4 ∨ (digits : Int) ≤ power then
    let mantissa := exponential n power (digits - 1) keepsZeros e
    if keepsZeros then mantissa
    else
      let front := mantissa.takeWhile (· ≠ e)
      stripZeros front ++ mantissa.drop front.length
  else
    let t := b.fixed ((digits : Int) - 1 - power).toNat keepsZeros
    if keepsZeros then t else stripZeros t

/-- Writes a value as a letter of a format says, without its sign. -/
def Value.render (v : Value) (letter : Char) (places : Nat) (alternate : Bool) : Raw :=
  let t :=
    match v with
    | .infinite _ => ascii "inf"
    | .notANumber _ => ascii "nan"
    | .finite b =>
      match letter.toLower with
      | 'f' => b.fixed places alternate
      | 'e' =>
        let (n, power) := b.parts places
        exponential n power places alternate 'e'
      | _ => b.general places alternate 'e'
  if letter.isUpper then t.map Char.toUpper else t

/-- Whether a value is negative. -/
def Value.isNegative : Value → Bool
  | .finite b => b.negative
  | .infinite negative => negative
  | .notANumber negative => negative

/-- Whether a value has digits. -/
def Value.isFinite : Value → Bool
  | .finite _ => true
  | _ => false

end LobsterServer.Host.Decimal
