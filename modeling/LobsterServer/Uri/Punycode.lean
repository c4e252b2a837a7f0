import LobsterServer.Text.Basic

set_option autoImplicit false

/-!
# Labels in ASCII

A label with characters past ASCII has a form in ASCII: its ASCII characters, a dash, and digits
that say in which order and at which places the others are inserted.  The numbers are written in
base 36 with thresholds that adapt to the size of the last one.
-/

namespace LobsterServer.Uri.Punycode

/-- The value of a digit. -/
def digitValue? (c : Char) : Option Nat :=
  if 'a' ≤ c ∧ c ≤ 'z' then some (c.toNat - 'a'.toNat)
  else if 'A' ≤ c ∧ c ≤ 'Z' then some (c.toNat - 'A'.toNat)
  else if '0' ≤ c ∧ c ≤ '9' then some (c.toNat - '0'.toNat + 26)
  else none

/-- The digit of a value. -/
def digit (n : Nat) : Char := Char.ofNat (if n < 26 then 0x61 + n else 0x30 + n - 26)

/-- The threshold of the digit at step `k`: smaller digits end a number. -/
def threshold (k bias : Nat) : Nat := min 26 (max 1 (k - bias))

/-- Divides a difference until it is small, counting in steps of 36. -/
def shrink (delta k : Nat) : Nat × Nat :=
  if 455 < delta then shrink (delta / 35) (k + 36) else (delta, k)
termination_by delta
decreasing_by exact Nat.div_lt_self (by omega) (by omega)

/-- The bias after a difference has been written for one of `count` characters. -/
def adapt (delta count : Nat) (first : Bool) : Nat :=
  let delta := if first then delta / 700 else delta / 2
  let (delta, k) := shrink (delta + delta / count) 0
  k + 36 * delta / (delta + 38)

/-- The bias in front of the first number. -/
def firstBias : Nat := 72

/-! ## Reading -/

/-- Reads a number digit by digit: its value, and the rest. -/
def readNumber (bias : Nat) : Text → Nat → Nat → Option (Nat × Text)
  | [], _, _ => none
  | c :: rest, k, weight =>
    match digitValue? c with
    | none => none
    | some d =>
      let t := threshold k bias
      if d < t then some (d * weight, rest)
      else (readNumber bias rest (k + 36) (weight * (36 - t))).map fun (n, rest) =>
        (d * weight + n, rest)

/-- Inserts characters into a text until all digits are read.  A number counts the places that are
passed, where every place of the text is passed for one code point before the next has its turn.
`fuel` bounds how many characters are inserted. -/
def insertAll : Nat → Text → (code place bias : Nat) → Text → Option Text
  | _, [], _, _, _, output => some output
  | 0, _ :: _, _, _, _, _ => none
  | fuel + 1, digits, code, place, bias, output => do
    let (delta, rest) ← readNumber bias digits 36 1
    let count := output.length + 1
    let code := code + (place + delta) / count
    let spot := (place + delta) % count
    if h : code.isValidChar then
      insertAll fuel rest code (spot + 1) (adapt delta count (place = 0))
        (output.take spot ++ Char.ofNatAux code h :: output.drop spot)
    else none

/-- The ASCII characters and the digits of a label, which the last dash parts. -/
def split (label : Text) : Text × Text :=
  let digits := (label.reverse.takeWhile (· ≠ '-')).reverse
  if digits.length + 1 < label.length then (label.take (label.length - digits.length - 1), digits)
  else ([], label)

/-- The label that a label in ASCII stands for. -/
def decode? (label : Text) : Option Text :=
  let (plain, digits) := split label
  insertAll digits.length digits 0x80 0 firstBias plain

/-! ## Writing -/

/-- Writes a number digit by digit. -/
def writeNumber (bias n k : Nat) : Text :=
  let t := threshold k bias
  if h : n < t then [digit n]
  else digit (t + (n - t) % (36 - t)) :: writeNumber bias ((n - t) / (36 - t)) (k + 36)
termination_by n
decreasing_by
  have ht : 1 ≤ threshold k bias := by simp only [threshold]; omega
  exact Nat.lt_of_le_of_lt (Nat.div_le_self _ _) (by omega)

/-- What has been written of a label: the digits, how many characters are in place, and the places
passed since the last number. -/
structure Progress where
  output : Text
  done : Nat
  delta : Nat
  bias : Nat

/-- Passes one character of the label, which is in place already if its code point is below
`code`. -/
def pass (plain code : Nat) (p : Progress) (c : Char) : Progress :=
  if c.toNat < code then { p with delta := p.delta + 1 }
  else if c.toNat = code then
    ⟨p.output ++ writeNumber p.bias p.delta 36, p.done + 1, 0,
      adapt p.delta (p.done + 1) (p.done = plain)⟩
  else p

/-- The label in ASCII that stands for a label. -/
def encode (label : Text) : Text :=
  let plain := label.filter fun c => c.toNat < 0x80
  let codes := ((label.filter fun c => 0x80 ≤ c.toNat).map Char.toNat).eraseDups
  let step (s : Nat × Progress) (code : Nat) : Nat × Progress :=
    let p := { s.2 with delta := s.2.delta + (code - s.1) * (s.2.done + 1) }
    let p := label.foldl (pass plain.length code) p
    (code + 1, { p with delta := p.delta + 1 })
  let (_, p) := (codes.mergeSort).foldl step (0x80, ⟨[], plain.length, 0, firstBias⟩)
  (if plain = [] then [] else plain ++ ['-']) ++ p.output

example : decode? "bcher-kva".toList = some "bücher".toList := by cbv
example : encode "bücher".toList = "bcher-kva".toList := by cbv

end LobsterServer.Uri.Punycode
