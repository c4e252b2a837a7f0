import LobsterServer.Uri.Percent

set_option autoImplicit false

/-!
# Internet addresses

A host may be an address: one of 32 bits, written as up to four numbers between dots, or one of 128
bits, written as eight groups of hexadecimal digits between colons, where one run of zero groups may
be left out.  Both have one normal form.
-/

namespace LobsterServer.Uri

/-- A number in a base, from digits that all have a value below it. -/
def readBase? (base : Nat) (digits : Text) : Option Nat :=
  digits.foldlM
    (fun n c => (hexValue? c).bind fun d => if d < base then some (n * base + d) else none) 0

/-- A number in hexadecimal digits. -/
def hexText (n : Nat) : Text := Nat.toDigits 16 n

/-! ## Addresses of 32 bits -/

namespace Address4

/-- Reads one part: hexadecimal after `0x`, octal after another zero, else decimal. -/
def readPart? : Text → Option Nat
  | [] => none
  | ['0'] => some 0
  | '0' :: 'x' :: digits => readBase? 16 digits
  | '0' :: 'X' :: digits => readBase? 16 digits
  | '0' :: digits => readBase? 8 digits
  | digits => readBase? 10 digits

/-- The parts between the dots, without the empty part that a dot at the end leaves. -/
def parts (t : Text) : List Text :=
  let parts := Text.splitOn '.' t
  if parts.getLast? = some [] then parts.dropLast else parts

/-- Whether a host has to be an address: its last part is a number. -/
def isMeant (t : Text) : Bool :=
  match (parts t).getLast? with
  | none => false
  | some part => (part ≠ [] && part.all Char.isDigit) || (readPart? part).isSome

/-- Reads an address.  The last part fills all the bytes that the others leave. -/
def read? (t : Text) : Option Nat := do
  let numbers ← (parts t).mapM readPart?
  let last ← numbers.getLast?
  let front := numbers.dropLast
  if front.length ≤ 3 ∧ front.all (· ≤ 255) ∧ last < Nat.pow 256 (4 - front.length) then
    some (front.foldl (fun n b => n * 256 + b) 0 * Nat.pow 256 (4 - front.length) + last)
  else none

/-- The bytes of an address. -/
def bytes (n : Nat) : List Nat := [n / 0x1000000, n / 0x10000 % 256, n / 256 % 256, n % 256]

/-- Writes an address: four decimal numbers between dots. -/
def render (n : Nat) : Text :=
  ['.'].intercalate ((bytes n).map fun b => (toString b).toList)

example : (read? "0x7f.1".toList).map render = some "127.0.0.1".toList := by decide
example : read? "256.1".toList = none := by decide
example : isMeant "a.b".toList = false ∧ isMeant "a.09".toList = true := by decide

end Address4

/-! ## Addresses of 128 bits -/

namespace Address6

/-- Reads a group: one to four hexadecimal digits. -/
def readGroup? (t : Text) : Option Nat :=
  if t = [] ∨ 4 < t.length then none else readBase? 16 t

/-- Reads a byte in decimal digits, without a zero in front. -/
def readByte? (t : Text) : Option Nat :=
  if t = [] ∨ 3 < t.length ∨ (t.head? = some '0' ∧ 1 < t.length) then none
  else (readBase? 10 t).filter (· ≤ 255)

/-- Reads an address of 32 bits as two groups. -/
def readTail? (t : Text) : Option (List Nat) := do
  let [a, b, c, d] ← (Text.splitOn '.' t).mapM readByte? | none
  return [a * 256 + b, c * 256 + d]

/-- Reads groups between colons.  The last may be an address of 32 bits, if `tail` says so. -/
def readGroups? (tail : Bool) : List Text → Option (List Nat)
  | [] => some []
  | [t] => if tail && t.contains '.' then readTail? t else (readGroup? t).map fun g => [g]
  | t :: rest => do return (← readGroup? t) :: (← readGroups? tail rest)

/-- The parts of a text in front of and behind its first two colons in a row. -/
def cut? : Text → Option (Text × Text)
  | ':' :: ':' :: rest => some ([], rest)
  | c :: rest => (cut? rest).map fun (front, back) => (c :: front, back)
  | [] => none

/-- The texts between colons; an empty text has none. -/
def pieces (t : Text) : List Text := if t = [] then [] else Text.splitOn ':' t

/-- Reads the eight groups of an address. -/
def read? (t : Text) : Option (List Nat) :=
  match cut? t with
  | none => (readGroups? true (Text.splitOn ':' t)).filter (·.length = 8)
  | some (front, back) => do
    let front ← readGroups? false (pieces front)
    let back ← readGroups? true (pieces back)
    if front.length + back.length ≤ 7 then
      some (front ++ List.replicate (8 - front.length - back.length) 0 ++ back)
    else none

/-- The start and the length of the first longest run of zeros: `here` is the place of the next
group, and `zeros` how many zeros lie directly in front of it. -/
def longestRun : List Nat → (here zeros : Nat) → (best : Nat × Nat) → Nat × Nat
  | [], _, _, best => best
  | g :: rest, here, zeros, best =>
    if g = 0 then
      let best := if best.2 < zeros + 1 then (here - zeros, zeros + 1) else best
      longestRun rest (here + 1) (zeros + 1) best
    else longestRun rest (here + 1) 0 best

/-- Groups with colons between them. -/
def joined (groups : List Nat) : Text := [':'].intercalate (groups.map hexText)

/-- Writes an address; of the runs of two zero groups or more the first longest is left out. -/
def render (groups : List Nat) : Text :=
  let (start, size) := longestRun groups 0 0 (0, 1)
  if size ≤ 1 then joined groups
  else joined (groups.take start) ++ "::".toList ++ joined (groups.drop (start + size))

example : (read? "0:0::1.2.3.4".toList).map render = some "::102:304".toList := by decide
example : read? "1:2:3:4:5:6:7".toList = none := by decide

end Address6

end LobsterServer.Uri
