import LobsterServer.Text.Basic

set_option autoImplicit false

/-!
# Tables of characters

What the standards of writing say about a character past ASCII is a matter of tables.  They are kept
as rows of hexadecimal numbers with blanks between them; each row is read on its own.
-/

namespace LobsterServer.Character

/-- The value of a lower-case hexadecimal number. -/
def readHex (t : Text) : Nat :=
  t.foldl (fun n c => n * 16 + if c.isDigit then c.toNat - 0x30 else c.toNat - 0x57) 0

/-- The numbers of a row. -/
def numbers (row : String) : List Nat := (Text.splitOn ' ' row.toList).map readHex

/-- Code points from the first to the last. -/
structure Range where
  first : Nat
  last : Nat
  deriving DecidableEq, Repr

/-- Whether a character lies in a range. -/
def Range.holds (r : Range) (c : Char) : Bool := r.first ≤ c.toNat && c.toNat ≤ r.last

/-- Whether a character lies in one of some ranges. -/
def isIn (ranges : List Range) (c : Char) : Bool := ranges.any fun r => r.holds c

/-- Ranges from pairs of numbers: how many code points lie between a range and the one in front of
it, which ends before `start`, and how many it has. -/
def rangesFrom (start : Nat) : List Nat → List Range
  | gap :: size :: rest =>
    ⟨start + gap, start + gap + size - 1⟩ :: rangesFrom (start + gap + size) rest
  | _ => []

/-- Reads a table of ranges. -/
def readRanges (rows : List String) : List Range :=
  rows.flatMap fun row => rangesFrom 0 (numbers row)

example : readRanges ["30 a 7 1a", "e9 1"] = [⟨0x30, 0x39⟩, ⟨0x41, 0x5a⟩, ⟨0xe9, 0xe9⟩] := by decide

end LobsterServer.Character
