import LobsterServer.Text.Basic

set_option autoImplicit false

/-!
# Percent-encoding

A byte that may not stand in a part of a URI is written as a percent sign and two hexadecimal
digits.  What may stand for itself depends on the part.
-/

namespace LobsterServer.Uri

/-- The value of a hexadecimal digit. -/
def hexValue? (c : Char) : Option Nat :=
  if '0' ≤ c ∧ c ≤ '9' then some (c.toNat - '0'.toNat)
  else if 'a' ≤ c ∧ c ≤ 'f' then some (c.toNat - 'a'.toNat + 10)
  else if 'A' ≤ c ∧ c ≤ 'F' then some (c.toNat - 'A'.toNat + 10)
  else none

/-- The bytes a part of a URI stands for: a percent sign and two hexadecimal digits stand for one
byte, everything else for itself. -/
def percentDecode : List Char → List UInt8
  | [] => []
  | '%' :: a :: b :: rest =>
    match hexValue? a, hexValue? b with
    | some x, some y => UInt8.ofNat (x * 16 + y) :: percentDecode rest
    | _, _ => String.utf8EncodeChar '%' ++ percentDecode (a :: b :: rest)
  | c :: rest => String.utf8EncodeChar c ++ percentDecode rest

/-- The parts of a URI that differ in what they let stand. -/
inductive Part where
  /-- a path without structure, or a host that is no domain -/
  | plain
  | fragment
  | query
  /-- the query of a URI whose scheme is for the web or for files -/
  | specialQuery
  | path
  | user
  deriving DecidableEq, Repr

/-- The visible ASCII characters that a part does not let stand. -/
def Part.escapes : Part → List Char
  | .plain => []
  | .fragment => [' ', '"', '<', '>', '\x60']
  | .query => [' ', '"', '#', '<', '>']
  | .specialQuery => [' ', '"', '#', '<', '>', '\'']
  | .path => [' ', '"', '<', '>', '\x60', '#', '?', '\x7b', '\x7d']
  | .user =>
    [' ', '"', '<', '>', '\x60', '#', '?', '\x7b', '\x7d', '/', ':', ';', '=', '@', '[', '\\', ']',
      '^', '|']

/-- An upper-case hexadecimal digit. -/
def upperHex (n : Nat) : Char := (Char.ofNat (if n < 10 then 0x30 + n else 0x37 + n))

/-- A byte written in three characters. -/
def escapeByte (b : UInt8) : Text := ['%', upperHex (b.toNat / 16), upperHex (b.toNat % 16)]

/-- Whether a part does not let a character stand. -/
def Part.isEscaped (p : Part) (c : Char) : Bool :=
  c.toNat < 0x20 || 0x7F ≤ c.toNat || p.escapes.contains c

/-- A character as it is written in a part of a URI. -/
def Part.encodeChar (p : Part) (c : Char) : Text :=
  if p.isEscaped c then (String.utf8EncodeChar c).flatMap escapeByte else [c]

/-- A text as it is written in a part of a URI. -/
def Part.encode (p : Part) (t : Text) : Text := t.flatMap p.encodeChar

end LobsterServer.Uri
