import LobsterServer.Text.Lossy

set_option autoImplicit false

/-!
# Raw texts

Programs of the host work on bytes and know no other characters.  A raw text holds one character
for each byte, so that bytes are matched and joined like any other text.
-/

namespace LobsterServer.Host

/-- A text whose characters stand for single bytes. -/
abbrev Raw := List Char

/-- The raw text of bytes. -/
def Raw.ofBytes (bytes : List UInt8) : Raw := bytes.map fun b => Char.ofNat b.toNat

/-- The raw text of the UTF-8 encoding of a text. -/
def Raw.ofText (t : Text) : Raw := Raw.ofBytes t.encode

/-- The bytes of a raw text. -/
def Raw.bytes (r : Raw) : List UInt8 := r.map fun c => UInt8.ofNat c.toNat

/-- The raw text of an ASCII string. -/
def ascii (s : String) : Raw := s.toList

/-- A number in decimal digits. -/
def decimal (n : Nat) : Raw := Nat.toDigits 10 n

/-- An integer in decimal digits, with a sign if it is negative. -/
def signed (n : Int) : Raw := if n < 0 then '-' :: decimal n.natAbs else decimal n.natAbs

/-- Raw texts with a separator between them. -/
def joinedBy (separator : Raw) (parts : List Raw) : Raw := separator.intercalate parts

/-- A line with its line break. -/
def closedLine (r : Raw) : Raw := r ++ ['\n']

/-- Whether a character is a blank or another gap between words. -/
def isGap (c : Char) : Bool := c = ' ' || (9 ≤ c.toNat && c.toNat ≤ 13)

/-- Characters of a name. -/
def isNameChar (c : Char) : Bool := c.isAlphanum || c = '_'

/-- Whether a raw text can name a variable. -/
def isName (r : Raw) : Bool :=
  r.all isNameChar && match r with
    | [] => false
    | c :: _ => !c.isDigit

end LobsterServer.Host
