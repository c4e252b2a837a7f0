import LobsterServer.Text.Basic

set_option autoImplicit false

/-!
# Blank characters and trimming

Blank characters are those with the Unicode property White_Space.  The compiler's messages are
trimmed by this property, so an ideographic space at the end of a line goes as well.
-/

namespace LobsterServer.Text

/-- The code point ranges of the Unicode property White_Space. -/
def blankRanges : List (Nat × Nat) :=
  [(0x09, 0x0D), (0x20, 0x20), (0x85, 0x85), (0xA0, 0xA0), (0x1680, 0x1680),
   (0x2000, 0x200A), (0x2028, 0x2029), (0x202F, 0x202F), (0x205F, 0x205F), (0x3000, 0x3000)]

/-- Whether a character has the property White_Space. -/
def isBlank (c : Char) : Bool := blankRanges.any fun r => r.1 ≤ c.toNat && c.toNat ≤ r.2

/-- A text without the blanks at its end. -/
def trimEnd (t : Text) : Text := dropEndWhile isBlank t

/-- A text without the blanks at either end. -/
def trim (t : Text) : Text := (trimEnd t).dropWhile isBlank

/-- Whether a text has blanks only. -/
def allBlank (t : Text) : Bool := t.all isBlank

example : isBlank '\u3000' = true := by decide
example : isBlank '\u200b' = false := by decide

end LobsterServer.Text
