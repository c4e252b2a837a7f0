import LobsterServer.Text.Lossy

set_option autoImplicit false

/-!
# Text without control sequences

Messages that quote a text do without what a terminal would not show: control characters and control
sequences.  A sequence starts with an escape character and ends as its kind says; text in front of
its end belongs to it.  Tabs, line breaks and form feeds are shown, also within most sequences.

The text is read byte by byte in two moods.  While it is shown, bytes are taken for text whatever
sequence is open; the first byte that is none is read again as part of the open sequence.
-/

namespace LobsterServer.Text.Terminal

/-- The part of a control sequence that a byte stands in. -/
inductive Place where
  /-- outside of sequences -/
  | outside
  /-- behind the escape character -/
  | escape
  /-- behind signs that follow the escape character -/
  | escapeSigns
  /-- at the start of a sequence with numbers -/
  | control
  /-- among its numbers -/
  | numbers
  /-- behind signs that follow the numbers -/
  | signs
  /-- in the rest of a sequence that is not understood -/
  | rest
  /-- at the start of a sequence with numbers and a text -/
  | device
  /-- among its numbers -/
  | deviceNumbers
  /-- behind signs that follow the numbers -/
  | deviceSigns
  /-- in a text that only a byte of its own ends -/
  | payload
  /-- in a text that a bell ends -/
  | title
  deriving DecidableEq, Repr

/-- The place behind a byte that follows the escape character. -/
def Place.ofEscaped (b : UInt8) : Place :=
  if b < 0x20 ∨ 0x7F ≤ b then .escape
  else if b < 0x30 then .escapeSigns
  else if b = 0x5B then .control
  else if b = 0x5D then .title
  else if b = 0x50 then .device
  else if b = 0x58 ∨ b = 0x5E ∨ b = 0x5F then .payload
  else .outside

/-- The place behind a byte. -/
def Place.after (p : Place) (b : UInt8) : Place :=
  if b = 0x18 ∨ b = 0x1A then .outside
  else if b = 0x1B then .escape
  else
    match p with
    | .outside => .outside
    | .escape => .ofEscaped b
    | .payload => if b = 0x9C then .outside else p
    | .title => if b = 0x07 then .outside else p
    | _ =>
      if b < 0x20 ∨ 0x7F ≤ b then p
      else
        match p with
        | .escapeSigns => if b < 0x30 then p else .outside
        | .control => if b < 0x30 then .signs else if b < 0x40 then .numbers else .outside
        | .numbers =>
          if b < 0x30 then .signs else if b < 0x3C then p else if b < 0x40 then .rest else .outside
        | .signs => if b < 0x30 then p else if b < 0x40 then .rest else .outside
        | .rest => if b < 0x40 then p else .outside
        | .device =>
          if b < 0x30 then .deviceSigns else if b < 0x40 then .deviceNumbers else .payload
        | .deviceNumbers => if b < 0x30 then .deviceSigns else if b < 0x3C then p else .payload
        | _ => if b < 0x30 then p else .payload

/-- Whether white space is shown at a place. -/
def Place.showsSpace : Place → Bool
  | .device | .deviceNumbers | .deviceSigns | .payload | .title => false
  | _ => true

/-- Whether a byte is white space among the control characters. -/
def isSpace (b : UInt8) : Bool := b = 0x09 || b = 0x0A || b = 0x0C || b = 0x0D

/-- Whether a byte is shown: text outside of sequences, and white space. -/
def Place.shows (p : Place) (b : UInt8) : Bool :=
  (isSpace b && p.showsSpace)
    || (p = .outside && ((0x20 ≤ b && b < 0x7F) || (0xC2 ≤ b && b ≤ 0xF4)))

/-- The bytes that are shown; `showing` tells whether the byte in front was, so that a character
which has begun goes on.  A character past ASCII ends an open sequence. -/
def shown : (showing : Bool) → Place → List UInt8 → List UInt8
  | _, _, [] => []
  | showing, p, b :: rest =>
    if showing && 0x80 ≤ b && b < 0xC0 then b :: shown true p rest
    else if Place.shows (if showing then .outside else p) b then
      b :: shown true (if 0x80 ≤ b then .outside else if showing then p else p.after b) rest
    else shown false (p.after b) rest

/-- What is shown of a text. -/
def plain (t : Text) : Text := decodeLossy (shown false .outside (encode t))

example : plain "a\x07b\tc".toList = "ab\tc".toList := by decide
example : plain "a\x1b]0;t\x07b\x1b[38;5;1mc\x7f".toList = "abc".toList := by decide

end LobsterServer.Text.Terminal
