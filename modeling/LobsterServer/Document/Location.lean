import LobsterServer.Position

set_option autoImplicit false

/-!
# Places in a text

A place in a text is a number of characters in front of it, its *index*.  Positions lead to
indexes and back: `index` clamps a position to the end of its line, and to the end of the text
when the line does not exist; `position` counts lines and UTF-16 units in front of an index.
A position inside a surrogate pair leads to the index after the pair's character.
-/

namespace LobsterServer.Text

/-! ## From positions to indexes -/

/-- Characters in front of the column `column` of the line that starts at the front of the text,
when `units` units of that line are already passed. -/
def columnIndex (column : UInt32) : UInt32 → Text → Nat
  | _, [] => 0
  | units, c :: t =>
    if c = '\n' ∨ column ≤ units then 0
    else columnIndex column (units + UInt32.ofNat (charUnits c)) t + 1

/-- Characters in front of column `column` of the line `line` lines below the front of the text. -/
def lineIndex (column : UInt32) : Nat → Text → Nat
  | 0, t => columnIndex column 0 t
  | _ + 1, [] => 0
  | line + 1, c :: t =>
    (if c = '\n' then lineIndex column line t else lineIndex column (line + 1) t) + 1

/-- The index a position leads to. -/
def index (t : Text) (p : Position) : Nat := lineIndex p.character p.line.toNat t

/-- The UTF-8 bytes in front of the place a position leads to. -/
def offset (t : Text) (p : Position) : Nat := byteLength (t.take (index t p))

/-! ## From indexes to positions -/

/-- The place after all characters of a text. -/
def endPosition (t : Text) : Position := t.foldl Position.advance .origin

/-- The position of an index. -/
def position (t : Text) (i : Nat) : Position := endPosition (t.take i)

/-- The index with `bytes` UTF-8 bytes in front of it; the end of the text when there are fewer,
nothing when that many bytes end inside a character. -/
def indexOfOffset? : Nat → Text → Option Nat
  | 0, _ => some 0
  | _ + 1, [] => some 0
  | bytes + 1, c :: t =>
    if c.utf8Size ≤ bytes + 1 then (indexOfOffset? (bytes + 1 - c.utf8Size) t).map (· + 1) else none

/-- The position of a byte offset, or nothing for an offset inside a character. -/
def positionOfOffset? (t : Text) (bytes : Nat) : Option Position :=
  (indexOfOffset? bytes t).map (position t)

/-! ## Stretches -/

/-- The indexes a range leads to.  A range that ends before it starts is empty. -/
def span (t : Text) (r : Range) : Nat × Nat :=
  let start := index t r.start
  (start, Nat.max (index t r.end) start)

/-- The text in a range. -/
def slice (t : Text) (r : Range) : Text :=
  let (start, stop) := span t r
  (t.take stop).drop start

/-- The text with the range `r` replaced by `new`. -/
def splice (t : Text) (r : Range) (new : Text) : Text :=
  let (start, stop) := span t r
  t.take start ++ new ++ t.drop stop

/-- The range of a line without its terminator: up to its line feed and without the carriage
returns in front of that.  A line past the end of the text has the empty range at the end. -/
def lineRange (t : Text) (line : UInt32) : Range :=
  let start := index t ⟨line, 0⟩
  let body := dropEndWhile (· = '\r') ((t.drop start).takeWhile (· ≠ '\n'))
  let first := position t start
  ⟨first, ⟨first.line, first.character + UInt32.ofNat (unitLength body)⟩⟩

example : offset ['é', Char.ofNat 0x1D11E, 'x'] ⟨0, 2⟩ = 6 := by decide
example : lineRange ['a', '\r', '\n', 'b'] 0 = ⟨⟨0, 0⟩, ⟨0, 1⟩⟩ := by decide
example : positionOfOffset? ['é'] 1 = none := by decide

end LobsterServer.Text
