import LobsterServer.Text.Basic

set_option autoImplicit false

/-!
# Positions and ranges

Editors name a place by its line and by the UTF-16 code units in front of it on that line, both
counted from zero in 32 bits.  Positions are ordered by line, then by character.
-/

namespace LobsterServer

/-- A place in a text. -/
structure Position where
  /-- line feeds in front of the place -/
  line : UInt32
  /-- UTF-16 code units between the start of the line and the place -/
  character : UInt32
  deriving DecidableEq, Repr, Inhabited

namespace Position

/-- The first place of every text. -/
def origin : Position := ⟨0, 0⟩

/-- The order of positions. -/
def compare (p q : Position) : Ordering :=
  (Ord.compare p.line q.line).then (Ord.compare p.character q.character)

instance : Ord Position := ⟨compare⟩

/-- `p` does not come after `q`. -/
instance : LE Position :=
  ⟨fun p q => p.line < q.line ∨ (p.line = q.line ∧ p.character ≤ q.character)⟩

/-- `p` comes before `q`. -/
instance : LT Position :=
  ⟨fun p q => p.line < q.line ∨ (p.line = q.line ∧ p.character < q.character)⟩

instance (p q : Position) : Decidable (p ≤ q) :=
  inferInstanceAs (Decidable (p.line < q.line ∨ (p.line = q.line ∧ p.character ≤ q.character)))

instance (p q : Position) : Decidable (p < q) :=
  inferInstanceAs (Decidable (p.line < q.line ∨ (p.line = q.line ∧ p.character < q.character)))

/-- The later of two positions. -/
def max (p q : Position) : Position := if q < p then p else q

/-- The place after the character `c` that stands at `p`. -/
def advance (p : Position) (c : Char) : Position :=
  if c = '\n' then ⟨p.line + 1, 0⟩
  else ⟨p.line, p.character + UInt32.ofNat (Text.charUnits c)⟩

end Position

/-- A stretch of a text, from its start up to, but not including, its end. -/
structure Range where
  start : Position
  «end» : Position
  deriving DecidableEq, Repr, Inhabited

/-- The empty stretch at one place. -/
def Range.point (p : Position) : Range := ⟨p, p⟩

end LobsterServer
