import LobsterServer.Proofs.Text.Place

set_option autoImplicit false

/-!
# Texts in UTF-16

Editors hold a text as a sequence of UTF-16 code units.  A character of the basic plane is one
unit and any other is a surrogate pair.  The encoding of a text is that of its characters in their
order, so a place between two characters is a place between two units, and a unit that ends a line
is the encoding of a line feed.
-/

namespace LobsterServer.Text

/-! ## Units of characters -/

/-- The UTF-16 code units of a character. -/
def charToUnits (c : Char) : List UInt16 :=
  if c.toNat < 0x10000 then [UInt16.ofNat c.toNat]
  else
    [UInt16.ofNat (0xD800 + (c.toNat - 0x10000) / 0x400),
      UInt16.ofNat (0xDC00 + (c.toNat - 0x10000) % 0x400)]

/-- The unit that ends a line. -/
def lineFeed : UInt16 := 10

/-- Whether a unit is the first of a surrogate pair. -/
def isHighSurrogate (u : UInt16) : Bool := 0xD800 ≤ u && u < 0xDC00

/-- Whether a unit is the second of a surrogate pair. -/
def isLowSurrogate (u : UInt16) : Bool := 0xDC00 ≤ u && u < 0xE000

/-- Code points end at `0x10FFFF`. -/
theorem char_toNat_lt (c : Char) : c.toNat < 0x110000 := by
  rcases c.valid with h | ⟨_, h⟩
  · exact Nat.lt_trans h (by decide)
  · exact h

theorem length_charToUnits (c : Char) : (charToUnits c).length = charUnits c := by
  unfold charToUnits charUnits
  split <;> rfl

theorem charToUnits_lineFeed : charToUnits '\n' = [lineFeed] := by decide

/-- No other character has a unit that ends a line. -/
theorem lineFeed_notMem_charToUnits {c : Char} (h : c ≠ '\n') : lineFeed ∉ charToUnits c := by
  have hlt := char_toNat_lt c
  have hne : c.toNat ≠ 10 := fun heq => h (Char.toNat_inj.mp heq)
  intro hmem
  unfold charToUnits at hmem
  split at hmem
  · have heq := congrArg UInt16.toNat (List.mem_singleton.mp hmem)
    simp only [lineFeed, UInt16.toNat_ofNat, UInt16.toNat_ofNat'] at heq
    omega
  · simp only [List.mem_cons, List.not_mem_nil, or_false] at hmem
    rcases hmem with hhigh | hlow
    · have heq := congrArg UInt16.toNat hhigh
      simp only [lineFeed, UInt16.toNat_ofNat, UInt16.toNat_ofNat'] at heq
      omega
    · have heq := congrArg UInt16.toNat hlow
      simp only [lineFeed, UInt16.toNat_ofNat, UInt16.toNat_ofNat'] at heq
      omega

/-- A character of more than one unit is a surrogate pair. -/
theorem charToUnits_of_pair {c : Char} (h : charUnits c ≠ 1) :
    ∃ high low, charToUnits c = [high, low] ∧ isHighSurrogate high ∧ isLowSurrogate low := by
  have hlt := char_toNat_lt c
  have hge : ¬ c.toNat < 0x10000 := fun hbasic => h (if_pos hbasic)
  refine ⟨_, _, if_neg hge, ?_, ?_⟩
  · simp only [isHighSurrogate, Bool.and_eq_true, decide_eq_true_eq, UInt16.le_iff_toNat_le,
      UInt16.lt_iff_toNat_lt, UInt16.toNat_ofNat, UInt16.toNat_ofNat']
    omega
  · simp only [isLowSurrogate, Bool.and_eq_true, decide_eq_true_eq, UInt16.le_iff_toNat_le,
      UInt16.lt_iff_toNat_lt, UInt16.toNat_ofNat, UInt16.toNat_ofNat']
    omega

/-! ## Units of texts -/

/-- The UTF-16 encoding of a text. -/
def units (t : Text) : List UInt16 := t.flatMap charToUnits

example : units ['a', '\n', Char.ofNat 0x1D11E] = [0x61, 10, 0xD834, 0xDD1E] := by decide

@[simp] theorem units_cons (c : Char) (t : Text) : units (c :: t) = charToUnits c ++ units t := rfl

@[simp] theorem units_append (s t : Text) : units (s ++ t) = units s ++ units t :=
  List.flatMap_append

@[simp] theorem length_units (t : Text) : (units t).length = unitLength t := by
  induction t with
  | nil => rfl
  | cons c t ih => simp [length_charToUnits, ih]

/-- Places further on have more units in front of them. -/
theorem unitLength_take_le (t : Text) {i j : Nat} (h : i ≤ j) :
    unitLength (t.take i) ≤ unitLength (t.take j) := by
  rw [← take_append_drop_take t h, unitLength_append]
  exact Nat.le_add_right _ _

/-- A place after `i` characters is the place after their units. -/
theorem take_units (t : Text) (i : Nat) :
    (units t).take (unitLength (t.take i)) = units (t.take i) := by
  have hsplit : units t = units (t.take i) ++ units (t.drop i) := by
    rw [← units_append, List.take_append_drop]
  rw [hsplit, List.take_left' (length_units _)]

theorem drop_units (t : Text) (i : Nat) :
    (units t).drop (unitLength (t.take i)) = units (t.drop i) := by
  have hsplit : units t = units (t.take i) ++ units (t.drop i) := by
    rw [← units_append, List.take_append_drop]
  rw [hsplit, List.drop_left' (length_units _)]

end LobsterServer.Text
