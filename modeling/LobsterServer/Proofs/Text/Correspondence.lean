import LobsterServer.Proofs.Text.Location

set_option autoImplicit false

/-!
# Positions and offsets correspond

A place between two characters has an offset, the bytes in front of it, and a position.  The offset
of a position is found by a scan from the front of the text, the position of an offset by counting
what lies in front of it.  The main statement says of a text of fewer than `2 ^ 32` units that each
leads back to the other wherever a position names a place, that any other position leads to a place
as well, and that both keep the order.
-/

namespace LobsterServer

/-! ## The order of positions -/

namespace Position

theorem isLE_compare_iff {p q : Position} : (Ord.compare p q).isLE = true ↔ p ≤ q := by
  show (compare p q).isLE = true ↔ p ≤ q
  unfold compare
  rw [Ordering.isLE_then_iff_or, Std.compare_eq_lt, Std.isLE_compare, Std.compare_eq_iff_eq]
  rfl

theorem compare_eq_lt_iff {p q : Position} : Ord.compare p q = .lt ↔ p < q := by
  show compare p q = .lt ↔ p < q
  unfold compare
  rw [Ordering.then_eq_lt, Std.compare_eq_lt, Std.compare_eq_lt, Std.compare_eq_iff_eq]
  rfl

/-- Of two positions one comes before the other, or not after it. -/
theorem lt_of_not_le {p q : Position} (h : ¬ q ≤ p) : p < q := by
  have hle : q ≤ p ↔ q.line < p.line ∨ (q.line = p.line ∧ q.character ≤ p.character) := Iff.rfl
  have hlt : p < q ↔ p.line < q.line ∨ (p.line = q.line ∧ p.character < q.character) := Iff.rfl
  rw [hle, UInt32.lt_iff_toNat_lt, UInt32.le_iff_toNat_le, ← UInt32.toNat_inj] at h
  rw [hlt, UInt32.lt_iff_toNat_lt, UInt32.lt_iff_toNat_lt, ← UInt32.toNat_inj]
  omega

end Position

namespace Text

/-! ## Places and their offsets -/

/-- As many bytes lie in front of some place of the text: at an end or between two characters. -/
def IsBoundary (t : Text) (offset : Nat) : Prop :=
  ∃ front back, t = front ++ back ∧ byteLength front = offset

theorem isBoundary_take (t : Text) (i : Nat) : IsBoundary t (byteLength (t.take i)) :=
  ⟨t.take i, t.drop i, (List.take_append_drop i t).symm, rfl⟩

theorem IsBoundary.exists_index {t : Text} {offset : Nat} (h : IsBoundary t offset) :
    ∃ i, i ≤ t.length ∧ byteLength (t.take i) = offset := by
  obtain ⟨front, back, rfl, hoffset⟩ := h
  refine ⟨front.length, ?_, ?_⟩
  · rw [List.length_append]
    exact Nat.le_add_right _ _
  · rw [List.take_left, hoffset]

theorem IsBoundary.le_byteLength {t : Text} {offset : Nat} (h : IsBoundary t offset) :
    offset ≤ byteLength t := by
  obtain ⟨front, back, rfl, rfl⟩ := h
  rw [byteLength_append]
  exact Nat.le_add_right _ _

/-- A place is found by its offset. -/
theorem indexOfOffset?_take {t : Text} : ∀ {i : Nat}, i ≤ t.length →
    indexOfOffset? (byteLength (t.take i)) t = some i := by
  induction t with
  | nil =>
    intro i hi
    obtain rfl := Nat.le_zero.mp hi
    rfl
  | cons c t ih =>
    intro i hi
    cases i with
    | zero => rfl
    | succ i =>
      have hsize := Char.utf8Size_pos c
      obtain ⟨bytes, hbytes⟩ : ∃ bytes, c.utf8Size + byteLength (t.take i) = bytes + 1 :=
        Nat.exists_eq_add_one_of_ne_zero (by omega)
      have hrest : bytes + 1 - c.utf8Size = byteLength (t.take i) := by omega
      rw [List.take_succ_cons, byteLength_cons, hbytes, indexOfOffset?, if_pos (by omega), hrest,
        ih (Nat.le_of_succ_le_succ hi), Option.map_some]

theorem positionOfOffset?_take {t : Text} {i : Nat} (h : i ≤ t.length) :
    positionOfOffset? t (byteLength (t.take i)) = some (position t i) := by
  rw [positionOfOffset?, indexOfOffset?_take h, Option.map_some]

/-! ## Positions lead to places in their order -/

theorem columnIndex_le_length (column : UInt32) (t : Text) : ∀ passed : UInt32,
    columnIndex column passed t ≤ t.length := by
  induction t with
  | nil =>
    intro passed
    exact Nat.le_refl 0
  | cons c t ih =>
    intro passed
    unfold columnIndex
    split
    · exact Nat.zero_le _
    · exact Nat.succ_le_succ (ih _)

theorem lineIndex_le_length (column : UInt32) (t : Text) : ∀ line : Nat,
    lineIndex column line t ≤ t.length := by
  induction t with
  | nil =>
    intro line
    cases line <;> exact Nat.le_refl 0
  | cons c t ih =>
    intro line
    cases line with
    | zero => exact columnIndex_le_length column (c :: t) 0
    | succ line =>
      unfold lineIndex
      refine Nat.succ_le_succ ?_
      split
      · exact ih line
      · exact ih (line + 1)

theorem index_le_length (t : Text) (p : Position) : index t p ≤ t.length :=
  lineIndex_le_length p.character t p.line.toNat

/-- A column further to the right leads no less far. -/
theorem columnIndex_mono {column further : UInt32} (h : column ≤ further) (t : Text) :
    ∀ passed : UInt32, columnIndex column passed t ≤ columnIndex further passed t := by
  induction t with
  | nil =>
    intro passed
    exact Nat.le_refl 0
  | cons c t ih =>
    intro passed
    by_cases hstop : c = '\n' ∨ column ≤ passed
    · rw [columnIndex, if_pos hstop]
      exact Nat.zero_le _
    · have hstop' : ¬ (c = '\n' ∨ further ≤ passed) :=
        fun hend => hstop (hend.imp_right (UInt32.le_trans h))
      rw [columnIndex, if_neg hstop, columnIndex, if_neg hstop']
      exact Nat.succ_le_succ (ih _)

theorem lineIndex_mono {column further : UInt32} (h : column ≤ further) (t : Text) :
    ∀ line : Nat, lineIndex column line t ≤ lineIndex further line t := by
  induction t with
  | nil =>
    intro line
    cases line <;> exact Nat.le_refl 0
  | cons c t ih =>
    intro line
    cases line with
    | zero => exact columnIndex_mono h (c :: t) 0
    | succ line =>
      unfold lineIndex
      refine Nat.succ_le_succ ?_
      split
      · exact ih line
      · exact ih (line + 1)

/-- No column of the first line leads behind the start of a later one. -/
theorem columnIndex_le_lineIndex (column column' : UInt32) (line : Nat) (t : Text) :
    ∀ passed : UInt32, columnIndex column passed t ≤ lineIndex column' (line + 1) t := by
  induction t with
  | nil =>
    intro passed
    exact Nat.le_refl 0
  | cons c t ih =>
    intro passed
    by_cases hstop : c = '\n' ∨ column ≤ passed
    · rw [columnIndex, if_pos hstop]
      exact Nat.zero_le _
    · have hc : c ≠ '\n' := fun hsame => hstop (.inl hsame)
      rw [columnIndex, if_neg hstop, lineIndex, if_neg hc]
      exact Nat.succ_le_succ (ih _)

/-- A later line leads no less far, whatever the columns. -/
theorem lineIndex_le_of_lt (column column' : UInt32) (t : Text) : ∀ {line later : Nat},
    line < later → lineIndex column line t ≤ lineIndex column' later t := by
  induction t with
  | nil =>
    intro line later _
    cases line <;> exact Nat.zero_le _
  | cons c t ih =>
    intro line later hlt
    obtain ⟨later, rfl⟩ := Nat.exists_eq_add_one_of_ne_zero (Nat.ne_zero_of_lt hlt)
    cases line with
    | zero => exact columnIndex_le_lineIndex column column' later (c :: t) 0
    | succ line =>
      rw [lineIndex, lineIndex]
      refine Nat.succ_le_succ ?_
      split
      · exact ih (Nat.lt_of_succ_lt_succ hlt)
      · exact ih hlt

theorem index_mono (t : Text) {p q : Position} (h : p ≤ q) : index t p ≤ index t q := by
  rcases h with hline | ⟨hline, hcharacter⟩
  · exact lineIndex_le_of_lt p.character q.character t (UInt32.lt_iff_toNat_lt.mp hline)
  · unfold index
    rw [hline]
    exact lineIndex_mono hcharacter t q.line.toNat

theorem offset_mono (t : Text) {p q : Position} (h : p ≤ q) : offset t p ≤ offset t q :=
  byteLength_take_le t (index_mono t h)

/-! ## Positions that name a place -/

/-- The position names a place on a line of the text: it counts the lines above, and the units
between the start of the line and the place. -/
def Names (t : Text) (p : Position) : Prop :=
  ∃ above front rest, t = above ++ front ++ rest ∧ Complete above ∧ '\n' ∉ front ∧
    p.line.toNat = above.count '\n' ∧ p.character.toNat = unitLength front

/-- The position of a place names it. -/
theorem names_position {t : Text} (small : unitLength t < 0x100000000) (i : Nat) :
    Names t (position t i) := by
  obtain ⟨above, front, hsplit, habove, hfront⟩ := exists_complete (t.take i)
  have hwhole : t = above ++ front ++ t.drop i := by rw [← hsplit, List.take_append_drop]
  have hunits : unitLength t =
      unitLength above + unitLength front + unitLength (t.drop i) := by
    rw [← unitLength_append, ← unitLength_append, ← hwhole]
  have hcount := count_le_unitLength '\n' above
  refine ⟨above, front, t.drop i, hwhole, habove, hfront, ?_, ?_⟩
  · rw [position, hsplit, endPosition_append habove hfront, UInt32.toNat_ofNat']
    omega
  · rw [position, hsplit, endPosition_append habove hfront, UInt32.toNat_ofNat']
    omega

/-- A position that names a place is the position of the place that it leads to. -/
theorem Names.position_index {t : Text} {p : Position} (h : Names t p) :
    position t (index t p) = p := by
  obtain ⟨above, front, rest, rfl, habove, hfront, hline, hcharacter⟩ := h
  rw [index_append habove hfront rest hline hcharacter, position, ← List.length_append,
    List.take_left, endPosition_append habove hfront, ← hline, ← hcharacter, UInt32.ofNat_toNat,
    UInt32.ofNat_toNat]

theorem positionOfOffset?_offset (t : Text) (p : Position) :
    positionOfOffset? t (offset t p) = some (position t (index t p)) :=
  positionOfOffset?_take (index_le_length t p)

/-- A place is found again by its position. -/
theorem offset_position {t : Text} (small : unitLength t < 0x100000000) {i : Nat}
    (h : i ≤ t.length) : offset t (position t i) = byteLength (t.take i) := by
  rw [offset, index_position small h]

/-- Positions and offsets correspond, in a text of fewer than `2 ^ 32` units.  An offset between
characters has a position, which leads back to it.  Every position leads to an offset between
characters.  Neither way changes the order.  And a position is that of the offset it leads to
exactly if it names a place on a line of the text. -/
theorem positions_correspond_to_offsets (t : Text) (small : unitLength t < 0x100000000) :
    (∀ o, IsBoundary t o → ∃ p, positionOfOffset? t o = some p ∧ offset t p = o) ∧
    (∀ p, IsBoundary t (offset t p) ∧ offset t p ≤ byteLength t) ∧
    (∀ p q, (Ord.compare p q).isLE = true → offset t p ≤ offset t q) ∧
    (∀ o o', IsBoundary t o → IsBoundary t o' → o < o' →
      ∃ p p', positionOfOffset? t o = some p ∧ positionOfOffset? t o' = some p' ∧
        Ord.compare p p' = .lt) ∧
    ∀ p, positionOfOffset? t (offset t p) = some p ↔ Names t p := by
  have hback : ∀ o, IsBoundary t o → ∃ p, positionOfOffset? t o = some p ∧ offset t p = o := by
    intro o ho
    obtain ⟨i, hi, rfl⟩ := ho.exists_index
    exact ⟨position t i, positionOfOffset?_take hi, offset_position small hi⟩
  refine ⟨hback, fun p => ?_, fun p q h => ?_, fun o o' ho ho' hlt => ?_, fun p => ?_⟩
  · have hplace : IsBoundary t (offset t p) := isBoundary_take t (index t p)
    exact ⟨hplace, hplace.le_byteLength⟩
  · exact offset_mono t (Position.isLE_compare_iff.mp h)
  · obtain ⟨p, hp, hoffset⟩ := hback o ho
    obtain ⟨p', hp', hoffset'⟩ := hback o' ho'
    refine ⟨p, p', hp, hp', Position.compare_eq_lt_iff.mpr (Position.lt_of_not_le fun hle => ?_)⟩
    -- in the other order the offsets would be as well
    have hmono := offset_mono t hle
    omega
  · rw [positionOfOffset?_offset, Option.some.injEq]
    constructor
    · intro hsame
      rw [← hsame]
      exact names_position small (index t p)
    · exact Names.position_index

/-- A clef has four bytes and two units.  Column 3 of its line names the place behind it, column 2
between its units does not, and neither do a column behind the end of the line and a line behind
the end of the text. -/
theorem positions_correspond_to_offsets_around_a_pair :
    ∃ t : Text, t = ['é', Char.ofNat 0x1D11E, '\n', 'v'] ∧ unitLength t < 0x100000000 ∧
      (∃ p, positionOfOffset? t 6 = some p ∧ offset t p = 6) ∧
      offset t ⟨0, 3⟩ ≤ offset t ⟨0, 9⟩ ∧ Names t ⟨0, 3⟩ ∧ ¬ Names t ⟨0, 2⟩ ∧
      ¬ Names t ⟨0, 9⟩ ∧ ¬ Names t ⟨2, 0⟩ := by
  let t : Text := ['é', Char.ofNat 0x1D11E, '\n', 'v']
  have small : unitLength t < 0x100000000 := by decide
  obtain ⟨hback, -, hmono, -, hnames⟩ := positions_correspond_to_offsets t small
  refine ⟨t, rfl, small, hback 6 ⟨['é', Char.ofNat 0x1D11E], ['\n', 'v'], rfl, by decide⟩,
    hmono _ _ (by decide), (hnames _).mp (by decide), ?_, ?_, ?_⟩
  · exact fun h => absurd ((hnames _).mpr h) (by decide)
  · exact fun h => absurd ((hnames _).mpr h) (by decide)
  · exact fun h => absurd ((hnames _).mpr h) (by decide)

end Text

end LobsterServer
