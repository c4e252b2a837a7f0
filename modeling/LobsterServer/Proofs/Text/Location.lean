import Mathlib.Data.List.Induction
import Mathlib.Data.List.TakeWhile
import LobsterServer.Proofs.Text.Place

set_option autoImplicit false

/-!
# Positions of places

The position of a place is found by counting the lines in front of it and the units behind the last
of them; the index of a position is found by passing as many lines and units.  So in a text of
fewer than `2 ^ 32` units, where no count overflows, every place is found again by its position.
The same holds for the range of a line: it covers the line, but for the carriage returns at its
end.
-/

namespace LobsterServer.Text

/-! ## Counts -/

theorem one_le_charUnits (c : Char) : 1 ≤ charUnits c := by
  unfold charUnits
  split <;> omega

/-- A text has no more characters than units. -/
theorem length_le_unitLength (t : Text) : t.length ≤ unitLength t := by
  induction t with
  | nil => exact Nat.le_refl 0
  | cons c t ih =>
    have hc := one_le_charUnits c
    rw [List.length_cons, unitLength_cons]
    omega

/-- A text has no more lines than units. -/
theorem count_le_unitLength (c : Char) (t : Text) : t.count c ≤ unitLength t :=
  Nat.le_trans List.count_le_length (length_le_unitLength t)

/-! ## Lines in front of a place -/

/-- A text that ends where a line begins. -/
def Complete (front : Text) : Prop := front = [] ∨ ∃ lines, front = lines ++ ['\n']

theorem complete_snoc (front : Text) : Complete (front ++ ['\n']) := .inr ⟨front, rfl⟩

/-- What is left of lines when their first character is passed. -/
theorem Complete.tail {c : Char} {front : Text} (h : Complete (c :: front)) : Complete front := by
  rcases h with hnil | ⟨lines, hlines⟩
  · cases hnil
  · cases lines with
    | nil => exact .inl (List.cons.inj hlines).2
    | cons d lines => exact .inr ⟨lines, (List.cons.inj hlines).2⟩

/-- A line that is not empty has an end. -/
theorem Complete.count_pos {c : Char} {front : Text} (h : Complete (c :: front)) :
    0 < (c :: front).count '\n' := by
  rcases h with hnil | ⟨lines, hlines⟩
  · cases hnil
  · rw [hlines]
    simp

/-- Every text consists of complete lines and one that has no end. -/
theorem exists_complete (t : Text) : ∃ front tail, t = front ++ tail ∧ Complete front ∧
    '\n' ∉ tail := by
  induction t using List.reverseRecOn with
  | nil => exact ⟨[], [], rfl, .inl rfl, List.not_mem_nil⟩
  | append_singleton t c ih =>
    obtain ⟨front, tail, rfl, hfront, htail⟩ := ih
    by_cases hc : c = '\n'
    · subst hc
      exact ⟨_, [], (List.append_nil _).symm, complete_snoc _, List.not_mem_nil⟩
    · refine ⟨front, tail ++ [c], by simp, hfront, ?_⟩
      simpa [eq_comm] using ⟨htail, hc⟩

/-! ## From positions to indexes -/

/-- As many lines are passed as are in front. -/
theorem lineIndex_append {front : Text} (h : Complete front) (column : UInt32) (rest : Text) :
    lineIndex column (front.count '\n') (front ++ rest) =
      front.length + columnIndex column 0 rest := by
  induction front with
  | nil => simp [lineIndex]
  | cons c front ih =>
    by_cases hc : c = '\n'
    · subst hc
      rw [List.count_cons_self, List.cons_append, lineIndex, if_pos rfl, ih h.tail,
        List.length_cons]
      omega
    · have hcount : (c :: front).count '\n' = front.count '\n' :=
        List.count_cons_of_ne hc
      obtain ⟨lines, hlines⟩ := Nat.exists_eq_add_one_of_ne_zero (Nat.ne_of_gt h.count_pos)
      rw [hlines, List.cons_append, lineIndex, if_neg hc, ← hlines, hcount, ih h.tail,
        List.length_cons]
      omega

/-- What is in front on a line is passed by every column that counts no less. -/
theorem columnIndex_pass {tail : Text} (hline : '\n' ∉ tail) (rest : Text) {column : UInt32} :
    ∀ {passed : UInt32}, passed.toNat + unitLength tail ≤ column.toNat →
      columnIndex column passed (tail ++ rest) =
        tail.length + columnIndex column (passed + UInt32.ofNat (unitLength tail)) rest := by
  induction tail with
  | nil =>
    intro passed _
    simp
  | cons c tail ih =>
    intro passed hcolumn
    have hc : c ≠ '\n' := fun hsame => hline (hsame ▸ List.mem_cons_self)
    have hunits := one_le_charUnits c
    have hlt := column.toNat_lt
    rw [unitLength_cons] at hcolumn
    have hnotReached : ¬ column ≤ passed := by
      rw [UInt32.le_iff_toNat_le]
      omega
    have hpassed : (passed + UInt32.ofNat (charUnits c)).toNat = passed.toNat + charUnits c := by
      rw [UInt32.toNat_add, UInt32.toNat_ofNat']
      omega
    rw [List.cons_append, columnIndex, if_neg (by simp [hc, hnotReached]),
      ih (fun hmem => hline (List.mem_cons_of_mem c hmem)) (by omega), List.length_cons,
      unitLength_cons, UInt32.ofNat_add, UInt32.add_assoc]
    omega

/-- As many units are passed as are in front on the line. -/
theorem columnIndex_append {tail : Text} (hline : '\n' ∉ tail) (rest : Text)
    {column passed : UInt32} (hcolumn : column.toNat = passed.toNat + unitLength tail) :
    columnIndex column passed (tail ++ rest) = tail.length := by
  have hreached : column ≤ passed + UInt32.ofNat (unitLength tail) := by
    have hlt := column.toNat_lt
    rw [UInt32.le_iff_toNat_le, UInt32.toNat_add, UInt32.toNat_ofNat']
    omega
  rw [columnIndex_pass hline rest (Nat.le_of_eq hcolumn.symm)]
  cases rest with
  | nil => rfl
  | cons c rest => simp [columnIndex, hreached]

/-- The index of a position with as many lines and units in front as the place has. -/
theorem index_append {front tail : Text} (hfront : Complete front) (htail : '\n' ∉ tail)
    (rest : Text) {p : Position} (hline : p.line.toNat = front.count '\n')
    (hcharacter : p.character.toNat = unitLength tail) :
    index (front ++ tail ++ rest) p = front.length + tail.length := by
  rw [index, hline, List.append_assoc, lineIndex_append hfront, columnIndex_append htail]
  simpa using hcharacter

/-! ## From indexes to positions -/

theorem foldl_advance_of_oneLine {tail : Text} (h : '\n' ∉ tail) : ∀ p : Position,
    tail.foldl Position.advance p =
      ⟨p.line, p.character + UInt32.ofNat (unitLength tail)⟩ := by
  induction tail with
  | nil =>
    intro p
    simp
  | cons c tail ih =>
    intro p
    have hc : c ≠ '\n' := fun hsame => h (hsame ▸ List.mem_cons_self)
    rw [List.foldl_cons, ih fun hmem => h (List.mem_cons_of_mem c hmem), Position.advance,
      if_neg hc, unitLength_cons, UInt32.ofNat_add]
    simp only [UInt32.add_assoc]

theorem line_foldl_advance (t : Text) : ∀ p : Position,
    (t.foldl Position.advance p).line = p.line + UInt32.ofNat (t.count '\n') := by
  induction t with
  | nil =>
    intro p
    simp
  | cons c t ih =>
    intro p
    rw [List.foldl_cons, ih, Position.advance]
    by_cases hc : c = '\n'
    · subst hc
      rw [if_pos rfl, List.count_cons_self, Nat.add_comm, UInt32.ofNat_add]
      simp only [UInt32.add_assoc]
      rfl
    · rw [if_neg hc, List.count_cons_of_ne hc]

/-- The position at the end of lines and of one that has no end. -/
theorem endPosition_append {front tail : Text} (hfront : Complete front) (htail : '\n' ∉ tail) :
    endPosition (front ++ tail) =
      ⟨UInt32.ofNat (front.count '\n'), UInt32.ofNat (unitLength tail)⟩ := by
  have hlines : endPosition front = ⟨UInt32.ofNat (front.count '\n'), 0⟩ := by
    have hline : (endPosition front).line = UInt32.ofNat (front.count '\n') := by
      rw [endPosition, line_foldl_advance]
      exact UInt32.zero_add _
    have hcharacter : (endPosition front).character = 0 := by
      rcases hfront with rfl | ⟨lines, rfl⟩
      · rfl
      · simp [endPosition, Position.advance]
    rw [← hline, ← hcharacter]
  rw [endPosition, List.foldl_append, ← endPosition, hlines, foldl_advance_of_oneLine htail]
  simp

/-- In a text of fewer than `2 ^ 32` units every place is found again by its position. -/
theorem index_position {t : Text} (small : unitLength t < 0x100000000) {i : Nat}
    (h : i ≤ t.length) : index t (position t i) = i := by
  obtain ⟨front, tail, hsplit, hfront, htail⟩ := exists_complete (t.take i)
  have hlength : front.length + tail.length = i := by
    rw [← List.length_append, ← hsplit, List.length_take, Nat.min_eq_left h]
  have hwhole : t = front ++ tail ++ t.drop i := by rw [← hsplit, List.take_append_drop]
  have hunits : unitLength t =
      unitLength front + unitLength tail + unitLength (t.drop i) := by
    rw [← unitLength_append, ← unitLength_append, ← hwhole]
  have hcount := count_le_unitLength '\n' front
  have hindex := index_append hfront htail (t.drop i)
    (p := ⟨UInt32.ofNat (front.count '\n'), UInt32.ofNat (unitLength tail)⟩)
    (by rw [UInt32.toNat_ofNat']; omega) (by rw [UInt32.toNat_ofNat']; omega)
  rw [position, hsplit, endPosition_append hfront htail, ← hlength, ← hindex, ← hwhole]

/-! ## Lines -/

/-- What is dropped from the end of a text satisfies the predicate. -/
theorem dropEndWhile_append (p : Char → Bool) (t : Text) :
    ∃ rest, t = dropEndWhile p t ++ rest ∧ ∀ c ∈ rest, p c = true := by
  refine ⟨(t.reverse.takeWhile p).reverse, ?_, ?_⟩
  · rw [dropEndWhile, ← List.reverse_append, List.takeWhile_append_dropWhile, List.reverse_reverse]
  · intro c hc
    exact List.mem_takeWhile_imp (List.mem_reverse.mp hc)

/-- Line `n` of a text, counted from one, is `line`; it stands between `above` and `below`. -/
structure IsLine (t : Text) (n : Nat) (above line below : Text) : Prop where
  split : t = above ++ line ++ below
  number : n = above.count '\n' + 1
  above_complete : Complete above
  oneLine : '\n' ∉ line
  below_starts : below = [] ∨ ∃ rest, below = '\n' :: rest

/-- A line without the carriage returns at its end. -/
def body (line : Text) : Text := dropEndWhile (· = '\r') line

namespace IsLine

variable {t above line below : Text} {n : Nat}

/-- The number of a line, counted from zero, does not overflow. -/
theorem toNat_number (h : IsLine t n above line below) (small : unitLength t < 0x100000000) :
    (UInt32.ofNat (n - 1)).toNat = above.count '\n' := by
  have hcount := count_le_unitLength '\n' above
  have hnumber := h.number
  rw [h.split, unitLength_append, unitLength_append] at small
  rw [UInt32.toNat_ofNat']
  omega

/-- The number of a line with something on it is no more than the units of the text. -/
theorem number_le (h : IsLine t n above line below) (hne : line ≠ []) : n ≤ unitLength t := by
  have hcount := count_le_unitLength '\n' above
  have hline := length_le_unitLength line
  have hpos := List.length_pos_iff.mpr hne
  rw [h.number, h.split, unitLength_append, unitLength_append]
  omega

/-- A column on a line leads to as many units behind its start. -/
theorem index_column (h : IsLine t n above line below) (small : unitLength t < 0x100000000)
    {front rest : Text} (hline : line = front ++ rest) :
    index t ⟨UInt32.ofNat (n - 1), UInt32.ofNat (unitLength front)⟩ =
      above.length + front.length := by
  have hfront : '\n' ∉ front := fun hmem =>
    h.oneLine (hline ▸ List.mem_append_left rest hmem)
  have hwhole : t = above ++ front ++ (rest ++ below) := by
    rw [h.split, hline]
    simp
  have hcolumn : (UInt32.ofNat (unitLength front)).toNat = unitLength front := by
    rw [hwhole, unitLength_append, unitLength_append] at small
    rw [UInt32.toNat_ofNat']
    omega
  have hindex := index_append h.above_complete hfront (rest ++ below)
    (p := ⟨UInt32.ofNat (n - 1), UInt32.ofNat (unitLength front)⟩) (h.toNat_number small) hcolumn
  rwa [← hwhole] at hindex

/-- The first column of a line leads to its start. -/
theorem index_start (h : IsLine t n above line below) (small : unitLength t < 0x100000000) :
    index t ⟨UInt32.ofNat (n - 1), 0⟩ = above.length :=
  h.index_column small (List.nil_append line).symm

/-- A column behind the end of a line leads to the end of the line, in front of its line feed. -/
theorem index_behind (h : IsLine t n above line below) (small : unitLength t < 0x100000000)
    {column : UInt32} (behind : unitLength line ≤ column.toNat) :
    index t ⟨UInt32.ofNat (n - 1), column⟩ = above.length + line.length := by
  have hstop : columnIndex column (0 + UInt32.ofNat (unitLength line)) below = 0 := by
    rcases h.below_starts with rfl | ⟨rest, rfl⟩
    · rfl
    · simp [columnIndex]
  rw [index, h.toNat_number small, h.split, List.append_assoc, lineIndex_append h.above_complete,
    columnIndex_pass h.oneLine below (by simpa using behind), hstop, Nat.add_zero]

/-- A line is what lies behind its start up to the next line feed. -/
theorem takeWhile_drop (h : IsLine t n above line below) :
    (t.drop above.length).takeWhile (· ≠ '\n') = line := by
  have hline : ∀ c ∈ line, decide (c ≠ '\n') = true := fun c hc =>
    decide_eq_true fun hsame => h.oneLine (hsame ▸ hc)
  rw [h.split, List.append_assoc, List.drop_left, List.takeWhile_append_of_pos hline]
  rcases h.below_starts with rfl | ⟨rest, rfl⟩
  · exact List.append_nil line
  · exact List.append_nil line

/-- The range of a line goes from its start over all but the carriage returns at its end. -/
theorem lineRange_eq (h : IsLine t n above line below) (small : unitLength t < 0x100000000) :
    t.lineRange (UInt32.ofNat (n - 1)) =
      ⟨⟨UInt32.ofNat (n - 1), 0⟩,
        ⟨UInt32.ofNat (n - 1), UInt32.ofNat (unitLength (body line))⟩⟩ := by
  have hfirst : position t above.length = ⟨UInt32.ofNat (n - 1), 0⟩ := by
    have hend : endPosition (above ++ []) = _ :=
      endPosition_append h.above_complete List.not_mem_nil
    have htake : t.take above.length = above := by
      rw [h.split, List.append_assoc, List.take_left]
    rw [List.append_nil] at hend
    rw [position, htake, hend, h.number]
    rfl
  simp only [lineRange, h.index_start small, hfirst, h.takeWhile_drop, UInt32.zero_add]
  rfl

/-- The text in the range of a line is the line without the carriage returns at its end. -/
theorem slice_lineRange (h : IsLine t n above line below) (small : unitLength t < 0x100000000) :
    t.slice (t.lineRange (UInt32.ofNat (n - 1))) = body line := by
  obtain ⟨returns, hline, -⟩ : ∃ returns, line = body line ++ returns ∧ _ :=
    dropEndWhile_append (· = '\r') line
  have hstop := h.index_column small hline
  have hbehind : t.drop above.length = body line ++ (returns ++ below) := by
    rw [h.split, List.append_assoc, List.drop_left, ← List.append_assoc, ← hline]
  have hmax : Nat.max (above.length + (body line).length) above.length =
      above.length + (body line).length := Nat.max_eq_left (Nat.le_add_right _ _)
  simp only [h.lineRange_eq small, slice, span, h.index_start small, hstop, hmax]
  rw [List.drop_take, hbehind, Nat.add_sub_cancel_left, List.take_left]

end IsLine

end LobsterServer.Text
