import LobsterServer.Proofs.Text.Correspondence
import LobsterServer.Proofs.Text.Pieces

set_option autoImplicit false

/-!
# Lines and their ranges

The lines of a text are its pieces between line feeds.  The range of a line is found by passing the
lines above it, and its end by counting units up to the line feed.  The main statement says that the
range cuts out the piece, but for the carriage returns at its end, and that its ends are where that
many bytes lie in front of them.  A number without a line leads to the end of the text.
-/

namespace LobsterServer.Text

variable {t above line below piece : Text} {n l : Nat}

/-! ## Pieces are lines -/

/-- What stands above a line, counted from zero: the lines in front of it with their line feeds. -/
def linesAbove (t : Text) (l : Nat) : Text :=
  ((splitOn '\n' t).take l).flatMap (· ++ ['\n'])

/-- A piece between line feeds is a line of the text. -/
theorem isLine_of_piece (h : (splitOn '\n' t)[l]? = some piece) :
    ∃ below, IsLine t (l + 1) (linesAbove t l) piece below := by
  induction l generalizing t with
  | zero =>
    by_cases hmem : '\n' ∈ t
    · obtain ⟨first, rest, rfl, hfirst⟩ := List.eq_append_cons_of_mem hmem
      rw [splitOn_append_cons, splitOn_of_notMem hfirst] at h
      cases h
      exact ⟨'\n' :: rest, rfl, rfl, .inl rfl, hfirst, .inr ⟨rest, rfl⟩⟩
    · rw [splitOn_of_notMem hmem] at h
      cases h
      exact ⟨[], (List.append_nil _).symm, rfl, .inl rfl, hmem, .inl rfl⟩
  | succ l ih =>
    by_cases hmem : '\n' ∈ t
    · obtain ⟨first, rest, rfl, hfirst⟩ := List.eq_append_cons_of_mem hmem
      have hpieces : splitOn '\n' (first ++ '\n' :: rest) = first :: splitOn '\n' rest := by
        rw [splitOn_append_cons, splitOn_of_notMem hfirst, List.singleton_append]
      have habove : linesAbove (first ++ '\n' :: rest) (l + 1) =
          first ++ '\n' :: linesAbove rest l := by
        simp [linesAbove, hpieces]
      rw [hpieces, List.getElem?_cons_succ] at h
      obtain ⟨below, hline⟩ := ih h
      refine ⟨below, ?_, ?_, ?_, hline.oneLine, hline.below_starts⟩
      · rw [habove]
        conv_lhs => rw [hline.split]
        simp
      · have hnumber := hline.number
        rw [habove, List.count_append, List.count_eq_zero.mpr hfirst, List.count_cons_self]
        omega
      · rw [habove]
        rcases hline.above_complete with hnil | ⟨lines, hlines⟩
        · rw [hnil]
          exact .inr ⟨first, rfl⟩
        · rw [hlines]
          exact .inr ⟨first ++ '\n' :: lines, by simp⟩
    · rw [splitOn_of_notMem hmem] at h
      cases h

/-- The number of a line does not overflow. -/
theorem toNat_of_piece (small : unitLength t < 0x100000000)
    (h : (splitOn '\n' t)[l]? = some piece) : (UInt32.ofNat l).toNat = l := by
  obtain ⟨below, hline⟩ := isLine_of_piece h
  have hcount : l = (linesAbove t l).count '\n' := Nat.add_one_inj.mp hline.number
  have hnumber := hline.toNat_number small
  rwa [← hcount, Nat.add_sub_cancel] at hnumber

/-! ## Places on a line -/

/-- The position and the byte offset belong to one place: each leads to the other. -/
def Agree (t : Text) (p : Position) (bytes : Nat) : Prop :=
  offset t p = bytes ∧ positionOfOffset? t bytes = some p

/-- A place on a line has the units in front of it on that line for its column, and the bytes of
the lines above and those in front of it on the line for its offset. -/
theorem IsLine.agree (h : IsLine t n above line below) (small : unitLength t < 0x100000000)
    {front rest : Text} (hline : line = front ++ rest) :
    Agree t ⟨UInt32.ofNat (n - 1), UInt32.ofNat (unitLength front)⟩
      (byteLength above + byteLength front) := by
  have hfront : '\n' ∉ front := fun hmem => h.oneLine (hline ▸ List.mem_append_left rest hmem)
  have htake : t.take (above.length + front.length) = above ++ front := by
    rw [h.split, hline, ← List.append_assoc, List.append_assoc, ← List.length_append]
    exact List.take_left
  have hoffset : offset t ⟨UInt32.ofNat (n - 1), UInt32.ofNat (unitLength front)⟩ =
      byteLength above + byteLength front := by
    rw [offset, h.index_column small hline, htake, byteLength_append]
  refine ⟨hoffset, ?_⟩
  rw [← hoffset, positionOfOffset?_offset, h.index_column small hline, position, htake,
    endPosition_append h.above_complete hfront, h.number, Nat.add_sub_cancel]

/-! ## Behind the last line -/

/-- A line that the text does not have leads to the end of the text. -/
theorem lineIndex_of_count_lt (column : UInt32) : ∀ {line : Nat}, t.count '\n' < line →
    lineIndex column line t = t.length := by
  induction t with
  | nil =>
    intro line hline
    obtain ⟨line, rfl⟩ := Nat.exists_eq_add_one_of_ne_zero (Nat.ne_zero_of_lt hline)
    rfl
  | cons c t ih =>
    intro line hline
    obtain ⟨line, rfl⟩ := Nat.exists_eq_add_one_of_ne_zero (Nat.ne_zero_of_lt hline)
    rw [lineIndex, List.length_cons]
    by_cases hc : c = '\n'
    · rw [hc, List.count_cons_self] at hline
      rw [if_pos hc, ih (Nat.lt_of_succ_lt_succ hline)]
    · rw [List.count_cons_of_ne hc] at hline
      rw [if_neg hc, ih hline]

theorem position_length (t : Text) : position t t.length = endPosition t := by
  rw [position, List.take_length]

/-- Its range is empty and lies at the end of the text. -/
theorem lineRange_of_length_le {l : UInt32} (h : (splitOn '\n' t).length ≤ l.toNat) :
    t.lineRange l = Range.point (endPosition t) := by
  have hindex : index t ⟨l, 0⟩ = t.length := by
    rw [length_splitOn] at h
    exact lineIndex_of_count_lt 0 h
  simp only [lineRange, hindex, List.drop_length, position_length]
  simp [dropEndWhile, Range.point]

/-- The end of the text has a position, which leads there. -/
theorem agree_endPosition (small : unitLength t < 0x100000000) :
    Agree t (endPosition t) (byteLength t) := by
  have hoffset := offset_position small (Nat.le_refl t.length)
  have hposition := positionOfOffset?_take (Nat.le_refl t.length)
  rw [List.take_length, position_length] at hoffset hposition
  exact ⟨hoffset, hposition⟩

/-! ## The ranges of all lines -/

/-- The range of a line cuts out the line.  In a text of fewer than `2 ^ 32` units the range of each
piece between line feeds starts in the first column of its line, the text in it is the piece without
the carriage returns at its end, and its ends, like the end of the whole piece, are where they have
to be by the bytes in front of them.  The range of any other line is empty and lies at the end of
the text. -/
theorem lineRange_cuts_out_line (t : Text) (small : unitLength t < 0x100000000) :
    (∀ l piece, (splitOn '\n' t)[l]? = some piece →
      let number := UInt32.ofNat l
      let start := byteLength (linesAbove t l)
      number.toNat = l ∧
      (∃ below, t = linesAbove t l ++ piece ++ below) ∧
      (t.lineRange number).start = ⟨number, 0⟩ ∧
      t.slice (t.lineRange number) = body piece ∧
      Agree t (t.lineRange number).start start ∧
      Agree t (t.lineRange number).end (start + byteLength (body piece)) ∧
      Agree t ⟨number, UInt32.ofNat (unitLength piece)⟩ (start + byteLength piece)) ∧
    ∀ number : UInt32, (splitOn '\n' t).length ≤ number.toNat →
      ∃ p, t.lineRange number = Range.point p ∧ Agree t p (byteLength t) := by
  refine ⟨fun l piece hpiece => ?_, fun number hnumber => ?_⟩
  · obtain ⟨below, hline⟩ := isLine_of_piece hpiece
    obtain ⟨returns, hbody, -⟩ : ∃ returns, piece = body piece ++ returns ∧ _ :=
      dropEndWhile_append (· = '\r') piece
    have hrange := hline.lineRange_eq small
    have hslice := hline.slice_lineRange small
    rw [Nat.add_sub_cancel] at hrange hslice
    refine ⟨toNat_of_piece small hpiece, ⟨below, hline.split⟩, ?_, hslice, ?_, ?_, ?_⟩
    · rw [hrange]
    · rw [hrange]
      exact hline.agree small (List.nil_append piece).symm
    · rw [hrange]
      exact hline.agree small hbody
    · exact hline.agree small (List.append_nil piece).symm
  · exact ⟨endPosition t, lineRange_of_length_le hnumber, agree_endPosition small⟩

/-- The first line ends in two carriage returns and a line feed, the second is empty, and the third
has a character of two units and no end. -/
theorem lineRange_cuts_out_line_behind_an_empty_one :
    ∃ t : Text, t = "é\r\r\n\n".toList ++ [Char.ofNat 0x1D11E, 'x', '\r'] ∧
      unitLength t < 0x100000000 ∧
      (splitOn '\n' t)[2]? = some [Char.ofNat 0x1D11E, 'x', '\r'] ∧
      t.slice (t.lineRange 0) = ['é'] ∧ t.slice (t.lineRange 1) = [] ∧
      t.slice (t.lineRange 2) = [Char.ofNat 0x1D11E, 'x'] ∧
      Agree t (t.lineRange 2).start 6 ∧ Agree t (t.lineRange 2).end (6 + 5) ∧
      ∃ p, t.lineRange 3 = Range.point p ∧ Agree t p 12 := by
  let t : Text := "é\r\r\n\n".toList ++ [Char.ofNat 0x1D11E, 'x', '\r']
  have small : unitLength t < 0x100000000 := by decide
  obtain ⟨hlines, hbehind⟩ := lineRange_cuts_out_line t small
  obtain ⟨-, -, -, hfirst, -⟩ := hlines 0 ['é', '\r', '\r'] (by decide)
  obtain ⟨-, -, -, hsecond, -⟩ := hlines 1 [] (by decide)
  have hpiece : (splitOn '\n' t)[2]? = some [Char.ofNat 0x1D11E, 'x', '\r'] := by decide
  obtain ⟨-, -, -, hthird, hstart, hend, -⟩ := hlines 2 _ hpiece
  exact ⟨t, rfl, small, hpiece, hfirst, hsecond, hthird, hstart, hend, hbehind 3 (by decide)⟩

end LobsterServer.Text
