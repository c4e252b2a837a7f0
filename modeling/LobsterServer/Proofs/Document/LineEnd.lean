import LobsterServer.Document.Basic
import LobsterServer.Proofs.Text.Correspondence

set_option autoImplicit false

/-!
# Columns behind the end of a line

A line may end in carriage returns in front of its line feed.  The range of the line stops in front
of them.  A column behind that range does not: it counts the carriage returns like any other
character and is clamped in front of the line feed only.  The main statement says where such a
column leads, and what a change that ends there leaves of the end of the line: always the line
feed, and of the carriage returns as many as the column does not reach.
-/

namespace LobsterServer

namespace Text

/-! ## Carriage returns at the end of a line -/

/-- The number of carriage returns at the end of a line. -/
def returns (line : Text) : Nat := line.length - (body line).length

/-- A line is its body and the carriage returns behind it. -/
theorem eq_body_append (line : Text) : line = body line ++ List.replicate (returns line) '\r' := by
  obtain ⟨rest, hline, hall⟩ : ∃ rest, line = body line ++ rest ∧
      ∀ c ∈ rest, decide (c = '\r') = true := dropEndWhile_append (· = '\r') line
  have hrest : rest = List.replicate rest.length '\r' :=
    List.eq_replicate_of_mem fun c hc => of_decide_eq_true (hall c hc)
  have hreturns : returns line = rest.length := by
    have hlength := congrArg List.length hline
    rw [List.length_append] at hlength
    rw [returns]
    omega
  rw [hreturns, ← hrest]
  exact hline

@[simp] theorem unitLength_replicate_return (n : Nat) :
    unitLength (List.replicate n '\r') = n := by
  induction n with
  | zero => rfl
  | succ n ih =>
    rw [List.replicate_succ, unitLength_cons, ih]
    exact Nat.add_comm 1 n

@[simp] theorem byteLength_replicate_return (n : Nat) :
    byteLength (List.replicate n '\r') = n := by
  induction n with
  | zero => rfl
  | succ n ih =>
    rw [List.replicate_succ, byteLength_cons, ih]
    exact Nat.add_comm 1 n

namespace IsLine

variable {t above line below : Text} {n : Nat}

/-- A column behind the body of a line leads past the carriage returns that it counts. -/
theorem index_behind_body (h : IsLine t n above line below) (small : unitLength t < 0x100000000)
    {column : UInt32} (behind : unitLength (body line) ≤ column.toNat) :
    index t ⟨UInt32.ofNat (n - 1), column⟩ =
      above.length + (body line).length +
        min (column.toNat - unitLength (body line)) (returns line) := by
  have hline := eq_body_append line
  have hunits := congrArg unitLength hline
  have hlength := congrArg List.length hline
  rw [unitLength_append, unitLength_replicate_return] at hunits
  rw [List.length_append, List.length_replicate] at hlength
  by_cases hwithin : column.toNat ≤ unitLength line
  · -- the column names a place between two carriage returns
    obtain ⟨k, hk⟩ := Nat.exists_eq_add_of_le behind
    have hsplit : List.replicate (returns line) '\r' =
        List.replicate k '\r' ++ List.replicate (returns line - k) '\r' := by
      rw [List.replicate_append_replicate]
      congr 1
      omega
    have hfront : line = (body line ++ List.replicate k '\r') ++
        List.replicate (returns line - k) '\r' := by
      rw [List.append_assoc, ← hsplit]
      exact hline
    have hcolumn : UInt32.ofNat (unitLength (body line ++ List.replicate k '\r')) = column := by
      rw [unitLength_append, unitLength_replicate_return, ← hk, UInt32.ofNat_toNat]
    have hindex := h.index_column small hfront
    rw [hcolumn, List.length_append, List.length_replicate] at hindex
    rw [hindex]
    omega
  · rw [h.index_behind small (by omega)]
    omega

/-- The end of the range of a line leads behind its body. -/
theorem index_end_lineRange (h : IsLine t n above line below)
    (small : unitLength t < 0x100000000) :
    index t (t.lineRange (UInt32.ofNat (n - 1))).end = above.length + (body line).length := by
  rw [h.lineRange_eq small]
  exact h.index_column small (eq_body_append line)

/-- The column at the end of the range of a line counts its body. -/
theorem toNat_end_lineRange (h : IsLine t n above line below)
    (small : unitLength t < 0x100000000) :
    (t.lineRange (UInt32.ofNat (n - 1))).end.character.toNat = unitLength (body line) := by
  have hline := congrArg unitLength (eq_body_append line)
  have hwhole := congrArg unitLength h.split
  rw [unitLength_append] at hline
  rw [unitLength_append, unitLength_append] at hwhole
  rw [h.lineRange_eq small, UInt32.toNat_ofNat']
  omega

/-- What stands behind a place at the end of a line, up to the line feed. -/
theorem drop_end (h : IsLine t n above line below) {k : Nat} (hk : k ≤ returns line) :
    t.drop (above.length + (body line).length + k) =
      List.replicate (returns line - k) '\r' ++ below := by
  have hsplit : List.replicate (returns line) '\r' =
      List.replicate k '\r' ++ List.replicate (returns line - k) '\r' := by
    rw [List.replicate_append_replicate, Nat.add_sub_cancel' hk]
  have hwhole : t = (above ++ body line ++ List.replicate k '\r') ++
      (List.replicate (returns line - k) '\r' ++ below) := by
    rw [h.split]
    conv_lhs => rw [eq_body_append line, hsplit]
    simp only [List.append_assoc]
  have hlength : (above ++ body line ++ List.replicate k '\r').length =
      above.length + (body line).length + k := by
    rw [List.length_append, List.length_append, List.length_replicate]
  conv_lhs => rw [hwhole]
  exact List.drop_left' hlength

end IsLine

end Text

namespace Document

open Text

/-- A column that lies behind the text of a line leads past the carriage returns that it counts, and
no further than to the line feed.  So it leads to the end of the range of the line only if it is the
column at that end, or if the line has no carriage returns at its end; and a change that ends there
keeps the line feed, and the carriage returns that the column does not count. -/
theorem change_behind_line {t above line below : Text} {l column : UInt32}
    (isLine : IsLine t (l.toNat + 1) above line below) (small : unitLength t < 0x100000000)
    (behind : (t.lineRange l).end.character ≤ column) :
    let counted := column.toNat - (t.lineRange l).end.character.toNat
    offset t ⟨l, column⟩ = offset t (t.lineRange l).end + min counted (returns line) ∧
    (offset t ⟨l, column⟩ = offset t (t.lineRange l).end ↔
      column = (t.lineRange l).end.character ∨ returns line = 0) ∧
    ∀ start new, start ≤ ⟨l, column⟩ →
      applyChange t ⟨some ⟨start, ⟨l, column⟩⟩, new⟩ =
        t.take (index t start) ++ new ++
          (List.replicate (returns line - counted) '\r' ++ below) := by
  intro counted
  have hl : UInt32.ofNat (l.toNat + 1 - 1) = l := UInt32.ofNat_toNat
  have hend := isLine.index_end_lineRange small
  have hcolumn := isLine.toNat_end_lineRange small
  rw [hl] at hend hcolumn
  have hbehind : unitLength (body line) ≤ column.toNat := by
    rw [← hcolumn]
    exact UInt32.le_iff_toNat_le.mp behind
  have hindex := isLine.index_behind_body small hbehind
  rw [hl, ← hcolumn] at hindex
  have hoffset : offset t ⟨l, column⟩ =
      offset t (t.lineRange l).end + min counted (returns line) := by
    have hdrop := isLine.drop_end (Nat.zero_le (returns line))
    rw [Nat.add_zero, Nat.sub_zero] at hdrop
    have htake : (List.replicate (returns line) '\r' ++ below).take (min counted (returns line)) =
        List.replicate (min counted (returns line)) '\r' := by
      have hlength : min counted (returns line) ≤ (List.replicate (returns line) '\r').length := by
        rw [List.length_replicate]
        exact Nat.min_le_right _ _
      rw [List.take_append_of_le_length hlength, List.take_replicate, Nat.min_assoc, Nat.min_self]
    rw [offset, offset, hindex, hend, List.take_add, byteLength_append, hdrop, htake,
      byteLength_replicate_return]
  refine ⟨hoffset, ?_, fun start new hle => ?_⟩
  · rw [hoffset, Nat.add_eq_left, Nat.min_eq_zero_iff, ← UInt32.toNat_inj]
    refine or_congr_left ⟨fun hcounted => ?_, fun hsame => ?_⟩
    · exact Nat.le_antisymm (Nat.sub_eq_zero_iff_le.mp hcounted) (UInt32.le_iff_toNat_le.mp behind)
    · exact Nat.sub_eq_zero_of_le (Nat.le_of_eq hsame)
  · have hmax : Nat.max (index t ⟨l, column⟩) (index t start) = index t ⟨l, column⟩ :=
      Nat.max_eq_left (index_mono t hle)
    have hdrop := isLine.drop_end (Nat.min_le_right counted (returns line))
    have hleft : returns line - min counted (returns line) = returns line - counted := by omega
    rw [hleft, ← hindex] at hdrop
    simp only [applyChange, splice, span, hmax, hdrop]

/-- The line of the clef ends in two carriage returns.  Column 3 counts one of them, and a change
that ends there leaves the other one. -/
theorem change_behind_line_between_returns :
    ∃ t above line below : Text, t = 'x' :: '\n' :: Char.ofNat 0x1D11E :: "\r\r\ny".toList ∧
      IsLine t ((1 : UInt32).toNat + 1) above line below ∧ unitLength t < 0x100000000 ∧
      (t.lineRange 1).end = ⟨1, 2⟩ ∧ offset t ⟨1, 2⟩ = 6 ∧ offset t ⟨1, 3⟩ = 6 + min 1 2 ∧
      applyChange t ⟨some ⟨⟨0, 1⟩, ⟨1, 3⟩⟩, ['v']⟩ = "xv\r\ny".toList := by
  let t : Text := 'x' :: '\n' :: Char.ofNat 0x1D11E :: "\r\r\ny".toList
  have isLine : IsLine t ((1 : UInt32).toNat + 1) ['x', '\n'] [Char.ofNat 0x1D11E, '\r', '\r']
      ['\n', 'y'] := ⟨rfl, rfl, .inr ⟨['x'], rfl⟩, by decide, .inr ⟨['y'], rfl⟩⟩
  have small : unitLength t < 0x100000000 := by decide
  have hend : (t.lineRange 1).end = ⟨1, 2⟩ := by decide
  have hplace : offset t ⟨1, 2⟩ = 6 := by decide
  have hreturns : returns [Char.ofNat 0x1D11E, '\r', '\r'] = 2 := by decide
  have behind : (t.lineRange 1).end.character ≤ 3 := by decide
  obtain ⟨hoffset, -, hchange⟩ := change_behind_line isLine small behind
  have hsplice := hchange ⟨0, 1⟩ ['v'] (by decide)
  simp only [hend, hplace, hreturns] at hoffset hsplice
  exact ⟨t, _, _, _, rfl, isLine, small, hend, hplace, hoffset, hsplice⟩

/-- A column far behind the only character of a line leads behind the carriage return, not to the
end of the range of the line, and a change that ends there takes the carriage return away. -/
theorem return_lost_behind_line :
    ∃ t above line below : Text, t = "a\r\nb".toList ∧ IsLine t 1 above line below ∧
      (t.lineRange 0).end.character ≤ 9 ∧ offset t (t.lineRange 0).end = 1 ∧
      offset t ⟨0, 9⟩ = 2 ∧ applyChange t ⟨some ⟨⟨0, 0⟩, ⟨0, 9⟩⟩, ['z']⟩ = "z\nb".toList :=
  ⟨_, [], ['a', '\r'], ['\n', 'b'], rfl, ⟨rfl, rfl, .inl rfl, by decide, .inr ⟨['b'], rfl⟩⟩,
    by decide, by decide, by decide, by decide⟩

end Document

end LobsterServer
