import LobsterServer.Proofs.Text.Correspondence
import LobsterServer.Proofs.Text.Occurrence
import LobsterServer.QuickFix

set_option autoImplicit false

/-!
# Making a variable constant

The quick fix for a line replaces the first `var` of that line with `let`, wherever the line stands
and whatever characters stand in front of the keyword.  The edit names its place by positions; when
it comes back to the server these lead to the same place.
-/

namespace LobsterServer

open Text (FirstOccurrence IsLine unitLength)

/-- Replacing the range between two places replaces what is between them. -/
theorem Text.splice_positions {t front removed back : Text} (small : unitLength t < 0x100000000)
    (split : t = front ++ removed ++ back) (new : Text) :
    t.splice ⟨t.position front.length, t.position (front.length + removed.length)⟩ new =
      front ++ new ++ back := by
  have hlength : front.length + removed.length + back.length = t.length := by
    rw [split, List.length_append, List.length_append]
  have hstart := index_position small (i := front.length) (by omega)
  have hstop := index_position small (i := front.length + removed.length) (by omega)
  have hmax : Nat.max (front.length + removed.length) front.length =
      front.length + removed.length := Nat.max_eq_left (Nat.le_add_right _ _)
  have htake : t.take front.length = front := by
    rw [split, List.append_assoc, List.take_left]
  have hdrop : t.drop (front.length + removed.length) = back := by
    rw [split, ← List.length_append, List.drop_left]
  simp only [splice, span, hstart, hstop, hmax, htake, hdrop]

/-- The text that a range covers stands behind the place that its start leads to. -/
theorem Text.exists_append_slice (t : Text) (r : Range) :
    ∃ back, t = t.take (t.index r.start) ++ t.slice r ++ back := by
  refine ⟨t.drop (t.span r).2, ?_⟩
  have hslice : t.take (t.index r.start) ++ t.slice r = t.take (t.span r).2 :=
    take_append_drop_take t (Nat.le_max_right _ _)
  rw [hslice, List.take_append_drop]

namespace QuickFix

variable {t above line below : Text} {n : Nat} {r : Range}

/-- Where no `var` occurs in a range, there is no edit. -/
theorem variableToConstant_eq_none (h : ¬ "var".toList <:+: t.slice r) :
    variableToConstant t r = none := by
  have hnone : Text.find? variableKeyword (t.slice r) = none := by
    rw [Option.eq_none_iff_forall_ne_some]
    intro i hfound
    obtain ⟨before, after, hfirst, -⟩ := Text.firstOccurrence_of_find? hfound
    exact h ⟨before, after, hfirst.split.symm⟩
  simp only [variableToConstant, hnone, Option.map_none]

/-- Where a `var` occurs in a range, there is one edit: made in the text, it replaces the first
`var` of the range. -/
theorem exists_variableToConstant (small : unitLength t < 0x100000000)
    (occurs : "var".toList <:+: t.slice r) :
    ∃ edit before after back, FirstOccurrence "var".toList (t.slice r) before after ∧
      t = t.take (t.index r.start) ++ t.slice r ++ back ∧
      variableToConstant t r = some [edit] ∧
      t.splice edit.range edit.newText =
        t.take (t.index r.start) ++ (before ++ "let".toList ++ after) ++ back := by
  obtain ⟨i, hfound⟩ := Text.exists_find? occurs
  obtain ⟨before, after, hfirst, rfl⟩ := Text.firstOccurrence_of_find? hfound
  obtain ⟨back, hback⟩ := t.exists_append_slice r
  have hsplit : t = (t.take (t.index r.start) ++ before) ++ "var".toList ++ (after ++ back) := by
    rw [hfirst.split] at hback
    simpa using hback
  have hstart : (t.take (t.index r.start)).length = t.index r.start :=
    List.length_take_of_le (Text.index_le_length t r.start)
  have hspliced := Text.splice_positions small hsplit "let".toList
  rw [List.length_append, hstart] at hspliced
  let place := t.index r.start + before.length
  refine ⟨⟨⟨t.position place, t.position (place + "var".toList.length)⟩, "let".toList⟩, before,
    after, back, hfirst, hback, ?_, ?_⟩
  · simp only [variableToConstant]
    rw [show variableKeyword = "var".toList from rfl, hfound]
    rfl
  · rw [hspliced]
    simp

/-- The edit of a line that has a `var` in front of its carriage returns: made in the text, it
replaces the first `var` of the line. -/
theorem variableToConstant_line (h : IsLine t n above line below)
    (small : unitLength t < 0x100000000) (occurs : "var".toList <:+: Text.body line) :
    ∃ edit before after, FirstOccurrence "var".toList line before after ∧
      variableToConstant t (t.lineRange (UInt32.ofNat (n - 1))) = some [edit] ∧
      t.splice edit.range edit.newText = above ++ (before ++ "let".toList ++ after) ++ below := by
  have hslice := h.slice_lineRange small
  rw [← hslice] at occurs
  obtain ⟨edit, before, after, back, hfirst, hback, hedit, hspliced⟩ :=
    exists_variableToConstant small occurs
  obtain ⟨returns, hline, -⟩ : ∃ returns, line = Text.body line ++ returns ∧ _ :=
    Text.dropEndWhile_append (· = '\r') line
  have habove : t.take (t.index (t.lineRange (UInt32.ofNat (n - 1))).start) = above := by
    rw [h.lineRange_eq small, h.index_start small, h.split, List.append_assoc, List.take_left]
  rw [hslice] at hfirst hback
  rw [habove] at hback hspliced
  -- behind the range are the carriage returns and the lines below
  have hbelow : back = returns ++ below := by
    have hwhole := h.split
    rw [hline, ← List.append_assoc, List.append_assoc _ returns, hback] at hwhole
    exact List.append_cancel_left hwhole
  refine ⟨edit, before, after ++ returns, ?_, hedit, ?_⟩
  · rw [hline]
    exact hfirst.append returns
  · rw [hspliced, hbelow]
    simp

end QuickFix

/-- The edits of an action that come back as changes make the text that the action leads to. -/
theorem Document.text_applyChanges_of_action (d : Document) (a : CodeAction) (version : Int) :
    (d.applyChanges (a.edits.map fun edit => ⟨some edit.range, edit.newText⟩) version).text =
      a.applyTo d.text := by
  rw [applyChanges, List.foldl_map]
  rfl

end LobsterServer
