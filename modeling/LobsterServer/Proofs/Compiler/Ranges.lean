import LobsterServer.Compiler.Findings
import LobsterServer.Proofs.Report.Passages
import LobsterServer.Proofs.Text.Decoding
import LobsterServer.Proofs.Text.Lines

set_option autoImplicit false

/-!
# Diagnostics lie in their document

The number in a report comes from outside: it may be zero, name a line that the document does not
have, be too large for 32 bits, or be written in digits of any script.  The main statement says that
whatever a compiler prints, every range that comes of it lies on one line of the document, with ends
that are positions of the document, and that it covers a whole line or nothing.
-/

namespace LobsterServer

namespace Text

/-- The ends of the range are positions of the text, on one line and in order. -/
structure Fits (t : Text) (r : Range) : Prop where
  oneLine : r.start.line = r.end.line
  ordered : r.start ≤ r.end
  start_exact : positionOfOffset? t (offset t r.start) = some r.start
  end_exact : positionOfOffset? t (offset t r.end) = some r.end

/-- The range covers a line of the text, without the carriage returns at its end, or it is empty and
lies at the front or at the end of the text. -/
inductive Covers (t : Text) : Range → Prop where
  | front : Covers t (Range.point ⟨0, 0⟩)
  | line {r : Range} {l : Nat} {piece : Text} (isPiece : (splitOn '\n' t)[l]? = some piece)
      (starts : r.start = ⟨UInt32.ofNat l, 0⟩) (covered : t.slice r = body piece) : Covers t r
  | back {p : Position} (ends : positionOfOffset? t (byteLength t) = some p) :
      Covers t (Range.point p)

variable {t : Text}

theorem Agree.exact {p : Position} {bytes : Nat} (h : Agree t p bytes) :
    positionOfOffset? t (offset t p) = some p := by
  rw [h.1]
  exact h.2

/-- An empty range at a position of the text fits it. -/
theorem fits_point {p : Position} (h : positionOfOffset? t (offset t p) = some p) :
    Fits t (Range.point p) :=
  ⟨rfl, .inr ⟨rfl, UInt32.le_refl _⟩, h, h⟩

/-- The first position is a position of every text. -/
theorem exact_origin (t : Text) : positionOfOffset? t (offset t .origin) = some .origin := by
  have hindex : index t .origin = 0 := by
    cases t with
    | nil => rfl
    | cons c t => exact if_pos (.inr (UInt32.le_refl 0))
  rw [positionOfOffset?_offset, hindex]
  rfl

/-- The range of a line fits the text, whether or not the text has this line. -/
theorem fits_lineRange (small : unitLength t < 0x100000000) (number : UInt32) :
    Fits t (t.lineRange number) ∧ Covers t (t.lineRange number) := by
  rcases Nat.lt_or_ge number.toNat (splitOn '\n' t).length with hlt | hge
  · have hpiece := List.getElem?_eq_getElem hlt
    obtain ⟨below, isLine⟩ := isLine_of_piece hpiece
    obtain ⟨returns, hbody, -⟩ := dropEndWhile_append (· = '\r') (splitOn '\n' t)[number.toNat]
    have hrange := isLine.lineRange_eq small
    have hslice := isLine.slice_lineRange small
    have hstart := (isLine.agree small (List.nil_append _).symm).exact
    have hend := (isLine.agree small hbody).exact
    rw [Nat.add_sub_cancel, UInt32.ofNat_toNat] at hrange hslice hstart hend
    refine ⟨?_, .line hpiece ?_ hslice⟩
    · rw [hrange]
      exact ⟨rfl, .inr ⟨rfl, UInt32.zero_le⟩, hstart, hend⟩
    · rw [hrange, UInt32.ofNat_toNat]
  · rw [lineRange_of_length_le hge]
    have hend := agree_endPosition small
    exact ⟨fits_point hend.exact, .back hend.2⟩

end Text

/-- A diagnostic that was read lies at the front of the document or on a line that was reported. -/
theorem Report.range_of_mem_read {s : Report.Subject} {t : Text} {d : Diagnostic}
    (h : d ∈ Report.read s t) :
    d.range = Range.point .origin ∨ ∃ number, d.range = s.text.lineRange number := by
  obtain ⟨l, continuation, rfl⟩ := exists_reported_of_mem_read h
  unfold reported
  split
  · exact .inr ⟨_, rfl⟩
  · exact .inl rfl

/-- Every range lies in the document.  Whatever a run of the compiler printed and however it ended,
the range of each of its diagnostics fits a document of fewer than `2 ^ 32` units, and it covers a
whole line or is empty at one of the two ends of the document. -/
theorem Output.ranges_lie_in_document (o : Output) (s : Report.Subject)
    (small : s.text.unitLength < 0x100000000) :
    ∀ d ∈ o.findings s, s.text.Fits d.range ∧ s.text.Covers d.range := by
  intro d hd
  have horigin : s.text.Fits (Range.point .origin) ∧ s.text.Covers (Range.point .origin) :=
    ⟨Text.fits_point (Text.exact_origin s.text), .front⟩
  unfold Output.findings at hd
  simp only at hd
  split at hd
  · rw [List.mem_singleton.mp hd]
    exact horigin
  · rcases Report.range_of_mem_read hd with hrange | ⟨number, hrange⟩
    · rw [hrange]
      exact horigin
    · rw [hrange]
      exact Text.fits_lineRange small number

/-- The reports name the lines 0, 2, 9 and `2 ^ 32`, then a line in a digit of another script and
a line of another file. -/
theorem Output.ranges_lie_in_document_for_odd_numbers :
    ∃ (o : Output) (s : Report.Subject), s.text = "é\nxy\r".toList ∧
      s.text.unitLength < 0x100000000 ∧
      (o.findings s).map (·.range) =
        [⟨⟨0, 0⟩, ⟨0, 1⟩⟩, ⟨⟨1, 0⟩, ⟨1, 2⟩⟩, Range.point ⟨1, 3⟩, ⟨⟨0, 0⟩, ⟨0, 1⟩⟩,
          ⟨⟨0, 0⟩, ⟨0, 1⟩⟩, Range.point ⟨0, 0⟩] ∧
      ∀ d ∈ o.findings s, s.text.Fits d.range ∧ s.text.Covers d.range := by
  let s : Report.Subject := ⟨"é\nxy\r".toList, "/x".toList⟩
  let printed : Text := "/x(0): note: a\n/x(2): note: b\n/x(9): note: c\n".toList
  let more : Text := "/x(4294967296): note: d\n/x(\u0662): note: e\ny(2): note: f".toList
  let o : Output := ⟨1, Text.encode printed, Text.encode more⟩
  have hranges : (o.findings s).map (·.range) =
      [⟨⟨0, 0⟩, ⟨0, 1⟩⟩, ⟨⟨1, 0⟩, ⟨1, 2⟩⟩, Range.point ⟨1, 3⟩, ⟨⟨0, 0⟩, ⟨0, 1⟩⟩,
        ⟨⟨0, 0⟩, ⟨0, 1⟩⟩, Range.point ⟨0, 0⟩] := by
    have hstdout : o.stdoutText = printed := Text.decodeLossy_encode printed
    have hstderr : o.stderrText = more := Text.decodeLossy_encode more
    rw [findings, joined, hstdout, hstderr]
    decide +kernel
  have small : s.text.unitLength < 0x100000000 := by decide
  exact ⟨o, s, rfl, small, hranges, o.ranges_lie_in_document s small⟩

end LobsterServer
