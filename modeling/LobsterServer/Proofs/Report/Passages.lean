import LobsterServer.Proofs.Report.RoundTrip
import Mathlib.Data.List.Forall2

set_option autoImplicit false

/-!
# Reports are read passage by passage

A text is read line by line, with a memory of whether the last report may go on.  What comes of it
can be said without that memory: each line that has the form of a report opens a passage, which
goes on over the lines directly behind it that are neither blank nor of that form.  The main
statement says that the diagnostics stand for the passages, one for one and in order, and that a
line outside of all passages makes no difference.
-/

namespace LobsterServer.Report

/-! ## Splitting a line -/

/-- A way to split a line into a file name, a mark and a message. -/
structure Splits (t : Text) (l : Line) : Prop where
  file_ne_nil : l.file ≠ []
  isMark : IsMark l.digits l.word
  split : t = l.file ++ mark l.digits l.word ++ l.message

/-- The way to split a line that has the shortest file name. -/
structure SplitsShortest (t : Text) (l : Line) : Prop extends Splits t l where
  shortest : ∀ other, Splits t other → l.file.length ≤ other.file.length

/-- The shortest file name is the one without a mark in it. -/
theorem Splits.shortest_iff {t : Text} {l : Line} (h : Splits t l) :
    (∀ other, Splits t other → l.file.length ≤ other.file.length) ↔ ¬ HasForm l.file := by
  constructor
  · rintro hshortest ⟨file, digits, word, more, hfile, hmark, hsplit⟩
    -- the line can be split at the mark in the file name
    have hother : Splits t ⟨file, digits, word, more ++ mark l.digits l.word ++ l.message⟩ := by
      refine ⟨hfile, hmark, ?_⟩
      rw [h.split, hsplit]
      simp only [List.append_assoc]
    have hle := hshortest _ hother
    rw [hsplit] at hle
    simp only [mark, List.length_append, List.length_cons] at hle
    omega
  · intro hclean other hother
    refine Nat.le_of_not_lt fun hshorter => hclean ?_
    -- a shorter file name is a part of the file name, and its mark lies in the rest
    have hboth : l.file ++ (mark l.digits l.word ++ l.message) =
        other.file ++ (mark other.digits other.word ++ other.message) := by
      rw [← List.append_assoc, ← List.append_assoc, ← h.split, ← hother.split]
    obtain ⟨rest, hne, hrest, htail⟩ := Text.exists_append_of_lt hboth hshorter
    rw [← List.append_assoc] at htail
    obtain ⟨more, hmore⟩ := mark_prefix hother.isMark hne htail
    refine ⟨other.file, other.digits, other.word, more, hother.file_ne_nil, hother.isMark, ?_⟩
    rw [hrest, ← hmore, List.append_assoc]

/-- A line is read as it splits with the shortest file name. -/
theorem parse?_eq_some_iff_splitsShortest {t : Text} {l : Line} :
    Line.parse? t = some l ↔ SplitsShortest t l := by
  rw [parse?_eq_some_iff]
  constructor
  · rintro ⟨⟨hfile, hclean⟩, hmark, hsplit⟩
    have hsplits : Splits t l := ⟨hfile, hmark, hsplit⟩
    exact ⟨hsplits, hsplits.shortest_iff.mpr hclean⟩
  · intro h
    exact ⟨⟨h.file_ne_nil, h.toSplits.shortest_iff.mp h.shortest⟩, h.isMark, h.split⟩

theorem exists_splitsShortest {t : Text} (h : HasForm t) : ∃ l, SplitsShortest t l := by
  have hsome : Line.parse? t ≠ none := fun hnone => parse?_eq_none_iff.mp hnone h
  obtain ⟨l, hl⟩ := Option.ne_none_iff_exists'.mp hsome
  exact ⟨l, parse?_eq_some_iff_splitsShortest.mp hl⟩

/-! ## Passages -/

instance (t : Text) : Decidable (HasForm t) :=
  decidable_of_iff (Line.parse? t ≠ none) (by rw [Ne, parse?_eq_none_iff, not_not])

/-- The line may go on with a message: it is not blank and does not have the form of a report. -/
def Continues (line : Text) : Prop := Text.allBlank line = false ∧ ¬ HasForm line

instance (line : Text) : Decidable (Continues line) :=
  inferInstanceAs (Decidable (_ ∧ _))

/-- A line that has the form of a report, with the lines that go on with its message. -/
structure Passage where
  opening : Text
  continuation : List Text

/-- The passages of a text, given its lines.  Each goes on as long as it can. -/
def passages : List Text → List Passage
  | [] => []
  | line :: rest =>
    if HasForm line then ⟨line, rest.takeWhile (Continues ·)⟩ :: passages rest else passages rest

/-- The lines that open a passage are those that have the form. -/
theorem opening_passages (lines : List Text) :
    (passages lines).map Passage.opening = lines.filter (HasForm ·) := by
  induction lines with
  | nil => rfl
  | cons line rest ih =>
    unfold passages
    by_cases hform : HasForm line
    · rw [if_pos hform, List.map_cons, ih, List.filter_cons_of_pos (by simpa using hform)]
    · rw [if_neg hform, ih, List.filter_cons_of_neg (by simpa using hform)]

/-! ## Reading passages -/

/-- The diagnostic stands for the passage: for its first line, split with the shortest file name,
and for the lines that go on with it. -/
def StandsFor (s : Subject) (p : Passage) (d : Diagnostic) : Prop :=
  ∃ l, SplitsShortest p.opening l ∧ d = reported s l p.continuation

/-- A passage stands for one diagnostic only. -/
theorem StandsFor.unique {s : Subject} {p : Passage} {d e : Diagnostic} (hd : StandsFor s p d)
    (he : StandsFor s p e) : d = e := by
  obtain ⟨l, hl, rfl⟩ := hd
  obtain ⟨k, hk, rfl⟩ := he
  have hparse := parse?_eq_some_iff_splitsShortest.mpr hl
  rw [parse?_eq_some_iff_splitsShortest.mpr hk] at hparse
  rw [Option.some.inj hparse]

/-- What lines are read as, whatever has been read before: the lines that go on with the last
report are added to it if it may go on, and then there is a diagnostic for each passage. -/
theorem exists_found_foldl (s : Subject) (lines : List Text) :
    ∃ ds, List.Forall₂ (StandsFor s) (passages lines) ds ∧
      (∀ found, (lines.foldl (Reading.next s) ⟨found, false⟩).found = ds.reverse ++ found) ∧
      ∀ l read found,
        (lines.foldl (Reading.next s) ⟨reported s l read :: found, true⟩).found =
          ds.reverse ++ reported s l (read ++ lines.takeWhile (Continues ·)) :: found := by
  induction lines with
  | nil => exact ⟨[], .nil, fun found => rfl, fun l read found => by simp⟩
  | cons line rest ih =>
    obtain ⟨ds, hds, hidle, hopen⟩ := ih
    by_cases hform : HasForm line
    · -- the line opens a passage, whether or not the last report may go on
      obtain ⟨l, hl⟩ := exists_splitsShortest hform
      have hnext := next_of_parse? (s := s) (parse?_eq_some_iff_splitsShortest.mpr hl)
      have hends : (line :: rest).takeWhile (Continues ·) = [] := by
        rw [List.takeWhile_cons_of_neg]
        simp [Continues, hform]
      refine ⟨reported s l (rest.takeWhile (Continues ·)) :: ds, ?_, fun found => ?_,
        fun l' read found => ?_⟩
      · rw [passages, if_pos hform]
        exact .cons ⟨l, hl, rfl⟩ hds
      · rw [List.foldl_cons, hnext, hopen]
        simp
      · rw [List.foldl_cons, hnext, hopen, hends]
        simp
    · have hnone : Line.parse? line = none := parse?_eq_none_iff.mpr hform
      have hstays : ∀ found, Reading.next s ⟨found, false⟩ line = ⟨found, false⟩ := by
        intro found
        cases found <;> simp [Reading.next, hnone]
      rw [passages, if_neg hform]
      refine ⟨ds, hds, fun found => ?_, fun l read found => ?_⟩
      · rw [List.foldl_cons, hstays, hidle]
      · by_cases hblank : Text.allBlank line = true
        · -- a blank line ends the passage
          have hnext : Reading.next s ⟨reported s l read :: found, true⟩ line =
              ⟨reported s l read :: found, false⟩ := by
            simp [Reading.next, hnone, hblank]
          have hends : (line :: rest).takeWhile (Continues ·) = [] := by
            rw [List.takeWhile_cons_of_neg]
            simp [Continues, hblank]
          rw [List.foldl_cons, hnext, hidle, hends, List.append_nil]
        · have hgoes : (line :: rest).takeWhile (Continues ·) =
              line :: rest.takeWhile (Continues ·) := by
            rw [List.takeWhile_cons_of_pos]
            simp [Continues, hblank, hform]
          rw [List.foldl_cons, next_of_continuation (Bool.eq_false_iff.mpr hblank) hform, hopen,
            hgoes, List.append_assoc, List.singleton_append]

/-- The diagnostics in a text stand for its passages, one for one and in order. -/
theorem forall₂_read (s : Subject) (t : Text) :
    List.Forall₂ (StandsFor s) (passages t.lines) (read s t) := by
  obtain ⟨ds, hds, hidle, -⟩ := exists_found_foldl s t.lines
  have hfound : read s t = ds := by
    rw [read, Reading.start, hidle, List.append_nil, List.reverse_reverse]
  rw [hfound]
  exact hds

/-- Every diagnostic in a text is that of a report line and of lines behind it. -/
theorem exists_reported_of_mem_read {s : Subject} {t : Text} {d : Diagnostic} (h : d ∈ read s t) :
    ∃ l continuation, d = reported s l continuation := by
  have hall := forall₂_read s t
  generalize passages t.lines = ps at hall
  generalize read s t = ds at hall h
  induction hall with
  | nil => cases h
  | cons hfirst _ ih =>
    rcases List.mem_cons.mp h with rfl | hrest
    · obtain ⟨l, -, rfl⟩ := hfirst
      exact ⟨l, _, rfl⟩
    · exact ih hrest

/-- Nothing is read from a text exactly if none of its lines has the form of a report. -/
theorem read_eq_nil_iff (s : Subject) (t : Text) :
    read s t = [] ↔ ∀ line ∈ t.lines, ¬ HasForm line := by
  have hlength : (read s t).length = (t.lines.filter (HasForm ·)).length := by
    rw [← (forall₂_read s t).length_eq, ← opening_passages, List.length_map]
  rw [← List.length_eq_zero_iff, hlength, List.length_eq_zero_iff, List.filter_eq_nil_iff]
  simp only [decide_eq_true_eq]

/-! ## Lines outside of passages -/

/-- The last of the lines may go on: some line has the form of a report, and all lines behind it go
on with it. -/
def MayGoOn (lines : List Text) : Prop :=
  ∃ earlier opening continuation, lines = earlier ++ opening :: continuation ∧ HasForm opening ∧
    ∀ line ∈ continuation, Continues line

/-- Behind `before`, the line neither opens a passage nor goes on with one. -/
def Idle (before : List Text) (line : Text) : Prop :=
  ¬ HasForm line ∧ (MayGoOn before → Text.allBlank line = true)

theorem MayGoOn.cons {lines : List Text} (h : MayGoOn lines) (line : Text) :
    MayGoOn (line :: lines) := by
  obtain ⟨earlier, opening, continuation, rfl, hform, hall⟩ := h
  exact ⟨line :: earlier, opening, continuation, rfl, hform, hall⟩

/-- A passage does not go on over an idle line. -/
theorem takeWhile_of_idle {opening line : Text} {before : List Text} (hform : HasForm opening)
    (h : Idle (opening :: before) line) (after : List Text) :
    (before ++ line :: after).takeWhile (Continues ·) = before.takeWhile (Continues ·) := by
  rw [List.takeWhile_append]
  split
  · rename_i hlength
    have hself : before.takeWhile (Continues ·) = before :=
      (List.takeWhile_prefix _).eq_of_length hlength
    have hall : ∀ other ∈ before, Continues other := fun other hother =>
      of_decide_eq_true (List.takeWhile_eq_self_iff.mp hself other hother)
    have hblank : Text.allBlank line = true := h.2 ⟨[], opening, before, rfl, hform, hall⟩
    have hends : (line :: after).takeWhile (Continues ·) = [] := by
      rw [List.takeWhile_cons_of_neg]
      simp [Continues, hblank]
    rw [hends, List.append_nil, hself]
  · rfl

/-- An idle line makes no difference to the passages. -/
theorem passages_of_idle {before : List Text} {line line' : Text} (h : Idle before line)
    (h' : Idle before line') (after : List Text) :
    passages (before ++ line :: after) = passages (before ++ line' :: after) := by
  induction before with
  | nil => rw [List.nil_append, List.nil_append, passages, if_neg h.1, passages, if_neg h'.1]
  | cons opening before ih =>
    have hrest := ih ⟨h.1, fun hgo => h.2 (hgo.cons opening)⟩
      ⟨h'.1, fun hgo => h'.2 (hgo.cons opening)⟩
    rw [List.cons_append, List.cons_append, passages, passages, hrest]
    by_cases hform : HasForm opening
    · rw [if_pos hform, if_pos hform, takeWhile_of_idle hform h, takeWhile_of_idle hform h']
    · rw [if_neg hform, if_neg hform]

/-- Reading accepts exactly the lines that have the form of a report.  The diagnostics stand for the
passages, one for one and in order: each has the message, the severity and the place of its report
line, split with the shortest file name, and its message goes on with the lines directly behind
that are neither blank nor report lines, as many as there are.  Any other line may be replaced by
another such line without a difference. -/
theorem read_passages (s : Subject) (output : Text) :
    (passages output.lines).map Passage.opening = output.lines.filter (HasForm ·) ∧
    List.Forall₂ (StandsFor s) (passages output.lines) (read s output) ∧
    ∀ (other : Text) (before after : List Text) (line line' : Text),
      output.lines = before ++ line :: after → other.lines = before ++ line' :: after →
        Idle before line → Idle before line' → read s other = read s output := by
  refine ⟨opening_passages output.lines, forall₂_read s output, ?_⟩
  intro other before after line line' houtput hother hidle hidle'
  have hsame : passages other.lines = passages output.lines := by
    rw [houtput, hother, passages_of_idle hidle hidle']
  have hleft := forall₂_read s other
  rw [hsame] at hleft
  exact List.right_unique_forall₂' (fun _ _ _ hd he => hd.unique he) hleft (forall₂_read s output)

/-- The file name of the first report ends at the first mark, though there is one in its message as
well, and the blank line keeps `end` out of it.  The digit of the second report is no ASCII digit,
so it counts as line one.  What the line in front of both says does not matter. -/
theorem read_passages_behind_another_line :
    ∃ (output other : Text) (after : List Text),
      after = ["lib(7)(2): note: a(3): error: b ".toList, "  c ".toList, " ".toList, "end".toList,
        "/t/x(٣): warning: v".toList] ∧
      output = "lost\n".toList ++ ['\n'].intercalate after ∧ output.lines = "lost".toList :: after ∧
      other = "gone\n".toList ++ ['\n'].intercalate after ∧ other.lines = "gone".toList :: after ∧
      Idle [] "lost".toList ∧ Idle [] "gone".toList ∧
      read ⟨['y'], ['x']⟩ other = read ⟨['y'], ['x']⟩ output ∧
      read ⟨['y'], ['x']⟩ output =
        [⟨⟨⟨0, 0⟩, ⟨0, 0⟩⟩, .information, some "lobster", some "lobster",
            "lib(7)(2): a(3): error: b\n  c"⟩,
          ⟨⟨⟨0, 0⟩, ⟨0, 1⟩⟩, .warning, some "lobster", some "lobster", "v"⟩] := by
  let after := ["lib(7)(2): note: a(3): error: b ".toList, "  c ".toList, " ".toList, "end".toList,
    "/t/x(٣): warning: v".toList]
  have hfirst : ¬ MayGoOn [] := by
    rintro ⟨earlier, opening, continuation, hsplit, -⟩
    simp at hsplit
  have hlost : Idle [] "lost".toList := ⟨by decide, fun h => absurd h hfirst⟩
  have hgone : Idle [] "gone".toList := ⟨by decide, fun h => absurd h hfirst⟩
  have houtput : Text.lines ("lost\n".toList ++ ['\n'].intercalate after) =
      "lost".toList :: after := by decide
  have hother : Text.lines ("gone\n".toList ++ ['\n'].intercalate after) =
      "gone".toList :: after := by decide
  exact ⟨_, _, after, rfl, rfl, houtput, rfl, hother, hlost, hgone,
    (read_passages _ _).2.2 _ [] _ _ _ houtput hother hlost hgone, by decide⟩

end LobsterServer.Report
