import LobsterServer.Compiler.Findings
import LobsterServer.Proofs.Report.Grammar
import LobsterServer.Proofs.Text.Decoding
import LobsterServer.Proofs.Text.Number
import LobsterServer.Proofs.Text.Pieces

set_option autoImplicit false

/-!
# Reports that were printed are read back

A compiler prints each of its reports on a line of its own, with the lines that continue the
message after it, some of the reports to its output and the others to its error output.  The main
statement says that reading loses nothing: there is one diagnostic for each report, in order.
-/

namespace LobsterServer.Report

/-! ## Reading pieces -/

/-- A blank at the end of its message does not change a diagnostic. -/
theorem diagnostic_append_blank (s : Subject) (l : Line) {c : Char} (h : Text.isBlank c = true) :
    s.diagnostic { l with message := l.message ++ [c] } = s.diagnostic l := by
  unfold Subject.diagnostic
  rw [Text.trimEnd_append h]
  rfl

/-- A carriage return at the end of a line makes no difference. -/
theorem next_append_return (s : Subject) (r : Reading) (line : Text) :
    Reading.next s r (line ++ ['\r']) = Reading.next s r line := by
  have hblank : Text.isBlank '\r' = true := by decide
  cases hline : Line.parse? line with
  | some l =>
    simp only [Reading.next, hline, parse?_append hline, diagnostic_append_blank s l hblank]
  | none =>
    have hall : Text.allBlank (line ++ ['\r']) = Text.allBlank line := by
      simp [Text.allBlank, hblank]
    simp only [Reading.next, hline, parse?_append_return hline, hall, extend,
      Text.trimEnd_append hblank]

theorem next_dropReturn (s : Subject) (r : Reading) (line : Text) :
    Reading.next s r (Text.dropReturn line) = Reading.next s r line := by
  rcases Text.dropReturn_cases line with hsame | hreturn
  · rw [hsame]
  · rw [← next_append_return s r (Text.dropReturn line), ← hreturn]

/-- An empty line adds nothing to what was found. -/
theorem found_next_nil (s : Subject) (r : Reading) : (Reading.next s r []).found = r.found := by
  unfold Reading.next
  cases r.found <;> simp [Line.parse?, Text.allBlank]

theorem found_foldl_nil (s : Subject) {rest : List Text} (h : ∀ line ∈ rest, line = []) :
    ∀ r : Reading, (rest.foldl (Reading.next s) r).found = r.found := by
  induction rest with
  | nil => exact fun _ => rfl
  | cons line rest ih =>
    intro r
    rw [h line List.mem_cons_self, List.foldl_cons,
      ih (fun other hother => h other (List.mem_cons_of_mem line hother)), found_next_nil]

/-- A text may be read in the pieces between its line feeds. -/
theorem read_eq (s : Subject) (output : Text) :
    read s output =
      ((Text.splitOn '\n' output).foldl (Reading.next s) Reading.start).found.reverse := by
  have hne := Text.splitOn_ne_nil '\n' output
  obtain ⟨front, last, hpieces⟩ := List.eq_nil_or_concat (Text.splitOn '\n' output)
    |>.resolve_left hne
  unfold read Text.lines
  simp only [hpieces, List.concat_eq_append, List.dropLast_concat, List.getLast?_concat,
    List.foldl_append, List.foldl_map, next_dropReturn, List.foldl_cons, List.foldl_nil]
  by_cases hlast : last = []
  · rw [hlast, found_next_nil]
    rfl
  · simp [hlast]

/-! ## Diagnostics of report lines -/

/-- The message of a report line.  If the line is about another file than the document, the message
keeps the place. -/
def summary (s : Subject) (l : Line) : Text :=
  if s.isOwn l then Text.trimEnd l.message
  else l.file ++ '(' :: Text.decimal l.number ++ "): ".toList ++ Text.trimEnd l.message

/-- The diagnostic that a report line and the lines behind it stand for. -/
def reported (s : Subject) (l : Line) (continuation : List Text) : Diagnostic where
  range :=
    if s.isOwn l then s.text.lineRange (UInt32.ofNat (l.number - 1)) else ⟨.origin, .origin⟩
  severity := l.severity
  code := some (if "use `let` to declare".toList.isPrefixOf (summary s l) then "prefer-let"
    else "lobster")
  source := some "lobster"
  message := String.ofList
    (summary s l ++ continuation.flatMap fun line => '\n' :: Text.trimEnd line)

/-- A diagnostic is classified by how its message starts. -/
theorem classify_eq (message : String) :
    (QuickFix.classify message).getD Code.compiler =
      if "use `let` to declare".toList.isPrefixOf message.toList then "prefer-let"
      else "lobster" := by
  simp only [QuickFix.classify, QuickFix.ofMessage?, QuickFix.all, List.find?_cons,
    List.find?_nil, startsWith]
  cases "use `let` to declare".toList.isPrefixOf message.toList <;> rfl

/-- A report line alone opens its diagnostic. -/
theorem diagnostic_eq_reported (s : Subject) (l : Line) : s.diagnostic l = reported s l [] := by
  unfold Subject.diagnostic reported
  by_cases hown : s.isOwn l = true
  · have hsummary : summary s l = Text.trimEnd l.message := if_pos hown
    simp only [hown, if_true, hsummary, classify_eq, String.toList_ofList, List.flatMap_nil,
      List.append_nil]
    rfl
  · have hsummary : summary s l = l.file ++ '(' :: Text.decimal l.number ++ "): ".toList ++
        Text.trimEnd l.message := if_neg hown
    have hmessage : String.ofList l.file ++ "(" ++ toString l.number ++ "): " ++
        String.ofList (Text.trimEnd l.message) = String.ofList (summary s l) := by
      rw [← String.toList_inj, hsummary]
      simp [Text.decimal]
    simp only [hown, hmessage, classify_eq, String.toList_ofList, List.flatMap_nil,
      List.append_nil, Bool.false_eq_true, if_false]
    rfl

/-- A line that goes on with a message is added to it. -/
theorem extend_reported (s : Subject) (l : Line) (continuation : List Text) (line : Text) :
    extend (reported s l continuation) line = reported s l (continuation ++ [line]) := by
  unfold extend reported
  have hmessage : String.ofList (summary s l ++ continuation.flatMap fun line =>
        '\n' :: Text.trimEnd line) ++ "\n" ++ String.ofList (Text.trimEnd line) =
      String.ofList (summary s l ++ (continuation ++ [line]).flatMap fun line =>
        '\n' :: Text.trimEnd line) := by
    rw [← String.toList_inj]
    simp
  rw [hmessage]

/-- A report line opens its diagnostic, whatever has been read before. -/
theorem next_of_parse? {s : Subject} {line : Text} {l : Line} (h : Line.parse? line = some l)
    (r : Reading) : Reading.next s r line = ⟨reported s l [] :: r.found, true⟩ := by
  simp only [Reading.next, h, diagnostic_eq_reported]

/-- A line that is neither blank nor a report line goes on with the message. -/
theorem next_of_continuation {s : Subject} {l : Line} {continuation : List Text} {line : Text}
    {found : List Diagnostic} (notBlank : Text.allBlank line = false) (noForm : ¬ HasForm line) :
    Reading.next s ⟨reported s l continuation :: found, true⟩ line =
      ⟨reported s l (continuation ++ [line]) :: found, true⟩ := by
  simp [Reading.next, parse?_eq_none_iff.mpr noForm, notBlank, extend_reported]

/-! ## Reports as they are printed -/

/-- The words of a compiler for how grave a report is. -/
inductive Grade where
  | error
  | warning
  | note
  deriving DecidableEq, Repr

/-- The word that is printed. -/
def Grade.word : Grade → String
  | .error => "error"
  | .warning => "warning"
  | .note => "note"

/-- The severity that a word stands for. -/
def Grade.severity : Grade → Severity
  | .error => .error
  | .warning => .warning
  | .note => .information

/-- A report of the compiler: the file and the line that it is about, the message, and the lines
that continue the message.  Nothing in it can be taken for something else. -/
structure Remark where
  file : Text
  number : UInt32
  grade : Grade
  message : Text
  continuation : List Text
  file_ne_nil : file ≠ []
  file_oneLine : '\n' ∉ file
  file_noMark : ¬ HasForm file
  message_oneLine : '\n' ∉ message
  continuation_oneLine : ∀ line ∈ continuation, '\n' ∉ line
  continuation_notBlank : ∀ line ∈ continuation, Text.allBlank line = false
  continuation_noForm : ∀ line ∈ continuation, ¬ HasForm line

namespace Remark

/-- The place that is printed in front of the message. -/
def place (r : Remark) : Text := r.file ++ '(' :: Text.decimal r.number.toNat ++ "): ".toList

/-- The first line of a report. -/
def heading (r : Remark) : Text :=
  r.place ++ r.grade.word.toList ++ ": ".toList ++ r.message

/-- The lines of a report. -/
def lines (r : Remark) : List Text := r.heading :: r.continuation

/-- The message of a report without the lines that continue it.  A report about another file keeps
its place. -/
def summary (s : Subject) (r : Remark) : Text :=
  if Path.endsWith r.file s.scratchFile then Text.trimEnd r.message
  else r.place ++ Text.trimEnd r.message

/-- The diagnostic that a report stands for. -/
def diagnostic (s : Subject) (r : Remark) : Diagnostic where
  range :=
    if Path.endsWith r.file s.scratchFile then
      s.text.lineRange (if r.number = 0 then 0 else r.number - 1)
    else ⟨.origin, .origin⟩
  severity := r.grade.severity
  code := some (if "use `let` to declare".toList.isPrefixOf (r.summary s) then "prefer-let"
    else "lobster")
  source := some "lobster"
  message := String.ofList
    (r.summary s ++ r.continuation.flatMap fun line => '\n' :: Text.trimEnd line)

/-- The report line that a first line is read as. -/
def line (r : Remark) : Line :=
  ⟨r.file, Text.decimal r.number.toNat, r.grade.word, r.message⟩

theorem isMark (r : Remark) : IsMark (Text.decimal r.number.toNat) r.grade.word := by
  refine ⟨Text.decimal_ne_nil _, Text.isDigit_of_mem_decimal _, ?_⟩
  cases r.grade <;> decide

theorem parse?_heading (r : Remark) : Line.parse? r.heading = some r.line := by
  have hsplit : r.heading =
      r.file ++ mark (Text.decimal r.number.toNat) r.grade.word ++ r.message := by
    simp [heading, place, mark]
  rw [hsplit]
  exact parse?_of_mark r.file_ne_nil r.file_noMark r.isMark r.message

theorem number_line (r : Remark) : r.line.number = r.number.toNat :=
  Text.lineNumber_decimal r.number.toNat_lt

theorem severity_line (r : Remark) : r.line.severity = r.grade.severity := by
  unfold Line.severity line
  cases r.grade <;> rfl

end Remark

/-! ## Reading reports -/

/-- Lines are counted from one, and line zero counts as the first one. -/
theorem ofNat_toNat_sub_one (n : UInt32) :
    UInt32.ofNat (n.toNat - 1) = if n = 0 then 0 else n - 1 := by
  split
  · rename_i hzero
    rw [hzero]
    rfl
  · rename_i hzero
    have hpos : 1 ≤ n := by
      rw [UInt32.le_iff_toNat_le]
      have hne : n.toNat ≠ 0 := fun h => hzero (UInt32.toNat_inj.mp h)
      exact Nat.one_le_iff_ne_zero.mpr hne
    have hlt := n.toNat_lt
    rw [← UInt32.toNat_inj, UInt32.toNat_sub_of_le _ _ hpos]
    simp
    omega

/-- A report stands for what its first line and the lines that continue it stand for. -/
theorem reported_line (s : Subject) (r : Remark) :
    reported s r.line r.continuation = r.diagnostic s := by
  have hisOwn : s.isOwn r.line = Path.endsWith r.file s.scratchFile := rfl
  have hsummary : summary s r.line = r.summary s := by
    unfold summary
    rw [hisOwn, r.number_line]
    rfl
  unfold reported Remark.diagnostic
  rw [hisOwn, hsummary, r.number_line, r.severity_line, ofNat_toNat_sub_one]

/-- Lines that continue a message go to its end. -/
theorem foldl_continuation (s : Subject) (l : Line) (found : List Diagnostic) {lines : List Text}
    (notBlank : ∀ line ∈ lines, Text.allBlank line = false)
    (noForm : ∀ line ∈ lines, ¬ HasForm line) : ∀ continuation : List Text,
    lines.foldl (Reading.next s) ⟨reported s l continuation :: found, true⟩ =
      ⟨reported s l (continuation ++ lines) :: found, true⟩ := by
  induction lines with
  | nil =>
    intro continuation
    rw [List.foldl_nil, List.append_nil]
  | cons line lines ih =>
    intro continuation
    rw [List.foldl_cons, next_of_continuation (notBlank line List.mem_cons_self)
      (noForm line List.mem_cons_self), ih
      (fun other hother => notBlank other (List.mem_cons_of_mem line hother))
      (fun other hother => noForm other (List.mem_cons_of_mem line hother)),
      List.append_assoc, List.singleton_append]

/-- The lines of a report are read as its diagnostic, whatever has been read before. -/
theorem foldl_lines (s : Subject) (r : Remark) (before : Reading) :
    r.lines.foldl (Reading.next s) before = ⟨r.diagnostic s :: before.found, true⟩ := by
  rw [Remark.lines, List.foldl_cons, next_of_parse? r.parse?_heading,
    foldl_continuation s r.line _ r.continuation_notBlank r.continuation_noForm, List.nil_append,
    reported_line]

/-- Reports are read one after another. -/
theorem found_foldl_remarks (s : Subject) (remarks : List Remark) : ∀ before : Reading,
    ((remarks.flatMap Remark.lines).foldl (Reading.next s) before).found =
      (remarks.map (Remark.diagnostic s)).reverse ++ before.found := by
  induction remarks with
  | nil => exact fun _ => rfl
  | cons r remarks ih =>
    intro before
    rw [List.flatMap_cons, List.foldl_append, ih, foldl_lines]
    simp

/-! ## Both streams -/

/-- An empty text has no line that is not empty. -/
theorem eq_nil_of_splitOn_nil {lines rest : List Text} (hlines : ∀ line ∈ lines, line ≠ [])
    (h : Text.splitOn '\n' [] = lines ++ rest) : lines = [] := by
  cases lines with
  | nil => rfl
  | cons line lines =>
    have hline : line = [] := (List.cons.inj h).1.symm
    exact absurd hline (hlines line List.mem_cons_self)

/-- Where a text ends in a line feed, its last piece is empty. -/
theorem splitOn_of_terminated {front : Text} {lines rest : List Text}
    (hlines : ∀ line ∈ lines, line ≠ []) (h : Text.splitOn '\n' (front ++ ['\n']) = lines ++ rest) :
    ∃ rest', rest = rest' ++ [[]] ∧ Text.splitOn '\n' front = lines ++ rest' := by
  rw [Text.splitOn_append_cons] at h
  rcases List.eq_nil_or_concat rest with rfl | ⟨rest', last, rfl⟩
  · rw [List.append_nil] at h
    exact absurd rfl (hlines [] (h ▸ List.mem_append_right _ List.mem_cons_self))
  · rw [List.concat_eq_append, ← List.append_assoc] at h
    obtain ⟨hfront, hlast⟩ := List.append_inj' h rfl
    exact ⟨rest', by rw [List.concat_eq_append, ← hlast]; rfl, hfront⟩

/-- Both streams together are one of them if the other is empty.  Otherwise a line feed stands
between them, the one at the end of the standard output or another one. -/
theorem joined_cases (o : Output) :
    (o.stderrText = [] ∧ o.joined = o.stdoutText) ∨
    (o.stdoutText = [] ∧ o.joined = o.stderrText) ∨
    (∃ front, o.stdoutText = front ++ ['\n'] ∧ o.joined = front ++ '\n' :: o.stderrText) ∨
    ∃ front c, c ≠ '\n' ∧ o.stdoutText = front ++ [c] ∧
      o.joined = front ++ [c] ++ '\n' :: o.stderrText := by
  simp only [Output.joined, List.isEmpty_iff, Bool.or_eq_true, decide_eq_true_eq]
  by_cases hstderr : o.stderrText = []
  · exact .inl ⟨hstderr, if_pos hstderr⟩
  rw [if_neg hstderr]
  rcases List.eq_nil_or_concat o.stdoutText with hstdout | ⟨front, c, hstdout⟩
  · exact .inr (.inl ⟨hstdout, by simp [hstdout]⟩)
  · rw [List.concat_eq_append] at hstdout
    by_cases hc : c = '\n'
    · subst hc
      exact .inr (.inr (.inl ⟨front, hstdout, by simp [hstdout]⟩))
    · exact .inr (.inr (.inr ⟨front, c, hc, hstdout, by simp [hstdout, hc]⟩))

/-- Both streams together are cut into the lines of the one and of the other, with empty lines at
most behind each. -/
theorem splitOn_joined {o : Output} {first second rest rest' : List Text}
    (hfirst : ∀ line ∈ first, line ≠ []) (hsecond : ∀ line ∈ second, line ≠ [])
    (hrest : ∀ line ∈ rest, line = []) (hrest' : ∀ line ∈ rest', line = [])
    (stdout : Text.splitOn '\n' o.stdoutText = first ++ rest)
    (stderr : Text.splitOn '\n' o.stderrText = second ++ rest') :
    ∃ between after : List Text, (∀ line ∈ between, line = []) ∧ (∀ line ∈ after, line = []) ∧
      Text.splitOn '\n' o.joined = first ++ between ++ (second ++ after) := by
  rcases joined_cases o with ⟨hempty, hjoined⟩ | ⟨hempty, hjoined⟩ | ⟨front, hfront, hjoined⟩ |
    ⟨front, c, -, hfront, hjoined⟩
  · rw [hempty] at stderr
    rw [eq_nil_of_splitOn_nil hsecond stderr, hjoined, stdout]
    exact ⟨rest, [], hrest, by simp, by simp⟩
  · rw [hempty] at stdout
    rw [eq_nil_of_splitOn_nil hfirst stdout, hjoined, stderr]
    exact ⟨[], rest', by simp, hrest', rfl⟩
  · rw [hfront] at stdout
    obtain ⟨between, rfl, hpieces⟩ := splitOn_of_terminated hfirst stdout
    refine ⟨between, rest', fun line hline => hrest line (List.mem_append_left _ hline), hrest', ?_⟩
    rw [hjoined, Text.splitOn_append_cons, hpieces, stderr]
  · rw [← hfront] at hjoined
    refine ⟨rest, rest', hrest, hrest', ?_⟩
    rw [hjoined, Text.splitOn_append_cons, stdout, stderr]

theorem heading_ne_nil (r : Remark) : r.heading ≠ [] := by
  simp [Remark.heading, Remark.place]

/-- No line of a report is empty or has a line feed in it. -/
theorem lines_of_remarks (remarks : List Remark) :
    ∀ line ∈ remarks.flatMap Remark.lines, line ≠ [] ∧ '\n' ∉ line := by
  intro line hline
  obtain ⟨r, -, hr⟩ := List.mem_flatMap.mp hline
  rcases List.mem_cons.mp hr with rfl | hcontinuation
  · refine ⟨heading_ne_nil r, ?_⟩
    have hdigits : '\n' ∉ Text.decimal r.number.toNat := fun hmem =>
      absurd (Text.isDigit_of_mem_decimal _ _ hmem) (by decide)
    have hword : '\n' ∉ r.grade.word.toList := by cases r.grade <;> decide
    simp [Remark.heading, Remark.place, r.file_oneLine, hdigits, hword, r.message_oneLine]
  · refine ⟨?_, r.continuation_oneLine line hcontinuation⟩
    rintro rfl
    exact absurd (r.continuation_notBlank [] hcontinuation) (by decide)

/-- Reports that were printed line by line, some to each stream, with a line feed at its end or
without, are read as one diagnostic for each report. -/
theorem read_of_streams (s : Subject) {o : Output} {terminated terminated' : Bool}
    {first second : List Remark}
    (stdout : o.stdoutText = Text.printed terminated (first.flatMap Remark.lines))
    (stderr : o.stderrText = Text.printed terminated' (second.flatMap Remark.lines)) :
    read s o.joined = (first ++ second).map (Remark.diagnostic s) := by
  have hfirst := lines_of_remarks first
  have hsecond := lines_of_remarks second
  obtain ⟨rest, hrest, hstdout⟩ := Text.splitOn_printed terminated fun line hline =>
    (hfirst line hline).2
  obtain ⟨rest', hrest', hstderr⟩ := Text.splitOn_printed terminated' fun line hline =>
    (hsecond line hline).2
  rw [← stdout] at hstdout
  rw [← stderr] at hstderr
  obtain ⟨between, after, hbetween, hafter, hjoined⟩ := splitOn_joined
    (fun line hline => (hfirst line hline).1) (fun line hline => (hsecond line hline).1)
    hrest hrest' hstdout hstderr
  rw [read_eq, hjoined, List.foldl_append, List.foldl_append, List.foldl_append,
    found_foldl_nil s hafter, found_foldl_remarks, found_foldl_nil s hbetween,
    found_foldl_remarks]
  simp [Reading.start]

/-- The findings of a run are what was read from it, if that is something or the run succeeded. -/
theorem findings_of_read {o : Output} {s : Subject} (h : read s o.joined ≠ [] ∨ o.code = 0) :
    o.findings s = read s o.joined := by
  unfold Output.findings
  simp only []
  split
  · rename_i hfailed
    simp only [Bool.and_eq_true, List.isEmpty_iff, Bool.not_eq_true', Output.success] at hfailed
    rcases h with hsome | hcode
    · exact absurd hfailed.1 hsome
    · exact absurd hcode (of_decide_eq_false hfailed.2)
  · rfl

/-- What a compiler leaves behind that prints reports line by line, the first `k` of them to its
output and the others to its error output, each stream with a line feed at its end or without. -/
def printout (code : Int) (terminated terminated' : Bool) (k : Nat) (remarks : List Remark) :
    Output where
  code := code
  stdout := (Text.printed terminated ((remarks.take k).flatMap Remark.lines)).encode
  stderr := (Text.printed terminated' ((remarks.drop k).flatMap Remark.lines)).encode

/-- Reading loses nothing of what was printed: however the reports are spread over the streams,
there is one diagnostic for each of them, in order.  That needs some report or a run that
succeeded. -/
theorem findings_printout (s : Subject) (code : Int) (terminated terminated' : Bool) (k : Nat)
    (remarks : List Remark) (h : remarks ≠ [] ∨ code = 0) :
    (printout code terminated terminated' k remarks).findings s =
      remarks.map (Remark.diagnostic s) := by
  have hstdout : (printout code terminated terminated' k remarks).stdoutText =
      Text.printed terminated ((remarks.take k).flatMap Remark.lines) := Text.decodeLossy_encode _
  have hstderr : (printout code terminated terminated' k remarks).stderrText =
      Text.printed terminated' ((remarks.drop k).flatMap Remark.lines) := Text.decodeLossy_encode _
  have hread := read_of_streams s hstdout hstderr
  rw [List.take_append_drop] at hread
  rw [findings_of_read, hread]
  rw [hread]
  exact h.imp (fun hsome hnil => hsome (List.map_eq_nil_iff.mp hnil)) id

/-- A warning about the document that goes on on a second line, and a note about another file on
the error output. -/
theorem findings_printout_of_two :
    ∃ remarks : List Remark,
      remarks.flatMap Remark.lines =
        ["/tmp/d/x(2): warning: odd ".toList, "  here".toList, "lib(7): note: ok".toList] ∧
      (printout 1 false true 1 remarks).findings ⟨['a', '\n', 'b', '\r', '\n'], "d/x".toList⟩ =
        [⟨⟨⟨1, 0⟩, ⟨1, 1⟩⟩, .warning, some "lobster", some "lobster", "odd\n  here"⟩,
          ⟨⟨⟨0, 0⟩, ⟨0, 0⟩⟩, .information, some "lobster", some "lobster", "lib(7): ok"⟩] := by
  let own : Remark :=
    { file := "/tmp/d/x".toList, number := 2, grade := .warning, message := "odd ".toList
      continuation := ["  here".toList]
      file_ne_nil := by decide
      file_oneLine := by decide
      file_noMark := parse?_eq_none_iff.mp (by decide)
      message_oneLine := by decide
      continuation_oneLine := by decide
      continuation_notBlank := by decide
      continuation_noForm := fun line hline => by
        rw [List.mem_singleton.mp hline]
        exact parse?_eq_none_iff.mp (by decide) }
  let foreign : Remark :=
    { file := "lib".toList, number := 7, grade := .note, message := "ok".toList
      continuation := []
      file_ne_nil := by decide
      file_oneLine := by decide
      file_noMark := parse?_eq_none_iff.mp (by decide)
      message_oneLine := by decide
      continuation_oneLine := by decide
      continuation_notBlank := by decide
      continuation_noForm := nofun }
  refine ⟨[own, foreign], by decide, ?_⟩
  exact (findings_printout _ _ _ _ _ _ (.inl (List.cons_ne_nil _ _))).trans (by decide)

end LobsterServer.Report
