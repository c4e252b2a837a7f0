import LobsterServer.Compiler.Produce
import LobsterServer.Proofs.Report.Passages

set_option autoImplicit false

/-!
# A failure is not a document without findings

A document without diagnostics looks fine to its author.  So compiling may end without any only
if it went well and printed no report, or if the server is in an error state and did not compile.
The two streams of the compiler are read as one text, in which the lines of the first stand in front
of the lines of the second.  The main statement covers every way in which compiling can go wrong and
whatever bytes the compiler prints.
-/

namespace LobsterServer

/-! ## Lines of both streams -/

theorem Report.hasForm_append_return {t : Text} : HasForm (t ++ ['\r']) ↔ HasForm t := by
  rw [← not_iff_not, ← parse?_eq_none_iff, ← parse?_eq_none_iff]
  refine ⟨fun hreturn => ?_, parse?_append_return⟩
  cases hline : Line.parse? t with
  | none => rfl
  | some l =>
    rw [parse?_append hline] at hreturn
    cases hreturn

namespace Output

/-- These are the lines of the standard output, except that the last of them has lost the carriage
return at its end if the standard output ends in it. -/
def KeepsLines (o : Output) (front : List Text) : Prop :=
  front = o.stdoutText.lines ∨
    o.stdoutText.getLast? = some '\r' ∧
      ∃ earlier last, o.stdoutText.lines = earlier ++ [last ++ ['\r']] ∧ front = earlier ++ [last]

/-- No line of either stream has the form of a report. -/
def Silent (o : Output) : Prop :=
  ∀ line ∈ o.stdoutText.lines ++ o.stderrText.lines, ¬ Report.HasForm line

/-- A carriage return at the end of a line does not decide whether it is a report line. -/
theorem KeepsLines.silent_iff {o : Output} {front : List Text} (h : o.KeepsLines front) :
    (∀ line ∈ front ++ o.stderrText.lines, ¬ Report.HasForm line) ↔ o.Silent := by
  unfold Silent
  rcases h with rfl | ⟨-, earlier, last, hstdout, rfl⟩
  · rfl
  · rw [hstdout]
    simp only [List.forall_mem_append, List.forall_mem_singleton, Report.hasForm_append_return]

/-- The lines of both streams together are those of the standard output and then those of the error
output: none is lost, and none is merged with another. -/
theorem lines_joined (o : Output) :
    ∃ front, o.KeepsLines front ∧ o.joined.lines = front ++ o.stderrText.lines := by
  rcases Report.joined_cases o with ⟨hempty, hjoined⟩ | ⟨hempty, hjoined⟩ |
    ⟨front, hfront, hjoined⟩ | ⟨front, c, hc, hfront, hjoined⟩
  · refine ⟨_, .inl rfl, ?_⟩
    rw [hjoined, hempty]
    exact (List.append_nil _).symm
  · refine ⟨_, .inl rfl, ?_⟩
    rw [hjoined, hempty]
    rfl
  · refine ⟨_, .inl rfl, ?_⟩
    rw [hjoined, hfront, Text.lines_append_cons]
  · -- the standard output ends within a line, which is ended for it
    obtain ⟨earlier, last, hlines, hended⟩ := Text.exists_lines_concat hc front
    rw [← hfront] at hlines
    rw [hjoined, Text.lines_append_cons, hended]
    refine ⟨_, ?_, rfl⟩
    by_cases hreturn : c = '\r'
    · subst hreturn
      exact .inr ⟨List.getLast?_eq_some_iff.mpr ⟨front, hfront⟩, earlier, last, hlines, rfl⟩
    · rw [if_neg hreturn]
      exact .inl hlines.symm

/-! ## Findings of a run -/

/-- Nothing is read from what a run printed exactly if neither stream has a report line. -/
theorem read_joined_eq_nil_iff (o : Output) (s : Report.Subject) :
    Report.read s o.joined = [] ↔ o.Silent := by
  obtain ⟨front, hkeeps, hlines⟩ := o.lines_joined
  rw [Report.read_eq_nil_iff, hlines, hkeeps.silent_iff]

/-- A run that failed without a report leads to one diagnostic. -/
theorem findings_of_failed {o : Output} (hcode : o.code ≠ 0) (hsilent : o.Silent)
    (s : Report.Subject) : o.findings s = [failureDiagnostic o.failureMessage] := by
  simp [findings, success, hcode, (o.read_joined_eq_nil_iff s).mpr hsilent]

/-- A run leads to no diagnostics exactly if it succeeded without a report. -/
theorem findings_eq_nil_iff (o : Output) (s : Report.Subject) :
    o.findings s = [] ↔ o.code = 0 ∧ o.Silent := by
  rw [← o.read_joined_eq_nil_iff s]
  by_cases hcode : o.code = 0
  · rw [Report.findings_of_read (.inr hcode), and_iff_right hcode]
  · refine iff_of_false (fun hnone => ?_) fun h => hcode h.1
    by_cases hread : Report.read s o.joined = []
    · rw [findings_of_failed hcode ((o.read_joined_eq_nil_iff s).mp hread)] at hnone
      cases hnone
    · rw [Report.findings_of_read (.inl hread)] at hnone
      exact hread hnone

end Output

/-- The run succeeded and printed no report. -/
def RunResult.IsClean (r : RunResult) : Prop := ∃ o, r = .ok o ∧ o.code = 0 ∧ o.Silent

/-- There is no exit code, or one that says that the run failed, and no report. -/
def RunResult.FailsSilently (r : RunResult) : Prop := ∀ o, r = .ok o → o.code ≠ 0 ∧ o.Silent

namespace RunResult

theorem isClean_ok {o : Output} : IsClean (.ok o) ↔ o.code = 0 ∧ o.Silent := by
  constructor
  · rintro ⟨o', ho, h⟩
    cases ho
    exact h
  · exact fun h => ⟨o, rfl, h⟩

theorem not_isClean_error {e : RunError} : ¬ IsClean (.error e) := by
  rintro ⟨o, ho, -⟩
  cases ho

theorem findings_eq_nil_iff (r : RunResult) (s : Report.Subject) :
    r.findings s = [] ↔ r.IsClean := by
  cases r with
  | error e => exact iff_of_false (List.cons_ne_nil _ _) not_isClean_error
  | ok o => exact (o.findings_eq_nil_iff s).trans isClean_ok.symm

/-- A failure without a report leads to one diagnostic. -/
theorem FailsSilently.exists_findings {r : RunResult} (h : r.FailsSilently)
    (s : Report.Subject) : ∃ message, r.findings s = [failureDiagnostic message] := by
  cases r with
  | error e => exact ⟨_, rfl⟩
  | ok o =>
    obtain ⟨hcode, hsilent⟩ := h o rfl
    exact ⟨_, o.findings_of_failed hcode hsilent s⟩

end RunResult

/-! ## Diagnostics of a document -/

namespace Document

/-- The diagnostics of a document, given how writing its scratch copy ends, for whatever reason. -/
def produceAfter (d : Document) (settings : Settings) (state : ErrorState) (timeout : Nat)
    (written : Except RunError Scratch) (run : Scratch → Invocation → RunResult) :
    List Diagnostic :=
  if state.isErrored then []
  else
    match written with
    | .error e =>
      [failureDiagnostic ("Could not prepare document for the Lobster compiler: " ++ e.message)]
    | .ok scratch => (run scratch (.compile settings scratch d timeout)).findings d.subject

/-- How compiling a document ends: the scratch copy could not be written, or the run ended. -/
def compiled (d : Document) (settings : Settings) (timeout : Nat)
    (written : Except RunError Scratch) (run : Scratch → Invocation → RunResult) : RunResult :=
  written.bind fun scratch => run scratch (.compile settings scratch d timeout)

/-- The scratch directory refuses names that cannot be a file's, and nothing else. -/
theorem produce_eq_produceAfter (d : Document) (settings : Settings) (state : ErrorState)
    (timeout : Nat) (scratch : Scratch) (run : Scratch → Invocation → RunResult) :
    d.produce settings state timeout scratch run =
      d.produceAfter settings state timeout
        ((scratch.write d.uri d.text).mapError fun fault => .io fault.message) run := by
  unfold produce produceAfter
  cases state.isErrored <;> cases scratch.write d.uri d.text <;> rfl

variable (d : Document) (settings : Settings) {state : ErrorState} (timeout : Nat)
  (written : Except RunError Scratch) (run : Scratch → Invocation → RunResult)

/-- Without an error state there are no diagnostics exactly if compiling went well. -/
theorem produceAfter_eq_nil_iff (h : state.isErrored = false) :
    d.produceAfter settings state timeout written run = [] ↔
      (d.compiled settings timeout written run).IsClean := by
  unfold produceAfter compiled
  rw [h]
  cases written with
  | error e => exact iff_of_false (List.cons_ne_nil _ _) RunResult.not_isClean_error
  | ok scratch => exact RunResult.findings_eq_nil_iff _ _

/-- Without an error state a failure without a report leads to one diagnostic. -/
theorem exists_produceAfter (h : state.isErrored = false)
    (hfails : (d.compiled settings timeout written run).FailsSilently) :
    ∃ message, d.produceAfter settings state timeout written run = [failureDiagnostic message] := by
  unfold produceAfter
  rw [h]
  cases written with
  | error e => exact ⟨_, rfl⟩
  | ok scratch => exact RunResult.FailsSilently.exists_findings hfails _

/-- A failed compile is never reported as a clean document.  However writing the scratch copy and
the run end, nothing is reported exactly if the server is in an error state, or compiling succeeded
and neither stream has a report line; a failure without such a line is one error at the start of the
document.  Both streams are read line by line, the standard output first. -/
theorem failure_is_reported (state : ErrorState) :
    (d.produceAfter settings state timeout written run = [] ↔
      state.isErrored = true ∨ (d.compiled settings timeout written run).IsClean) ∧
    (state.isErrored = false → (d.compiled settings timeout written run).FailsSilently →
      ∃ message, d.produceAfter settings state timeout written run =
        [⟨⟨⟨0, 0⟩, ⟨0, 0⟩⟩, .error, some "compiler-failure", some "lobster", message⟩]) ∧
    (∀ o : Output, ∃ front, o.KeepsLines front ∧ o.joined.lines = front ++ o.stderrText.lines) ∧
    ∀ scratch : Scratch, d.produce settings state timeout scratch run =
      d.produceAfter settings state timeout
        ((scratch.write d.uri d.text).mapError fun fault => .io fault.message) run := by
  refine ⟨?_, exists_produceAfter d settings timeout written run, Output.lines_joined,
    fun scratch => produce_eq_produceAfter d settings state timeout scratch run⟩
  cases hstate : state.isErrored with
  | true => exact iff_of_true (if_pos hstate) (.inl rfl)
  | false => simp [produceAfter_eq_nil_iff d settings timeout written run hstate]

/-- The standard output ends within a line, in a carriage return, and the error output goes on with
text of its own.  The run failed, so there is one diagnostic, and the two lines stay apart. -/
theorem failure_is_reported_within_a_line :
    ∃ (d : Document) (o : Output),
      o.stdoutText = "a\nb\r".toList ∧ o.stderrText = "(7): error: c".toList ∧
      (d.compiled .default 9 (.ok (.empty "/t")) fun _ _ => .ok o).FailsSilently ∧
      (d.produceAfter .default .none 9 (.ok (.empty "/t")) fun _ _ => .ok o) ≠ [] ∧
      (∃ message, (d.produceAfter .default .none 9 (.ok (.empty "/t")) fun _ _ => .ok o) =
        [⟨⟨⟨0, 0⟩, ⟨0, 0⟩⟩, .error, some "compiler-failure", some "lobster", message⟩]) ∧
      o.joined.lines = ["a".toList, "b".toList, "(7): error: c".toList] := by
  let d := fresh "file:///x" "y".toList 1 none
  let o : Output := ⟨1, Text.encode "a\nb\r".toList, Text.encode "(7): error: c".toList⟩
  have hstdout : o.stdoutText = "a\nb\r".toList := Text.decodeLossy_encode _
  have hstderr : o.stderrText = "(7): error: c".toList := Text.decodeLossy_encode _
  have hfails : (d.compiled .default 9 (.ok (.empty "/t")) fun _ _ => .ok o).FailsSilently := by
    rintro o' ho'
    cases ho'
    exact ⟨by decide, by unfold Output.Silent; rw [hstdout, hstderr]; decide⟩
  obtain ⟨hnil, hone, -⟩ :=
    failure_is_reported d .default 9 (.ok (.empty "/t")) (fun _ _ => .ok o) .none
  refine ⟨d, o, hstdout, hstderr, hfails, fun hnone => ?_, hone rfl hfails, ?_⟩
  · rcases hnil.mp hnone with herrored | ⟨o', ho', hcode, -⟩
    · cases herrored
    · exact (hfails o' ho').1 hcode
  · rw [Output.joined, hstdout, hstderr]
    decide

end Document

end LobsterServer
