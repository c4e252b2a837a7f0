import LobsterServer.Proofs.Compiler.Failure
import LobsterServer.Proofs.Document.Fixes

set_option autoImplicit false

/-!
# Codes and messages agree

A diagnostic gets its code when its report line is read, and after that its message may still grow.
The quick fix for a diagnostic is looked up by the code, but a diagnostic that the editor sends back
may have lost it; then the message decides.  The main statement says that it makes no difference:
whatever compiling a document leads to, the code of each diagnostic says the same as its final
message, and without the code the same edits are proposed.
-/

namespace LobsterServer

namespace Diagnostic

/-- The diagnostic as it comes back from an editor that does not keep codes. -/
def withoutCode (d : Diagnostic) : Diagnostic := { d with code := none }

/-- The code of a diagnostic says that a variable could be a constant exactly if its message
does. -/
def Agrees (d : Diagnostic) : Prop :=
  d.code = some "prefer-let" ↔ "use `let` to declare".toList <+: d.message.toList

/-- The code of a diagnostic is of no consequence: it agrees with the message, and without it the
same edits are proposed, for every document in every state of the server. -/
structure NeedsNoCode (d : Diagnostic) : Prop where
  agrees : d.Agrees
  sameEdits : ∀ (doc : Document) (state : ErrorState),
    (QuickFix.actions doc [d.withoutCode] state).map (·.edits) =
      (QuickFix.actions doc [d] state).map (·.edits)

/-! ## Without the code -/

variable {d : Diagnostic}

/-- A code that agrees with the message makes no other diagnostics fixable. -/
theorem Agrees.isFixable_withoutCode (h : d.Agrees) : d.withoutCode.IsFixable ↔ d.IsFixable := by
  unfold IsFixable
  constructor
  · rintro (hcode | hmessage)
    · cases hcode
    · exact .inr hmessage
  · rintro (hcode | hmessage)
    · exact .inr (h.mp hcode)
    · exact .inr hmessage

theorem Agrees.lookup_withoutCode (h : d.Agrees) :
    QuickFix.lookup d.withoutCode = QuickFix.lookup d := by
  rw [QuickFix.lookup_eq, QuickFix.lookup_eq]
  exact if_congr h.isFixable_withoutCode rfl rfl

/-- An action names the diagnostic that it answers, but its edits depend on the range alone. -/
theorem Agrees.edits_withoutCode (h : d.Agrees) (doc : Document) :
    (QuickFix.action? doc d.withoutCode).map (·.edits) =
      (QuickFix.action? doc d).map (·.edits) := by
  unfold QuickFix.action?
  rw [h.lookup_withoutCode]
  cases QuickFix.lookup d with
  | none => rfl
  | some fix =>
    rw [Option.bind_some, Option.bind_some, Option.map_map, Option.map_map]
    rfl

theorem Agrees.needsNoCode (h : d.Agrees) : d.NeedsNoCode := by
  refine ⟨h, fun doc state => ?_⟩
  unfold QuickFix.actions
  split
  · rfl
  · rw [List.map_filterMap, List.map_filterMap, List.filterMap_cons, List.filterMap_cons,
      h.edits_withoutCode doc]

end Diagnostic

/-! ## Growing messages -/

/-- What a text starts with does not reach over a character that it does not have. -/
theorem Text.prefix_append_cons_iff {start : Text} {c : Char} (h : c ∉ start) (t rest : Text) :
    start <+: t ++ c :: rest ↔ start <+: t := by
  constructor
  · intro hlong
    rcases List.prefix_or_prefix_of_prefix hlong (List.prefix_append t (c :: rest)) with
      hshort | ⟨more, rfl⟩
    · exact hshort
    · rw [List.prefix_append_right_inj] at hlong
      cases more with
      | nil => rw [List.append_nil]
      | cons b more =>
        obtain ⟨rfl, -⟩ := List.cons_prefix_cons.mp hlong
        exact absurd (List.mem_append_right t List.mem_cons_self) h
  · intro hshort
    exact hshort.trans (List.prefix_append _ _)

/-- The lines that go on with a message do not change how it starts. -/
theorem Report.prefix_append_continuation_iff {start : Text} (h : '\n' ∉ start) (t : Text)
    (continuation : List Text) :
    (start <+: t ++ continuation.flatMap fun line => '\n' :: Text.trimEnd line) ↔ start <+: t := by
  cases continuation with
  | nil => rw [List.flatMap_nil, List.append_nil]
  | cons line rest =>
    rw [List.flatMap_cons, List.cons_append]
    exact Text.prefix_append_cons_iff h t _

/-- A diagnostic that was read is classified by its final message. -/
theorem Report.agrees_reported (s : Subject) (l : Line) (continuation : List Text) :
    (reported s l continuation).Agrees := by
  have hmessage : (reported s l continuation).message.toList =
      summary s l ++ continuation.flatMap fun line => '\n' :: Text.trimEnd line :=
    String.toList_ofList
  have hcode : (reported s l continuation).code = some "prefer-let" ↔
      "use `let` to declare".toList <+: summary s l := by
    rw [← List.isPrefixOf_iff_prefix]
    unfold reported
    cases "use `let` to declare".toList.isPrefixOf (summary s l) <;> simp
  unfold Diagnostic.Agrees
  rw [hmessage, prefix_append_continuation_iff (by decide), hcode]

/-! ## Failures -/

/-- No message about a failure starts like the messages that can be fixed. -/
theorem agrees_failureDiagnostic {c : Char} {message : String}
    (h : message.toList.head? = some c) (hc : c ≠ 'u') : (failureDiagnostic message).Agrees := by
  refine iff_of_false (by decide : some "compiler-failure" ≠ some "prefer-let") ?_
  rintro ⟨rest, hrest⟩
  change "use `let` to declare".toList ++ rest = message.toList at hrest
  rw [← hrest] at h
  exact hc (Option.some.inj h).symm

theorem Output.head?_failureMessage (o : Output) : o.failureMessage.toList.head? = some 'L' := by
  unfold failureMessage
  simp only
  split <;> simp

theorem RunResult.agrees_findings (r : RunResult) (s : Report.Subject) :
    ∀ found ∈ r.findings s, found.Agrees := by
  intro found hfound
  cases r with
  | error e =>
    rw [List.mem_singleton.mp hfound]
    exact agrees_failureDiagnostic (c := 'L') (by simp) (by decide)
  | ok o =>
    unfold RunResult.findings Output.findings at hfound
    simp only at hfound
    split at hfound
    · rw [List.mem_singleton.mp hfound]
      exact agrees_failureDiagnostic o.head?_failureMessage (by decide)
    · obtain ⟨l, continuation, rfl⟩ := Report.exists_reported_of_mem_read hfound
      exact Report.agrees_reported s l continuation

namespace Document

variable (d : Document) (settings : Settings) (state : ErrorState) (timeout : Nat)
  (written : Except RunError Scratch) (run : Scratch → Invocation → RunResult)

theorem agrees_produceAfter :
    ∀ found ∈ d.produceAfter settings state timeout written run, found.Agrees := by
  intro found hfound
  unfold produceAfter at hfound
  split at hfound
  · cases hfound
  · cases written with
    | error e =>
      rw [List.mem_singleton.mp hfound]
      exact agrees_failureDiagnostic (c := 'C') (by simp) (by decide)
    | ok scratch => exact RunResult.agrees_findings _ _ found hfound

/-- A diagnostic that lost its code gets the same fixes.  However writing the scratch copy and the
run end, and whatever place the reports are read against, the code of each diagnostic agrees with
its message, with all the lines that went on with it, and without the code the same edits are
proposed. -/
theorem fixes_need_no_code :
    (∀ found ∈ d.produceAfter settings state timeout written run, found.NeedsNoCode) ∧
    (∀ scratch, ∀ found ∈ d.produce settings state timeout scratch run, found.NeedsNoCode) ∧
    ∀ (result : RunResult) (s : Report.Subject),
      ∀ found ∈ result.findings s, found.NeedsNoCode := by
  refine ⟨?_, ?_, ?_⟩
  · intro found hfound
    have hagrees := d.agrees_produceAfter settings state timeout written run found hfound
    exact hagrees.needsNoCode
  · intro scratch found hfound
    rw [produce_eq_produceAfter] at hfound
    have hagrees := d.agrees_produceAfter settings state timeout _ run found hfound
    exact hagrees.needsNoCode
  · intro result s found hfound
    exact (result.agrees_findings s found hfound).needsNoCode

/-- The first message starts like those of a hint only together with the line that goes on with it,
so there is no fix for it.  The second one is a hint, with a line behind it, and is fixed.  The
third one is about another file, whose name stands in front of the message. -/
theorem fixes_need_no_code_behind_other_lines :
    ∃ (o : Output) (s : Report.Subject) (doc : Document) (short hint foreign : Diagnostic),
      doc = Document.fresh "a" "var x".toList 1 none ∧
      RunResult.findings (.ok o) s = [short, hint, foreign] ∧
      short.message = "use `let` to\n declare: v" ∧ short.code = some "lobster" ∧
      hint.message = "use `let` to declare: x\n  twice" ∧ hint.code = some "prefer-let" ∧
      foreign.message = "use `let` to declare(7): x" ∧ foreign.code = some "prefer-let" ∧
      (short ∈ RunResult.findings (.ok o) s ∧ short.NeedsNoCode) ∧
      (hint ∈ RunResult.findings (.ok o) s ∧ hint.NeedsNoCode) ∧
      (foreign ∈ RunResult.findings (.ok o) s ∧ foreign.NeedsNoCode) ∧
      (QuickFix.actions doc [short.withoutCode] .none).map (·.edits) = [] ∧
      (QuickFix.actions doc [hint.withoutCode] .none).map (·.edits) =
        [[⟨⟨⟨0, 0⟩, ⟨0, 3⟩⟩, "let".toList⟩]] := by
  let s : Report.Subject := ⟨"var x".toList, "x".toList⟩
  let printed : Text :=
    "/x(1): note: use `let` to\n declare: v\n/x(1): note: use `let` to declare: x\n  twice\n".toList
  let more : Text := "use `let` to declare(7): note: x".toList
  let o : Output := ⟨1, Text.encode printed, Text.encode more⟩
  let short : Diagnostic :=
    ⟨⟨⟨0, 0⟩, ⟨0, 5⟩⟩, .information, some "lobster", some "lobster", "use `let` to\n declare: v"⟩
  let hint : Diagnostic :=
    ⟨⟨⟨0, 0⟩, ⟨0, 5⟩⟩, .information, some "prefer-let", some "lobster",
      "use `let` to declare: x\n  twice"⟩
  let foreign : Diagnostic :=
    ⟨⟨⟨0, 0⟩, ⟨0, 0⟩⟩, .information, some "prefer-let", some "lobster",
      "use `let` to declare(7): x"⟩
  have hfindings : RunResult.findings (.ok o) s = [short, hint, foreign] := by
    have hstdout : o.stdoutText = printed := Text.decodeLossy_encode printed
    have hstderr : o.stderrText = more := Text.decodeLossy_encode more
    rw [RunResult.findings, Output.findings, Output.joined, hstdout, hstderr]
    decide +kernel
  have hmem : short ∈ RunResult.findings (.ok o) s ∧ hint ∈ RunResult.findings (.ok o) s ∧
      foreign ∈ RunResult.findings (.ok o) s := by
    rw [hfindings]
    simp
  obtain ⟨-, -, hall⟩ := fixes_need_no_code (Document.fresh "a" "var x".toList 1 none) .default
    .none 9 (.ok (.empty "/t")) fun _ _ => .ok o
  exact ⟨o, s, Document.fresh "a" "var x".toList 1 none, short, hint, foreign, rfl, hfindings, rfl,
    rfl, rfl, rfl, rfl, rfl, ⟨hmem.1, hall _ s short hmem.1⟩, ⟨hmem.2.1, hall _ s hint hmem.2.1⟩,
    ⟨hmem.2.2, hall _ s foreign hmem.2.2⟩, by decide, by decide⟩

end Document

end LobsterServer
