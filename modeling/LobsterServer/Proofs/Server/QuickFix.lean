import LobsterServer.Proofs.Document.QuickFix
import LobsterServer.Proofs.Document.ScratchPath
import LobsterServer.Proofs.Protocol.Echo
import LobsterServer.Proofs.Report.RoundTrip
import LobsterServer.Proofs.Server.Quiet

set_option autoImplicit false

/-!
# A hint on its way to the editor and back

The compiler prints that a variable could be a constant.  The server reads the line, settles the
document with a warning and publishes it; the editor sends the warning back and is offered one fix;
it sends the edit of the fix back as a change.  Positions are written and read at each of these
stops, and all of them mean the same place.  The main statement follows the hint along the whole
way, in the spelling that the editor sees, whatever other messages are worked on meanwhile.
-/

namespace LobsterServer

open Text (FirstOccurrence IsLine unitLength)

/-! ## The hint -/

/-- The report that a variable of line `number` of a file could be a constant. -/
def Report.Remark.hint (file : Text) (number : UInt32) (message : Text) (named : file ≠ [])
    (file_oneLine : '\n' ∉ file) (noMark : ¬ Report.HasForm file)
    (message_oneLine : '\n' ∉ message) : Report.Remark where
  file := file
  number := number
  grade := .warning
  message := message
  continuation := []
  file_ne_nil := named
  file_oneLine := file_oneLine
  file_noMark := noMark
  message_oneLine := message_oneLine
  continuation_oneLine := nofun
  continuation_notBlank := nofun
  continuation_noForm := nofun

/-- The line that says that a variable of line `n` of a file could be a constant. -/
def hintLine (path : Text) (n : Nat) (message : Text) : Text :=
  path ++ '(' :: Text.decimal n ++ "): warning: ".toList ++ message

/-- A run printed one line, to one of its streams, and the line is a hint about line `n` of the
file. -/
def Output.PrintsHint (o : Output) (path : Text) (n : Nat) : Prop :=
  ∃ (message : Text) (terminated : Bool),
    '\n' ∉ message ∧ "use `let` to declare".toList <+: message ∧
      ((o.stdoutText = Text.printed terminated [hintLine path n message] ∧ o.stderrText = []) ∨
        (o.stdoutText = [] ∧ o.stderrText = Text.printed terminated [hintLine path n message]))

/-- A diagnostic says that a variable of line `n` of the text could be a constant. -/
structure Diagnostic.IsHint (d : Diagnostic) (t : Text) (n : Nat) : Prop where
  range_eq : d.range = t.lineRange (UInt32.ofNat (n - 1))
  severity_eq : d.severity = .warning
  code_eq : d.code = some Code.preferLet

/-- A message that starts like a hint does so when it is trimmed. -/
theorem hint_prefix_trimEnd {message : Text} (h : "use `let` to declare".toList <+: message) :
    "use `let` to declare".toList <+: Text.trimEnd message := by
  have hend : "use `let` to declare".toList = "use `let` to declar".toList ++ ['e'] := rfl
  rw [hend] at h ⊢
  exact Text.prefix_trimEnd (by decide) h

/-- A hint about the scratch copy of a document is read as a hint about the document. -/
theorem Output.findings_of_hint {o : Output} {s : Report.Subject} {path : Text} {n : Nat}
    (h : o.PrintsHint path n) (own : Path.endsWith path s.scratchFile = true) (named : path ≠ [])
    (oneLine : '\n' ∉ path) (noMark : ¬ Report.HasForm path) (small : n < 0x100000000) :
    ∃ d, o.findings s = [d] ∧ d.IsHint s.text n := by
  obtain ⟨message, terminated, hmessage, hopening, hstreams⟩ := h
  have hnumber : (UInt32.ofNat n).toNat = n := UInt32.toNat_ofNat_of_lt' small
  obtain ⟨remark, hremark⟩ : ∃ remark, remark =
      Report.Remark.hint path (UInt32.ofNat n) message named oneLine noMark hmessage := ⟨_, rfl⟩
  have hlines : [hintLine path n message] = [remark].flatMap Report.Remark.lines := by
    simp [hremark, Report.Remark.hint, hintLine, Report.Remark.lines, Report.Remark.heading,
      Report.Remark.place, Report.Grade.word, hnumber]
  have hnothing : ([] : Text) = Text.printed false ([].flatMap Report.Remark.lines) := rfl
  have hread : Report.read s o.joined = [remark.diagnostic s] := by
    rw [hlines] at hstreams
    rcases hstreams with ⟨hstdout, hstderr⟩ | ⟨hstdout, hstderr⟩
    · exact Report.read_of_streams s hstdout (hstderr.trans hnothing)
    · exact Report.read_of_streams s (hstdout.trans hnothing) hstderr
  have hfound : o.findings s = [remark.diagnostic s] := by
    rw [Report.findings_of_read, hread]
    exact .inl (by rw [hread]; exact List.cons_ne_nil _ _)
  have hsummary : remark.summary s = Text.trimEnd message := by
    rw [hremark]
    exact if_pos own
  have hprefix := List.isPrefixOf_iff_prefix.mpr (hint_prefix_trimEnd hopening)
  refine ⟨remark.diagnostic s, hfound, ?_, ?_, ?_⟩
  · have hline := Report.ofNat_toNat_sub_one (UInt32.ofNat n)
    rw [hnumber] at hline
    rw [hline, hremark]
    exact if_pos own
  · rw [hremark]
    rfl
  · simp only [Report.Remark.diagnostic, hsummary, hprefix, if_true]
    rfl

/-- A hint that is sent back is answered with one fix, which makes the edit of the line. -/
theorem QuickFix.actions_of_hint {doc : Document} {d : Diagnostic} {n : Nat} {edit : TextEdit}
    {state : ErrorState} (h : d.IsHint doc.text n) (calm : state.isErrored = false)
    (sound : doc.hasStructuralErrors = false)
    (edits : variableToConstant doc.text (doc.text.lineRange (UInt32.ofNat (n - 1))) =
      some [edit]) :
    actions doc [d] state = [⟨"Make variable constant", doc.uri, [edit], true, [d]⟩] := by
  have hlookup : lookup d =
      some ⟨Code.preferLet, "use `let` to declare", "Make variable constant",
        variableToConstant⟩ := by
    rw [lookup, h.code_eq]
    rfl
  simp [actions, action?, calm, sound, hlookup, h.range_eq, edits]

namespace Server

variable {s t u : Server} {es : List Event} {effects : List Effect} {uri : String} {text : Text}
  {d : Diagnostic} {edit : TextEdit}

/-! ## What the editor can do with the hint -/

/-- From here on, while all is quiet about the document, a request for fixes that carries the
diagnostic as it was shown, and that is taken in outside an error state, is answered with exactly
one action, which has exactly this edit for the document. -/
def OffersExactly (s : Server) (uri : String) (shown edit : Json) : Prop :=
  ∀ (params : Json) (request : Nat), params.Echoes uri shown →
    ∃ message, Message.ofEditor? request "textDocument/codeAction" params = some message ∧
      ∀ (es more : List Event) (t u : Server) (a b : List Effect) (n : Nat),
        Runs s es t a → t.task? n = some (.arrived message) → t.state.isErrored = false →
        Runs t (.advance n :: more) u b → (∀ e ∈ more, movedTask e ≠ some n) →
        Quiet uri s (es ++ .advance n :: more) →
        ∃ v response action, u.step (.advance n) = some (v, [.respond request response]) ∧
          response.toJson.field? "result" = some (.arr [action]) ∧
          action.editsFor? uri = some (.arr [edit])

/-- From here on, while all is quiet about the document, a notification that tells of the change
leads to the text. -/
def TurnsInto (s : Server) (uri : String) (change : Json) (text : Text) : Prop :=
  ∀ (params : Json) (request : Nat) (version : Int), params.Tells uri version change →
    ∃ message, Message.ofEditor? request "textDocument/didChange" params = some message ∧
      ∀ (es : List Event) (t : Server) (a : List Effect) (n : Nat),
        Runs s es t a → Quiet uri s es → t.task? n = some (.arrived message) →
        ∃ u doc, t.step (.advance n) = some (u, []) ∧ u.store.get? uri = some doc ∧
          doc.text = text ∧ doc.version = version

/-- A hint about the document as it is is answered with one fix. -/
theorem offer_of_hint (hs : s.store.WellFormed) (holds : s.store.Holds uri text) {n : Nat}
    (hint : d.IsHint text n) {state : ErrorState} (calm : state.isErrored = false)
    (edits : QuickFix.variableToConstant text (text.lineRange (UInt32.ofNat (n - 1))) =
      some [edit]) :
    ∃ action, s.offer uri [d] state = .fixes [action] ∧ action.uri = uri ∧
      action.edits = [edit] := by
  obtain ⟨doc, hdoc, rfl, hsound⟩ := holds
  have hactions := QuickFix.actions_of_hint hint calm hsound edits
  have hrequire : s.store.require uri = .ok doc := by simp [Store.require, hdoc]
  refine ⟨⟨"Make variable constant", doc.uri, [edit], true, [d]⟩, ?_, hs.uri_eq hdoc, rfl⟩
  simp only [offer, calm, hrequire, hactions]
  rfl

theorem offersExactly_of_holds {config : Config} {root : String}
    (run : Runs (Server.start config root) es s effects) (holds : s.store.Holds uri text) {n : Nat}
    (hint : d.IsHint text n)
    (edits : QuickFix.variableToConstant text (text.lineRange (UInt32.ofNat (n - 1))) =
      some [edit]) : s.OffersExactly uri d.toEditor edit.toEditor := by
  intro params request echoes
  have hmessage :=
    Message.ofEditor?_of_echoes echoes (Diagnostic.ofEditor?_toEditor d) request
  refine ⟨_, hmessage, ?_⟩
  intro es more t u a b m hrun asked calm hmore waits quiet
  have holdsLater := holds_of_runs (hrun.append hmore) (wellFormed_of_runs run) holds quiet
  have hwell := wellFormed_of_runs (run.append (hrun.append hmore))
  obtain ⟨action, hoffer, rfl, hedits⟩ := offer_of_hint hwell holdsLater hint calm edits
  cases hmore with
  | cons hstep hrest =>
    simp only [step, asked, Option.bind_some, advanceTask, accept, Option.some.injEq,
      Prod.mk.injEq] at hstep
    obtain ⟨rfl, rfl⟩ := hstep
    have htask := task?_of_runs hrest (task?_moveTask_self rfl asked _) waits
    refine ⟨u.endTask m, .fixes [action], action.toEditor, ?_, rfl, ?_⟩
    · simp only [step, htask, Option.bind_some, advanceTask, hoffer]
    · rw [CodeAction.editsFor?_toEditor, hedits]
      rfl

theorem turnsInto_of_holds {config : Config} {root : String}
    (run : Runs (Server.start config root) es s effects) (holds : s.store.Holds uri text)
    {change : Json} (reads : Change.ofEditor? change = some ⟨some edit.range, edit.newText⟩) :
    s.TurnsInto uri change (text.splice edit.range edit.newText) := by
  intro params request version tells
  refine ⟨_, Message.ofEditor?_of_tells tells reads request, ?_⟩
  intro es t a n hrun quiet changes
  obtain ⟨doc, hdoc, htext, -⟩ := holds_of_runs hrun (wellFormed_of_runs run) holds quiet
  have huri : doc.uri = uri := (wellFormed_of_runs (run.append hrun)).uri_eq hdoc
  obtain ⟨next, hnext⟩ : ∃ next,
      next = doc.applyChanges [⟨some edit.range, edit.newText⟩] version := ⟨_, rfl⟩
  have hchange := Store.change_of_open hdoc [⟨some edit.range, edit.newText⟩] version
  rw [← hnext] at hchange
  have hstep : t.step (.advance n) = some
      (({ t with store := t.store.put next } : Server).setTask n (.validating (.due uri) []),
        []) := by
    simp only [step, changes, Option.bind_some, advanceTask, accept, hchange]
  have hnextUri : next.uri = uri := by rw [hnext, Store.uri_applyChanges, huri]
  refine ⟨_, next, hstep, ?_, ?_, by rw [hnext]; rfl⟩
  · simp only [moveTask, Store.get?_put hnextUri, if_pos]
  · rw [hnext, ← htext]
    rfl

/-! ## The way of the hint -/

/-- The end of a compiler's run hands its findings to the task that waits for it. -/
theorem ends_with_findings {n : Nat} {ticket : Ticket} {snapshot : Document}
    {content : Option Text} {rest : List String} {result : RunResult} {during : List Event}
    (compiling : s.task? n = some (.validating (.compiling ticket snapshot content) rest))
    (ended : Runs s (.ran (.task n) result :: during) u effects)
    (waits : ∀ e ∈ during, movedTask e ≠ some n) :
    u.task? n = some (.validating (.found ticket (result.findings snapshot.subject)) rest) := by
  cases ended with
  | cons hstep hrest =>
    simp only [step, endRun, compiling, Option.map_some, Option.some.injEq, Prod.mk.injEq] at hstep
    obtain ⟨rfl, rfl⟩ := hstep
    exact task?_of_runs hrest (task?_moveTask_self rfl compiling _) waits

/-- A pass that settles its document with some findings publishes them. -/
theorem publishes_findings {n : Nat} {ticket : Ticket} {findings : List Diagnostic}
    {rest : List String} (hs : s.store.WellFormed)
    (found : s.task? n = some (.validating (.found ticket findings) rest)) (hne : findings ≠ [])
    (settles : (settles? s (.advance n)).isSome) :
    ∃ t doc, s.step (.advance n) =
        some (t, [.publish ticket.uri findings (some ticket.version)]) ∧
      s.store.get? ticket.uri = some doc ∧
      t.store.get? ticket.uri = some (Store.settledWith doc findings) := by
  rcases Store.finishPass_cases s.store ticket findings with
    ⟨-, hends⟩ | ⟨doc, hopen, -, -, hends⟩ | ⟨_, -, -, hends⟩
  · simp [settles?, found, hends] at settles
  · have hpublish : (!doc.diagnostics.isEmpty || !findings.isEmpty) = true := by
      simp [hne]
    rw [hpublish] at hends
    have huri : (Store.settledWith doc findings).uri = ticket.uri := by
      simpa using hs.uri_eq hopen
    have hstep : s.step (.advance n) = some
        (({ s with store := s.store.put (Store.settledWith doc findings) } :
          Server).validateNext n rest, [.publish ticket.uri findings (some ticket.version)]) := by
      simp only [step, found, Option.bind_some, advanceTask, advancePass, hends]
    refine ⟨_, doc, hstep, hopen, ?_⟩
    simp only [moveTask, Store.get?_put huri, if_pos]
  · simp [settles?, found, hends] at settles

/-- A line with a `var` in front of its carriage returns is not empty. -/
theorem ne_nil_of_occurs {line : Text} (h : "var".toList <:+: Text.body line) : line ≠ [] := by
  rintro rfl
  exact absurd (List.eq_nil_of_infix_nil h) (by decide)

/-- The compiler's run for a pass prints a hint about a line with a `var`, and the pass settles the
document, which still has the text that the pass was given.  Then the hint is published, and while
all is quiet about the document the editor, if it sends back the diagnostic that it was shown, is
offered exactly one fix.  When the edit of the fix comes back as a change, the text has changed in
one place: the first `var` of the line is `let`. -/
theorem hint_round_trip {config : Config} {root : String} {during : List Event} {a : List Effect}
    {n k : Nat} {ticket : Ticket} {snapshot : Document} {content : Option Text}
    {rest : List String} {above line below : Text} {o : Output}
    (run : Runs (Server.start config root) es s effects)
    (compiling : s.task? n = some (.validating (.compiling ticket snapshot content) rest))
    (small : unitLength snapshot.text < 0x100000000)
    (isLine : IsLine snapshot.text k above line below)
    (occurs : "var".toList <:+: Text.body line)
    (oneLine : '\n' ∉ (s.scratch.filePath ticket.uri).toList)
    (noMark : ¬ Report.HasForm (s.scratch.filePath ticket.uri).toList)
    (printed : o.PrintsHint (s.scratch.filePath ticket.uri).toList k)
    (ended : Runs s (.ran (.task n) (.ok o) :: during) u a)
    (waits : ∀ e ∈ during, movedTask e ≠ some n) (settles : (settles? u (.advance n)).isSome)
    (unchanged : ∀ doc, u.store.get? ticket.uri = some doc → doc.text = snapshot.text) :
    ∃ v d shown edit change before after,
      u.step (.advance n) = some (v, [.publish ticket.uri [d] (some ticket.version)]) ∧
      (publishParams ticket.uri [d] (some ticket.version)).field? "diagnostics" =
        some (.arr [shown]) ∧
      Diagnostic.ofEditor? shown = some d ∧
      v.OffersExactly ticket.uri shown edit ∧
      edit.changeOf? = some change ∧
      FirstOccurrence "var".toList line before after ∧
      v.TurnsInto ticket.uri change (above ++ (before ++ "let".toList ++ after) ++ below) := by
  have hreached := run.append ended
  -- the line that is printed is read as a hint about the text that the pass was given
  have huri : snapshot.uri = ticket.uri :=
    (matched_of_runs run).of_task? compiling ticket snapshot rfl
  have hown : Path.endsWith (s.scratch.filePath ticket.uri).toList snapshot.subject.scratchFile =
      true := by
    simp only [← huri, Document.subject, Scratch.endsWith_filePath]
  have hnamed : (s.scratch.filePath ticket.uri).toList ≠ [] := by simp [Scratch.filePath]
  have hnumber : k < 0x100000000 :=
    Nat.lt_of_le_of_lt (isLine.number_le (ne_nil_of_occurs occurs)) small
  obtain ⟨d, hfindings, hint⟩ :=
    Output.findings_of_hint printed hown hnamed oneLine noMark hnumber
  -- the pass settles the document with the hint
  have hfound := ends_with_findings compiling ended waits
  rw [RunResult.findings, hfindings] at hfound
  obtain ⟨v, doc, hstep, hdoc, hsettled⟩ :=
    publishes_findings (wellFormed_of_runs hreached) hfound (List.cons_ne_nil _ _) settles
  have hholds : v.store.Holds ticket.uri snapshot.text := by
    refine ⟨_, hsettled, unchanged doc hdoc, ?_⟩
    simp [Document.hasStructuralErrors, Store.settledWith, Diagnostic.isError, hint.severity_eq]
  -- the fix and the change that makes it, both as the editor sees them
  obtain ⟨edit, before, after, hfirst, hedits, hspliced⟩ :=
    QuickFix.variableToConstant_line isLine small occurs
  obtain ⟨change, hchange, hreads⟩ := Change.ofEditor?_changeOf edit
  have hturns : v.TurnsInto ticket.uri change
      (snapshot.text.splice edit.range edit.newText) :=
    turnsInto_of_holds (hreached.snoc hstep) hholds hreads
  rw [hspliced] at hturns
  have hoffers : v.OffersExactly ticket.uri d.toEditor edit.toEditor :=
    offersExactly_of_holds (hreached.snoc hstep) hholds hint hedits
  exact ⟨v, d, d.toEditor, edit.toEditor, change, before, after, hstep, rfl,
    Diagnostic.ofEditor?_toEditor d, hoffers, hchange, hfirst, hturns⟩

/-- The keyword stands behind a surrogate pair on a line that ends in a carriage return. -/
theorem hint_round_trip_behind_a_pair :
    ∃ es s effects content rest o u a v d shown edit change, ∃ params : Json,
      Runs fresh (.arrive (.didOpen "file:///a" "x\n𝄞var b\r\n".toList 1) :: es) s effects ∧
      s.task? 0 = some (.validating (.compiling ⟨"file:///a", 1, 2⟩
        ⟨"file:///a", none, "x\n𝄞var b\r\n".toList, 1, .validating, [], 2⟩ content) rest) ∧
      o.PrintsHint (s.scratch.filePath "file:///a").toList 2 ∧
      Runs s [.ran (.task 0) (.ok o)] u a ∧
      u.step (.advance 0) = some (v, [.publish "file:///a" [d] (some 1)]) ∧
      (publishParams "file:///a" [d] (some 1)).field? "diagnostics" = some (.arr [shown]) ∧
      params.Echoes "file:///a" shown ∧
      v.OffersExactly "file:///a" shown edit ∧ edit.changeOf? = some change ∧
      v.TurnsInto "file:///a" change "x\n𝄞let b\r\n".toList := by
  obtain ⟨path, hpath⟩ : ∃ path, path = (Scratch.empty "scratch").filePath "file:///a" := ⟨_, rfl⟩
  obtain ⟨o, printed⟩ : ∃ o : Output, o.PrintsHint path.toList 2 :=
    ⟨⟨0, (Text.printed false [hintLine path.toList 2 "use `let` to declare b".toList]).encode, []⟩,
      "use `let` to declare b".toList, false, by decide, ⟨" b".toList, rfl⟩,
      .inl ⟨Text.decodeLossy_encode _, rfl⟩⟩
  obtain ⟨es, s, effects, content, rest, u, a, run, compiling, hscratch, ended, settles,
      unchanged⟩ : ∃ es s effects content rest u a,
      Runs fresh (.arrive (.didOpen "file:///a" "x\n𝄞var b\r\n".toList 1) :: es) s effects ∧
      s.task? 0 = some (.validating (.compiling ⟨"file:///a", 1, 2⟩
        ⟨"file:///a", none, "x\n𝄞var b\r\n".toList, 1, .validating, [], 2⟩ content) rest) ∧
      s.scratch.filePath "file:///a" = (Scratch.empty "scratch").filePath "file:///a" ∧
      Runs s [.ran (.task 0) (.ok o)] u a ∧ (settles? u (.advance 0)).isSome ∧
      ∀ doc, u.store.get? "file:///a" = some doc → doc.text = "x\n𝄞var b\r\n".toList :=
    ⟨[.advance 0, .advance 0, .advance 0, .advance 0, .advance 0, .copied 0 .complete, .advance 0],
      _, _, _, _, _, _, runs_iff.mpr rfl, rfl, rfl, .single rfl, rfl, fun doc h => by cases h; rfl⟩
  have isLine : IsLine "x\n𝄞var b\r\n".toList 2 "x\n".toList "𝄞var b\r".toList ['\n'] :=
    ⟨rfl, rfl, .inr ⟨['x'], rfl⟩, by decide, .inr ⟨[], rfl⟩⟩
  have first : FirstOccurrence "var".toList "𝄞var b\r".toList ['𝄞'] " b\r".toList :=
    FirstOccurrence.cons ⟨rfl, fun _ _ _ => Nat.zero_le _⟩ (by decide)
  have oneLine : '\n' ∉ path.toList := by
    rw [hpath]
    decide
  have noMark : ¬ Report.HasForm path.toList := by
    rw [hpath]
    exact Report.parse?_eq_none_iff.mp (by decide)
  rw [← hpath] at hscratch
  rw [← hscratch] at printed oneLine noMark
  obtain ⟨v, d, shown, edit, change, before, after, hstep, hshown, -, hoffers, hchange, hfirst,
      hturns⟩ :=
    hint_round_trip run compiling (by decide) isLine ⟨['𝄞'], " b".toList, rfl⟩ oneLine noMark
      printed ended (by simp) settles unchanged
  obtain ⟨rfl, rfl⟩ := hfirst.unique first
  let params : Json := .obj [("textDocument", .obj [("uri", .str "file:///a")]),
    ("context", .obj [("diagnostics", .arr [shown])])]
  have echoes : params.Echoes "file:///a" shown := ⟨rfl, rfl⟩
  exact ⟨es, s, effects, content, rest, o, u, a, v, d, shown, edit, change, params, run, compiling,
    printed, ended, hstep, hshown, echoes, hoffers, hchange, hturns⟩

end Server

end LobsterServer
