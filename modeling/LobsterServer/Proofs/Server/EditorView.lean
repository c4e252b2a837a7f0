import LobsterServer.Proofs.Server.Arrival
import LobsterServer.Protocol.Encode

set_option autoImplicit false

/-!
# The editor shows what the store holds

The editor shows for each document the list that was last published for it.  A step of the server
does one of four things to the findings of the documents: none, or a document is opened without
any, or one is closed, or a pass settles one; and what it publishes makes up for the difference.
-/

namespace LobsterServer

/-- The list of diagnostics that an effect shows for a document, as the editor reads it. -/
def Effect.list? (uri : String) : Effect → Option Json
  | .publish other diagnostics version =>
    if other = uri then (publishParams other diagnostics version).field? "diagnostics" else none
  | _ => none

/-- Diagnostics as the editor reads them. -/
def editorList (diagnostics : List Diagnostic) : Json := .arr (diagnostics.map Diagnostic.toEditor)

theorem Effect.list?_publish_self (uri : String) (diagnostics : List Diagnostic)
    (version : Option Int) :
    (Effect.publish uri diagnostics version).list? uri = some (editorList diagnostics) := by
  simp [list?, publishParams, Json.field?, editorList]

theorem Effect.list?_publish_of_ne {uri other : String} (h : other ≠ uri)
    (diagnostics : List Diagnostic) (version : Option Int) :
    (Effect.publish other diagnostics version).list? uri = none := by
  simp [list?, h]

namespace Server

variable {s t : Server} {e : Event} {effects : List Effect} {uri : String}

/-! ## The last list published -/

/-- What the editor shows for a document after some effects: the last list published for it, and
nothing at first. -/
def shown (uri : String) (effects : List Effect) : Json :=
  ((effects.filterMap (Effect.list? uri)).getLast?).getD (editorList [])

theorem shown_append_of_silent {more : List Effect} (h : more.filterMap (Effect.list? uri) = []) :
    shown uri (effects ++ more) = shown uri effects := by
  simp [shown, List.filterMap_append, h]

theorem shown_append_publish (diagnostics : List Diagnostic) (version : Option Int) :
    shown uri (effects ++ [.publish uri diagnostics version]) = editorList diagnostics := by
  simp [shown, List.filterMap_append, Effect.list?_publish_self]

/-! ## What a step does to the findings -/

/-- What a step does to the findings of the documents, and what it publishes. -/
inductive Shift (s : Server) (e : Event) (t : Server) : List Effect → Prop
  /-- All findings stay. -/
  | still {effects : List Effect} (findings : ∀ uri, t.store.findings? uri = s.store.findings? uri)
      (silent : ∀ uri, effects.filterMap (Effect.list? uri) = [])
      (takes : ∀ uri isOpen, openAfter isOpen (takes? uri s e).toList = isOpen) :
      Shift s e t effects
  /-- A document is opened. -/
  | opened (uri : String) (text : Text) (version : Int)
      (findings : ∀ other, t.store.findings? other =
        if other = uri then some [] else s.store.findings? other)
      (takes : ∀ other, takes? other s e =
        if other = uri then some (.didOpen uri text version) else none) :
      Shift s e t []
  /-- A document is closed. -/
  | closed (uri : String)
      (findings : ∀ other, t.store.findings? other =
        if other = uri then none else s.store.findings? other)
      (takes : ∀ other, takes? other s e = if other = uri then some (.didClose uri) else none) :
      Shift s e t [.publish uri [] none]
  /-- A pass settles a document. -/
  | settled (ticket : Ticket) (findings : List Diagnostic) (d : Document) {publish : Bool}
      (found : s.store.get? ticket.uri = some d) (version : d.version = ticket.version)
      (documents : ∀ other, t.store.get? other =
        if other = ticket.uri then some (Store.settledWith d findings) else s.store.get? other)
      (publishes : publish = (!d.diagnostics.isEmpty || !findings.isEmpty))
      (takes : ∀ uri, takes? uri s e = none) :
      Shift s e t (if publish then [.publish ticket.uri findings (some ticket.version)] else [])

theorem takes?_of_task {n : Nat} {task : Task} (hn : movedTask e = some n)
    (found : s.task? n = some task) (uri : String) : takes? uri s e = task.notice? uri := by
  simp [takes?, hn, found]

theorem takes?_didOpen {n : Nat} {text : Text} {version : Int} (hn : movedTask e = some n)
    (found : s.task? n = some (.arrived (.didOpen uri text version))) (other : String) :
    takes? other s e = if other = uri then some (.didOpen uri text version) else none := by
  rw [takes?_of_task hn found]
  simp [Task.notice?, Message.notice?, Message.about?, eq_comm]

theorem takes?_didClose {n : Nat} (hn : movedTask e = some n)
    (found : s.task? n = some (.arrived (.didClose uri))) (other : String) :
    takes? other s e = if other = uri then some (.didClose uri) else none := by
  rw [takes?_of_task hn found]
  simp [Task.notice?, Message.notice?, Message.about?, eq_comm]

/-- A change leaves open what is open. -/
theorem openAfter_didChange {n : Nat} {changes : List Change} {version : Int}
    (hn : movedTask e = some n)
    (found : s.task? n = some (.arrived (.didChange uri changes version))) (other : String)
    (isOpen : Bool) : openAfter isOpen (takes? other s e).toList = isOpen := by
  rw [takes?_of_task hn found]
  simp only [Task.notice?, Message.notice?]
  split <;> rfl

theorem filterMap_startProbe (s : Server) (runner : Runner) (executable uri : String) :
    (s.startProbe runner executable).2.filterMap (Effect.list? uri) = [] := by
  unfold startProbe
  split <;> rfl

theorem filterMap_applyVerdict (s : Server) (verdict : Verdict) (uri : String) :
    (s.applyVerdict verdict).2.filterMap (Effect.list? uri) = [] := by
  simp only [applyVerdict]
  cases (s.state.afterProbe verdict).2 <;> rfl

/-- A step that leaves the store alone, publishes nothing and takes in no notification. -/
theorem Shift.of_store (hstore : t.store = s.store)
    (silent : ∀ uri, effects.filterMap (Effect.list? uri) = [])
    (takes : ∀ uri, takes? uri s e = none) : Shift s e t effects :=
  .still (fun uri => by rw [hstore]) silent fun uri isOpen => by rw [takes uri]; rfl

/-- A step of a task that has no notification to take in. -/
theorem Shift.of_task {n : Nat} {task : Task} (found : s.task? n = some task)
    (hn : movedTask e = some n) (hnotice : ∀ uri, task.notice? uri = none)
    (hstore : t.store = s.store) (silent : ∀ uri, effects.filterMap (Effect.list? uri) = []) :
    Shift s e t effects :=
  .of_store hstore silent fun uri => (takes?_of_task hn found uri).trans (hnotice uri)

/-- A step of such a task that changes no findings. -/
theorem Shift.of_findings {n : Nat} {task : Task} (found : s.task? n = some task)
    (hn : movedTask e = some n) (hnotice : ∀ uri, task.notice? uri = none)
    (findings : ∀ uri, t.store.findings? uri = s.store.findings? uri) : Shift s e t [] := by
  refine .still findings (fun _ => rfl) fun uri isOpen => ?_
  rw [takes?_of_task hn found, hnotice]
  rfl

theorem shift_of_stretch (h : Stretch s e t effects) (hs : s.store.WellFormed) :
    Shift s e t effects := by
  cases h with
  | arrived message | workerTook | workerProbeEnded | answered =>
    exact .of_store rfl (fun _ => rfl) fun _ => rfl
  | workerProbed => exact .of_store rfl (filterMap_startProbe s _ _) fun _ => rfl
  | workerJudged => exact .of_store rfl (filterMap_applyVerdict s _) fun _ => rfl
  | greeted task | readied task | parted task | offered task | installed task | kept task
  | asked task | recovered task | probeEnded task | swept task | gated task | resolved task
  | skipped task | unwritable task | wrote task | compiled task | compileEnded task | lost task =>
    exact .of_task task rfl (fun _ => rfl) rfl fun _ => rfl
  | probed task => exact .of_task task rfl (fun _ => rfl) rfl (filterMap_startProbe s _ _)
  | judged task => exact .of_task task rfl (fun _ => rfl) rfl (filterMap_applyVerdict s _)
  | called task started question =>
    refine .of_task task rfl (fun _ => rfl) rfl fun uri => ?_
    subst question
    split <;> rfl
  | @opened n uri text version task =>
    refine .opened uri text version (fun other => ?_) (takes?_didOpen rfl task)
    simp only [moveTask, Store.findings?, Store.get?_openDocument, Document.fresh]
    split <;> rfl
  | changed task accepted =>
    exact .still (Store.findings?_change hs accepted) (fun _ => rfl) (openAfter_didChange rfl task)
  | ignored task => exact .still (fun _ => rfl) (fun _ => rfl) (openAfter_didChange rfl task)
  | @closed n uri task =>
    refine .closed uri (fun other => ?_) (takes?_didClose rfl task)
    simp only [moveTask, Store.findings?, Store.get?_close]
    split <;> rfl
  | @began n uri rest store ticket snapshot task started =>
    have hsame := Store.findings?_startPass hs uri
    rw [started] at hsame
    exact .of_findings task rfl (fun _ => rfl) hsame
  | @missed n uri rest store reason task refused =>
    have hsame := Store.findings?_startPass hs uri
    rw [refused] at hsame
    exact .of_findings task rfl (fun _ => rfl) hsame
  | @settled n ticket findings rest store status publish task finished =>
    obtain ⟨d, hopen, -, hversion, rfl, hpublish⟩ := Store.settled_of_finishPass finished
    have huri : (Store.settledWith d findings).uri = ticket.uri := by
      simpa using hs.uri_eq hopen
    refine .settled ticket findings d hopen hversion (fun other => ?_) hpublish fun uri => ?_
    · simp only [moveTask, Store.get?_put huri]
    · rw [takes?_of_task rfl task]
      rfl
  | @dropped n ticket findings rest store task finished =>
    obtain ⟨rfl, -⟩ := Store.stale_of_finishPass finished
    exact .of_task task rfl (fun _ => rfl) rfl fun _ => rfl

/-! ## Runs -/

/-- Whether a document is open is said by the notifications that have been taken in. -/
theorem Shift.isOpen (h : Shift s e t effects) (uri : String) :
    (t.store.findings? uri).isSome =
      openAfter (s.store.findings? uri).isSome (takes? uri s e).toList := by
  cases h with
  | still findings _ takes => rw [findings, takes]
  | opened other text version findings takes =>
    rw [findings, takes]
    split <;> rfl
  | closed other findings takes =>
    rw [findings, takes]
    split <;> rfl
  | settled ticket found d hfound _ documents _ takes =>
    rw [takes]
    simp only [Store.findings?, documents]
    split
    · rename_i huri
      rw [huri, hfound]
      rfl
    · rfl

/-- A step keeps what the editor shows for a document equal to what is stored for it, unless it
opens a document that is open. -/
theorem Shift.shown (h : Shift s e t effects) {before : List Effect}
    (fresh : ∀ text version, takes? uri s e = some (.didOpen uri text version) →
      s.store.findings? uri = none)
    (hshown : Server.shown uri before = editorList ((s.store.findings? uri).getD [])) :
    Server.shown uri (before ++ effects) = editorList ((t.store.findings? uri).getD []) := by
  cases h with
  | still findings silent _ => rw [shown_append_of_silent (silent uri), hshown, findings]
  | opened other text version findings takes =>
    rw [List.append_nil, hshown, findings]
    split
    · rename_i huri
      subst huri
      rw [fresh text version (by rw [takes, if_pos rfl])]
      rfl
    · rfl
  | closed other findings takes =>
    rw [findings]
    split
    · rename_i huri
      subst huri
      rw [shown_append_publish]
      rfl
    · rename_i huri
      have hne : other ≠ uri := fun h => huri h.symm
      rw [shown_append_of_silent (by simp [Effect.list?_publish_of_ne hne]), hshown]
  | @settled ticket found d publish hfound _ documents publishes _ =>
    by_cases huri : uri = ticket.uri
    · have hnow : t.store.findings? uri = some found := by
        rw [Store.findings?, documents, if_pos huri]
        rfl
      rw [hnow, Option.getD_some]
      cases publish with
      | true =>
        rw [huri]
        exact shown_append_publish found _
      | false =>
        -- nothing is published, since nothing was stored and nothing was found
        have hempty : d.diagnostics = [] ∧ found = [] := by simpa using publishes.symm
        have hbefore : s.store.findings? uri = some [] := by
          rw [Store.findings?, huri, hfound, Option.map_some, hempty.1]
        rw [hbefore] at hshown
        rw [hempty.2]
        simpa using hshown
    · have hnow : t.store.findings? uri = s.store.findings? uri := by
        rw [Store.findings?, documents, if_neg huri]
        rfl
      have hne : ticket.uri ≠ uri := fun hsame => huri hsame.symm
      rw [hnow, ← hshown]
      cases publish with
      | true => exact shown_append_of_silent (by simp [Effect.list?_publish_of_ne hne])
      | false => exact shown_append_of_silent rfl

theorem shift_of_runs {config : Config} {root : String} {es : List Event}
    (run : Runs (Server.start config root) es s effects) {out : List Effect}
    (hstep : s.step e = some (t, out)) : Shift s e t out :=
  shift_of_stretch (stretch_of_step hstep) (wellFormed_of_runs run)

/-- A document is open if the notifications that have been taken in leave it open. -/
theorem isOpen_of_runs {config : Config} {root : String} {es : List Event}
    (run : Runs (Server.start config root) es s effects) (uri : String) :
    (s.store.findings? uri).isSome =
      openAfter false (record (takes? uri) (Server.start config root) es) := by
  refine run.snoc_induction (P := fun es t _ => (t.store.findings? uri).isSome =
    openAfter false (record (takes? uri) (Server.start config root) es)) rfl ?_
  intro es t u a b e hrun ih hstep
  rw [(shift_of_runs hrun hstep).isOpen, record_snoc hrun, openAfter_append, ih]

theorem shown_of_runs {config : Config} {root : String} {es : List Event}
    (run : Runs (Server.start config root) es s effects)
    (legal : Legal false (notices uri es))
    (inTurn : Along InTurn (Server.start config root) es) :
    shown uri effects = editorList ((s.store.findings? uri).getD []) := by
  refine run.snoc_induction (P := fun es t a => Legal false (notices uri es) →
    Along InTurn (Server.start config root) es →
      shown uri a = editorList ((t.store.findings? uri).getD []))
    (fun _ _ => rfl) ?_ legal inTurn
  intro es t u a b e hrun ih hstep hlegal hturns
  have hbefore : Legal false (notices uri es) := by
    rw [notices_snoc] at hlegal
    exact hlegal.before
  refine (shift_of_runs hrun hstep).shown (fun text version htakes => ?_)
    (ih hbefore (hturns.append hrun).1)
  have hnotOpen := (legal_takes hrun hturns hstep htakes hlegal).1
  rw [← isOpen_of_runs hrun] at hnotOpen
  simpa using hnotOpen

/-! ## Published versions -/

/-- The version that an effect publishes diagnostics of a document with. -/
def publishedVersion? (uri : String) : Effect → Option Int
  | .publish other _ version => if other = uri then version else none
  | _ => none

/-- The version of a document after an event. -/
def versionAfter? (uri : String) (s : Server) (e : Event) : Option Int :=
  (s.step e).bind fun next => (next.1.store.get? uri).map Document.version

theorem publishedVersion?_of_silent {effect : Effect} (h : effect.list? uri = none) :
    publishedVersion? uri effect = none := by
  cases effect with
  | publish other diagnostics version =>
    by_cases hother : other = uri
    · subst hother
      rw [Effect.list?_publish_self] at h
      cases h
    · simp [publishedVersion?, hother]
  | _ => rfl

/-- A list that a validation publishes is the list of its document, and carries its version. -/
theorem Shift.published (h : Shift s e t effects) {diagnostics : List Diagnostic}
    {version : Option Int} (hmem : .publish uri diagnostics version ∈ effects)
    (notClosed : takes? uri s e ≠ some (.didClose uri)) :
    ∃ d, t.store.get? uri = some d ∧ version = some d.version ∧ diagnostics = d.diagnostics := by
  cases h with
  | still _ silent _ =>
    have hnone := List.filterMap_eq_nil_iff.mp (silent uri) _ hmem
    rw [Effect.list?_publish_self] at hnone
    cases hnone
  | opened => cases hmem
  | closed other _ takes =>
    simp only [List.mem_singleton, Effect.publish.injEq] at hmem
    obtain ⟨rfl, -, -⟩ := hmem
    exact absurd (by rw [takes, if_pos rfl]) notClosed
  | @settled ticket findings d publish _ hversion documents _ _ =>
    cases publish with
    | true =>
      simp only [if_true, List.mem_singleton, Effect.publish.injEq] at hmem
      obtain ⟨rfl, rfl, rfl⟩ := hmem
      exact ⟨_, by rw [documents, if_pos rfl], by rw [← hversion]; rfl, rfl⟩
    | false => cases hmem

theorem Shift.publishedVersions (h : Shift s e t effects) (hstep : s.step e = some (t, effects))
    (uri : String) :
    (effects.filterMap (publishedVersion? uri)).Sublist (versionAfter? uri s e).toList := by
  cases h with
  | still _ silent _ =>
    have hnone : effects.filterMap (publishedVersion? uri) = [] :=
      List.filterMap_eq_nil_iff.mpr fun effect heffect =>
        publishedVersion?_of_silent (List.filterMap_eq_nil_iff.mp (silent uri) effect heffect)
    rw [hnone]
    exact List.nil_sublist _
  | opened => exact List.nil_sublist _
  | closed other => simp [publishedVersion?]
  | @settled ticket findings d publish _ hversion documents _ _ =>
    cases publish with
    | true =>
      by_cases huri : ticket.uri = uri
      · have hafter : versionAfter? uri s e = some ticket.version := by
          rw [versionAfter?, hstep, Option.bind_some, documents, if_pos huri.symm, ← hversion]
          rfl
        simp [publishedVersion?, huri, hafter]
      · simp [publishedVersion?, huri]
    | false => exact List.nil_sublist _

/-- The versions published for a document are among those that it has had, in their order. -/
theorem publishedVersions_sublist {es : List Event} (run : Runs s es t effects)
    (hs : s.store.WellFormed) (uri : String) :
    (effects.filterMap (publishedVersion? uri)).Sublist (record (versionAfter? uri) s es) := by
  induction run with
  | nil s => exact .slnil
  | @cons s t u e es a b hstep _ ih =>
    have hshift := shift_of_stretch (stretch_of_step hstep) hs
    have hrest := ih (wellFormed_of_step hs hstep)
    rw [List.filterMap_append]
    simp only [record, hstep]
    exact (hshift.publishedVersions hstep uri).append hrest

/-! ## The editor and the store -/

/-- The editor always shows what the store holds.  If each document is opened only when it is not
open, and its notifications are taken in in the order of their arrival, then after every run the
editor shows for it the diagnostics that are stored, and none if it is not open.  What a validation
publishes is the list that its document then has, with the version that it then has; so as long as
the versions of a document do not fall, the versions published for it do not either. -/
theorem editor_shows_the_store {config : Config} {root : String} {es : List Event}
    (run : Runs (Server.start config root) es s effects)
    (legal : ∀ uri, Legal false (notices uri es))
    (inTurn : Along InTurn (Server.start config root) es) :
    (∀ uri d, s.store.get? uri = some d → shown uri effects = editorList d.diagnostics) ∧
    (∀ uri, s.store.get? uri = none → shown uri effects = editorList []) ∧
    (∀ e n pass rest t out, movedTask e = some n → s.task? n = some (.validating pass rest) →
      s.step e = some (t, out) →
      ∀ uri diagnostics version, .publish uri diagnostics version ∈ out →
        ∃ d, t.store.get? uri = some d ∧ version = some d.version ∧
          diagnostics = d.diagnostics) ∧
    (∀ more t out uri, Runs s more t out →
      (record (versionAfter? uri) s more).Pairwise (· ≤ ·) →
      (out.filterMap (publishedVersion? uri)).Pairwise (· ≤ ·)) := by
  refine ⟨?_, ?_, ?_, ?_⟩
  · intro uri d hd
    rw [shown_of_runs run (legal uri) inTurn, Store.findings?, hd]
    rfl
  · intro uri hd
    rw [shown_of_runs run (legal uri) inTurn, Store.findings?, hd]
    rfl
  · intro e n pass rest t out hn found hstep uri diagnostics version hmem
    refine (shift_of_runs run hstep).published hmem ?_
    rw [takes?_of_task hn found]
    exact fun h => by cases h
  · intro more t out uri hmore hversions
    exact hversions.sublist (publishedVersions_sublist hmore (wellFormed_of_runs run) uri)

/-- A document is changed after the compiler has failed on its first text. -/
def changedAfterFailure : List Event :=
  [.arrive (.didOpen "a" ['x'] 1), .advance 0, .advance 0, .advance 0, .advance 0, .advance 0,
    .copied 0 .complete, .advance 0, .arrive (.didChange "a" [⟨none, ['y']⟩] 2),
    .ran (.task 0) (.error (.killed "lobster")), .advance 0, .advance 1]

/-- The document still has the diagnostics of that failure, and the editor shows them. -/
theorem editor_shows_the_store_after_a_failure :
    ∃ s effects d, Runs fresh changedAfterFailure s effects ∧
      (∀ uri, Legal false (notices uri changedAfterFailure)) ∧
      Along InTurn fresh changedAfterFailure ∧
      s.store.get? "a" = some d ∧ d.version = 2 ∧ d.diagnostics ≠ [] ∧
      shown "a" effects = editorList d.diagnostics := by
  have legal : ∀ uri, Legal false (notices uri changedAfterFailure) := by
    intro uri
    by_cases huri : uri = "a"
    · subst huri
      exact ⟨rfl, trivial⟩
    · have hne : "a" ≠ uri := fun h => huri h.symm
      have hnone : notices uri changedAfterFailure = [] := by
        simp [changedAfterFailure, notices, List.filterMap_cons, brings?, Message.notice?,
          Message.about?, hne]
      rw [hnone]
      trivial
  have inTurn : Along InTurn fresh changedAfterFailure :=
    along_inTurn_of_few (by decide +kernel)
  obtain ⟨s, effects, d, run, hd, hversion, hfound⟩ : ∃ s effects d,
      Runs fresh changedAfterFailure s effects ∧
      s.store.get? "a" = some d ∧ d.version = 2 ∧ d.diagnostics ≠ [] :=
    ⟨_, _, _, runs_iff.mpr rfl, rfl, rfl, List.cons_ne_nil _ _⟩
  exact ⟨s, effects, d, run, legal, inTurn, hd, hversion, hfound,
    (editor_shows_the_store run legal inTurn).1 "a" d hd⟩

end Server

end LobsterServer
