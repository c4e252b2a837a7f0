import LobsterServer.Proofs.Server.Episodes
import LobsterServer.Proofs.Server.Quiet
import LobsterServer.Rehearsal.Bench
import LobsterServer.Rehearsal.Compile

set_option autoImplicit false

/-!
# Rehearsals are runs of the server

A rehearsed session chooses what happens next, but each thing that happens is a step of the server
itself.  So what holds of every run of the server holds of every session, and the record of a
session tells what its run does to the outside.  A document that is compiled without a server comes
to the findings of a pass that nothing disturbs.
-/

namespace LobsterServer.Rehearsal

open Server (Runs shown?)

/-! ## Records of effects -/

/-- The diagnostics that an effect publishes. -/
def published? : Effect → Option (String × List Diagnostic × Option Int)
  | .publish uri diagnostics version => some (uri, diagnostics, version)
  | _ => none

theorem Log.published_foldl_note (effects : List Effect) (l : Log) :
    (effects.foldl note l).published = l.published ++ effects.filterMap published? := by
  induction effects generalizing l with
  | nil => simp
  | cons effect rest ih => cases effect <;> simp [ih, note, published?, List.filterMap_cons]

theorem Log.shown_foldl_note (effects : List Effect) (l : Log) :
    (effects.foldl note l).shown = l.shown ++ effects.filterMap shown? := by
  induction effects generalizing l with
  | nil => simp
  | cons effect rest ih => cases effect <;> simp [ih, note, shown?, List.filterMap_cons]

namespace Session

variable {s t u : Session}

theorem server_foldl_note (effects : List Effect) (s : Session) :
    (effects.foldl note s).server = s.server := by
  induction effects generalizing s with
  | nil => rfl
  | cons effect rest ih => exact ih _

theorem log_foldl_note (effects : List Effect) (s : Session) :
    (effects.foldl note s).log = effects.foldl Log.note s.log := by
  induction effects generalizing s with
  | nil => rfl
  | cons effect rest ih => exact ih _

/-! ## From one moment to a later one -/

/-- From one moment of a session to another its server runs, and what the run does to the outside
is added to the record. -/
def Follows (s t : Session) : Prop :=
  ∃ es effects, Runs s.server es t.server effects ∧ t.log = effects.foldl Log.note s.log

theorem Follows.refl (s : Session) : s.Follows s := ⟨[], [], .nil _, rfl⟩

theorem Follows.trans (first : s.Follows t) (second : t.Follows u) : s.Follows u := by
  obtain ⟨es, a, hfirst, hlog⟩ := first
  obtain ⟨more, b, hsecond, hmore⟩ := second
  exact ⟨es ++ more, a ++ b, hfirst.append hsecond, by rw [List.foldl_append, ← hlog, hmore]⟩

/-- What happens is a step of the server. -/
theorem follows_of_happen {e : Event} (h : s.happen e = some t) : s.Follows t := by
  simp only [happen, Option.map_eq_some_iff] at h
  obtain ⟨⟨server, effects⟩, hstep, rfl⟩ := h
  refine ⟨[e], effects, ?_, log_foldl_note _ _⟩
  rw [server_foldl_note]
  exact .single hstep

theorem follows_of_next? (h : s.next? = some t) : s.Follows t := by
  obtain ⟨e, -, happened⟩ := List.exists_of_findSome?_eq_some h
  obtain ⟨u, hu, rfl⟩ := Option.map_eq_some_iff.mp happened
  have hfollows := follows_of_happen hu
  -- that a run is no longer pending concerns neither the server nor the record
  cases e <;> exact hfollows

theorem follows_settleWithin (fuel : Nat) (s : Session) : s.Follows (settleWithin fuel s) := by
  induction fuel generalizing s with
  | zero => exact .refl s
  | succ fuel ih =>
    unfold settleWithin
    split
    · rename_i t hnext
      exact (follows_of_next? hnext).trans (ih t)
    · exact .refl s

theorem follows_settle (s : Session) : s.Follows s.settle := follows_settleWithin s.bound s

theorem follows_receive (s : Session) (message : Message) : s.Follows (s.receive message) := by
  have harrive : s.Follows ((s.happen (.arrive message)).getD s) := by
    cases h : s.happen (.arrive message) with
    | none => exact .refl s
    | some t => exact follows_of_happen h
  exact harrive.trans (follows_settle _)

theorem follows_release (s : Session) (name : String) : s.Follows (s.release name) :=
  follows_settle { s with released := name :: s.released }

/-! ## Whole sessions -/

/-- An act is a run of the server, and its record tells what this run does to the outside. -/
theorem follows_perform (s : Session) (act : Act) : s.clear.Follows (s.perform act) := by
  cases act with
  | receive message => exact follows_receive _ _
  | release name => exact follows_release _ _
  | instruct compiler => exact ⟨[], [], .nil _, rfl⟩
  | configure editor => exact ⟨[], [], .nil _, rfl⟩

/-- Every session is a run of the server from its start. -/
theorem runs_of_acts (config : Config) (compiler : Compiler) (editor : Table Fetched)
    (acts : List Act) :
    ∃ es effects, Runs (Server.start config scratchRoot) es
      (acts.foldl perform (start config compiler editor)).server effects := by
  suffices hacts : ∀ s : Session,
      ∃ es effects, Runs s.server es (acts.foldl perform s).server effects from
    hacts (start config compiler editor)
  induction acts with
  | nil => exact fun s => ⟨[], [], .nil _⟩
  | cons act rest ih =>
    intro s
    obtain ⟨es, a, hact, -⟩ := follows_perform s act
    obtain ⟨more, b, hrest⟩ := ih (s.perform act)
    exact ⟨es ++ more, a ++ b, hact.append hrest⟩

end Session

/-! ## The bench -/

namespace Bench

open Session (Follows)

theorem follows_started (config : Config) :
    (Session.start config compiler []).Follows (started config) :=
  (Session.follows_receive _ _).trans (Session.follows_receive _ _)

/-- The first entry that a list of the record gets, at once or after what takes long, is the first
effect of its kind in a run of the server. -/
theorem exists_run_of_head? {α : Type} (list : Log → List α) (read : Effect → Option α)
    (records : ∀ (effects : List Effect) (l : Log),
      list (effects.foldl Log.note l) = list l ++ effects.filterMap read)
    (empty : list Log.empty = []) {config : Config} {s : Session} {a : α}
    (follows : (Session.start config compiler []).Follows s)
    (first : (list s.log).head?.or (list (later s).log).head? = some a) :
    ∃ es t effects, Runs (Server.start config scratchRoot) es t effects ∧
      effects.findSome? read = some a := by
  have hread : ∀ t : Session, (Session.start config compiler []).Follows t →
      (list t.log).head? = some a → ∃ es u effects,
        Runs (Server.start config scratchRoot) es u effects ∧ effects.findSome? read = some a := by
    rintro t ⟨es, effects, run, hlog⟩ hhead
    rw [hlog, records] at hhead
    refine ⟨es, t.server, effects, run, ?_⟩
    simpa [Session.start, empty, List.head?_filterMap] using hhead
  rcases Option.or_eq_some_iff.mp first with hnow | ⟨-, hlater⟩
  · exact hread s follows hnow
  · exact hread (later s) (follows.trans (Session.follows_release s longHold)) hlater

/-- The first diagnostics on the bench are the first ones that a run of the server publishes. -/
theorem firstPublished_run {config : Config} {text : Text} {params : Json}
    (h : firstPublished config text = some params) :
    ∃ es t effects uri diagnostics version, Runs (Server.start config scratchRoot) es t effects ∧
      effects.findSome? published? = some (uri, diagnostics, version) ∧
      params = publishParams uri diagnostics version := by
  simp only [firstPublished, Option.map_eq_some_iff] at h
  obtain ⟨⟨uri, diagnostics, version⟩, hfirst, rfl⟩ := h
  obtain ⟨es, t, effects, run, hread⟩ :=
    exists_run_of_head? Log.published published? Log.published_foldl_note rfl
      ((follows_started config).trans (Session.follows_receive _ _)) hfirst
  exact ⟨es, t, effects, uri, diagnostics, version, run, hread, rfl⟩

/-- The first message on the bench is the first one that a run of the server shows. -/
theorem firstShown_run {config : Config} {params : Json} (h : firstShown config = some params) :
    ∃ es t effects message, Runs (Server.start config scratchRoot) es t effects ∧
      effects.findSome? shown? = some message ∧ params = messageParams 1 message := by
  simp only [firstShown, Option.map_eq_some_iff] at h
  obtain ⟨message, hfirst, rfl⟩ := h
  obtain ⟨es, t, effects, run, hread⟩ :=
    exists_run_of_head? Log.shown shown? Log.shown_foldl_note rfl (follows_started config) hfirst
  exact ⟨es, t, effects, message, run, hread, rfl⟩

end Bench

/-! ## Single compiles -/

/-- The run that an effect begins, as it is recorded. -/
def run? : Effect → Option Run
  | .run _ invocation content => some ⟨invocation, content⟩
  | _ => none

/-- A pass whose copy is written runs the compiler on what lies there, and takes its findings. -/
theorem runs_of_written {s : Server} {n : Nat} {ticket : Ticket} {snapshot : Document}
    {invocation : Invocation} {rest : List String}
    (written : s.task? n = some (.validating (.written ticket snapshot invocation) rest))
    (result : RunResult) :
    ∃ t, Runs s [.advance n, .ran (.task n) result] t
        [.run (.task n) invocation (s.scratch.content? (s.scratch.filePath ticket.uri))] ∧
      t.task? n =
        some (.validating (.found ticket (result.findings snapshot.subject)) rest) ∧
      t.scratch = s.scratch := by
  let compiling := s.setTask n (.validating
    (.compiling ticket snapshot (s.scratch.content? (s.scratch.filePath ticket.uri))) rest)
  have hbegun : s.step (.advance n) = some (compiling,
      [.run (.task n) invocation (s.scratch.content? (s.scratch.filePath ticket.uri))]) := by
    simp only [Server.step, written, Option.bind_some, Server.advanceTask, Server.advancePass,
      compiling]
  have htask : compiling.task? n = some (.validating
      (.compiling ticket snapshot (s.scratch.content? (s.scratch.filePath ticket.uri))) rest) :=
    Server.task?_moveTask_self rfl written _
  have hended : compiling.step (.ran (.task n) result) = some (compiling.setTask n
      (.validating (.found ticket (result.findings snapshot.subject)) rest), []) := by
    simp only [Server.step, Server.endRun, htask, Option.map_some]
  exact ⟨_, .cons hbegun (.single hended), Server.task?_moveTask_self rfl htask _, rfl⟩

/-- A pass that knows its settings, and that nothing disturbs, comes to the findings that the
compile of its snapshot alone has, by the same runs, and leaves the same scratch copies. -/
theorem exists_undisturbed_pass {config : Config} {root : String} {es : List Event} {s : Server}
    {effects : List Effect} (run : Runs (Server.start config root) es s effects) {n : Nat}
    {ticket : Ticket} {snapshot : Document} {state : ErrorState} {settings : Settings}
    {rest : List String}
    (resolved : s.task? n = some (.validating (.resolved ticket snapshot state settings) rest))
    (compiler : Compiler) :
    ∃ more t out, Runs s more t out ∧
      t.task? n = some (.validating (.found ticket (snapshot.produce settings state
        s.config.compileTimeout s.scratch (snapshot.scriptedRun compiler))) rest) ∧
      (t.scratch, out.filterMap run?) =
        snapshot.rehearse settings state s.config.compileTimeout s.scratch := by
  have huri : snapshot.uri = ticket.uri :=
    (Server.matched_of_runs run).of_task? resolved ticket snapshot rfl
  cases herrored : state.isErrored with
  | true =>
    -- nothing is written and nothing runs
    have hstep : s.step (.advance n) =
        some (s.setTask n (.validating (.found ticket []) rest), []) := by
      simp only [Server.step, resolved, Option.bind_some, Server.advanceTask, Server.advancePass,
        herrored, if_true]
    refine ⟨_, _, _, .single hstep, ?_, ?_⟩
    · rw [Server.task?_moveTask_self rfl resolved, Document.produce, if_pos herrored]
    · rw [Document.rehearse, if_pos herrored]
      rfl
  | false =>
    cases hname : Scratch.nameFault? (Scratch.fileName snapshot.uri).toList with
    | some fault =>
      have hstep : s.step (.copied n (.refused fault.message none)) = some
          (s.setTask n (.validating (.found ticket (unwritten fault.message)) rest), []) := by
        simp only [Server.step, Server.endCopy, resolved, herrored, Scratch.afterWrite?,
          WriteEnd.text?]
        rfl
      have hwrite : s.scratch.write snapshot.uri snapshot.text = .error fault := by
        simp only [Scratch.write, hname]
      refine ⟨_, _, _, .single hstep, ?_, ?_⟩
      · rw [Server.task?_moveTask_self rfl resolved]
        simp only [Document.produce, herrored, hwrite]
        rfl
      · simp only [Document.rehearse, herrored, hwrite]
        rfl
    | none =>
      obtain ⟨scratch, hscratch⟩ : ∃ scratch,
          scratch = s.scratch.put snapshot.uri snapshot.text := ⟨_, rfl⟩
      obtain ⟨invocation, hinvocation⟩ : ∃ invocation, invocation =
          Invocation.compile settings scratch snapshot s.config.compileTimeout := ⟨_, rfl⟩
      have hwrite : s.scratch.write snapshot.uri snapshot.text = .ok scratch := by
        simp only [Scratch.write, hname, hscratch]
      let written := ({ s with scratch } : Server).setTask n
        (.validating (.written ticket snapshot invocation) rest)
      have hcopied : s.step (.copied n .complete) = some (written, []) := by
        simp only [Server.step, Server.endCopy, resolved, herrored, Scratch.afterWrite?,
          WriteEnd.text?, hname, ← hscratch, hinvocation, written]
        rfl
      have htask : written.task? n =
          some (.validating (.written ticket snapshot invocation) rest) :=
        Server.task?_moveTask_self rfl resolved _
      obtain ⟨t, hrun, hfound, hkept⟩ :=
        runs_of_written htask (snapshot.scriptedRun compiler scratch invocation)
      refine ⟨_, t, _, .cons hcopied hrun, ?_, ?_⟩
      · simp only [hfound, Document.produce, herrored, hwrite, hinvocation]
        rfl
      · simp only [hkept, ← huri, Document.rehearse, herrored, hwrite, hinvocation]
        rfl

end LobsterServer.Rehearsal
