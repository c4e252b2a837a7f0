import LobsterServer.Proofs.Server.Tasks

set_option autoImplicit false

/-!
# What a step can be

`Stretch` lists all that a step of the server can be, one constructor for each way from one stop to
the next, with what has to hold before, the server after it, and what it does to the outside.  The
main statement says that these are exactly the steps; from there on a proof about steps is a proof
by cases on a stretch.
-/

namespace LobsterServer.Server

/-- The ways from one stop to the next. -/
inductive Stretch (s : Server) : Event → Server → List Effect → Prop where
  | arrived (message : Message) : Stretch s (.arrive message) (s.enqueue message) []
  -- the first stretch of a message
  | greeted {n request : Nat} {answers : Bool}
      (task : s.task? n = some (.arrived (.hello request answers))) :
      Stretch s (.advance n)
        (({ s with resolver := { s.resolver with capability := answers } } : Server).endTask n)
        [.respond request .welcome]
  | readied {n : Nat} (task : s.task? n = some (.arrived .ready)) :
      Stretch s (.advance n)
        (({ s with
            worker := if s.worker = .absent then .idle else s.worker
            requests := if s.resolver.capability then s.requests
              else s.requests ++ [s.resolver.global.executable] } : Server).endTask n)
        [.log "Lobster LSP server initialized"]
  | parted {n request : Nat} (task : s.task? n = some (.arrived (.goodbye request))) :
      Stretch s (.advance n) (s.endTask n) [.respond request .done]
  | opened {n : Nat} {uri : String} {text : Text} {version : Int}
      (task : s.task? n = some (.arrived (.didOpen uri text version))) :
      Stretch s (.advance n)
        (({ s with store := s.store.openDocument (Document.fresh uri text version
            (s.config.pathOf uri)) } : Server).setTask n (.validating (.due uri) [])) []
  | changed {n : Nat} {uri : String} {changes : List Change} {version : Int} {store : Store}
      (task : s.task? n = some (.arrived (.didChange uri changes version)))
      (accepted : s.store.change uri changes version = .ok store) :
      Stretch s (.advance n)
        (({ s with store := store } : Server).setTask n (.validating (.due uri) [])) []
  | ignored {n : Nat} {uri : String} {changes : List Change} {version : Int}
      {reason : DocumentError}
      (task : s.task? n = some (.arrived (.didChange uri changes version)))
      (refused : s.store.change uri changes version = .error reason) :
      Stretch s (.advance n) (s.endTask n) []
  | closed {n : Nat} {uri : String} (task : s.task? n = some (.arrived (.didClose uri))) :
      Stretch s (.advance n)
        (({ s with store := s.store.close uri, resolver := s.resolver.forget uri } :
          Server).endTask n) [.publish uri [] none]
  | installed {n : Nat} {configuration : Json} {choice : Override}
      (task : s.task? n = some (.arrived (.didConfigure configuration)))
      (pushed : Override.ofPush? configuration = some choice) :
      Stretch s (.advance n)
        (({ s with resolver := { s.resolver with
            global := s.config.defaults.overriddenBy choice } } : Server).setTask n .configured) []
  | kept {n : Nat} {configuration : Json}
      (task : s.task? n = some (.arrived (.didConfigure configuration)))
      (malformed : Override.ofPush? configuration = none) :
      Stretch s (.advance n) (s.setTask n .configured) []
  | asked {n request : Nat} {uri : String} {diagnostics : List Diagnostic}
      (task : s.task? n = some (.arrived (.quickFixes request uri diagnostics))) :
      Stretch s (.advance n) (s.setTask n (.offering request uri diagnostics s.state)) []
  | offered {n request : Nat} {uri : String} {diagnostics : List Diagnostic} {state : ErrorState}
      (task : s.task? n = some (.offering request uri diagnostics state)) :
      Stretch s (.advance n) (s.endTask n) [.respond request (s.offer uri diagnostics state)]
  -- a pushed configuration
  | recovered {n : Nat} (task : s.task? n = some .configured) :
      Stretch s (.advance n)
        (({ s with state := ErrorState.reset } : Server).setTask n
          (.probing (.due s.resolver.global.executable))) []
  | probed {n : Nat} {executable : String}
      (task : s.task? n = some (.probing (.due executable))) :
      Stretch s (.advance n) (s.setTask n (.probing (s.startProbe (.task n) executable).1))
        (s.startProbe (.task n) executable).2
  | probeEnded {n : Nat} {executable : String} {result : RunResult}
      (task : s.task? n = some (.probing (.running executable))) :
      Stretch s (.ran (.task n) result)
        (s.setTask n (.probing (.judged (Verdict.ofRun executable result)))) []
  | judged {n : Nat} {verdict : Verdict} (task : s.task? n = some (.probing (.judged verdict))) :
      Stretch s (.advance n) ((s.applyVerdict verdict).1.setTask n .sweeping)
        (s.applyVerdict verdict).2
  | swept {n : Nat} {order : List String} (task : s.task? n = some .sweeping)
      (all : order.Perm s.store.uris) :
      Stretch s (.sweep n order) (s.validateNext n order) []
  -- a validation pass
  | began {n : Nat} {uri : String} {rest : List String} {store : Store} {ticket : Ticket}
      {snapshot : Document} (task : s.task? n = some (.validating (.due uri) rest))
      (started : s.store.startPass uri = (store, .ok (ticket, snapshot))) :
      Stretch s (.advance n)
        (({ s with store := store } : Server).setTask n
          (.validating (.begun ticket snapshot) rest)) []
  | missed {n : Nat} {uri : String} {rest : List String} {store : Store} {reason : DocumentError}
      (task : s.task? n = some (.validating (.due uri) rest))
      (refused : s.store.startPass uri = (store, .error reason)) :
      Stretch s (.advance n) (({ s with store := store } : Server).validateNext n rest) []
  | gated {n : Nat} {ticket : Ticket} {snapshot : Document} {rest : List String}
      (task : s.task? n = some (.validating (.begun ticket snapshot) rest)) :
      Stretch s (.advance n) (s.setTask n (.validating (.gated ticket snapshot s.state) rest)) []
  | called {n : Nat} {ticket : Ticket} {snapshot : Document} {state : ErrorState}
      {rest : List String} {resolver : Resolver} {call : Call} {asks : List Effect}
      (task : s.task? n = some (.validating (.gated ticket snapshot state) rest))
      (started : s.resolver.start ticket.uri snapshot.directory = (resolver, call))
      (question : asks = if resolver.cells.length = s.resolver.cells.length then []
        else [.ask s.resolver.cells.length ticket.uri]) :
      Stretch s (.advance n)
        (({ s with resolver := resolver } : Server).setTask n
          (.validating (.resolving ticket snapshot state call) rest)) asks
  | resolved {n : Nat} {ticket : Ticket} {snapshot : Document} {state : ErrorState} {call : Call}
      {rest : List String} {settings : Settings}
      (task : s.task? n = some (.validating (.resolving ticket snapshot state call) rest))
      (finished : s.resolver.finish call = some settings) :
      Stretch s (.advance n)
        (s.setTask n (.validating (.resolved ticket snapshot state settings) rest)) []
  | skipped {n : Nat} {ticket : Ticket} {snapshot : Document} {state : ErrorState}
      {settings : Settings} {rest : List String}
      (task : s.task? n = some (.validating (.resolved ticket snapshot state settings) rest))
      (errored : state.isErrored = true) :
      Stretch s (.advance n) (s.setTask n (.validating (.found ticket []) rest)) []
  | unwritable {n : Nat} {ticket : Ticket} {snapshot : Document} {state : ErrorState}
      {settings : Settings} {rest : List String} {scratch : Scratch} {cause : String}
      {left : Option Text}
      (task : s.task? n = some (.validating (.resolved ticket snapshot state settings) rest))
      (sound : state.isErrored = false)
      (refused : s.scratch.afterWrite? snapshot.uri snapshot.text (.refused cause left) =
        some scratch) :
      Stretch s (.copied n (.refused cause left))
        (({ s with scratch := scratch } : Server).setTask n
          (.validating (.found ticket (unwritten cause)) rest)) []
  | wrote {n : Nat} {ticket : Ticket} {snapshot : Document} {state : ErrorState}
      {settings : Settings} {rest : List String} {scratch : Scratch}
      (task : s.task? n = some (.validating (.resolved ticket snapshot state settings) rest))
      (sound : state.isErrored = false)
      (ready : s.scratch.afterWrite? snapshot.uri snapshot.text .complete = some scratch) :
      Stretch s (.copied n .complete)
        (({ s with scratch := scratch } : Server).setTask n
          (.validating (.written ticket snapshot
            (.compile settings scratch snapshot s.config.compileTimeout)) rest)) []
  | compiled {n : Nat} {ticket : Ticket} {snapshot : Document} {invocation : Invocation}
      {rest : List String}
      (task : s.task? n = some (.validating (.written ticket snapshot invocation) rest)) :
      Stretch s (.advance n)
        (s.setTask n (.validating (.compiling ticket snapshot
          (s.scratch.content? (s.scratch.filePath ticket.uri))) rest))
        [.run (.task n) invocation (s.scratch.content? (s.scratch.filePath ticket.uri))]
  | compileEnded {n : Nat} {ticket : Ticket} {snapshot : Document} {content : Option Text}
      {rest : List String} {result : RunResult}
      (task : s.task? n = some (.validating (.compiling ticket snapshot content) rest)) :
      Stretch s (.ran (.task n) result)
        (s.setTask n (.validating (.found ticket (result.findings snapshot.subject)) rest)) []
  | settled {n : Nat} {ticket : Ticket} {findings : List Diagnostic} {rest : List String}
      {store : Store} {status : Status} {publish : Bool}
      (task : s.task? n = some (.validating (.found ticket findings) rest))
      (finished : s.store.finishPass ticket findings = .ok (store, .settled status publish)) :
      Stretch s (.advance n) (({ s with store := store } : Server).validateNext n rest)
        (if publish then [.publish ticket.uri findings (some ticket.version)] else [])
  | dropped {n : Nat} {ticket : Ticket} {findings : List Diagnostic} {rest : List String}
      {store : Store} (task : s.task? n = some (.validating (.found ticket findings) rest))
      (finished : s.store.finishPass ticket findings = .ok (store, .stale)) :
      Stretch s (.advance n) (({ s with store := store } : Server).validateNext n rest) []
  | lost {n : Nat} {ticket : Ticket} {findings : List Diagnostic} {rest : List String}
      {reason : DocumentError} (task : s.task? n = some (.validating (.found ticket findings) rest))
      (refused : s.store.finishPass ticket findings = .error reason) :
      Stretch s (.advance n) (s.validateNext n rest) []
  -- the worker
  | workerTook {executable : String} {requests : List String} (idle : s.worker = .idle)
      (next : s.requests = executable :: requests) :
      Stretch s .advanceWorker
        { s with worker := .busy (.due executable), requests := requests } []
  | workerProbed {executable : String} (due : s.worker = .busy (.due executable)) :
      Stretch s .advanceWorker
        { s with worker := .busy (s.startProbe .worker executable).1 }
        (s.startProbe .worker executable).2
  | workerProbeEnded {executable : String} {result : RunResult}
      (running : s.worker = .busy (.running executable)) :
      Stretch s (.ran .worker result)
        { s with worker := .busy (.judged (Verdict.ofRun executable result)) } []
  | workerJudged {verdict : Verdict} (judged : s.worker = .busy (.judged verdict)) :
      Stretch s .advanceWorker { (s.applyVerdict verdict).1 with worker := .idle }
        (s.applyVerdict verdict).2
  -- the editor
  | answered {cell : Nat} {reply : Fetched} {resolver : Resolver} {executable : String}
      (filled : s.resolver.answer cell reply = some (resolver, executable)) :
      Stretch s (.answered cell reply)
        (({ s with resolver := resolver } : Server).requestProbe executable) []

/-! ## The steps are these -/

variable {s t : Server} {effects : List Effect} {n : Nat}

theorem stretch_of_accept {message : Message} (task : s.task? n = some (.arrived message)) :
    Stretch s (.advance n) (s.accept n message).1 (s.accept n message).2 := by
  cases message with
  | hello request answers => exact .greeted task
  | ready =>
    have hready := Stretch.readied task
    by_cases hworker : s.worker = .absent <;> by_cases hcapability : s.resolver.capability <;>
      simpa [accept, requestProbe, hworker, hcapability] using hready
  | goodbye request => exact .parted task
  | didOpen uri text version => exact .opened task
  | didChange uri changes version =>
    cases h : s.store.change uri changes version with
    | ok store =>
      simp only [accept, h]
      exact .changed task h
    | error reason =>
      simp only [accept, h]
      exact .ignored task h
  | didClose uri => exact .closed task
  | didConfigure configuration =>
    cases h : Override.ofPush? configuration with
    | none =>
      simp only [accept, h]
      exact .kept task h
    | some choice =>
      simp only [accept, h]
      exact .installed task h
  | quickFixes request uri diagnostics => exact .asked task

theorem stretch_of_advancePass {pass : Pass} {rest : List String}
    (task : s.task? n = some (.validating pass rest))
    (h : s.advancePass n rest pass = some (t, effects)) :
    Stretch s (.advance n) t effects := by
  cases pass with
  | due uri =>
    rcases hstart : s.store.startPass uri with ⟨store, reason | ⟨ticket, snapshot⟩⟩
    · simp only [advancePass, hstart, Option.some.injEq, Prod.mk.injEq] at h
      obtain ⟨rfl, rfl⟩ := h
      exact .missed task hstart
    · simp only [advancePass, hstart, Option.some.injEq, Prod.mk.injEq] at h
      obtain ⟨rfl, rfl⟩ := h
      exact .began task hstart
  | begun ticket snapshot =>
    simp only [advancePass, Option.some.injEq, Prod.mk.injEq] at h
    obtain ⟨rfl, rfl⟩ := h
    exact .gated task
  | gated ticket snapshot state =>
    simp only [advancePass, Option.some.injEq, Prod.mk.injEq] at h
    obtain ⟨rfl, rfl⟩ := h
    exact .called task rfl rfl
  | resolving ticket snapshot state call =>
    simp only [advancePass, Option.map_eq_some_iff, Prod.mk.injEq] at h
    obtain ⟨settings, hfinish, rfl, rfl⟩ := h
    exact .resolved task hfinish
  | resolved ticket snapshot state settings =>
    cases herrored : state.isErrored with
    | false => simp [advancePass, herrored] at h
    | true =>
      simp only [advancePass, herrored, if_true, Option.some.injEq, Prod.mk.injEq] at h
      obtain ⟨rfl, rfl⟩ := h
      exact .skipped task herrored
  | written ticket snapshot invocation =>
    simp only [advancePass, Option.some.injEq, Prod.mk.injEq] at h
    obtain ⟨rfl, rfl⟩ := h
    exact .compiled task
  | compiling ticket snapshot content => cases h
  | found ticket findings =>
    rcases hfinish : s.store.finishPass ticket findings with reason | ⟨store, ⟨status, publish⟩ | _⟩
    · simp only [advancePass, hfinish, Option.some.injEq, Prod.mk.injEq] at h
      obtain ⟨rfl, rfl⟩ := h
      exact .lost task hfinish
    · have hsettled := Stretch.settled task hfinish
      cases publish with
      | true =>
        simp only [advancePass, hfinish, Option.some.injEq, Prod.mk.injEq] at h
        obtain ⟨rfl, rfl⟩ := h
        exact hsettled
      | false =>
        simp only [advancePass, hfinish, Option.some.injEq, Prod.mk.injEq] at h
        obtain ⟨rfl, rfl⟩ := h
        exact hsettled
    · simp only [advancePass, hfinish, Option.some.injEq, Prod.mk.injEq] at h
      obtain ⟨rfl, rfl⟩ := h
      exact .dropped task hfinish

theorem stretch_of_advanceTask {task : Task} (found : s.task? n = some task)
    (h : s.advanceTask n task = some (t, effects)) : Stretch s (.advance n) t effects := by
  cases task with
  | arrived message =>
    simp only [advanceTask, Option.some.injEq] at h
    have haccept := stretch_of_accept found
    rwa [h] at haccept
  | configured =>
    simp only [advanceTask, Option.some.injEq, Prod.mk.injEq] at h
    obtain ⟨rfl, rfl⟩ := h
    exact .recovered found
  | probing probe =>
    cases probe with
    | due executable =>
      simp only [advanceTask, Option.some.injEq, Prod.mk.injEq] at h
      obtain ⟨rfl, rfl⟩ := h
      exact .probed found
    | running executable => cases h
    | judged verdict =>
      simp only [advanceTask, Option.some.injEq, Prod.mk.injEq] at h
      obtain ⟨rfl, rfl⟩ := h
      exact .judged found
  | sweeping => cases h
  | validating pass rest => exact stretch_of_advancePass found h
  | offering request uri diagnostics state =>
    simp only [advanceTask, Option.some.injEq, Prod.mk.injEq] at h
    obtain ⟨rfl, rfl⟩ := h
    exact .offered found

theorem stretch_of_sweep {order : List String} (h : s.sweep n order = some t) :
    Stretch s (.sweep n order) t [] := by
  unfold sweep at h
  split at h
  · rename_i htask
    split at h
    · rename_i hall
      cases h
      exact .swept htask hall
    · cases h
  · cases h

theorem stretch_of_endCopy {ending : WriteEnd} (h : s.endCopy n ending = some t) :
    Stretch s (.copied n ending) t [] := by
  unfold endCopy at h
  split at h
  · rename_i htask
    split at h
    · cases h
    · rename_i hsound
      simp only [Option.map_eq_some_iff] at h
      obtain ⟨scratch, hwrite, rfl⟩ := h
      cases ending with
      | complete => exact .wrote htask (Bool.eq_false_iff.mpr hsound) hwrite
      | refused cause left => exact .unwritable htask (Bool.eq_false_iff.mpr hsound) hwrite
  · cases h

theorem stretch_of_advanceWorker (h : s.advanceWorker = some (t, effects)) :
    Stretch s .advanceWorker t effects := by
  unfold advanceWorker at h
  split at h
  · rename_i hidle hnext
    simp only [Option.some.injEq, Prod.mk.injEq] at h
    obtain ⟨rfl, rfl⟩ := h
    exact .workerTook hidle hnext
  · rename_i hdue
    simp only [Option.some.injEq, Prod.mk.injEq] at h
    obtain ⟨rfl, rfl⟩ := h
    exact .workerProbed hdue
  · rename_i hjudged
    simp only [Option.some.injEq, Prod.mk.injEq] at h
    obtain ⟨rfl, rfl⟩ := h
    exact .workerJudged hjudged
  · cases h

theorem stretch_of_endRun {result : RunResult} {runner : Runner}
    (h : s.endRun result runner = some t) : Stretch s (.ran runner result) t [] := by
  cases runner with
  | worker =>
    simp only [endRun] at h
    split at h
    · rename_i hrunning
      cases h
      exact .workerProbeEnded hrunning
    · cases h
  | task number =>
    simp only [endRun] at h
    split at h
    · rename_i htask
      cases h
      exact .probeEnded htask
    · rename_i htask
      cases h
      exact .compileEnded htask
    · cases h

/-- A step is one of the listed stretches. -/
theorem stretch_of_step {e : Event} (h : s.step e = some (t, effects)) :
    Stretch s e t effects := by
  cases e with
  | arrive message =>
    simp only [step, Option.some.injEq, Prod.mk.injEq] at h
    obtain ⟨rfl, rfl⟩ := h
    exact .arrived message
  | advance number =>
    simp only [step, Option.bind_eq_some_iff] at h
    obtain ⟨task, htask, hadvance⟩ := h
    exact stretch_of_advanceTask htask hadvance
  | sweep number order =>
    simp only [step, Option.map_eq_some_iff, Prod.mk.injEq] at h
    obtain ⟨u, hsweep, rfl, rfl⟩ := h
    exact stretch_of_sweep hsweep
  | copied number ending =>
    simp only [step, Option.map_eq_some_iff, Prod.mk.injEq] at h
    obtain ⟨u, hend, rfl, rfl⟩ := h
    exact stretch_of_endCopy hend
  | advanceWorker => exact stretch_of_advanceWorker h
  | answered cell reply =>
    simp only [step, Option.map_eq_some_iff, Prod.mk.injEq] at h
    obtain ⟨⟨resolver, executable⟩, hfill, rfl, rfl⟩ := h
    exact .answered hfill
  | ran runner result =>
    simp only [step, Option.map_eq_some_iff, Prod.mk.injEq] at h
    obtain ⟨u, hend, rfl, rfl⟩ := h
    exact stretch_of_endRun hend

/-! ## What a stretch leaves alone -/

/-- The task that an event moves. -/
def movedTask : Event → Option Nat
  | .advance n => some n
  | .sweep n _ => some n
  | .copied n _ => some n
  | .ran (.task n) _ => some n
  | _ => none

/-- A stretch moves one task at most: every other task stays at its stop. -/
theorem task?_of_stretch {e : Event} (h : Stretch s e t effects) {m : Nat} {task : Task}
    (hm : movedTask e ≠ some m) (found : s.task? m = some task) : t.task? m = some task := by
  rw [← found]
  have hne : ∀ {k : Nat}, movedTask e = some k → m ≠ k := fun hk hmk => hm (hmk ▸ hk)
  cases h with
  | arrived message => rw [found, task?_enqueue_of_some found]
  | workerTook | workerProbed | workerProbeEnded | workerJudged | answered => rfl
  | _ => exact task?_moveTask_of_ne rfl _ (hne rfl)

end LobsterServer.Server
