import LobsterServer.Server.State
import LobsterServer.Settings.Decode

set_option autoImplicit false

/-!
# Steps of the server

`Server.step` takes one event and gives the server after it, with what it does to the outside.  An
event that cannot happen has no step.  Every way in which the work on several messages can be
interleaved is a sequence of events, so what holds of all sequences of steps holds however the
messages overlap.
-/

namespace LobsterServer

/-- Where a task with these documents still to validate goes on, if it does not end. -/
def Task.next? : List String → Option Task
  | [] => none
  | uri :: rest => some (.validating (.due uri) rest)

namespace Server

/-- The task with a number. -/
def task? (s : Server) (number : Nat) : Option Task :=
  (s.tasks.find? fun entry => entry.1 = number).map Prod.snd

/-- A table in which a task is at a new stop, or without it if its work is done. -/
def moved (tasks : List (Nat × Task)) (number : Nat) : Option Task → List (Nat × Task)
  | some task => tasks.map fun entry => if entry.1 = number then (number, task) else entry
  | none => tasks.filter fun entry => entry.1 ≠ number

/-- The server with a task at a new stop, or without it.  Nothing else changes. -/
def moveTask (s : Server) (number : Nat) (next : Option Task) : Server :=
  { s with tasks := moved s.tasks number next }

/-- The server with a task at a new stop. -/
abbrev setTask (s : Server) (number : Nat) (task : Task) : Server := s.moveTask number (some task)

/-- The server without a task, whose work is done. -/
abbrev endTask (s : Server) (number : Nat) : Server := s.moveTask number none

/-- A task goes on to the validation of the next document, or ends. -/
abbrev validateNext (s : Server) (number : Nat) (rest : List String) : Server :=
  s.moveTask number (Task.next? rest)

/-- The server with one more executable to probe. -/
def requestProbe (s : Server) (executable : String) : Server :=
  { s with requests := s.requests ++ [executable] }

/-! ## Probes -/

/-- The server after a verdict, and what the user is shown. -/
def applyVerdict (s : Server) (verdict : Verdict) : Server × List Effect :=
  let (state, notice) := s.state.afterProbe verdict
  ({ s with state := state }, notice.toList.map Effect.show)

/-- A probe that is due starts its run; one without an executable to run is judged at once. -/
def startProbe (s : Server) (runner : Runner) (executable : String) : Probe × List Effect :=
  if Verdict.needsRun executable then
    (.running executable,
      [.run runner (Invocation.probe executable s.config.probeTimeout) none])
  else (.judged Verdict.unset, [])

/-! ## The first stretch of each message -/

/-- What a message does before its first stop. -/
def accept (s : Server) (number : Nat) : Message → Server × List Effect
  | .hello request answers =>
    (({ s with resolver := { s.resolver with capability := answers } }).endTask number,
      [.respond request .welcome])
  | .ready =>
    let s := if s.worker = .absent then { s with worker := .idle } else s
    let s := if s.resolver.capability then s else s.requestProbe s.resolver.global.executable
    (s.endTask number, [.log "Lobster LSP server initialized"])
  | .goodbye request => (s.endTask number, [.respond request .done])
  | .didOpen uri text version =>
    let path := s.config.pathOf uri
    let s := { s with store := s.store.openDocument (Document.fresh uri text version path) }
    (s.setTask number (.validating (.due uri) []), [])
  | .didChange uri changes version =>
    match s.store.change uri changes version with
    | .ok store => (({ s with store := store }).setTask number (.validating (.due uri) []), [])
    | .error _ => (s.endTask number, [])
  | .didClose uri =>
    let s := { s with store := s.store.close uri, resolver := s.resolver.forget uri }
    (s.endTask number, [.publish uri [] none])
  | .didConfigure configuration =>
    match Override.ofPush? configuration with
    | some choice =>
      let resolver := { s.resolver with global := s.config.defaults.overriddenBy choice }
      (({ s with resolver := resolver }).setTask number .configured, [])
    | none => (s.setTask number .configured, [])
  | .quickFixes request uri diagnostics =>
    (s.setTask number (.offering request uri diagnostics s.state), [])

/-- The answer to a request for quick fixes, given the error state that was read for it. -/
def offer (s : Server) (uri : String) (diagnostics : List Diagnostic) (state : ErrorState) :
    Response :=
  if state.isErrored then .fixes []
  else
    match s.store.require uri with
    | .ok doc => .fixes (QuickFix.actions doc diagnostics state)
    | .error reason => .invalid reason

/-! ## The stretches of a validation pass -/

/-- What a pass does from one stop to the next.  Where it waits for the editor, for a file or for
the compiler it cannot go on by itself. -/
def advancePass (s : Server) (number : Nat) (rest : List String) :
    Pass → Option (Server × List Effect)
  | .due uri =>
    match s.store.startPass uri with
    | (store, .ok (ticket, snapshot)) =>
      some (({ s with store := store }).setTask number (.validating (.begun ticket snapshot) rest),
        [])
    | (store, .error _) => some (({ s with store := store }).validateNext number rest, [])
  | .begun ticket snapshot =>
    some (s.setTask number (.validating (.gated ticket snapshot s.state) rest), [])
  | .gated ticket snapshot state =>
    let (resolver, call) := s.resolver.start ticket.uri snapshot.directory
    let asks :=
      if resolver.cells.length = s.resolver.cells.length then []
      else [Effect.ask s.resolver.cells.length ticket.uri]
    some (({ s with resolver := resolver }).setTask number
      (.validating (.resolving ticket snapshot state call) rest), asks)
  | .resolving ticket snapshot state call =>
    (s.resolver.finish call).map fun settings =>
      (s.setTask number (.validating (.resolved ticket snapshot state settings) rest), [])
  | .resolved ticket _ state _ =>
    if state.isErrored then some (s.setTask number (.validating (.found ticket []) rest), [])
    else none
  | .written ticket snapshot invocation =>
    let content := s.scratch.content? (s.scratch.filePath ticket.uri)
    some (s.setTask number (.validating (.compiling ticket snapshot content) rest),
      [.run (.task number) invocation content])
  | .compiling _ _ _ => none
  | .found ticket findings =>
    match s.store.finishPass ticket findings with
    | .ok (store, .settled _ true) =>
      some (({ s with store := store }).validateNext number rest,
        [.publish ticket.uri findings (some ticket.version)])
    | .ok (store, _) => some (({ s with store := store }).validateNext number rest, [])
    | .error _ => some (s.validateNext number rest, [])

/-- A pass goes on once writing its scratch copy has ended.  The settings that it compiles with are
those that it knows by then. -/
def endCopy (s : Server) (number : Nat) (ending : WriteEnd) : Option Server :=
  match s.task? number with
  | some (.validating (.resolved ticket snapshot state settings) rest) =>
    if state.isErrored then none
    else
      (s.scratch.afterWrite? snapshot.uri snapshot.text ending).map fun scratch =>
        let next : Pass :=
          match ending with
          | .complete => .written ticket snapshot
            (.compile settings scratch snapshot s.config.compileTimeout)
          | .refused cause _ => .found ticket (unwritten cause)
        ({ s with scratch := scratch }).setTask number (.validating next rest)
  | _ => none

/-! ## Tasks and the worker -/

/-- What a task does from one stop to the next. -/
def advanceTask (s : Server) (number : Nat) : Task → Option (Server × List Effect)
  | .arrived message => some (s.accept number message)
  | .configured =>
    some (({ s with state := ErrorState.reset }).setTask number
      (.probing (.due s.resolver.global.executable)), [])
  | .probing (.due executable) =>
    let (probe, effects) := s.startProbe (.task number) executable
    some (s.setTask number (.probing probe), effects)
  | .probing (.running _) => none
  | .probing (.judged verdict) =>
    let (s, effects) := s.applyVerdict verdict
    some (s.setTask number .sweeping, effects)
  | .sweeping => none
  | .validating pass rest => s.advancePass number rest pass
  | .offering request uri diagnostics state =>
    some (s.endTask number, [.respond request (s.offer uri diagnostics state)])

/-- A task turns to all open documents, in one of their orders. -/
def sweep (s : Server) (number : Nat) (order : List String) : Option Server :=
  match s.task? number with
  | some .sweeping => if order.Perm s.store.uris then some (s.validateNext number order) else none
  | _ => none

/-- What the worker does from one stop to the next. -/
def advanceWorker (s : Server) : Option (Server × List Effect) :=
  match s.worker, s.requests with
  | .idle, executable :: requests =>
    some ({ s with worker := .busy (.due executable), requests := requests }, [])
  | .busy (.due executable), _ =>
    let (probe, effects) := s.startProbe .worker executable
    some ({ s with worker := .busy probe }, effects)
  | .busy (.judged verdict), _ =>
    let (s, effects) := s.applyVerdict verdict
    some ({ s with worker := .idle }, effects)
  | _, _ => none

/-- The end of a run, for whoever waits for it. -/
def endRun (s : Server) (result : RunResult) : Runner → Option Server
  | .worker =>
    match s.worker with
    | .busy (.running executable) =>
      some { s with worker := .busy (.judged (Verdict.ofRun executable result)) }
    | _ => none
  | .task number =>
    match s.task? number with
    | some (.probing (.running executable)) =>
      some (s.setTask number (.probing (.judged (Verdict.ofRun executable result))))
    | some (.validating (.compiling ticket snapshot _) rest) =>
      some (s.setTask number
        (.validating (.found ticket (result.findings snapshot.subject)) rest))
    | _ => none

/-- One step of the server. -/
def step (s : Server) : Event → Option (Server × List Effect)
  | .arrive message =>
    some ({ s with
      tasks := s.tasks ++ [(s.nextTask, .arrived message)]
      nextTask := s.nextTask + 1 }, [])
  | .advance number => (s.task? number).bind (s.advanceTask number)
  | .sweep number order => (s.sweep number order).map fun s => (s, [])
  | .copied number ending => (s.endCopy number ending).map fun s => (s, [])
  | .advanceWorker => s.advanceWorker
  | .answered cell reply =>
    (s.resolver.answer cell reply).map fun (resolver, executable) =>
      (({ s with resolver := resolver }).requestProbe executable, [])
  | .ran runner result => (s.endRun result runner).map fun s => (s, [])

/-! ## Runs -/

/-- The server after some events, one after another, and what they do to the outside, if all of
them can happen. -/
def run? (s : Server) : List Event → Option (Server × List Effect)
  | [] => some (s, [])
  | e :: es =>
    match s.step e with
    | none => none
    | some (t, effects) => (run? t es).map fun (u, more) => (u, effects ++ more)

/-- A server that does some events, one after another, and what they do to the outside. -/
inductive Runs : Server → List Event → Server → List Effect → Prop where
  | nil (s : Server) : Runs s [] s []
  | cons {s t u : Server} {e : Event} {es : List Event} {a b : List Effect} :
      s.step e = some (t, a) → Runs t es u b → Runs s (e :: es) u (a ++ b)

end Server

end LobsterServer
