import LobsterServer.Protocol.Encode
import LobsterServer.Rehearsal.Record
import LobsterServer.Server.Step

set_option autoImplicit false

/-!
# Rehearsed sessions

A session is a server together with a scripted compiler and a scripted editor.  After each thing
the editor does, everything that can go on goes on, until the server is at rest: tasks first, then
the editor's answers, then the runs that are not held back, and last the worker.  Each step is a
step of the server itself.
-/

namespace LobsterServer.Rehearsal

/-- A run that has begun and not ended. -/
structure Pending where
  runner : Runner
  play : Play

/-- What a session has recorded since its record was last cleared. -/
structure Log where
  responses : List (Nat × Response)
  published : List (String × List Diagnostic × Option Int)
  shown : List String
  logged : List String
  asked : List String
  runs : List Run

/-- A record without entries. -/
def Log.empty : Log := ⟨[], [], [], [], [], []⟩

/-- A record with one more effect of the server. -/
def Log.note (l : Log) : Effect → Log
  | .respond request response => { l with responses := l.responses ++ [(request, response)] }
  | .publish uri diagnostics version =>
    { l with published := l.published ++ [(uri, diagnostics, version)] }
  | .show message => { l with shown := l.shown ++ [message] }
  | .log message => { l with logged := l.logged ++ [message] }
  | .ask _ uri => { l with asked := l.asked ++ [uri] }
  | .run _ invocation content => { l with runs := l.runs ++ [⟨invocation, content⟩] }

/-- A server with a scripted compiler and a scripted editor. -/
structure Session where
  server : Server
  compiler : Compiler
  /-- how questions about the settings of each document end, by its URI -/
  editor : Table Fetched
  /-- the names of the holds that are released -/
  released : List String
  pending : List Pending
  log : Log
  slots : Slots

namespace Session

/-- A session before its first act. -/
def start (config : Config) (compiler : Compiler) (editor : Table Fetched) : Session :=
  ⟨Server.start config scratchRoot, compiler, editor, [], [], Log.empty, []⟩

/-- The key under which the editor keeps its answer for all other documents. -/
def anyDocument : String := "*"

/-- How a question about a document ends. -/
def answerFor (s : Session) (uri : String) : Fetched :=
  ((s.editor.get? uri).or (s.editor.get? anyDocument)).getD (.ok none)

/-- The run that an effect begins. -/
def pending? (s : Session) : Effect → Option Pending
  | .run runner invocation content => some ⟨runner, s.compiler invocation content⟩
  | _ => none

/-- Records an effect of the server; a run begins. -/
def note (s : Session) (effect : Effect) : Session :=
  { s with
    log := s.log.note effect
    pending := s.pending ++ (s.pending? effect).toList }

/-- Lets an event happen, if it can. -/
def happen (s : Session) (e : Event) : Option Session :=
  (s.server.step e).map fun (server, effects) =>
    effects.foldl note { s with server := server }

/-- Whether the end of a run is not held back. -/
def isFree (s : Session) (p : Pending) : Bool :=
  p.play.hold.all fun name => s.released.contains name

/-- The events by which a task may go on.  Its documents come in the order of the store, and
its files are written unless their names are refused. -/
def eventsOf (s : Session) (number : Nat) : Task → List Event
  | .sweeping => [.sweep number s.server.store.uris]
  | .validating (.resolved _ snapshot _ _) _ =>
    [.advance number, .copied number (Scratch.writeEnd snapshot.uri)]
  | _ => [.advance number]

/-- The events that may come next, in the order in which they are tried. -/
def candidates (s : Session) : List Event :=
  s.server.tasks.flatMap (fun (number, task) => s.eventsOf number task)
    ++ s.server.resolver.openCells.map (fun (cell, uri) => Event.answered cell (s.answerFor uri))
    ++ (s.pending.filter s.isFree).map (fun p => Event.ran p.runner p.play.result)
    ++ [.advanceWorker]

/-- Forgets the run whose end an event is. -/
def dropPending (s : Session) : Event → Session
  | .ran runner _ => { s with pending := s.pending.filter fun p => p.runner ≠ runner }
  | _ => s

/-- Lets the first event happen that can. -/
def next? (s : Session) : Option Session :=
  s.candidates.findSome? fun e => (s.happen e).map fun t => t.dropPending e

/-- Steps a pass can still take. -/
def passSteps : Pass → Nat
  | .due _ => 9
  | .begun _ _ => 8
  | .gated _ _ _ => 7
  | .resolving _ _ _ _ => 6
  | .resolved _ _ _ _ => 4
  | .written _ _ _ => 3
  | .compiling _ _ _ => 2
  | .found _ _ => 1

/-- Steps a task can still take while `documents` documents are open. -/
def taskSteps (documents : Nat) : Task → Nat
  | .arrived _ => 20 + 10 * documents
  | .configured => 6 + 10 * documents
  | .probing _ => 5 + 10 * documents
  | .sweeping => 1 + 10 * documents
  | .validating pass rest => passSteps pass + 10 * rest.length
  | .offering _ _ _ _ => 1

/-- A bound for the steps until the session is at rest: those of all tasks, one answer for each
open cell, and four steps for each probe, also for those that answers will ask for. -/
def bound (s : Session) : Nat :=
  let documents := s.server.store.documents.length
  let tasks := s.server.tasks.foldl (fun n (_, task) => n + taskSteps documents task) 0
  5 * tasks + 5 * s.server.resolver.openCells.length + 4 * s.server.requests.length + 4

/-- Lets events happen until none can, for at most `fuel` events. -/
def settleWithin : Nat → Session → Session
  | 0, s => s
  | fuel + 1, s =>
    match s.next? with
    | some t => settleWithin fuel t
    | none => s

/-- Lets events happen until none can. -/
def settle (s : Session) : Session := settleWithin s.bound s

/-! ## What happens in a session -/

/-- The editor sends a message. -/
def receive (s : Session) (m : Message) : Session := ((s.happen (.arrive m)).getD s).settle

/-- The runs held under a name go on, now and from then on. -/
def release (s : Session) (name : String) : Session :=
  ({ s with released := name :: s.released }).settle

/-- Forgets what the acts so far have recorded. -/
def clear (s : Session) : Session := { s with log := Log.empty }

/-- What may happen in a session. -/
inductive Act where
  /-- the editor sends a message -/
  | receive (message : Message)
  /-- the runs held under a name go on -/
  | release (name : String)
  /-- from now on the compiler follows another script -/
  | instruct (compiler : Compiler)
  /-- from now on the editor answers otherwise -/
  | configure (editor : Table Fetched)

/-- A session after one more act.  Its record is of this act only. -/
def perform (s : Session) : Act → Session
  | .receive message => s.clear.receive message
  | .release name => s.clear.release name
  | .instruct compiler => { s.clear with compiler := compiler }
  | .configure editor => { s.clear with editor := editor }

/-! ## The record of an act -/

/-- Messages that are not done with. -/
def waiting (s : Session) : Nat := s.server.tasks.length

/-- The record of what happened since the last `clear`, with the numbers it gives to
sub-directories.  `request` is the request of the act, if there was one. -/
def report (s : Session) (request : Option Nat) : Session × Json :=
  let runs := sortRuns s.log.runs
  let slots := runs.foldl Slots.note s.slots
  let response :=
    request.bind fun number =>
      (s.log.responses.find? fun entry => entry.1 = number).map fun entry => entry.2.toJson
  let published := s.log.published.mergeSort fun p q => decide (p.1 ≤ q.1)
  let asked := s.log.asked.mergeSort fun p q => decide (Json.quote p ≤ Json.quote q)
  ({ s with slots := slots },
    slots.maskJson (.obj
      [("response", response.getD .null),
       ("waiting", .ofNat s.waiting),
       ("published", .arr (published.map fun (uri, diagnostics, version) =>
          publishParams uri diagnostics version)),
       ("shown", .arr (s.log.shown.map (messageParams 1))),
       ("logged", .arr (s.log.logged.map (messageParams 3))),
       ("asked", .arr (asked.map askParams)),
       ("runs", .arr (runs.map Run.toJson))]))

end Session

end LobsterServer.Rehearsal
