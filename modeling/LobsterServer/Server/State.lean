import LobsterServer.Compiler.Produce
import LobsterServer.Json.Basic
import LobsterServer.Settings.Resolver
import LobsterServer.Store

set_option autoImplicit false

/-!
# The state of the server

Messages of the editor are worked on side by side.  Each message in work is a *task*: a value that
says how far its work has come.  A task stops wherever it may be interrupted, before it takes a
lock and while it waits for the editor, for a file or for the compiler; between two stops it works
undisturbed.  All that tasks share lies in the server: the documents, the settings, the error
state and the scratch copies.
-/

namespace LobsterServer

/-- What is fixed when the server starts. -/
structure Config where
  /-- settings under, and before, everything the editor configures -/
  defaults : Settings
  /-- milliseconds a compile may take -/
  compileTimeout : Nat
  /-- milliseconds a probe may take -/
  probeTimeout : Nat
  /-- the path on this machine that the URI of a document names, if it names one -/
  pathOf : String → Option String

/-- The configuration without any options: thirty seconds to compile and ten to probe. -/
def Config.default (pathOf : String → Option String) : Config :=
  ⟨Settings.default, 30000, 10000, pathOf⟩

/-- A message of the editor.  Requests carry the number under which they are answered. -/
inductive Message where
  /-- the editor introduces itself and says whether it answers questions about settings -/
  | hello (request : Nat) (answersConfiguration : Bool)
  /-- the editor is ready for messages from the server -/
  | ready
  /-- the editor is about to end the server -/
  | goodbye (request : Nat)
  | didOpen (uri : String) (text : Text) (version : Int)
  | didChange (uri : String) (changes : List Change) (version : Int)
  | didClose (uri : String)
  /-- the configuration of the editor has changed to this value -/
  | didConfigure (configuration : Json)
  /-- the editor asks for quick fixes for these diagnostics -/
  | quickFixes (request : Nat) (uri : String) (diagnostics : List Diagnostic)

/-- A validation pass of one document, at one of its stops. -/
inductive Pass where
  /-- nothing is done yet -/
  | due (uri : String)
  /-- the document is marked and its snapshot taken -/
  | begun (ticket : Ticket) (snapshot : Document)
  /-- the error state is read -/
  | gated (ticket : Ticket) (snapshot : Document) (state : ErrorState)
  /-- the settings are asked for -/
  | resolving (ticket : Ticket) (snapshot : Document) (state : ErrorState) (call : Call)
  /-- the settings are known -/
  | resolved (ticket : Ticket) (snapshot : Document) (state : ErrorState) (settings : Settings)
  /-- the scratch copy is written -/
  | written (ticket : Ticket) (snapshot : Document) (invocation : Invocation)
  /-- the compiler runs on the scratch copy, which held `content` when the run began -/
  | compiling (ticket : Ticket) (snapshot : Document) (content : Option Text)
  /-- the findings are known -/
  | found (ticket : Ticket) (findings : List Diagnostic)

/-- A probe of an executable, at one of its stops. -/
inductive Probe where
  /-- nothing is done yet -/
  | due (executable : String)
  /-- the executable runs without arguments -/
  | running (executable : String)
  /-- the verdict is known -/
  | judged (verdict : Verdict)
  deriving DecidableEq, Repr

/-- A message in work, at one of its stops. -/
inductive Task where
  /-- the message has arrived and nothing is done yet -/
  | arrived (message : Message)
  /-- a pushed configuration is in force; the error state is not reset yet -/
  | configured
  /-- the executable of a pushed configuration is being probed -/
  | probing (probe : Probe)
  /-- all open documents are about to be validated -/
  | sweeping
  /-- one document is being validated, with those that come after it -/
  | validating (pass : Pass) (rest : List String)
  /-- quick fixes are asked for and the error state is read -/
  | offering (request : Nat) (uri : String) (diagnostics : List Diagnostic) (state : ErrorState)

/-- The background worker that probes executables one after another. -/
inductive Worker where
  /-- the editor is not ready, so the worker has not started -/
  | absent
  /-- the worker waits for a request -/
  | idle
  /-- the worker is at one of the stops of a probe -/
  | busy (probe : Probe)
  deriving DecidableEq, Repr

/-- The server. -/
structure Server where
  config : Config
  store : Store
  resolver : Resolver
  state : ErrorState
  scratch : Scratch
  worker : Worker
  /-- executables the worker has still to probe -/
  requests : List String
  /-- messages in work under their numbers, in the order of arrival -/
  tasks : List (Nat × Task)
  /-- number for the next message -/
  nextTask : Nat

/-- A server as it starts. -/
def Server.start (config : Config) (scratchRoot : String) : Server :=
  ⟨config, Store.empty, Resolver.fresh config.defaults, .none, Scratch.empty scratchRoot, .absent,
    [], [], 0⟩

/-- Who waits for the end of a run. -/
inductive Runner where
  | task (number : Nat)
  | worker
  deriving DecidableEq, Repr

/-- The answer to a request. -/
inductive Response where
  /-- the server's answer to the editor's introduction -/
  | welcome
  /-- an answer without content -/
  | done
  /-- the quick fixes asked for -/
  | fixes (actions : List CodeAction)
  /-- the request makes no sense -/
  | invalid (reason : DocumentError)
  deriving DecidableEq, Repr

/-- What a step of the server does to the outside. -/
inductive Effect where
  /-- answers a request -/
  | respond (request : Nat) (response : Response)
  /-- sends the diagnostics of a document, with the version they belong to -/
  | publish (uri : String) (diagnostics : List Diagnostic) (version : Option Int)
  /-- shows the user an error -/
  | show (message : String)
  /-- writes to the editor's log -/
  | log (message : String)
  /-- asks the editor for the settings of a document; the answer fills the cell -/
  | ask (cell : Nat) (uri : String)
  /-- starts a run; `content` is what the scratch copy holds at that moment -/
  | run (runner : Runner) (invocation : Invocation) (content : Option Text)

/-- What happens next: the world's side of a step. -/
inductive Event where
  /-- a message arrives -/
  | arrive (message : Message)
  /-- a task works on to its next stop -/
  | advance (task : Nat)
  /-- a task turns to the open documents, in an order that only the store's hashing decides -/
  | sweep (task : Nat) (order : List String)
  /-- writing the scratch copy of a task's document ends -/
  | copied (task : Nat) (ending : WriteEnd)
  /-- the worker works on to its next stop -/
  | advanceWorker
  /-- the question of a cell ends -/
  | answered (cell : Nat) (reply : Fetched)
  /-- a run ends -/
  | ran (runner : Runner) (result : RunResult)

end LobsterServer
