import LobsterServer.Compiler.Findings
import LobsterServer.Scratch
import LobsterServer.Settings.Basic

set_option autoImplicit false

/-!
# Producing diagnostics

A document is compiled by writing its scratch copy and running the compiler on that copy.  While
the server is in an error state neither happens and nothing is found.
-/

namespace LobsterServer

/-- A run the server asks for. -/
structure Invocation where
  executable : String
  arguments : List String
  /-- milliseconds after which the run is given up -/
  timeout : Nat
  deriving DecidableEq, Repr

/-- The run that probes an executable: it has no arguments. -/
def Invocation.probe (executable : String) (timeout : Nat) : Invocation := ⟨executable, [], timeout⟩

/-- The run that compiles the scratch copy of a document. -/
def Invocation.compile (settings : Settings) (scratch : Scratch) (doc : Document)
    (timeout : Nat) : Invocation :=
  ⟨settings.executable,
    settings.compileArguments doc.directory (scratch.filePath doc.uri), timeout⟩

/-- What the compiler's report about a document is read against. -/
def Document.subject (d : Document) : Report.Subject :=
  ⟨d.text, (Scratch.relativePath d.uri).toList⟩

/-- The diagnostics for a scratch copy that could not be written. -/
def unwritten (cause : String) : List Diagnostic :=
  [failureDiagnostic
    ("Could not prepare document for the Lobster compiler: " ++ (RunError.io cause).message)]

/-- The diagnostics of a document, where `run` says how each invocation ends, given the scratch
directory at that moment. -/
def Document.produce (d : Document) (settings : Settings) (state : ErrorState) (timeout : Nat)
    (scratch : Scratch) (run : Scratch → Invocation → RunResult) : List Diagnostic :=
  if state.isErrored then []
  else
    match scratch.write d.uri d.text with
    | .error fault => unwritten fault.message
    | .ok scratch => (run scratch (.compile settings scratch d timeout)).findings d.subject

end LobsterServer
