import LobsterServer.Rehearsal.Record

set_option autoImplicit false

/-!
# Single compiles

The diagnostics of a document are produced with a scripted compiler, without a server around it.
-/

namespace LobsterServer

namespace Document

/-- How a scripted compiler ends a run on the scratch copy of a document. -/
def scriptedRun (d : Document) (compiler : Rehearsal.Compiler) (scratch : Scratch)
    (i : Invocation) : RunResult :=
  (compiler i (scratch.content? (scratch.filePath d.uri))).result

/-- The scratch directory after the diagnostics of a document have been produced, and the runs
that this took. -/
def rehearse (d : Document) (settings : Settings) (state : ErrorState) (timeout : Nat)
    (scratch : Scratch) : Scratch × List Rehearsal.Run :=
  if state.isErrored then (scratch, [])
  else
    match scratch.write d.uri d.text with
    | .error _ => (scratch, [])
    | .ok scratch =>
      (scratch,
        [⟨.compile settings scratch d timeout, scratch.content? (scratch.filePath d.uri)⟩])

end Document

end LobsterServer
