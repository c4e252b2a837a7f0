import LobsterServer.CommandLine.Report

set_option autoImplicit false

/-!
# The command line

Reads the arguments and prints what they ask for.
-/

open LobsterServer

/-- Reads the input until it ends. -/
partial def drain (input : IO.FS.Stream) : IO Unit := do
  let chunk ← input.read 4096
  if chunk.isEmpty then return else drain input

/-- The program. -/
def main (arguments : List String) : IO UInt32 := do
  let request := CommandLine.read arguments
  if let .serve _ := request then drain (← IO.getStdin)
  let ending := request.ending
  IO.print ending.stdout
  IO.eprint ending.stderr
  return UInt32.ofNat ending.code
