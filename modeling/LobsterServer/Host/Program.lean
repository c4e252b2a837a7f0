import LobsterServer.Host.Files

set_option autoImplicit false

/-!
# Programs and what they do

A host has a shell and small tools.  A tool is a function of its task; an effort is all it does.
-/

namespace LobsterServer.Host

/-- A program of the host. -/
inductive Program where
  | shell
  | tool (name : String)
  deriving DecidableEq, Repr

/-- The files of the host. -/
abbrev Disk := Files Program

/-- Microseconds since a run began. -/
abbrev Moment := Nat

/-- A moment that is never reached. -/
def never : Moment := 1000000000000000000

/-- What a tool is asked to do. -/
structure Task where
  /-- the name it is called by -/
  name : Raw
  arguments : List Raw
  /-- all that its input holds; nothing if it has no input -/
  input : Option Raw
  /-- whether the input goes on with the same again and again -/
  goesOn : Bool
  disk : Disk
  directory : Place
  environment : List (Raw × Raw)
  /-- how its complaints begin -/
  complaint : Raw

/-- What a tool does. -/
structure Effort where
  code : Nat
  /-- what it writes, each to the stream of a number -/
  writes : List (Nat × Raw)
  /-- how much of its input it reads; nothing if it reads to the end -/
  taken : Option Nat
  disk : Disk
  /-- microseconds it takes -/
  elapsed : Moment

namespace Effort

/-- Ends at once with a code and reads nothing. -/
def exit (t : Task) (code : Nat) : Effort := ⟨code, [], some 0, t.disk, 0⟩

/-- Writes to the standard output. -/
def print (t : Task) (bytes : Raw) : Effort := ⟨0, [(1, bytes)], some 0, t.disk, 0⟩

/-- Fails with a line on the error output. -/
def fail (t : Task) (code : Nat) (message : Raw) : Effort :=
  ⟨code, [(2, closedLine message)], some 0, t.disk, 0⟩

/-- The effort of one that also reads its input to the end. -/
def readingAll (e : Effort) : Effort := { e with taken := none }

/-- Never ends, and writes the same bytes again and again. -/
def endless (t : Task) (bytes : Raw) : Effort :=
  ⟨0, if bytes = [] then [] else [(1, bytes)], some 0, t.disk, never⟩

end Effort

namespace Task

/-- A complaint of a tool about itself. -/
def complain (t : Task) (code : Nat) (message : String) : Effort :=
  .fail t code (t.complaint ++ ascii message)

/-- How many bytes of something endless are enough to show how it goes on. -/
def endlessSample : Nat := 131072

/-- The content of a file that a tool names, and whether it has an end. -/
def readFile (t : Task) (path : Raw) : Except FileFault (Raw × Bool) :=
  match t.disk.lookUp t.directory path with
  | .ok (_, .data content _) => .ok (content, true)
  | .ok (_, .device .null) => .ok ([], true)
  | .ok (_, .device .zero) => .ok (List.replicate endlessSample '\x00', false)
  | .ok (_, .device .full) => .ok (List.replicate endlessSample '\x00', false)
  | .ok (_, .device (.stream 0)) => .ok (t.input.getD [], !t.goesOn)
  | .ok (_, .device .locked) => .error .noDevice
  | .ok (_, .device (.stream _)) => .ok ([], true)
  | .ok (_, .program _) => .ok ([], true)
  | .ok (_, .directory) => .error .isADirectory
  | .error fault => .error fault

end Task

end LobsterServer.Host
