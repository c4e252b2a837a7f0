import LobsterServer.Compiler.Run
import LobsterServer.Text.Search

set_option autoImplicit false

/-!
# Probing the executable, and the server's error state

Before an executable is trusted it is run once without arguments.  A Lobster compiler then prints
its banner and exits with 0 or 1; anything else makes the executable invalid.  The first invalid
verdict puts the whole server into an error state, in which it neither compiles nor offers fixes.
No verdict ends that state: only a change of configuration does.
-/

namespace LobsterServer

/-! ## Verdicts -/

/-- What a probe says about an executable. -/
inductive Verdict where
  | valid
  /-- carries the message for the user -/
  | invalid (message : String)
  deriving DecidableEq, Repr

namespace Verdict

/-- What the output of a Lobster compiler starts with. -/
def banner : String := "Lobster programming language"

/-- Judges the output of a run without arguments.  Exit code 1 is how the compiler says that it
printed its usage. -/
def ofOutput (executable : String) (o : Output) : Verdict :=
  let stderr := String.ofList o.stderrText
  let stdout := String.ofList o.stdoutText
  if stderr ≠ "" then
    .invalid ("Lobster (" ++ executable ++ ") returned with output: " ++ stderr)
  else if o.code ≠ 0 ∧ o.code ≠ 1 then
    .invalid ("Lobster (" ++ executable ++ ") failed to execute: exit code " ++ toString o.code)
  else if startsWith banner stdout then .valid
  else
    .invalid ("Lobster (" ++ executable ++
      ") returned with unexpected output (is this a lobster binary?): " ++ stdout)

/-- Judges a run without arguments, whether it finished or not. -/
def ofRun (executable : String) : RunResult → Verdict
  | .ok o => ofOutput executable o
  | .error e => .invalid ("Lobster (" ++ executable ++ ") failed to execute: " ++ e.message)

/-- The verdict about an executable without a name; nothing is run for it. -/
def unset : Verdict := .invalid "Lobster executable path is not set."

/-- Whether there is anything to run for a probe of this executable. -/
def needsRun (executable : String) : Bool := executable ≠ ""

/-- The verdict about an executable, given how its run without arguments would end. -/
def probe (executable : String) (run : RunResult) : Verdict :=
  if needsRun executable then ofRun executable run else unset

end Verdict

/-! ## The error state -/

/-- What is wrong with the whole server. -/
inductive ErrorKind where
  /-- the configured executable is missing or is no Lobster compiler -/
  | invalidExecutable
  deriving DecidableEq, Repr

/-- The name of a kind of error. -/
def ErrorKind.name : ErrorKind → String
  | .invalidExecutable => "InvalidExecutable"

/-- Whether the server can validate documents. -/
inductive ErrorState where
  | none
  | errored (kind : ErrorKind) (message : Option String)
  deriving DecidableEq, Repr

namespace ErrorState

/-- Whether validations and quick fixes have to be left out. -/
def isErrored : ErrorState → Bool
  | .none => false
  | .errored _ _ => true

/-- Without an error there is one state only. -/
theorem eq_none_of_sound {state : ErrorState} (h : state.isErrored = false) : state = .none := by
  cases state with
  | none => rfl
  | errored kind message => cases h

/-- The message of the error, if there is one. -/
def message : ErrorState → Option String
  | .none => Option.none
  | .errored _ message => message

/-- The state after a verdict, and the message to show the user.  Only an invalid verdict in a
state without error changes anything. -/
def afterProbe : ErrorState → Verdict → ErrorState × Option String
  | .none, .invalid message => (.errored .invalidExecutable (some message), some message)
  | state, _ => (state, Option.none)

/-- The state after a change of configuration, before the new executable is probed. -/
def reset : ErrorState := .none

end ErrorState

end LobsterServer
