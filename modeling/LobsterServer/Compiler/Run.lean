import LobsterServer.Text.Lossy

set_option autoImplicit false

/-!
# Runs of the compiler

A run of an executable ends with an exit code and the bytes it printed, or with the reason why
there is no exit code.
-/

namespace LobsterServer

/-- What a finished run left behind. -/
structure Output where
  code : Int
  stdout : List UInt8
  stderr : List UInt8
  deriving DecidableEq, Repr

namespace Output

/-- Whether the run succeeded. -/
def success (o : Output) : Bool := o.code = 0

/-- The standard output as a text. -/
def stdoutText (o : Output) : Text := Text.decodeLossy o.stdout

/-- The error output as a text. -/
def stderrText (o : Output) : Text := Text.decodeLossy o.stderr

end Output

/-- Why a run has no exit code. -/
inductive RunError where
  /-- the executable could not be started -/
  | spawn (executable cause : String)
  /-- the run was given up after this many milliseconds -/
  | timeout (executable : String) (millis : Nat)
  /-- the run was ended by a signal -/
  | killed (executable : String)
  /-- reading or writing a file failed -/
  | io (cause : String)
  deriving DecidableEq, Repr

/-- The wording of an error.  A time limit is shown in whole seconds, rounded down. -/
def RunError.message : RunError → String
  | .spawn executable cause => "failed to start `" ++ executable ++ "`: " ++ cause
  | .timeout executable millis =>
    "`" ++ executable ++ "` did not finish within " ++ toString (millis / 1000) ++ "s"
  | .killed executable => "`" ++ executable ++ "` was terminated without an exit code"
  | .io cause => "failed to write scratch file: " ++ cause

/-- How a run ended. -/
abbrev RunResult := Except RunError Output

/-- Why the system refuses a file. -/
inductive FileFault where
  /-- a part of the path does not exist -/
  | notFound
  /-- the file may not be used like this -/
  | permissionDenied
  /-- an inner part of the path is no directory -/
  | notADirectory
  /-- the path names a directory -/
  | isADirectory
  /-- there is nothing behind a device -/
  | noDevice
  /-- a name has too many bytes -/
  | nameTooLong
  /-- the path has a NUL character -/
  | nulInPath
  /-- an argument has a NUL character -/
  | nulInArgument
  deriving DecidableEq, Repr

/-- The system's number of a fault, if it is the system that finds it. -/
def FileFault.number? : FileFault → Option Nat
  | .notFound => some 2
  | .noDevice => some 6
  | .permissionDenied => some 13
  | .notADirectory => some 20
  | .isADirectory => some 21
  | .nameTooLong => some 36
  | .nulInPath => none
  | .nulInArgument => none

/-- What is wrong. -/
def FileFault.cause : FileFault → String
  | .notFound => "No such file or directory"
  | .noDevice => "No such device or address"
  | .permissionDenied => "Permission denied"
  | .notADirectory => "Not a directory"
  | .isADirectory => "Is a directory"
  | .nameTooLong => "File name too long"
  | .nulInPath => "file name contained an unexpected NUL byte"
  | .nulInArgument => "nul byte found in provided data"

/-- The wording of a fault, with its number. -/
def FileFault.message (fault : FileFault) : String :=
  match fault.number? with
  | some n => fault.cause ++ " (os error " ++ toString n ++ ")"
  | none => fault.cause

end LobsterServer
