import LobsterServer.CommandLine.Options
import LobsterServer.Protocol.Encode
import LobsterServer.Text.Line
import LobsterServer.Text.Terminal

set_option autoImplicit false

/-!
# What the command line prints

The explanation of the options, the version, and the messages for arguments that are refused, with
the exit code that goes with each.
-/

namespace LobsterServer.CommandLine

/-- The name of the program. -/
def programName : String := "lobster-ls"

/-- What the program is. -/
def about : String := "Language server for the Lobster programming language"

/-- What an option does. -/
def Switch.explanation : Switch → String
  | .stdio =>
    "Communicate over stdin/stdout (the only transport; accepted for editors that pass it)"
  | .executable => "Lobster compiler executable [default: " ++ Settings.default.executable ++ "]"
  | .importDirectory => "Import search path passed to the compiler (repeatable)"
  | .compileTimeout =>
    "Seconds a compile-only run may take [default: "
      ++ toString (defaultConfig.compileTimeout / 1000) ++ "]"
  | .probeTimeout =>
    "Seconds the executable probe may take [default: "
      ++ toString (defaultConfig.probeTimeout / 1000) ++ "]"
  | .noExperimental => "Turn off experimental language features by default"
  | .help => "Print help"
  | .version => "Print version"

/-- The names of an option, in the left column of the explanation. -/
def Switch.column (o : Switch) : String :=
  let letter :=
    match o.short? with
    | some c => String.ofList [' ', ' ', '-', c, ',', ' ']
    | none => "      "
  letter ++ o.shown

/-- Width of the left column. -/
def columnWidth : Nat :=
  (Switch.all.map fun o => o.column.length).foldl Nat.max 0 + 2

/-- A line of the explanation. -/
def Switch.line (o : Switch) : String :=
  o.column ++ String.ofList (List.replicate (columnWidth - o.column.length) ' ') ++ o.explanation
    ++ "\n"

/-- The explanation of all options. -/
def helpText : String :=
  about ++ "\n\nUsage: " ++ programName ++ " [OPTIONS]\n\nOptions:\n"
    ++ String.join (Switch.all.map Switch.line)

/-- The line that shows the version. -/
def versionText : String := programName ++ " " ++ serverVersion ++ "\n"

/-- What the program prints and how it ends, when no editor talks to it. -/
structure Ending where
  code : Nat
  stdout : String
  stderr : String
  deriving DecidableEq, Repr

/-- An argument as messages quote it: without what a terminal would not show. -/
def quoted (argument : String) : String := String.ofList (Text.Terminal.plain argument.toList)

/-- A refusal whose arguments are as messages quote them. -/
def Refusal.plain : Refusal → Refusal
  | .unexpected argument => .unexpected (quoted argument)
  | .unexpectedValue value option => .unexpectedValue (quoted value) option
  | .invalidValue value option fault => .invalidValue (quoted value) option fault
  | .missingValue option => .missingValue option
  | .repeated option => .repeated option

/-- The message for refused arguments, with a hint where to find the options. -/
def refusalText (r : Refusal) : String :=
  "error: " ++ r.plain.message ++ "\n\nUsage: " ++ programName
    ++ " [OPTIONS]\n\nFor more information, try '--help'.\n"

/-- The ending that a request leads to.  A server whose input ends at once ends without a word. -/
def Request.ending : Request → Ending
  | .serve _ => ⟨0, "", ""⟩
  | .help => ⟨0, helpText, ""⟩
  | .version => ⟨0, versionText, ""⟩
  | .refused r => ⟨2, "", refusalText r⟩

/-- The first line of the messages that reports an error. -/
def Ending.errorLine? (e : Ending) : Option String :=
  ((Text.lines e.stderr.toList).find? fun line =>
    "error:".toList.isPrefixOf line).map String.ofList

end LobsterServer.CommandLine
