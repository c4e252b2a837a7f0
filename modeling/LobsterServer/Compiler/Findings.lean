import LobsterServer.Compiler.Run
import LobsterServer.Report.Reading

set_option autoImplicit false

/-!
# Findings of a run

A finished run is turned into diagnostics: its report lines, or, where it failed without any, one
diagnostic that says so.  A failure is therefore never shown as a document without findings.
-/

namespace LobsterServer

/-- The diagnostic for a compiler that could not be run or that failed without a report. -/
def failureDiagnostic (message : String) : Diagnostic :=
  (Diagnostic.own (Range.point .origin) .error message).withCode Code.compilerFailure

namespace Output

/-- Both streams as one text.  The error output starts on a line of its own. -/
def joined (o : Output) : Text :=
  let stdout := o.stdoutText
  let stderr := o.stderrText
  if stderr.isEmpty then stdout
  else if stdout.isEmpty || stdout.getLast? = some '\n' then stdout ++ stderr
  else stdout ++ '\n' :: stderr

/-- The message for a run that failed without a report. -/
def failureMessage (o : Output) : String :=
  let detail := String.ofList (Text.trim o.joined)
  let exit := "Lobster compiler exited with code " ++ toString o.code
  if detail = "" then exit else exit ++ ": " ++ detail

/-- The diagnostics a finished run leads to. -/
def findings (o : Output) (s : Report.Subject) : List Diagnostic :=
  let reports := Report.read s o.joined
  if reports.isEmpty && !o.success then [failureDiagnostic o.failureMessage] else reports

end Output

/-- The diagnostics a run leads to, however it ended. -/
def RunResult.findings (r : RunResult) (s : Report.Subject) : List Diagnostic :=
  match r with
  | .ok o => o.findings s
  | .error e => [failureDiagnostic ("Lobster compiler invocation failed: " ++ e.message)]

end LobsterServer
