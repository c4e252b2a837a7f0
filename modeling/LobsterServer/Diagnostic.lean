import LobsterServer.Position

set_option autoImplicit false

/-!
# Diagnostics

What the server has to say about a stretch of a document, and the quick fixes it offers for it.
-/

namespace LobsterServer

/-- How grave a diagnostic is. -/
inductive Severity where
  | error
  | warning
  | information
  | hint
  deriving DecidableEq, Repr, Inhabited

namespace Severity

/-- The number editors use for a severity. -/
def number : Severity → Nat
  | .error => 1
  | .warning => 2
  | .information => 3
  | .hint => 4

/-- The word a severity is stored under. -/
def name : Severity → String
  | .error => "error"
  | .warning => "warning"
  | .information => "information"
  | .hint => "hint"

/-- The severity stored under a word. -/
def ofName? : String → Option Severity
  | "error" => some .error
  | "warning" => some .warning
  | "information" => some .information
  | "hint" => some .hint
  | _ => none

/-- The severity an editor means by a number.  A missing number and a number without a meaning
count as an error. -/
def ofNumber : Option Int → Severity
  | some 2 => .warning
  | some 3 => .information
  | some 4 => .hint
  | _ => .error

/-- The severity of a word the compiler prints.  Whatever is no warning and no remark counts as
an error. -/
def ofCompilerWord : String → Severity
  | "warning" => .warning
  | "note" => .information
  | "info" => .information
  | _ => .error

theorem ofNumber_number (s : Severity) : ofNumber (some s.number) = s := by cases s <;> rfl

end Severity

/-- A remark about a stretch of a document. -/
structure Diagnostic where
  range : Range
  severity : Severity
  /-- what kind of remark it is; quick fixes are chosen by it -/
  code : Option String
  /-- who makes the remark -/
  source : Option String
  message : String
  deriving DecidableEq, Repr, Inhabited

namespace Diagnostic

/-- The source of every diagnostic the server makes itself. -/
def ownSource : String := "lobster"

/-- A diagnostic of the server's own, without a code. -/
def own (range : Range) (severity : Severity) (message : String) : Diagnostic :=
  ⟨range, severity, none, some ownSource, message⟩

/-- The diagnostic with the code `code`. -/
def withCode (d : Diagnostic) (code : String) : Diagnostic := { d with code := some code }

/-- Whether a diagnostic reports an error. -/
def isError (d : Diagnostic) : Bool := d.severity = .error

end Diagnostic

/-- A replacement of one stretch of a document. -/
structure TextEdit where
  range : Range
  newText : Text
  deriving DecidableEq, Repr

/-- A quick fix: edits of one document that belong together. -/
structure CodeAction where
  title : String
  /-- the document all edits apply to -/
  uri : String
  edits : List TextEdit
  /-- whether the editor should offer this fix first -/
  isPreferred : Bool
  /-- the diagnostics the fix answers -/
  diagnostics : List Diagnostic
  deriving DecidableEq, Repr

end LobsterServer
