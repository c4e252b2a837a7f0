import LobsterServer.Diagnostic
import LobsterServer.Document.Location
import LobsterServer.Path

set_option autoImplicit false

/-!
# Open documents

An open document holds its text, the version the editor gave it, and what the last finished
validation found.  The editor changes it by replacing stretches of its text, one after another.
-/

namespace LobsterServer

/-- How far the validation of a document has come. -/
inductive Status where
  /-- no validation has started since the document was opened -/
  | unvalidated
  /-- a validation is under way -/
  | validating
  /-- the last validation found something -/
  | hasErrors
  /-- the last validation found nothing -/
  | noErrors
  deriving DecidableEq, Repr, Inhabited

namespace Status

/-- The status that a finished validation with these findings leads to. -/
def ofFindings (findings : List Diagnostic) : Status :=
  if findings.isEmpty then .noErrors else .hasErrors

/-- The name of a status. -/
def name : Status → String
  | .unvalidated => "Unvalidated"
  | .validating => "Validating"
  | .hasErrors => "HasErrors"
  | .noErrors => "NoErrors"

end Status

/-- One change the editor made: the new text of a range, or of the whole document. -/
structure Change where
  range : Option Range
  text : Text
  deriving DecidableEq, Repr

/-- An open document. -/
structure Document where
  uri : String
  /-- where the document lives on this machine, if it does -/
  path : Option String
  text : Text
  /-- the editor's number for this text -/
  version : Int
  status : Status
  /-- findings of the last finished validation -/
  diagnostics : List Diagnostic
  /-- stamp of the latest opening or start of a validation -/
  generation : Nat
  deriving DecidableEq, Repr

namespace Document

/-- A document as it is opened. -/
def fresh (uri : String) (text : Text) (version : Int) (path : Option String) : Document :=
  ⟨uri, path, text, version, .unvalidated, [], 0⟩

/-- The file name the document's URI shows. -/
def fileName (d : Document) : String := String.ofList (Path.shownName d.uri.toList)

/-- The directory the document lives in. -/
def directory (d : Document) : Option String :=
  d.path.bind fun p => (Path.parent? p.toList).map String.ofList

/-- Whether the last finished validation found an error, not only lesser matters. -/
def hasStructuralErrors (d : Document) : Bool := d.diagnostics.any Diagnostic.isError

/-- A text after one change. -/
def applyChange (t : Text) (c : Change) : Text :=
  match c.range with
  | none => c.text
  | some r => t.splice r c.text

/-- The document after the editor's changes, in their order, with the version they lead to. -/
def applyChanges (d : Document) (changes : List Change) (version : Int) : Document :=
  { d with text := changes.foldl applyChange d.text, version := version }

end Document

end LobsterServer
