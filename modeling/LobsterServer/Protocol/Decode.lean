import LobsterServer.Document.Basic
import LobsterServer.Json.Basic
import LobsterServer.Protocol.Capabilities
import LobsterServer.Server.State
import LobsterServer.Uri

set_option autoImplicit false

/-!
# Reading the editor's values

Two spellings of diagnostics have to be read: the one the server stores, with a word for the
severity, and the editor's, with numbers for severity and code and with fields of its own.  Fields
that the server has no use for are checked for their shape and dropped.
-/

namespace LobsterServer

namespace Json

/-- Reads a text. -/
def toText? (j : Json) : Option Text := j.toString?.map String.toList

/-- Reads any value. -/
def any? (j : Json) : Option Json := some j

end Json

/-- Reads a position. -/
def Position.ofJson? (j : Json) : Option Position := do
  let [line, character] ← j.record? ["line", "character"] false | none
  return ⟨← Json.required? Json.toUInt32? line, ← Json.required? Json.toUInt32? character⟩

/-- Reads a range. -/
def Range.ofJson? (j : Json) : Option Range := do
  let [start, stop] ← j.record? ["start", "end"] false | none
  return ⟨← Json.required? Position.ofJson? start, ← Json.required? Position.ofJson? stop⟩

/-- Reads a severity from its word. -/
def Severity.ofJson? (j : Json) : Option Severity := j.toWord?.bind Severity.ofName?

/-- Reads a diagnostic in its stored spelling. -/
def Diagnostic.ofJson? (j : Json) : Option Diagnostic := do
  let [range, severity, code, source, message] ←
    j.record? ["range", "severity", "code", "source", "message"] false | none
  return ⟨← Json.required? Range.ofJson? range, ← Json.required? Severity.ofJson? severity,
    ← Json.optional? Json.toString? code, ← Json.optional? Json.toString? source,
    ← Json.required? Json.toString? message⟩

/-- Reads an edit in its stored spelling. -/
def TextEdit.ofJson? (j : Json) : Option TextEdit := do
  let [range, text] ← j.record? ["range", "new_text"] false | none
  return ⟨← Json.required? Range.ofJson? range, ← Json.required? Json.toText? text⟩

/-- Reads a quick fix in its stored spelling. -/
def CodeAction.ofJson? (j : Json) : Option CodeAction := do
  let [title, uri, edits, isPreferred, diagnostics] ←
    j.record? ["title", "uri", "edits", "is_preferred", "diagnostics"] false | none
  return ⟨← Json.required? Json.toString? title, ← Json.required? Json.toString? uri,
    ← Json.required? (Json.toList? TextEdit.ofJson?) edits,
    ← Json.required? Json.toBool? isPreferred,
    ← Json.required? (Json.toList? Diagnostic.ofJson?) diagnostics⟩

/-! ## The editor's spelling -/

namespace Json

/-- Reads an absolute URI and brings it into normal form. -/
def toUri? (j : Json) : Option String := j.toString?.bind Uri.normal?

/-- Reads a code, which is a string or a signed 32-bit number. -/
def toCode? : Json → Option String
  | str s => some s
  | j => j.toInt32?.map toString

/-- Checks the link to a description of a code. -/
def codeDescription? (j : Json) : Option Unit := do
  let [href] ← j.record? ["href"] false | none
  let _ ← required? toUri? href

/-- Checks a place in a document. -/
def location? (j : Json) : Option Unit := do
  let [uri, range] ← j.record? ["uri", "range"] false | none
  let _ ← required? toUri? uri
  let _ ← required? Range.ofJson? range

/-- Checks a remark that belongs to a diagnostic. -/
def relatedRemark? (j : Json) : Option Unit := do
  let [place, message] ← j.record? ["location", "message"] false | none
  let _ ← required? location? place
  let _ ← required? toString? message

end Json

/-- Reads a diagnostic in the editor's spelling. -/
def Diagnostic.ofEditor? (j : Json) : Option Diagnostic := do
  let [range, severity, code, description, source, message, related, tags, _] ←
    j.record? ["range", "severity", "code", "codeDescription", "source", "message",
      "relatedInformation", "tags", "data"] false | none
  let range ← Json.required? Range.ofJson? range
  let severity ← Json.optional? Json.toInt32? severity
  let code ← Json.optional? Json.toCode? code
  let _ ← Json.optional? Json.codeDescription? description
  let source ← Json.optional? Json.toString? source
  let message ← Json.required? Json.toString? message
  let _ ← Json.optional? (Json.toList? Json.relatedRemark?) related
  let _ ← Json.optional? (Json.toList? Json.toInt32?) tags
  return ⟨range, Severity.ofNumber severity, code, source, message⟩

/-- Reads a change of a document. -/
def Change.ofEditor? (j : Json) : Option Change := do
  let [range, length, text] ← j.record? ["range", "rangeLength", "text"] false | none
  let range ← Json.optional? Range.ofJson? range
  let _ ← Json.optional? Json.toUInt32? length
  return ⟨range, ← Json.required? Json.toText? text⟩

/-! ## Messages -/

namespace Json

/-- Reads the field of a record whose other fields do not matter. -/
def fieldOf? {α : Type} (names : List String) (name : String) (read : Json → Option α)
    (j : Json) : Option α := do
  let values ← j.record? names false
  let value ← (names.zip values).lookup name
  required? read value

/-- Reads the name of a document. -/
def documentName? : Json → Option String := fieldOf? ["uri"] "uri" toUri?

end Json

/-- Reads the first field of some parameters. -/
def readDocument? {α : Type} (others : List String) (read : Json → Option α) : Json → Option α :=
  Json.fieldOf? ("textDocument" :: others) "textDocument" read

/-- Reads the parameters of a document that was opened. -/
def Message.opened? (j : Json) : Option Message := do
  let [uri, _, version, text] ← j.record? ["uri", "languageId", "version", "text"] false | none
  return .didOpen (← Json.required? Json.toUri? uri) (← Json.required? Json.toText? text)
    (← Json.required? Json.toInt32? version)

/-- Reads the parameters of a document that was changed. -/
def Message.changed? (j : Json) : Option Message := do
  let [document, changes] ← j.record? ["textDocument", "contentChanges"] false | none
  let [uri, version] ← (← document).record? ["uri", "version"] false | none
  return .didChange (← Json.required? Json.toUri? uri)
    (← Json.required? (Json.toList? Change.ofEditor?) changes)
    (← Json.required? Json.toInt32? version)

/-- Reads the parameters of a question for quick fixes. -/
def Message.asked? (request : Nat) (j : Json) : Option Message := do
  let document ← j.field? "textDocument"
  let context ← j.field? "context"
  let diagnostics ←
    Json.fieldOf? ["diagnostics", "only", "triggerKind"] "diagnostics"
      (Json.toList? Diagnostic.ofEditor?) context
  return .quickFixes request (← Json.documentName? document) diagnostics

/-- The fields of an editor's introduction, in order. -/
def introductionFields : List String :=
  ["processId", "rootPath", "rootUri", "initializationOptions", "capabilities", "trace",
    "workspaceFolders", "clientInfo", "locale"]

/-- Reads a message of the editor; a request is answered under the number `request`. -/
def Message.ofEditor? (request : Nat) (method : String) (params : Json) : Option Message :=
  match method with
  | "initialize" =>
    (Json.fieldOf? introductionFields "capabilities" Capabilities.answersConfiguration? params).map
      (.hello request)
  | "initialized" => some .ready
  | "shutdown" => some (.goodbye request)
  | "textDocument/didOpen" => readDocument? [] Message.opened? params
  | "textDocument/didChange" => Message.changed? params
  | "textDocument/didClose" => (readDocument? [] Json.documentName? params).map .didClose
  | "workspace/didChangeConfiguration" =>
    (Json.fieldOf? ["settings"] "settings" Json.any? params).map .didConfigure
  | "textDocument/codeAction" => Message.asked? request params
  | _ => none

end LobsterServer
