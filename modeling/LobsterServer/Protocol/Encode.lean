import LobsterServer.Json.Basic
import LobsterServer.Server.State
import LobsterServer.Uri

set_option autoImplicit false

/-!
# Writing the server's values

Values are written in two spellings: the stored one, with words for severities, and the editor's,
with numbers.  Fields without a value are left out in both.
-/

namespace LobsterServer

namespace Json

/-- A number. -/
def ofNat (n : Nat) : Json := .int (Int.ofNat n)

/-- A text. -/
def ofText (t : Text) : Json := .str (String.ofList t)

/-- A list of strings. -/
def ofStrings (l : List String) : Json := .arr (l.map .str)

/-- A field that is left out when it has no value. -/
def field (name : String) (value : Option Json) : List (String × Json) :=
  (value.map fun j => (name, j)).toList

end Json

/-- Writes a position. -/
def Position.toJson (p : Position) : Json :=
  .obj [("line", .ofNat p.line.toNat), ("character", .ofNat p.character.toNat)]

/-- Writes a range. -/
def Range.toJson (r : Range) : Json :=
  .obj [("start", r.start.toJson), ("end", r.end.toJson)]

namespace Diagnostic

/-- Writes a diagnostic with a given spelling of its severity. -/
def toJsonWith (severity : Severity → Json) (d : Diagnostic) : Json :=
  .obj ([("range", d.range.toJson), ("severity", severity d.severity)]
    ++ Json.field "code" (d.code.map .str) ++ Json.field "source" (d.source.map .str)
    ++ [("message", .str d.message)])

/-- Writes a diagnostic in its stored spelling. -/
def toJson (d : Diagnostic) : Json := d.toJsonWith fun s => .str s.name

/-- Writes a diagnostic in the editor's spelling. -/
def toEditor (d : Diagnostic) : Json := d.toJsonWith fun s => .ofNat s.number

end Diagnostic

/-- Writes an edit in its stored spelling. -/
def TextEdit.toJson (e : TextEdit) : Json :=
  .obj [("range", e.range.toJson), ("new_text", .ofText e.newText)]

/-- Writes an edit in the editor's spelling. -/
def TextEdit.toEditor (e : TextEdit) : Json :=
  .obj [("range", e.range.toJson), ("newText", .ofText e.newText)]

namespace CodeAction

/-- Writes a quick fix in its stored spelling. -/
def toJson (a : CodeAction) : Json :=
  .obj [("title", .str a.title), ("uri", .str a.uri), ("edits", .arr (a.edits.map TextEdit.toJson)),
    ("is_preferred", .bool a.isPreferred),
    ("diagnostics", .arr (a.diagnostics.map Diagnostic.toJson))]

/-- Writes a quick fix in the editor's spelling. -/
def toEditor (a : CodeAction) : Json :=
  .obj [("title", .str a.title), ("kind", .str "quickfix"),
    ("diagnostics", .arr (a.diagnostics.map Diagnostic.toEditor)),
    ("edit", .obj [("changes", .obj [(a.uri, .arr (a.edits.map TextEdit.toEditor))])]),
    ("isPreferred", .bool a.isPreferred)]

/-- Writes a quick fix in the editor's spelling, if its document has an absolute URI, which is
brought into normal form. -/
def toEditor? (a : CodeAction) : Option Json :=
  (Uri.normal? a.uri).map fun uri => { a with uri }.toEditor

end CodeAction

/-- Writes settings. -/
def Settings.toJson (s : Settings) : Json :=
  .obj [("executable", .str s.executable), ("imports", .ofStrings s.imports),
    ("experimental", .bool s.experimental)]

/-- Writes an override. -/
def Override.toJson (o : Override) : Json :=
  .obj [("executable", (o.executable.map Json.str).getD .null), ("imports", .ofStrings o.imports),
    ("experimental", (o.experimental.map Json.bool).getD .null)]

/-- Writes an error state. -/
def ErrorState.toJson : ErrorState → Json
  | .none => .null
  | .errored kind message =>
    .obj [("kind", .str kind.name), ("message", (message.map Json.str).getD .null)]

/-- Writes what is visible of a document. -/
def Document.toJson (d : Document) : Json :=
  .obj [("uri", .str d.uri), ("text", .ofText d.text), ("version", .int d.version),
    ("state", .str d.status.name), ("diagnostics", .arr (d.diagnostics.map Diagnostic.toJson)),
    ("structural", .bool d.hasStructuralErrors), ("filename", .str d.fileName),
    ("directory", (d.directory.map Json.str).getD .null)]

/-! ## What the server says about itself -/

/-- What the server can do: it takes incremental changes of open documents and offers quick
fixes. -/
def serverCapabilities : Json :=
  .obj [("textDocumentSync", .obj [("openClose", .bool true), ("change", .int 2)]),
    ("codeActionProvider", .obj [("codeActionKinds", .arr [.str "quickfix"])])]

/-- The server's version. -/
def serverVersion : String := "0.1.0"

/-- The server's answer to the editor's introduction. -/
def welcome : Json :=
  .obj [("capabilities", serverCapabilities),
    ("serverInfo", .obj [("name", .str "lobster-lsp"), ("version", .str serverVersion)])]

/-- The code of a request that makes no sense. -/
def invalidParams : Int := -32602

/-- Writes the answer to a request. -/
def Response.toJson : Response → Json
  | .welcome => .obj [("result", LobsterServer.welcome)]
  | .done => .obj [("result", .null)]
  | .fixes actions => .obj [("result", .arr (actions.map CodeAction.toEditor))]
  | .invalid reason =>
    .obj [("error", .obj [("code", .int invalidParams), ("message", .str reason.message)])]

/-- Writes the parameters of published diagnostics. -/
def publishParams (uri : String) (diagnostics : List Diagnostic) (version : Option Int) : Json :=
  .obj ([("uri", .str uri), ("diagnostics", .arr (diagnostics.map Diagnostic.toEditor))]
    ++ Json.field "version" (version.map .int))

/-- Writes the parameters of a message; type 1 is an error and type 3 information. -/
def messageParams (type : Nat) (message : String) : Json :=
  .obj [("type", .ofNat type), ("message", .str message)]

/-- Writes the parameters of a question about the settings of a document. -/
def askParams (uri : String) : Json :=
  .obj [("items", .arr [.obj [("scopeUri", .str uri), ("section", .str "lobster")]])]

end LobsterServer
