import LobsterServer.Document.Basic
import LobsterServer.ErrorState

set_option autoImplicit false

/-!
# Quick fixes

A quick fix is found by the code of a diagnostic.  A diagnostic without one of the known codes is
classified by its message: the same table says how the messages of each kind start.
-/

namespace LobsterServer

namespace Code

/-- A `var` that is never assigned again. -/
def preferLet : String := "prefer-let"

/-- Any other report of the compiler. -/
def compiler : String := "lobster"

/-- The compiler could not be run, or it failed without a report. -/
def compilerFailure : String := "compiler-failure"

end Code

/-- One kind of diagnostic that can be fixed. -/
structure QuickFix where
  code : String
  /-- what the messages of this kind start with -/
  opening : String
  title : String
  /-- the edits for a diagnostic at a range of a text, if the fix applies there -/
  edits : Text → Range → Option (List TextEdit)

namespace QuickFix

/-- The keyword the fix replaces. -/
def variableKeyword : Text := "var".toList

/-- The keyword the fix writes. -/
def constantKeyword : Text := "let".toList

/-- Replaces the first `var` in a range with `let`. -/
def variableToConstant (t : Text) (r : Range) : Option (List TextEdit) :=
  (Text.find? variableKeyword (t.slice r)).map fun i =>
    let start := t.index r.start + i
    [⟨⟨t.position start, t.position (start + variableKeyword.length)⟩, constantKeyword⟩]

/-- All quick fixes. -/
def all : List QuickFix :=
  [⟨Code.preferLet, "use `let` to declare", "Make variable constant", variableToConstant⟩]

/-- The quick fix for the messages that start like `message`. -/
def ofMessage? (message : String) : Option QuickFix :=
  all.find? fun fix => startsWith fix.opening message

/-- The quick fix for a code. -/
def ofCode? (code : String) : Option QuickFix := all.find? fun fix => fix.code = code

/-- The code of a message that can be fixed. -/
def classify (message : String) : Option String := (ofMessage? message).map (·.code)

/-- The quick fix for a diagnostic: by its code, else by its message. -/
def lookup (d : Diagnostic) : Option QuickFix := (d.code.bind ofCode?).or (ofMessage? d.message)

/-- The action that answers one diagnostic of a document. -/
def action? (doc : Document) (d : Diagnostic) : Option CodeAction :=
  (lookup d).bind fun fix =>
    (fix.edits doc.text d.range).map fun edits => ⟨fix.title, doc.uri, edits, true, [d]⟩

/-- The actions for diagnostics of a document.  There are none while the server is in an error
state or the last validation of the document found an error. -/
def actions (doc : Document) (diagnostics : List Diagnostic) (state : ErrorState) :
    List CodeAction :=
  if state.isErrored || doc.hasStructuralErrors then [] else diagnostics.filterMap (action? doc)

end QuickFix

/-- The text of a document after the edits of an action, made one after another. -/
def CodeAction.applyTo (a : CodeAction) (t : Text) : Text :=
  a.edits.foldl (fun t edit => t.splice edit.range edit.newText) t

end LobsterServer
