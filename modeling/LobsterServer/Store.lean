import LobsterServer.Document.Basic
import LobsterServer.Table

set_option autoImplicit false

/-!
# The document store

The store holds the open documents and decides which validation pass may settle which document.
Every opening and every start of a pass takes the next stamp of one counter that all documents
share and that never goes back.  A pass settles its document only while the document still bears
the pass's stamp and version; so the newest pass wins, and a document that was closed and opened
again takes nothing from the passes of its former life.
-/

namespace LobsterServer

/-- Why an operation on a document has no answer. -/
inductive DocumentError where
  /-- the URI is not an open document -/
  | notOpen (uri : String)
  deriving DecidableEq, Repr

/-- The wording of an error. -/
def DocumentError.message : DocumentError → String
  | .notOpen uri => "document is not open: " ++ uri

/-- The handle of a validation pass. -/
structure Ticket where
  uri : String
  /-- version of the document the pass looks at -/
  version : Int
  /-- stamp of the start of the pass -/
  generation : Nat
  deriving DecidableEq, Repr

/-- What becomes of a finished pass. -/
inductive Completion where
  /-- the findings were stored; they are worth sending to the editor if `publish` holds -/
  | settled (status : Status) (publish : Bool)
  /-- a newer pass started, or the document was changed or opened again: the findings are dropped -/
  | stale
  deriving DecidableEq, Repr

/-- The open documents. -/
structure Store where
  documents : Table Document
  /-- last stamp handed out; the counter has 64 bits, and fewer than 2^64 stamps are ever taken -/
  generation : Nat
  deriving Repr

namespace Store

/-- A store without documents. -/
def empty : Store := ⟨[], 0⟩

/-- The open document of a URI. -/
def get? (s : Store) (uri : String) : Option Document := s.documents.get? uri

/-- The open document of a URI, or the reason why there is none. -/
def require (s : Store) (uri : String) : Except DocumentError Document :=
  match s.get? uri with
  | some d => .ok d
  | none => .error (.notOpen uri)

/-- The URIs of the open documents. -/
def uris (s : Store) : List String := s.documents.keys

/-- Puts a document under its URI. -/
def put (s : Store) (d : Document) : Store := { s with documents := s.documents.insert d.uri d }

/-- Opens a document.  It replaces an open document of its URI. -/
def openDocument (s : Store) (d : Document) : Store :=
  put { s with generation := s.generation + 1 } { d with generation := s.generation + 1 }

/-- Applies the editor's changes to an open document. -/
def change (s : Store) (uri : String) (changes : List Change) (version : Int) :
    Except DocumentError Store :=
  match s.get? uri with
  | none => .error (.notOpen uri)
  | some d => .ok (s.put (d.applyChanges changes version))

/-- Closes a document. -/
def close (s : Store) (uri : String) : Store := { s with documents := s.documents.erase uri }

/-- Starts a validation pass: the document is marked, and a snapshot of it goes with the ticket.
The stamp is used up even when the document is not open. -/
def startPass (s : Store) (uri : String) : Store × Except DocumentError (Ticket × Document) :=
  let stamp := s.generation + 1
  let s := { s with generation := stamp }
  match s.get? uri with
  | none => (s, .error (.notOpen uri))
  | some d =>
    let d := { d with status := .validating, generation := stamp }
    (s.put d, .ok (⟨uri, d.version, stamp⟩, d))

/-- Finishes a pass.  Findings are stored together with the status they lead to.  Empty findings
are worth publishing only if the editor still shows earlier ones. -/
def finishPass (s : Store) (t : Ticket) (findings : List Diagnostic) :
    Except DocumentError (Store × Completion) :=
  match s.get? t.uri with
  | none => .error (.notOpen t.uri)
  | some d =>
    if d.generation ≠ t.generation ∨ d.version ≠ t.version then .ok (s, .stale)
    else
      let status := Status.ofFindings findings
      .ok (s.put { d with status := status, diagnostics := findings },
        .settled status (!d.diagnostics.isEmpty || !findings.isEmpty))

end Store

end LobsterServer
