import LobsterServer.Settings.Basic
import LobsterServer.Table

set_option autoImplicit false

/-!
# Resolving settings

The editor is asked once for the settings of a document.  Its answer is kept in a cell, and a
question that fails leaves a cell with nothing; calls that come while the question is open wait for
the same cell, and later calls find the answer there.  The answer that fills a cell also asks for
one probe of the executable that it selects.  Closing a document takes its cell out of the cache,
and calls that wait for that cell still get its answer.

A call is a value that is advanced from outside: `start` begins one, `answer` fills a cell, and
`finish` says whether a call can end.
-/

namespace LobsterServer

/-- Why the editor's settings for a document are not known. -/
inductive ConfigError where
  /-- the editor refused the question or did not answer it -/
  | request (cause : String)
  /-- the editor answered with a value that is no override -/
  | malformed (cause : String)
  deriving DecidableEq, Repr

/-- The wording of an error. -/
def ConfigError.message : ConfigError → String
  | .request cause => "configuration request failed: " ++ cause
  | .malformed cause => "malformed configuration: " ++ cause

/-- What the editor has for a document: an override or nothing. -/
abbrev Answer := Option Override

/-- How a question to the editor ends: with its answer, or with the reason why there is none. -/
abbrev Fetched := Except ConfigError Answer

/-- What a question leads to.  One that fails leads to nothing. -/
def Fetched.answer : Fetched → Answer
  | .ok answer => answer
  | .error _ => none

/-- One question to the editor. -/
structure Cell where
  uri : String
  /-- the answer, once it is there -/
  answer : Option Answer
  deriving DecidableEq, Repr

/-- The state of the settings of all documents. -/
structure Resolver where
  global : Settings
  /-- whether the editor answers questions about settings -/
  capability : Bool
  /-- the cell of each document, by its number -/
  cache : Table Nat
  /-- all cells ever made, in the order of their numbers -/
  cells : List Cell
  deriving Repr

/-- A call for the settings of a document. -/
inductive Call where
  /-- the settings are known -/
  | resolved (settings : Settings)
  /-- the call waits for a cell, with the global settings it started from -/
  | waiting (cell : Nat) (global : Settings) (directory : Option String)
  deriving DecidableEq, Repr

namespace Resolver

/-- A resolver before anything was asked. -/
def fresh (global : Settings) : Resolver := ⟨global, false, [], []⟩

/-- Begins a call.  A new cell means a new question to the editor. -/
def start (r : Resolver) (uri : String) (directory : Option String) : Resolver × Call :=
  if r.capability then
    match r.cache.get? uri with
    | some cell => (r, .waiting cell r.global directory)
    | none =>
      ({ r with cache := r.cache.insert uri r.cells.length, cells := r.cells ++ [⟨uri, none⟩] },
        .waiting r.cells.length r.global directory)
  else (r, .resolved r.global)

/-- The executable to probe for an answer. -/
def executableFor (r : Resolver) (answer : Answer) : String :=
  match answer with
  | some choice => choice.executableOr r.global
  | none => r.global.executable

/-- Fills an open cell when its question ends, and gives the executable to probe. -/
def answer (r : Resolver) (cell : Nat) (reply : Fetched) : Option (Resolver × String) :=
  match r.cells[cell]? with
  | some ⟨uri, none⟩ =>
    some ({ r with cells := r.cells.set cell ⟨uri, some reply.answer⟩ },
      r.executableFor reply.answer)
  | _ => none

/-- The settings that an answer leads to. -/
def settle (global : Settings) (directory : Option String) (answer : Answer) : Settings :=
  match answer with
  | some choice => global.merged choice directory
  | none => global

/-- The settings a call ends with, if it can end. -/
def finish (r : Resolver) : Call → Option Settings
  | .resolved settings => some settings
  | .waiting cell global directory =>
    match r.cells[cell]? with
    | some ⟨_, some reply⟩ => some (settle global directory reply)
    | _ => none

/-- Takes the cell of a closed document out of the cache. -/
def forget (r : Resolver) (uri : String) : Resolver := { r with cache := r.cache.erase uri }

/-- Number of documents with a cell. -/
def cached (r : Resolver) : Nat := r.cache.length

/-- The numbers and URIs of the cells without an answer. -/
def openCells (r : Resolver) : List (Nat × String) :=
  (r.cells.zipIdx.filter fun (cell, _) => cell.answer.isNone).map fun (cell, i) => (i, cell.uri)

/-! ## Calls whose questions are answered at once -/

/-- What calls did besides returning settings. -/
structure Asked where
  /-- the documents the editor was asked about -/
  questions : List String
  /-- the executables that are to be probed -/
  probes : List String
  deriving Repr

/-- Answers one question by what the editor says about its document. -/
def hear (editor : String → Fetched) :
    Resolver × Asked → Nat × String → Resolver × Asked
  | (r, asked), (cell, uri) =>
    match r.answer cell (editor uri) with
    | some (r, executable) => (r, ⟨asked.questions ++ [uri], asked.probes ++ [executable]⟩)
    | none => (r, asked)

/-- Answers all open cells in order, by what the editor says about each document. -/
def answerOpen (r : Resolver) (editor : String → Fetched) : Resolver × Asked :=
  r.openCells.foldl (hear editor) (r, ⟨[], []⟩)

/-- Begins calls one after another, before any of them is answered. -/
def startAll (r : Resolver) (directory : Option String) : List String → Resolver × List Call
  | [] => (r, [])
  | uri :: rest =>
    let (r, call) := r.start uri directory
    let (r, calls) := startAll r directory rest
    (r, call :: calls)

/-- Overlapping calls for several documents: all begin, then the editor answers, then all end. -/
def resolveAll (r : Resolver) (directory : Option String) (uris : List String)
    (editor : String → Fetched) : Resolver × List Settings × Asked :=
  let (r, calls) := r.startAll directory uris
  let (r, asked) := r.answerOpen editor
  (r, calls.filterMap r.finish, asked)

end Resolver

end LobsterServer
