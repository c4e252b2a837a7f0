import LobsterServer.Compiler.Run
import LobsterServer.Host.Raw
import LobsterServer.Table
import LobsterServer.Text.Search

set_option autoImplicit false

/-!
# Files

A host has a tree of files, some of which can be run.  A file is named by a path; an executable is
named by a path or by a bare name that is looked up in the directories of a search path.
-/

namespace LobsterServer.Host

/-- A file that stands for a piece of hardware or for a stream. -/
inductive Device where
  /-- empty, and forgets all that is written -/
  | null
  /-- zeros without end -/
  | zero
  /-- has no room -/
  | full
  /-- a stream of the program that opens it -/
  | stream (number : Nat)
  /-- cannot be opened -/
  | locked
  deriving DecidableEq, Repr

/-- What stands at a path. -/
inductive Entry (α : Type) where
  | directory
  /-- a file with a content; `runs` says that it may be run as a script -/
  | data (content : Raw) (runs : Bool)
  | device (d : Device)
  | program (p : α)
  deriving DecidableEq, Repr

/-- A tree of files. -/
structure Files (α : Type) where
  /-- what stands at each absolute path; the root is the empty path -/
  entries : Table (Entry α)
  /-- the directories in which bare names are looked up -/
  searchPath : List Raw

/-- The names on the way from the root. -/
abbrev Place := List Raw

/-- The path of a place. -/
def Place.path (p : Place) : Raw := if p = [] then ['/'] else p.flatMap ('/' :: ·)

namespace Files

variable {α : Type}

/-- The most bytes a name can have. -/
def maxName : Nat := 255

/-- The most bytes a path can have. -/
def maxPath : Nat := 4095

/-- The key of a place. -/
def key (place : Place) : String := String.ofList (place.flatMap ('/' :: ·))

/-- What stands at a place. -/
def at? (f : Files α) (place : Place) : Option (Entry α) := f.entries.get? (key place)

/-- Walks down from a place: where the way ends, and what stands there.  Only the last name may be
missing. -/
def walk (f : Files α) (place : Place) : List Raw → Except FileFault (Place × Option (Entry α))
  | [] => .ok (place, f.at? place)
  | name :: rest =>
    match f.at? place with
    | none => .error .notFound
    | some .directory =>
      if name = [] ∨ name = ['.'] then walk f place rest
      else if name = ['.', '.'] then walk f place.dropLast rest
      else if maxName < name.length then .error .nameTooLong
      else if rest = [] then .ok (place ++ [name], f.at? (place ++ [name]))
      else walk f (place ++ [name]) rest
    | some _ => .error .notADirectory

/-- Follows a path from a directory: where it ends, and what stands there. -/
def follow (f : Files α) (directory : Place) (path : Raw) :
    Except FileFault (Place × Option (Entry α)) :=
  if maxPath < path.length then .error .nameTooLong
  else if path = [] then .error .notFound
  else if path.head? = some '/' then f.walk [] (Text.splitOn '/' path)
  else f.walk directory (Text.splitOn '/' path)

/-- What stands at a path. -/
def lookUp (f : Files α) (directory : Place) (path : Raw) : Except FileFault (Place × Entry α) :=
  match f.follow directory path with
  | .ok (place, some entry) => .ok (place, entry)
  | .ok (_, none) => .error .notFound
  | .error fault => .error fault

/-- The tree with an entry at a place. -/
def put (f : Files α) (place : Place) (entry : Entry α) : Files α :=
  { f with entries := f.entries.insert (key place) entry }

/-- The names in a directory, in the order of their bytes. -/
def names (f : Files α) (place : Place) : List Raw :=
  let front := key place ++ "/"
  let inner := f.entries.filterMap fun (path, _) =>
    let path := path.toList
    if front.toList.isPrefixOf path then
      let name := path.drop front.length
      if name ≠ [] && !name.contains '/' then some name else none
    else none
  inner.mergeSort Text.atMost

/-- The content of a file, if it has one. -/
def content? (f : Files α) (place : Place) : Option Raw :=
  match f.at? place with
  | some (.data content _) => some content
  | _ => none

/-! ## Executables -/

/-- What can be run. -/
inductive Executable (α : Type) where
  | program (p : α)
  /-- a file with commands -/
  | script (place : Place) (content : Raw)

/-- What is run at a path; directories and files that cannot be run are refused. -/
def executableAt (f : Files α) (directory : Place) (path : Raw) :
    Except FileFault (Executable α) :=
  match f.lookUp directory path with
  | .ok (_, .program p) => .ok (.program p)
  | .ok (place, .data content true) => .ok (.script place content)
  | .ok _ => .error .permissionDenied
  | .error fault => .error fault

/-- Looks a bare name up.  The first executable wins; where there is none, a refused file is worse
than a missing one. -/
def search (f : Files α) (directory : Place) (name : Raw) :
    List Raw → Except FileFault (Raw × Executable α)
  | [] => .error .notFound
  | first :: rest =>
    let path := if first = [] then name else first ++ '/' :: name
    match f.executableAt directory path with
    | .ok e => .ok (path, e)
    | .error .permissionDenied =>
      match f.search directory name rest with
      | .ok found => .ok found
      | .error _ => .error .permissionDenied
    | .error _ => f.search directory name rest

/-- What the name of an executable stands for, and its path. -/
def executable (f : Files α) (directory : Place) (searchPath : List Raw) (name : Raw) :
    Except FileFault (Raw × Executable α) :=
  if name.contains '\x00' then .error .nulInArgument
  else if name = [] then .error .notFound
  else if name.contains '/' then (f.executableAt directory name).map fun e => (name, e)
  else if maxName < name.length then .error .nameTooLong
  else f.search directory name searchPath

end Files

end LobsterServer.Host
