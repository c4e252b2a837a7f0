set_option autoImplicit false

/-!
# Settings

The effective settings of a document are the global settings merged with what the editor answers
for that document.
-/

namespace LobsterServer

/-- The settings in force for a document, or for all. -/
structure Settings where
  /-- name or path of the compiler -/
  executable : String
  /-- directories to search for imports, in this order -/
  imports : List String
  /-- whether experimental features of the language are on -/
  experimental : Bool
  deriving DecidableEq, Repr

/-- Settings as an editor sends them: each may be missing. -/
structure Override where
  executable : Option String
  imports : List String
  experimental : Option Bool
  deriving DecidableEq, Repr

namespace Settings

/-- The settings when nothing is configured. -/
def default : Settings := ⟨"lobster", [], true⟩

end Settings

namespace Override

/-- An override that sets nothing. -/
def empty : Override := ⟨none, [], none⟩

/-- The executable an override selects over global settings.  An empty name selects nothing. -/
def executableOr (choice : Override) (global : Settings) : String :=
  match choice.executable with
  | some e => if e = "" then global.executable else e
  | none => global.executable

end Override

/-- A list with those of `extra` at its end that it does not hold yet, each once. -/
def addMissing (list : List String) (extra : List String) : List String :=
  extra.foldl (fun l x => if l.contains x then l else l ++ [x]) list

namespace Settings

/-- Global settings merged with the override of a document in a directory.  Imports come first
from the global list, then from the override, then the directory.  An experimental feature that
is on globally stays on. -/
def merged (global : Settings) (choice : Override) (directory : Option String) : Settings :=
  ⟨choice.executableOr global, addMissing global.imports (choice.imports ++ directory.toList),
    choice.experimental.getD false || global.experimental⟩

/-- New global settings from a configuration the editor pushed: what it sets replaces the old
value. -/
def overriddenBy (global : Settings) (choice : Override) : Settings :=
  ⟨choice.executableOr global,
    if choice.imports.isEmpty then global.imports else choice.imports,
    choice.experimental.getD global.experimental⟩

/-- The imports the compiler is given for a document in a directory. -/
def importsFor (s : Settings) (directory : Option String) : List String :=
  addMissing s.imports directory.toList

/-- The arguments of a run that only compiles `file`. -/
def compileArguments (s : Settings) (directory : Option String) (file : String) : List String :=
  "--compile-only" :: (s.importsFor directory).flatMap (fun i => ["--import", i]) ++ [file]

end Settings

end LobsterServer
