import LobsterServer.Json.Printer
import LobsterServer.Rehearsal.Script

set_option autoImplicit false

/-!
# Records of runs

A rehearsal records the runs of each step.  Their order in time is not part of the record: they
are sorted by the file they are given, by its content, by the other arguments and by the
executable.  The directories of the scratch copies are shown by numbers, in the order in which the
sorted runs first name them.
-/

namespace LobsterServer.Rehearsal

/-- One run. -/
structure Run where
  invocation : Invocation
  /-- what the scratch copy held -/
  content : Option Text
  deriving DecidableEq, Repr

namespace Run

/-- The order key of a run. -/
def key (r : Run) : List String :=
  let arguments := r.invocation.arguments
  [String.ofList (Path.lastPiece (lastArgument r.invocation)),
    ((r.content.map fun t => Json.str (String.ofList t)).getD .null).compact,
    (Json.arr (arguments.dropLast.map .str)).compact,
    Json.quote r.invocation.executable]

/-- Whether a run may stand in front of another. -/
def before (r q : Run) : Bool := !q.key.lex r.key

/-- The JSON form of a run. -/
def toJson (r : Run) : Json :=
  .obj [("executable", .str r.invocation.executable),
    ("args", .arr (r.invocation.arguments.map .str)),
    ("timeout_ms", .int r.invocation.timeout),
    ("content", (r.content.map fun t => Json.str (String.ofList t)).getD .null)]

end Run

/-- Runs in the order of a record. -/
def sortRuns (runs : List Run) : List Run := runs.mergeSort Run.before

/-! ## Names of directories -/

/-- The directory of the scratch copies in a rehearsal. -/
def scratchRoot : String := "<scratch>"

/-- The sub-directories that have a number, in the order of their numbers. -/
abbrev Slots := List Text

namespace Slots

/-- The text in front of the name of a sub-directory. -/
def lead : Text := (scratchRoot ++ "/").toList

/-- Digits of the name of a sub-directory. -/
def width : Nat := 16

/-- The sub-directory that a path starts with. -/
def ofPath? (path : Text) : Option Text :=
  if lead.isPrefixOf path then some ((path.drop lead.length).take width) else none

/-- Gives a number to the sub-directory of a run that has none yet. -/
def note (slots : Slots) (r : Run) : Slots :=
  match ofPath? (lastArgument r.invocation) with
  | some slot => if slots.contains slot then slots else slots ++ [slot]
  | none => slots

/-- A text in which numbers stand for the names of sub-directories. -/
def mask (slots : Slots) (t : Text) : Text :=
  slots.zipIdx.foldl
    (fun t (slot, i) =>
      Text.replaceAll (lead ++ slot) (lead ++ ("<dir" ++ toString i ++ ">").toList) t)
    t

end Slots

mutual

/-- A value with all its strings changed. -/
def mapStrings (f : String → String) : Json → Json
  | .str s => .str (f s)
  | .arr items => .arr (mapItems f items)
  | .obj fields => .obj (mapFields f fields)
  | j => j

/-- The items of an array with all their strings changed. -/
def mapItems (f : String → String) : List Json → List Json
  | [] => []
  | j :: rest => mapStrings f j :: mapItems f rest

/-- The fields of an object with all their strings changed. -/
def mapFields (f : String → String) : List (String × Json) → List (String × Json)
  | [] => []
  | (name, j) :: rest => (name, mapStrings f j) :: mapFields f rest

end

/-- A value with numbers for the names of sub-directories. -/
def Slots.maskJson (slots : Slots) (j : Json) : Json :=
  if slots.isEmpty then j else mapStrings (fun s => String.ofList (slots.mask s.toList)) j

end LobsterServer.Rehearsal
