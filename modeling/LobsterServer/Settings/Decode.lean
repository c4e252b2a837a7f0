import LobsterServer.Json.Basic
import LobsterServer.Settings.Resolver

set_option autoImplicit false

/-!
# Reading settings

Settings come as an object with a field for each, or as an array of them in order.  Unknown
fields are ignored and missing ones stand for the default.  An override may also clear a setting
by null; global settings may not.
-/

namespace LobsterServer

/-- The names of the settings, in the order in which an array gives them. -/
def settingNames : List String := ["executable", "imports", "experimental"]

/-- Reads a list of strings. -/
def Json.toStrings? : Json → Option (List String) := Json.toList? Json.toString?

/-- Reads a setting that stands for `fallback` when it is missing. -/
def Json.withDefault? {α : Type} (fallback : α) (read : Json → Option α) :
    Option Json → Option α
  | none => some fallback
  | some j => read j

/-- Reads an override. -/
def Override.ofJson? (j : Json) : Option Override := do
  let [executable, imports, experimental] ← j.record? settingNames true | none
  let executable ← Json.optional? Json.toString? executable
  let imports ← Json.optional? Json.toStrings? imports
  let experimental ← Json.optional? Json.toBool? experimental
  return ⟨executable, imports.getD [], experimental⟩

/-- Reads global settings. -/
def Settings.ofJson? (j : Json) : Option Settings := do
  let [executable, imports, experimental] ← j.record? settingNames true | none
  let executable ← Json.withDefault? Settings.default.executable Json.toString? executable
  let imports ← Json.withDefault? Settings.default.imports Json.toStrings? imports
  let experimental ← Json.withDefault? Settings.default.experimental Json.toBool? experimental
  return ⟨executable, imports, experimental⟩

/-- The section of the editor's configuration that holds the settings. -/
def configurationSection : String := "lobster"

/-- The override in a configuration that the editor pushed.  Without a well-formed section there
is none. -/
def Override.ofPush? (configuration : Json) : Option Override :=
  (configuration.field? configurationSection).bind Override.ofJson?

/-- The override in a value that the editor has for a document. -/
def Override.ofValue (value : Json) : Fetched :=
  match value with
  | .null => .ok none
  | _ =>
    match Override.ofJson? value with
    | some choice => .ok (some choice)
    | none => .error (.malformed "not a settings object")

/-- What the editor's answer to a question says: the first value counts.  An answer that is no list
is a failed request. -/
def Override.ofAnswer (result : Json) : Fetched :=
  match result with
  | .arr [] => .ok none
  | .arr (value :: _) => Override.ofValue value
  | _ => .error (.request "not a list of values")

end LobsterServer
