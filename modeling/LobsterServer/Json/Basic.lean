set_option autoImplicit false

/-!
# Untyped values

Editors send settings and messages as untyped values.  A typed value is read from an untyped one
by a function that fails when the shape does not fit.
-/

namespace LobsterServer

/-- An untyped value. -/
inductive Json where
  | null
  | bool (b : Bool)
  /-- a number written without fraction and exponent -/
  | int (n : Int)
  /-- any other number: `mantissa / 10 ^ scale` -/
  | decimal (mantissa : Int) (scale : Nat)
  | str (s : String)
  | arr (items : List Json)
  | obj (fields : List (String × Json))
  deriving Inhabited

namespace Json

/-- The value of a field, if the value is an object that has it. -/
def field? : Json → String → Option Json
  | obj fields, name => (fields.find? fun f => f.1 = name).map Prod.snd
  | _, _ => none

/-- Reads a string. -/
def toString? : Json → Option String
  | str s => some s
  | _ => none

/-- Reads a word of a fixed choice: a string, or an object whose single field has that name and no
value. -/
def toWord? : Json → Option String
  | str s => some s
  | obj [(name, null)] => some name
  | _ => none

/-- Reads a truth value. -/
def toBool? : Json → Option Bool
  | bool b => some b
  | _ => none

/-- Reads a list, each item by `item`. -/
def toList? {α : Type} (item : Json → Option α) : Json → Option (List α)
  | arr items => items.mapM item
  | _ => none

/-- Reads an integer with `low ≤ n < high`. -/
def toIntIn? (low high : Int) : Json → Option Int
  | int n => if low ≤ n ∧ n < high then some n else none
  | _ => none

/-- Reads an unsigned 32-bit integer. -/
def toUInt32? (j : Json) : Option UInt32 :=
  (j.toIntIn? 0 0x100000000).map fun n => UInt32.ofNat n.toNat

/-- Reads a signed 32-bit integer. -/
def toInt32? : Json → Option Int := toIntIn? (-0x80000000) 0x80000000

/-- Reads a value that may be null or missing. -/
def optional? {α : Type} (read : Json → Option α) : Option Json → Option (Option α)
  | none => some none
  | some null => some none
  | some j => (read j).map some

/-- Reads a value that has to be there. -/
def required? {α : Type} (read : Json → Option α) : Option Json → Option α
  | none => none
  | some j => read j

/-- The fields of a record, in the order of `names`: by name from an object, by place from an
array.  An array may leave out fields at its end where `short` allows it, and may not have more
items than there are names. -/
def record? (names : List String) (short : Bool) : Json → Option (List (Option Json))
  | obj fields => some (names.map fun name => (obj fields).field? name)
  | arr items =>
    if items.length = names.length ∨ (short ∧ items.length < names.length) then
      some (items.map some ++ List.replicate (names.length - items.length) none)
    else none
  | _ => none

end Json

end LobsterServer
