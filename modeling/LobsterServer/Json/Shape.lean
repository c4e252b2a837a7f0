import LobsterServer.Json.Basic

set_option autoImplicit false

/-!
# Shapes of untyped values

A shape says what a value has to look like to be taken as a value of some type.  The fields of a
record come by name from an object, or in order from an array.
-/

namespace LobsterServer

/-- Whether a field has to have a value. -/
inductive Need where
  /-- there has to be a value, and null is one only if it has the shape -/
  | required
  /-- the value may be null or missing; an array has to have an item for it -/
  | optional
  /-- the value may be null or missing, also at the end of an array -/
  | trailing
  deriving DecidableEq, Repr

mutual

/-- What a value looks like. -/
inductive Shape where
  | any
  | flag
  | text
  /-- an integer of 32 bits with a sign -/
  | signed
  /-- an integer of 32 bits without a sign -/
  | unsigned
  /-- one of some words -/
  | word (names : List String)
  | list (item : Shape)
  /-- fields, from an object or from an array -/
  | record (layout : Layout)
  /-- fields, from an object only -/
  | object (layout : Layout)
  /-- the one or the other -/
  | either (first second : Shape)

/-- The fields of a record, in order. -/
inductive Layout where
  | nil
  | field (name : String) (need : Need) (shape : Shape) (rest : Layout)

end

namespace Layout

/-- A layout of the same need for all its fields. -/
def all (need : Need) : List (String × Shape) → Layout
  | [] => .nil
  | (name, shape) :: rest => .field name need shape (all need rest)

/-- A layout followed by another. -/
def append : Layout → Layout → Layout
  | .nil, other => other
  | .field name need shape rest, other => .field name need shape (rest.append other)

/-- Whether a layout has no field that needs an item of an array. -/
def mayEnd : Layout → Bool
  | .nil => true
  | .field _ need _ rest => need = .trailing && rest.mayEnd

end Layout

namespace Shape

/-- A record whose fields may all be missing. -/
def options (fields : List (String × Shape)) : Shape := .record (Layout.all .optional fields)

/-- A record whose fields all have to be there. -/
def needs (fields : List (String × Shape)) : Shape := .record (Layout.all .required fields)

end Shape

mutual

/-- Whether a value has a shape. -/
def Shape.fits : Shape → Json → Bool
  | .any, _ => true
  | .flag, j => j.toBool?.isSome
  | .text, j => j.toString?.isSome
  | .signed, j => j.toInt32?.isSome
  | .unsigned, j => j.toUInt32?.isSome
  | .word names, j => j.toWord?.any names.contains
  | .list item, .arr items => items.all item.fits
  | .list _, _ => false
  | .record layout, .arr items => layout.fitsItems items
  | .record layout, .obj fields => layout.fitsFields fields
  | .record _, _ => false
  | .object layout, .obj fields => layout.fitsFields fields
  | .object _, _ => false
  | .either first second, j => first.fits j || second.fits j

/-- Whether the fields of an object have a layout. -/
def Layout.fitsFields : Layout → List (String × Json) → Bool
  | .nil, _ => true
  | .field name need shape rest, fields =>
    (match (Json.obj fields).field? name with
      | none => need ≠ .required
      | some .null => need ≠ .required || shape.fits .null
      | some j => shape.fits j)
      && rest.fitsFields fields

/-- Whether the items of an array have a layout. -/
def Layout.fitsItems : Layout → List Json → Bool
  | .nil, items => items.isEmpty
  | .field _ need shape rest, items =>
    match items with
    | [] => need = .trailing && rest.mayEnd
    | .null :: items => (need ≠ .required || shape.fits .null) && rest.fitsItems items
    | j :: items => shape.fits j && rest.fitsItems items

end

end LobsterServer
