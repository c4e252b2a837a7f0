import LobsterServer.Host.Files
import LobsterServer.Host.Pattern

set_option autoImplicit false

/-!
# Fields

The expansion of a word is a row of glyphs.  It is split into fields at the characters that a
variable names, and a field that is a pattern becomes the names of the files that fit it.
-/

namespace LobsterServer.Host

/-- A part of an expanded word. -/
inductive Glyph where
  /-- a character; `splits` says that it comes from an expansion, where fields may end -/
  | char (c : Char) (isQuoted splits : Bool)
  /-- nothing, but it makes a field of what is empty -/
  | mark
  /-- the end of a field -/
  | border
  deriving DecidableEq, Repr

namespace Glyph

/-- A text that comes from an expansion. -/
def expanded (inQuotes : Bool) (t : Raw) : List Glyph :=
  if inQuotes then .mark :: t.map fun c => .char c true false
  else t.map fun c => .char c false true

/-- The marked characters of a row of glyphs, where borders become blanks. -/
def marked (glyphs : List Glyph) : List Marked :=
  glyphs.filterMap fun
    | .char c isQuoted _ => some ⟨c, isQuoted⟩
    | .mark => none
    | .border => some ⟨' ', false⟩

/-- The text of a row of glyphs. -/
def text (glyphs : List Glyph) : Raw := (marked glyphs).map Marked.char

end Glyph

/-- A field whose characters are marked. -/
abbrev Field := List Marked

/-- Fields that are being split. -/
structure Splitting where
  /-- the fields so far, the last first -/
  done : List Field
  /-- the characters of the open field, the last first -/
  current : Option Field
  /-- whether blanks directly in front ended a field -/
  afterBlank : Bool

namespace Splitting

/-- The fields with the open one finished. -/
def close (s : Splitting) (afterBlank : Bool) : Splitting :=
  match s.current with
  | some field => ⟨field.reverse :: s.done, none, afterBlank⟩
  | none => { s with afterBlank := s.afterBlank && afterBlank }

/-- The fields after one more glyph. -/
def next (separators : Raw) (s : Splitting) : Glyph → Splitting
  | .mark => { s with current := some (s.current.getD []) }
  | .border => s.close false
  | .char c isQuoted splits =>
    if splits && separators.contains c then
      if c = ' ' || c = '\t' || c = '\n' then
        match s.current with
        | some _ => s.close true
        | none => s
      else
        match s.current with
        | some _ => s.close false
        | none => if s.afterBlank then { s with afterBlank := false }
          else { s with done := [] :: s.done }
    else { s with current := some (⟨c, isQuoted⟩ :: s.current.getD []), afterBlank := false }

end Splitting

/-- Splits glyphs into fields. -/
def splitFields (separators : Raw) (glyphs : List Glyph) : List Field :=
  ((glyphs.foldl (Splitting.next separators) ⟨[], none, false⟩).close false).done.reverse

namespace Field

/-- The text of a field. -/
def text (f : Field) : Raw := f.map Marked.char

/-- The parts of a field between slashes. -/
def splitSlash : Field → List Field
  | [] => [[]]
  | m :: rest =>
    match splitSlash rest with
    | [] => [[m]]
    | part :: others => if m.char = '/' then [] :: part :: others else (m :: part) :: others

variable {α : Type}

/-- The paths that fit a row of parts, each after a path that was found already. -/
def fitting (f : Files α) (directory : Place) : List Field → Raw → List Raw
  | [], path => [path]
  | [part], path =>
    if Pattern.isActive part then matching part path
    else
      match f.lookUp directory (path ++ part.text) with
      | .ok _ => [path ++ part.text]
      | .error _ => []
  | part :: rest, path =>
    if Pattern.isActive part then
      (matching part path).flatMap fun found =>
        match f.lookUp directory found with
        | .ok (_, .directory) => fitting f directory rest (found ++ ['/'])
        | _ => []
    else fitting f directory rest (path ++ part.text ++ ['/'])
where
  /-- The paths in a directory whose last names fit a part. -/
  matching (part : Field) (path : Raw) : List Raw :=
    let place? : Option Place :=
      if path = [] then some directory
      else
        match f.lookUp directory path with
        | .ok (place, .directory) => some place
        | _ => none
    match place? with
    | none => []
    | some place =>
      let hidden := part.head?.any (·.char = '.')
      let names := if hidden then ['.'] :: ['.', '.'] :: f.names place else f.names place
      (names.filter fun name =>
        (hidden || name.head? ≠ some '.') && Pattern.fits (Pattern.read part) name).map
        fun name => path ++ name

/-- The names of the files that fit a field, or the field itself if there are none. -/
def resolve (f : Files α) (directory : Place) (field : Field) : List Raw :=
  if Pattern.isActive field then
    match fitting f directory field.splitSlash [] with
    | [] => [field.text]
    | found => found
  else [field.text]

end Field

example : (splitFields [' ', ':'] (Glyph.expanded false " a: b::".toList)).map Field.text
    = [['a'], ['b'], []] := by decide

end LobsterServer.Host
