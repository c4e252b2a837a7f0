import LobsterServer.Host.Raw

set_option autoImplicit false

/-!
# Patterns

A pattern fits texts: a question mark fits any character, a star any text, and brackets one of some
characters.  Quoted characters fit only themselves.
-/

namespace LobsterServer.Host

/-- A character with the knowledge whether it stands for itself only. -/
structure Marked where
  char : Char
  isQuoted : Bool
  deriving DecidableEq, Repr

/-- A part of a pattern. -/
inductive PatternPart where
  | one (c : Char)
  | any
  | many
  /-- a character within one of some ranges, or within none of them if `negated` -/
  | among (negated : Bool) (ranges : List (Char × Char))
  deriving DecidableEq, Repr

/-- A pattern. -/
abbrev Pattern := List PatternPart

namespace Pattern

/-- Whether a text fits a pattern. -/
def fits : Pattern → Raw → Bool
  | [], t => t.isEmpty
  | .one c :: p, x :: t => c = x && fits p t
  | .any :: p, _ :: t => fits p t
  | .among negated ranges :: p, x :: t =>
    (ranges.any (fun r => r.1 ≤ x && x ≤ r.2) != negated) && fits p t
  | .many :: p, [] => fits p []
  | .many :: p, x :: t => fits p (x :: t) || fits (.many :: p) t
  | _ :: _, [] => false
termination_by p t => p.length + t.length

/-- Ranges of the characters in a named class. -/
def classRanges (name : Raw) : List (Char × Char) :=
  match String.ofList name with
  | "alpha" => [('a', 'z'), ('A', 'Z')]
  | "digit" => [('0', '9')]
  | "alnum" => [('a', 'z'), ('A', 'Z'), ('0', '9')]
  | "upper" => [('A', 'Z')]
  | "lower" => [('a', 'z')]
  | "space" => [('\t', '\x0d'), (' ', ' ')]
  | "blank" => [('\t', '\t'), (' ', ' ')]
  | "punct" => [('!', '/'), (':', '@'), ('[', '\x60'), ('\x7b', '~')]
  | "xdigit" => [('0', '9'), ('a', 'f'), ('A', 'F')]
  | "print" => [(' ', '~')]
  | "graph" => [('!', '~')]
  | "cntrl" => [('\x00', '\x1f'), ('\x7f', '\x7f')]
  | _ => []

/-- Reads ranges up to the bracket that ends them; gives nothing if there is none.  `first` says
that a bracket would be the first character. -/
def readRanges (fuel : Nat) (first : Bool) (t : List Marked) :
    Option (List (Char × Char) × List Marked) :=
  match fuel, t with
  | 0, _ => none
  | _ + 1, [] => none
  | fuel + 1, ⟨c, isQuoted⟩ :: rest =>
    if c = ']' && !isQuoted && !first then some ([], rest)
    else
      let className := rest.drop 1 |>.takeWhile (·.char ≠ ':')
      let afterName := rest.drop (className.length + 1)
      let isClass := c = '[' && !isQuoted && rest.head?.any (·.char = ':')
        && (afterName.map Marked.char).take 2 = [':', ']']
      if isClass then
        (readRanges fuel false (afterName.drop 2)).map fun (ranges, rest) =>
          (classRanges (className.map Marked.char) ++ ranges, rest)
      else
        match rest with
        | ⟨'-', false⟩ :: ⟨d, q⟩ :: more =>
          if d = ']' && !q then
            (readRanges fuel false rest).map fun (ranges, rest) => ((c, c) :: ranges, rest)
          else (readRanges fuel false more).map fun (ranges, rest) => ((c, d) :: ranges, rest)
        | _ => (readRanges fuel false rest).map fun (ranges, rest) => ((c, c) :: ranges, rest)

/-- Reads a pattern.  `fuel` bounds the number of its characters. -/
def readFrom : Nat → List Marked → Pattern
  | 0, _ => []
  | _ + 1, [] => []
  | fuel + 1, ⟨c, true⟩ :: t => .one c :: readFrom fuel t
  | fuel + 1, ⟨'*', false⟩ :: t => .many :: readFrom fuel t
  | fuel + 1, ⟨'?', false⟩ :: t => .any :: readFrom fuel t
  | fuel + 1, ⟨'\\', false⟩ :: ⟨c, _⟩ :: t => .one c :: readFrom fuel t
  | fuel + 1, ⟨'[', false⟩ :: t =>
    let (negated, body) :=
      match t with
      | ⟨'!', false⟩ :: body => (true, body)
      | ⟨'^', false⟩ :: body => (true, body)
      | _ => (false, t)
    match readRanges (body.length + 1) true body with
    | some (ranges, rest) => .among negated ranges :: readFrom fuel rest
    | none => .one '[' :: readFrom fuel t
  | fuel + 1, ⟨c, false⟩ :: t => .one c :: readFrom fuel t

/-- Reads a pattern. -/
def read (t : List Marked) : Pattern := readFrom (t.length + 1) t

/-- Whether marked characters are a pattern that fits more than one text.  A bracket counts only if
one closes it. -/
def isActive : List Marked → Bool
  | [] => false
  | ⟨c, isQuoted⟩ :: t =>
    (!isQuoted && (c = '*' || c = '?' || (c = '[' && t.any (·.char = ']')))) || isActive t

/-- A text without the part at its front that fits a pattern, where `sizes` are the lengths to
try. -/
def trimFront (p : Pattern) (sizes : List Nat) (t : Raw) : Raw :=
  match sizes.find? fun n => fits p (t.take n) with
  | some n => t.drop n
  | none => t

/-- A text without the shortest or longest part at its front or its end that fits a pattern. -/
def trim (p : Pattern) (front longest : Bool) (t : Raw) : Raw :=
  let upwards := List.range (t.length + 1)
  let sizes := if longest then upwards.reverse else upwards
  if front then trimFront p sizes t
  else
    match sizes.find? fun n => fits p (t.drop (t.length - n)) with
    | some n => t.take (t.length - n)
    | none => t

end Pattern

end LobsterServer.Host
