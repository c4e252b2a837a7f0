import LobsterServer.Uri.Authority

set_option autoImplicit false

/-!
# Paths of URIs

A path from the root is a list of pieces.  Pieces of one or two dots are resolved when the path is
read, also if the dots are escaped.  A drive letter is never left, and where a file's path starts
with one as a piece of its own, the place is on this machine.  Texts of paths may hold breaks, which
belong to no piece.
-/

namespace LobsterServer.Uri

/-- Splits a path at its separators; there is always a piece. -/
def splitPath (m : Manner) (t : Text) : List Text :=
  Text.splitOn '/' (t.map fun c => if m.isSeparator c then '/' else c)

/-- The dots of a piece, where an escaped dot is a dot too. -/
def plainDots : Text → Text
  | '%' :: '2' :: 'e' :: rest => '.' :: plainDots rest
  | '%' :: '2' :: 'E' :: rest => '.' :: plainDots rest
  | c :: rest => c :: plainDots rest
  | [] => []

/-- What a piece does to the pieces in front of it. -/
inductive Move where
  | stay
  | leave
  | enter (piece : Text)
  deriving DecidableEq, Repr

/-- What a piece does. -/
def Move.ofPiece (piece : Text) : Move :=
  if plainDots piece = ['.'] then .stay
  else if plainDots piece = ['.', '.'] then .leave
  else .enter piece

/-- A drive letter with a colon at the front of a longer piece, and the rest: where breaks follow
the colon directly, a piece ends with them. -/
def splitDrive? (piece : Text) : Option (Text × Text) :=
  match piece.dropWhile isBreak with
  | letter :: rest =>
    match rest.dropWhile isBreak with
    | ':' :: rest =>
      if letter.isAlpha && (rest.head?.map isBreak).getD false && visible rest ≠ [] then
        some ([letter, ':'], visible rest)
      else none
    | _ => none
  | [] => none

/-- What has been read of a path: its pieces, the last at the front, and whether the first is a
drive letter that stood alone. -/
structure Walk where
  done : List Text
  onDrive : Bool

namespace Walk

/-- No pieces yet. -/
def start : Walk := ⟨[], false⟩

/-- Goes on to a piece; a drive letter that starts a file's path is written with a colon. -/
def enter (m : Manner) (w : Walk) (piece : Text) : Walk :=
  if m = .file ∧ w.done = [] ∧ Authority.isDrive piece then ⟨[piece.take 1 ++ [':']], true⟩
  else { w with done := piece :: w.done }

/-- Leaves the last piece, unless it is a drive letter. -/
def leave (w : Walk) : Walk :=
  match w.done with
  | piece :: done => if Authority.isDrive piece then w else { w with done }
  | [] => w

/-- Takes one piece as it is written; `ends` tells whether it is the last one.  Dots at the end
leave an empty piece. -/
def take (m : Manner) (ends : Bool) (w : Walk) (piece : Text) : Walk :=
  let close (w : Walk) : Walk := if ends then { w with done := [] :: w.done } else w
  match if m = .file ∧ w.done = [] then splitDrive? piece else none with
  | some (drive, rest) => { w with done := [Part.path.encode rest, drive] }
  | none =>
    match Move.ofPiece (Part.path.encode (visible piece)) with
    | .stay => close w
    | .leave => close w.leave
    | .enter piece => w.enter m piece

/-- Takes pieces, of which the last ends the path. -/
def takeAll (m : Manner) : Walk → List Text → Walk
  | w, [] => w
  | w, piece :: rest => takeAll m (w.take m (rest = []) piece) rest

end Walk

/-- Pieces without the empty ones at the front, of which at most the last piece is kept. -/
def dropEmpty : List Text → List Text
  | [] :: piece :: rest => dropEmpty (piece :: rest)
  | pieces => pieces

/-- Reads the pieces of a path behind its first separator. -/
def walk (m : Manner) (t : Text) : Walk := Walk.start.takeAll m (splitPath m t)

/-- The pieces of a path in their order. -/
def Walk.pieces (m : Manner) (w : Walk) : List Text :=
  if m = .file then dropEmpty w.done.reverse else w.done.reverse

/-- The text of a path behind its first separator, if it has one. -/
def behindRoot (m : Manner) (t : Text) : Text :=
  match t with
  | [] => []
  | c :: rest => if m.isSeparator c then rest else t

/-- Reads the pieces of a path.  Behind an authority of another scheme there may be none. -/
def readTrail (m : Manner) (t : Text) : List Text :=
  if m = .other ∧ t = [] then [] else (walk m (behindRoot m t)).pieces m

example : readTrail .other "/a/./b/%2E./".toList = ["a".toList, []] := by decide
example : readTrail .file "//C|/../x".toList = ["C|".toList, "x".toList] := by decide
example : readTrail .file "/C|/../x".toList = ["C:".toList, "x".toList] := by decide
example : readTrail .file "/C:..".toList = ["C:..".toList] := by decide
example : readTrail .file "/C:\t..".toList = ["C:".toList, "..".toList] := by decide

end LobsterServer.Uri
