import LobsterServer.Text.Search

set_option autoImplicit false

/-!
# File paths

Paths are compared and cut by components, not by characters: repeated separators, a separator at
the end and inner dots name nothing.  Three operations are needed: the parent of a path, which
gives the directory of a document, the test whether one path ends in another, which tells
whether the compiler reports about the scratch copy, and the joining of two paths, which gives
the place of that copy.
-/

namespace LobsterServer.Path

/-- One step of a path. -/
inductive Component where
  /-- the separator at the front of an absolute path -/
  | root
  /-- a dot at the front of a relative path -/
  | here
  /-- two dots -/
  | up
  /-- a name -/
  | name (text : Text)
  deriving DecidableEq, Repr

/-- Whether a path starts with a separator. -/
def isAbsolute (p : Text) : Bool := p.head? = some '/'

/-- Whether a path starts with a dot that stands for the current directory. -/
def startsHere (p : Text) : Bool := p = ['.'] || ['.', '/'].isPrefixOf p

/-- Characters in front of the part of a path that is cut at separators. -/
def headLength (p : Text) : Nat := if isAbsolute p || startsHere p then 1 else 0

/-- The component a piece between separators stands for; an empty piece and a dot stand for
none. -/
def pieceComponent? (piece : Text) : Option Component :=
  if piece = [] ∨ piece = ['.'] then none
  else if piece = ['.', '.'] then some .up
  else some (.name piece)

/-- The components of a path, from the front. -/
def components (p : Text) : List Component :=
  (if isAbsolute p then [.root] else if startsHere p then [.here] else [])
    ++ (Text.splitOn '/' (p.drop (headLength p))).filterMap pieceComponent?

/-- Whether the components of `tail` are the last components of `p`. -/
def endsWith (p tail : Text) : Bool := (components tail).isSuffixOf (components p)

/-- A path continued by another one, with a separator between them if there is none yet.  An
absolute path goes on from nothing. -/
def join (front back : Text) : Text :=
  if isAbsolute back then back
  else if front = [] ∨ front.getLast? = some '/' then front ++ back
  else front ++ '/' :: back

/-! ## The parent

The body of a path is worked on backwards: the last piece is at the front of the reversed body. -/

/-- A reversed body without the pieces at its end that stand for nothing. -/
def trimBody : Text → Text
  | [] => []
  | '/' :: rest => trimBody rest
  | ['.'] => []
  | '.' :: '/' :: rest => trimBody rest
  | body => body

/-- A reversed body without its last piece and the separator in front of it. -/
def dropPiece (body : Text) : Text := (body.dropWhile (· ≠ '/')).drop 1

/-- The path without its last component, or nothing for a root and for a path without
components. -/
def parent? (p : Text) : Option Text :=
  match trimBody (p.drop (headLength p)).reverse with
  | [] => if startsHere p then some [] else none
  | body => some (p.take (headLength p) ++ (trimBody (dropPiece body)).reverse)

/-- The text after the last separator. -/
def lastPiece (p : Text) : Text := (Text.splitOn '/' p).getLastD []

/-- The file name that a URI shows: all that follows its last slash or backslash. -/
def shownName (uri : Text) : Text :=
  (uri.reverse.takeWhile fun c => c ≠ '/' && c ≠ '\\').reverse

example : parent? "/work/game.lobster".toList = some "/work".toList := by decide
example : parent? "a/./b/".toList = some "a".toList := by decide
example : parent? "./a".toList = some ".".toList := by decide
example : parent? "//a".toList = some "/".toList := by decide
example : parent? "/".toList = none := by decide
example : parent? ".".toList = some [] := by decide
example : endsWith "/tmp/./d//x".toList "d/x".toList = true := by decide
example : endsWith "/tmp/ad/x".toList "d/x".toList = false := by decide

end LobsterServer.Path
