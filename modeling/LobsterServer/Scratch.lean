import LobsterServer.Compiler.Run
import LobsterServer.Path
import LobsterServer.SipHash
import LobsterServer.Table

set_option autoImplicit false

/-!
# Scratch copies

The compiler reads a copy of a document, never the document.  The copies lie in a directory that
the server owns, each in a sub-directory for its URI, under the file name that the URI shows.
Where that name cannot be a file's name, the copy cannot be written; and the system may refuse to
write any other copy too.
-/

namespace LobsterServer

/-- The directory of the scratch copies, with the text last written to each file. -/
structure Scratch where
  root : String
  files : Table Text

/-- How the writing of a file ends. -/
inductive WriteEnd where
  /-- the file holds the text -/
  | complete
  /-- the system refuses for some cause, and may leave some other text in the file -/
  | refused (cause : String) (left : Option Text)
  deriving DecidableEq, Repr

/-- The text that is in a file after `content` was to be written to it, if the file was touched. -/
def WriteEnd.text? (content : Text) : WriteEnd → Option Text
  | complete => some content
  | refused _ left => left

namespace Scratch

/-- A scratch directory without files. -/
def empty (root : String) : Scratch := ⟨root, []⟩

/-- The digest of a text: the hash of its bytes and of one more, which no text has among its
bytes. -/
def digest (t : Text) : UInt64 := SipHash.hash (t.encode ++ [0xFF])

/-- Sixteen hexadecimal digits. -/
def hexDigits (n : UInt64) : Text :=
  let digits := Nat.toDigits 16 n.toNat
  List.replicate (16 - digits.length) '0' ++ digits

/-- The sub-directory for a URI. -/
def slot (uri : String) : String := String.ofList (hexDigits (digest uri.toList))

/-- The file name of the copy of a document. -/
def fileName (uri : String) : String := String.ofList (Path.shownName uri.toList)

/-- The place of a copy within the scratch directory. -/
def relativePath (uri : String) : String := slot uri ++ "/" ++ fileName uri

/-- The path of a copy. -/
def filePath (s : Scratch) (uri : String) : String :=
  String.ofList (Path.join s.root.toList (relativePath uri).toList)

/-- The most bytes a file name can have. -/
def maxNameBytes : Nat := 255

/-- Why a file of this name cannot be written.  The sub-directory is created first, except for
the names that a path drops at its end: an empty one and a single dot. -/
def nameFault? (name : Text) : Option FileFault :=
  if name.contains '\x00' then some .nulInPath
  else if name = [] ∨ name = ['.', '.'] then some .isADirectory
  else if name = ['.'] then some .notFound
  else if maxNameBytes < name.byteLength then some .nameTooLong
  else none

/-- The scratch directory with a text in the file for a document. -/
def put (s : Scratch) (uri : String) (content : Text) : Scratch :=
  { s with files := s.files.insert (s.filePath uri) content }

/-- The scratch directory after writing the copy of a document has ended.  Where the name cannot be
a file's there is no file that could be touched, and so no such ending. -/
def afterWrite? (s : Scratch) (uri : String) (content : Text) (ending : WriteEnd) :
    Option Scratch :=
  match ending.text? content with
  | none => some s
  | some text =>
    match nameFault? (fileName uri).toList with
    | some _ => none
    | none => some (s.put uri text)

/-- Writes the copy of a document where the system refuses nothing but names. -/
def write (s : Scratch) (uri : String) (content : Text) : Except FileFault Scratch :=
  match nameFault? (fileName uri).toList with
  | some fault => .error fault
  | none => .ok (s.put uri content)

/-- How writing the copy of a document ends where the system refuses nothing but names. -/
def writeEnd (uri : String) : WriteEnd :=
  match nameFault? (fileName uri).toList with
  | some fault => .refused fault.message none
  | none => .complete

/-- The text in a file. -/
def content? (s : Scratch) (path : String) : Option Text := s.files.get? path

end Scratch

end LobsterServer
