import LobsterServer.Path
import LobsterServer.QuickFix
import LobsterServer.Report.Line
import LobsterServer.Text.Line

set_option autoImplicit false

/-!
# Reading a compiler report

Output is read line by line.  A report line opens a diagnostic; the non-blank lines directly after
it that are no report lines extend its message.  A blank line ends the message, and lines with no
diagnostic before them are dropped.

A report about the scratch copy covers the reported line of the document.  Reports about any other
file are pinned to the start of the document and keep that file's name in their message.
-/

namespace LobsterServer.Report

/-- What reading starts from: the text of the document and the place of its scratch copy. -/
structure Subject where
  text : Text
  scratchFile : Text

/-- Whether a report line is about the document itself. -/
def Subject.isOwn (s : Subject) (l : Line) : Bool := Path.endsWith l.file s.scratchFile

/-- The diagnostic that a report line opens. -/
def Subject.diagnostic (s : Subject) (l : Line) : Diagnostic :=
  let remark := String.ofList (Text.trimEnd l.message)
  let (range, message) :=
    if s.isOwn l then (s.text.lineRange (UInt32.ofNat (l.number - 1)), remark)
    else
      (Range.point .origin,
        String.ofList l.file ++ "(" ++ toString l.number ++ "): " ++ remark)
  (Diagnostic.own range l.severity message).withCode
    ((QuickFix.classify message).getD Code.compiler)

/-- The diagnostic with one more line in its message. -/
def extend (d : Diagnostic) (line : Text) : Diagnostic :=
  { d with message := d.message ++ "\n" ++ String.ofList (Text.trimEnd line) }

/-- How far reading has come. -/
structure Reading where
  /-- the diagnostics so far, the last one first -/
  found : List Diagnostic
  /-- whether the next line may extend the last diagnostic -/
  continuing : Bool

namespace Reading

/-- Before the first line. -/
def start : Reading := ⟨[], false⟩

/-- Reads one line. -/
def next (s : Subject) (r : Reading) (line : Text) : Reading :=
  match Line.parse? line with
  | some l => ⟨s.diagnostic l :: r.found, true⟩
  | none =>
    match r.found with
    | last :: earlier =>
      if r.continuing && !Text.allBlank line then ⟨extend last line :: earlier, true⟩
      else ⟨r.found, false⟩
    | [] => ⟨[], false⟩

end Reading

/-- The diagnostics in a text the compiler printed. -/
def read (s : Subject) (output : Text) : List Diagnostic :=
  (output.lines.foldl (Reading.next s) Reading.start).found.reverse

end LobsterServer.Report
