import LobsterServer.Diagnostic
import LobsterServer.Text.Blank
import LobsterServer.Text.Digit

set_option autoImplicit false

/-!
# Lines of a compiler report

The compiler reports with lines of the form

    file(line): severity: message

where the line number is a run of decimal digits of any script and the severity is one of three
words.  The file name is the shortest non-empty one that leaves such a rest; it may itself hold
parentheses.
-/

namespace LobsterServer.Report

/-- A line that has the form of a report. -/
structure Line where
  file : Text
  digits : Text
  word : String
  message : Text
  deriving DecidableEq, Repr

/-- The words a report may give as its severity. -/
def words : List String := ["error", "warning", "note"]

/-- What follows `start` at the front of a text. -/
def after? (start : String) (t : Text) : Option Text :=
  if start.toList.isPrefixOf t then some (t.drop start.toList.length) else none

/-- Reads the severity word and the message. -/
def remark? (t : Text) : Option (String × Text) :=
  words.findSome? fun word => (after? (word ++ ": ") t).map fun message => (word, message)

/-- Reads all that follows the file name: the digits, the severity word and the message. -/
def rest? : Text → Option (Text × String × Text)
  | '(' :: t =>
    let digits := t.takeWhile Text.isDigit
    if digits = [] then none
    else
      (after? "): " (t.drop digits.length)).bind fun t =>
        (remark? t).map fun (word, message) => (digits, word, message)
  | _ => none

/-- Reads a report line, with the shortest file name. -/
def Line.parse? : Text → Option Line
  | [] => none
  | c :: t =>
    match rest? t with
    | some (digits, word, message) => some ⟨[c], digits, word, message⟩
    | none => (Line.parse? t).map fun line => { line with file := c :: line.file }

namespace Line

/-- The number of the reported line, counted from one. -/
def number (l : Line) : Nat := Text.lineNumber l.digits

/-- The severity of the report. -/
def severity (l : Line) : Severity := Severity.ofCompilerWord l.word

end Line

example : Line.parse? "a(b)(3): note: c".toList =
    some ⟨"a(b)".toList, ['3'], "note", ['c']⟩ := by decide
example : Line.parse? "(3): note: c".toList = none := by decide

end LobsterServer.Report
