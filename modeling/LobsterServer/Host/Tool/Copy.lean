import LobsterServer.Host.Tool.Argument

set_option autoImplicit false

/-!
# Tools that copy

What is read is written again, as it is or in part.
-/

namespace LobsterServer.Host.Tool

/-! ## All of it -/

/-- Copies files one after the other. -/
def concatenate (t : Task) : Effort :=
  t.withArguments ⟨"u", "", [], 1⟩ fun a => t.filter a.operands List.flatten

/-! ## A part -/

/-- The first `n` lines. -/
def takeLines : Nat → Raw → Raw
  | 0, _ => []
  | _ + 1, [] => []
  | n + 1, '\n' :: rest => '\n' :: takeLines n rest
  | n + 1, c :: rest => c :: takeLines (n + 1) rest

/-- How many lines a text has; a last one without a line break counts. -/
def countLines (r : Raw) : Nat :=
  r.countP (· = '\n') + if r.getLast?.any (· ≠ '\n') then 1 else 0

/-- What is counted off. -/
inductive Measure where
  | lines
  | bytes
  deriving DecidableEq, Repr

/-- How many units a text has. -/
def Measure.count (u : Measure) (r : Raw) : Nat :=
  match u with
  | .lines => countLines r
  | .bytes => r.length

/-- The first units of a text. -/
def Measure.take (u : Measure) (n : Nat) (r : Raw) : Raw :=
  match u with
  | .lines => takeLines n r
  | .bytes => r.take n

/-- A text without its first units. -/
def Measure.drop (u : Measure) (n : Nat) (r : Raw) : Raw := r.drop (u.take n r).length

/-- The factor that a suffix of a number stands for. -/
def sizeFactor? (t : Raw) : Option Nat :=
  match String.ofList t with
  | "" => some 1
  | "b" => some 512
  | "kB" => some 1000
  | "k" => some 1024
  | "K" => some 1024
  | "KiB" => some 1024
  | "MB" => some 1000000
  | "M" => some 1048576
  | "MiB" => some 1048576
  | "G" => some 1073741824
  | _ => none

/-- A size with an optional suffix. -/
def size? (t : Raw) : Option Nat :=
  match readDigits 10 t with
  | (some n, suffix) => (sizeFactor? suffix).map (n * ·)
  | (none, _) => none

/-- A count with the sign in front of it. -/
def signedSize? (t : Raw) : Option (Option Char × Nat) :=
  match t with
  | '-' :: rest => (size? rest).map fun n => (some '-', n)
  | '+' :: rest => (size? rest).map fun n => (some '+', n)
  | _ => (size? t).map fun n => (none, n)

/-- Arguments in which a number behind a dash stands for that many lines. -/
def spellOutCount (arguments : List Raw) : List Raw :=
  match arguments with
  | ('-' :: c :: digits) :: rest =>
    if c.isDigit && digits.all Char.isDigit then ['-', 'n'] :: (c :: digits) :: rest else arguments
  | _ => arguments

/-- The options of the tools that copy a part. -/
def partOptions : OptionTable :=
  ⟨"qvfzF", "nc", [("lines", 'n'), ("bytes", 'c'), ("quiet", 'q'), ("silent", 'q'),
    ("verbose", 'v')], 1⟩

/-- The first units of a source that goes on with the same again and again: enough of them, if
there are any. -/
def Measure.enough? (measure : Measure) (n : Nat) (r : Raw) : Option Raw :=
  let period := match measure with
    | .lines => r.countP (· = '\n')
    | .bytes => r.length
  if period = 0 then none else some (List.replicate (n / period + 1) r).flatten

/-- Which part of a text is copied: the measure, a count and the sign in front of it. -/
structure Portion where
  measure : Measure
  sign : Option Char
  count : Nat

/-- Copies a part of each file, behind its name if there are several.  `part` gives the part of a
text, and `readsAll` says that the whole text has to be known for it. -/
def copyPart (t : Task) (part : Portion → Raw → Raw) (readsAll : Bool) : Effort :=
  Task.withArguments { t with arguments := spellOutCount t.arguments } partOptions fun a =>
    let chosen := (a.options.filter fun o => o.1 = 'n' || o.1 = 'c').getLast?
    let (measure, amount) := match chosen with
      | some ('c', amount) => (Measure.bytes, amount)
      | some (_, amount) => (Measure.lines, amount)
      | none => (Measure.lines, ascii "10")
    match signedSize? amount with
    | none =>
      let what := if measure = .bytes then "invalid number of bytes: '" else
        "invalid number of lines: '"
      .fail t 1 (t.complaint ++ ascii what ++ amount ++ ['\''])
    | some (sign, n) =>
      let portion : Portion := ⟨measure, sign, n⟩
      let refuse (path : Raw) (fault : FileFault) : Raw :=
        if fault = .isADirectory then
          closedLine (t.complaint ++ ascii "error reading '" ++ path ++ ascii "': Is a directory")
        else
          closedLine (t.complaint ++ ascii "cannot open '" ++ path
            ++ ascii ("' for reading: " ++ fault.cause))
      let (found, complaints, _) := t.sources refuse a.operands
      let readsAll := readsAll || sign = some '-'
      let parts : List (Raw × Option Raw) := found.map fun source =>
        (source.path,
          if source.ends then some (part portion source.content)
          else if readsAll then none
          else (measure.enough? n source.content).map (part portion))
      let headed := (a.operands.length > 1 || a.has 'v') && !a.has 'q'
      let shown := parts.map fun (path, content) =>
        (if headed then
          let name := if path = ['-'] then ascii "standard input" else path
          ascii "==> " ++ name ++ ascii " <==\n"
        else []) ++ content.getD []
      let taken := match parts.lookup ['-'] with
        | none => some 0
        | some content => if readsAll then none else some (content.getD []).length
      let isEndless := parts.any (·.2.isNone) || (a.has 'f' && readsAll)
      let separator := if headed then ['\n'] else []
      ⟨if complaints = [] then 0 else 1, [(2, complaints), (1, joinedBy separator shown)], taken,
        t.disk, if isEndless then never else 0⟩

/-- Copies the first part; a count below zero leaves out the last units. -/
def copyFirst (t : Task) : Effort :=
  copyPart t
    (fun ⟨measure, sign, n⟩ r =>
      measure.take (if sign = some '-' then measure.count r - n else n) r)
    false

/-- Copies the last part; a count behind a plus says with which measure that begins. -/
def copyLast (t : Task) : Effort :=
  copyPart t
    (fun ⟨measure, sign, n⟩ r =>
      measure.drop (if sign = some '+' then n - 1 else measure.count r - n) r)
    true

/-! ## Without end -/

/-- Writes a line without end. -/
def repeatLine (t : Task) : Effort :=
  let words := if t.arguments = [] then [['y']] else t.arguments
  let line := closedLine (joinedBy [' '] words)
  .endless t (List.replicate (Task.endlessSample / line.length + 1) line).flatten

end LobsterServer.Host.Tool
