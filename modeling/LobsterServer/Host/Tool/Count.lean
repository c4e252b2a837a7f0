import LobsterServer.Host.Tool.Argument

set_option autoImplicit false

/-!
# The tool that counts

What is read is counted: lines, words and bytes.
-/

namespace LobsterServer.Host.Tool

/-- What is counted in a text. -/
structure Tally where
  lines : Nat
  words : Nat
  bytes : Nat
  longest : Nat

/-- The tally of nothing. -/
def Tally.zero : Tally := ⟨0, 0, 0, 0⟩

/-- The tally of a text. -/
def Tally.of (r : Raw) : Tally :=
  let isStart (pair : Char × Char) : Bool := isGap pair.1 && !isGap pair.2
  ⟨r.countP (· = '\n'), ((' ' :: r).zip r).countP isStart, r.length,
    ((Text.splitOn '\n' r).map List.length).foldl max 0⟩

/-- The tally of two texts. -/
def Tally.add (a b : Tally) : Tally :=
  ⟨a.lines + b.lines, a.words + b.words, a.bytes + b.bytes, max a.longest b.longest⟩

/-- A number with blanks in front. -/
def rightAligned (width n : Nat) : Raw :=
  let digits := decimal n
  List.replicate (width - digits.length) ' ' ++ digits

/-- The counts of a tally that are asked for; lines, words and bytes if nothing is. -/
def Tally.chosen (tally : Tally) (a : Arguments) : List Nat :=
  let any := a.options ≠ []
  (if !any || a.has 'l' then [tally.lines] else [])
    ++ (if !any || a.has 'w' then [tally.words] else [])
    ++ (if a.has 'm' then [tally.bytes] else [])
    ++ (if !any || a.has 'c' then [tally.bytes] else [])
    ++ (if a.has 'L' then [tally.longest] else [])

/-- Counts lines, words and bytes. -/
def count (t : Task) : Effort :=
  t.withArguments ⟨"lwcmL", "", [("lines", 'l'), ("words", 'w'), ("bytes", 'c'), ("chars", 'm'),
      ("max-line-length", 'L')], 1⟩ fun a =>
    let (found, complaints, usesInput) := t.sources t.refuse a.operands
    let tallies := found.map fun source => (Tally.of source.content, source.path)
    let total := tallies.foldl (fun sum entry => sum.add entry.1) Tally.zero
    let single := (total.chosen a).length = 1 && a.operands.length ≤ 1
    let width := if single then 1 else if usesInput then 7 else (decimal total.bytes).length
    let line (tally : Tally) (name : Raw) : Raw :=
      closedLine (joinedBy [' '] ((tally.chosen a).map (rightAligned width))
        ++ if name = [] then [] else ' ' :: name)
    let named := a.operands ≠ []
    let lines := tallies.flatMap fun (tally, path) => line tally (if named then path else [])
    let sum := if 1 < a.operands.length then line total (ascii "total") else []
    let code := if complaints = [] then 0 else 1
    if !found.all Task.Source.ends then .endless t []
    else
      ⟨code, [(2, complaints), (1, lines ++ sum)], if usesInput then none else some 0, t.disk, 0⟩

end LobsterServer.Host.Tool
