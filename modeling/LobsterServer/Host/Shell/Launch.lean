import LobsterServer.Host.Shell.Builtin
import LobsterServer.Host.Shell.Redirection
import LobsterServer.Host.Tool.Table

set_option autoImplicit false

/-!
# Launching programs

A program takes the place of a shell: a tool does its work, a shell executes a script, and a file
with commands is executed by a shell or by the program that its first line names.
-/

namespace LobsterServer.Host.Shell

/-- A program that has ended. -/
def ended (s : Shell) (code : Nat) : Shell := { s with course := .exited code, status := code }

/-- A program that has ended with a line on its error output. -/
def failed (s : Shell) (code : Nat) (complaint : Raw) : Shell :=
  (s.write 2 (closedLine complaint)).ended code

/-! ## Tools -/

/-- Writes row after row until one finds no room; the answer says whether all found room. -/
def writeAll (s : Shell) (writes : List (Nat × Raw)) : Shell × Bool :=
  writes.foldl (fun (s, ok) (stream, bytes) => if ok then s.tryWrite stream bytes else (s, ok))
    (s, true)

/-- The work of a tool: the shell behind it, the exit code, and whether all output found room.
Output of a tool whose input has no end is written without end too. -/
def work (s : Shell) (tool : Task → Effort) (words : List Raw) (environment : List (Raw × Raw))
    (complaint : Raw) : Shell × Nat × Bool :=
  let input := (s.channel? 0).bind s.world.available
  let goesOn := (s.channel? 0).any s.world.goesOn
  let f := tool ⟨words.headD [], words.drop 1, input, goesOn, s.world.disk, s.directory,
    environment, complaint⟩
  let s := { s with world := { s.world with disk := f.disk } }
  let (world, moment) := match s.channel? 0 with
    | some n =>
      if f.taken = some 0 then (s.world, 0)
      else
        let (world, moment) := s.world.take n f.taken
        (world.takeAhead n (max s.now moment), moment)
    | none => (s.world, 0)
  let s := { s with world }
  let s := if never ≤ moment then s else s.waitUntil moment
  let (s, ok) := s.writeAll f.writes
  let isEndless := ok && (never ≤ moment || never ≤ f.elapsed)
  let s := if isEndless then { s.stop with floods := f.writes.any (·.2 ≠ []) }
    else s.spend f.elapsed
  (s, f.code, ok)

/-- Why something cannot be written to the standard output. -/
def writeFault (s : Shell) : String :=
  if (s.channel? 1).isSome then "No space left on device" else "Bad file descriptor"

/-- A tool in the place of the shell. -/
def becomeTool (s : Shell) (tool : Task → Effort) (words : List Raw)
    (environment : List (Raw × Raw)) : Shell :=
  let name := words.headD []
  let (t, code, ok) := s.work tool words environment (name ++ ascii ": ")
  if !ok then t.failed 1 (name ++ ascii (": write error: " ++ t.writeFault))
  else if t.course = .stuck then t
  else t.ended code

/-! ## Shells -/

/-- The variables of a new shell. -/
def firstVariables (usualPath : List Raw) (environment : List (Raw × Raw)) (directory : Place) :
    Table Variable :=
  let own : List (String × Raw) :=
    [("IFS", [' ', '\t', '\n']), ("OPTIND", ['1']), ("PS1", ['#', ' ']), ("PS2", ['>', ' ']),
     ("PS4", ['+', ' ']), ("PPID", decimal (firstNumber - 1)),
     ("PATH", joinedBy [':'] usualPath)]
  let start : Table Variable := own.map fun (name, value) => (name, ⟨some value, false, false⟩)
  let start := start.insert "PWD" ⟨some directory.path, true, false⟩
  environment.foldl
    (fun table (name, value) =>
      if isName name && !(["IFS", "PPID", "PWD"].map String.toList).contains name then
        table.insert (String.ofList name) ⟨some value, true, false⟩
      else table)
    start

/-- A new shell in the place of the program. -/
def renewed (s : Shell) (name : Raw) (environment : List (Raw × Raw)) : Shell :=
  { s with
    name, parameters := [], functions := [], options := []
    bindings := firstVariables s.world.disk.searchPath environment s.directory
   , traps := s.traps.filter (·.2 = []), status := 0, outputStatus := 0
    shownNumber := s.number, jobs := [], lastJob := none, line := 0
    command := none, course := .running, loops := 0, calls := 0, hidden := [], documents := []
    isReplaced := false }

/-- How a shell is started. -/
structure Start where
  shell : Shell
  /-- whether the first operand is a script -/
  givesScript : Bool
  operands : List Raw

/-- Reads the letters of an argument at the start of a shell; the answer says whether a script is
given, and whether the next argument names an option. -/
def readStartLetters (on : Bool) : Raw → Shell → Except Raw (Shell × Bool × Bool)
  | [], s => .ok (s, false, false)
  | c :: rest, s =>
    if c = 'c' && on then
      (readStartLetters on rest s).map fun (s, _, named) => (s, true, named)
    else if c = 'o' then
      (readStartLetters on rest s).map fun (s, given, _) => (s, given, true)
    else if c = 'l' then readStartLetters on rest s
    else if optionLetters.contains c then
      readStartLetters on rest { s with options := switched s.options on c }
    else .error (ascii "Illegal option " ++ [if on then '-' else '+', c])

/-- Reads the arguments of a shell. -/
def readStart : List Raw → Start → Except Raw Start
  | [], start => .ok start
  | (sign :: letters) :: rest, start =>
    if sign ≠ '-' ∧ sign ≠ '+' then .ok { start with operands := (sign :: letters) :: rest }
    else if letters = [] ∨ letters = ['-'] then .ok { start with operands := rest }
    else
      match readStartLetters (sign = '-') letters start.shell with
      | .error complaint => .error complaint
      | .ok (shell, given, named) =>
        let start := { start with shell, givesScript := start.givesScript || given }
        if !named then readStart rest start
        else
          match rest with
          | [] => .ok start
          | name :: rest =>
            match optionNames.lookup (String.ofList name) with
            | none => .error (ascii "Illegal option " ++ [sign] ++ ascii "o " ++ name)
            | some c =>
              let options := c.elim start.shell.options (switched start.shell.options (sign = '-'))
              readStart rest { start with shell := { start.shell with options } }
  | [] :: rest, start => .ok { start with operands := [] :: rest }

/-- A shell that executes a script to its end. -/
def executing (e : Executor) (isLast : Bool) (text : Raw) (s : Shell) : Shell :=
  { conclude e (e.run (.script ⟨false, isLast⟩ text) s) with traps := [], isReplaced := true }

/-- A shell in the place of the program. -/
def becomeShell (e : Executor) (s : Shell) (words : List Raw) (environment : List (Raw × Raw)) :
    Shell :=
  let s := s.renewed (words.headD []) environment
  let refuse (complaint : Raw) : Shell :=
    { s.failed 2 (s.complaintStart ++ complaint) with isReplaced := true }
  match readStart (words.drop 1) ⟨s, false, []⟩ with
  | .error complaint => refuse complaint
  | .ok ⟨s, true, []⟩ => { s.failed 2 (s.complaintStart ++ ascii "-c requires an argument") with
      isReplaced := true }
  | .ok ⟨s, true, text :: operands⟩ =>
    executing e (!s.has 's') text
      { s with name := operands.headD s.name, parameters := operands.drop 1 }
  | .ok ⟨s, false, operands⟩ =>
    if s.has 's' || operands.isEmpty then
      let text := ((s.channel? 0).bind s.world.available).getD []
      let (world, moment) := match s.channel? 0 with
        | some n => s.world.take n none
        | none => (s.world, 0)
      executing e false text ({ s with world, parameters := operands }.waitUntil moment)
    else
      let path := operands.headD []
      match s.world.disk.lookUp s.directory path with
      | .error fault =>
        refuse (ascii "cannot open " ++ path ++ ascii (": " ++ openFault true fault))
      | .ok (_, .data text _) =>
        executing e false text { s with name := path, parameters := operands.drop 1 }
      | .ok _ => { s.ended 0 with isReplaced := true }

/-! ## Files with commands -/

/-- The program that the first line of a script names, with an argument for it if there is one. -/
def interpreter? (content : Raw) : Option (List Raw) :=
  match content with
  | '#' :: '!' :: rest =>
    let line := (rest.takeWhile (· ≠ '\n')).dropWhile isGap
    let path := line.takeWhile fun c => !isGap c
    let argument := ((line.drop path.length).dropWhile isGap).reverse.dropWhile isGap
    some (if argument = [] then [path] else [path, argument.reverse])
  | _ => none

/-- What is run for a file with commands. -/
def scriptCommand (path content : Raw) : List Raw :=
  (interpreter? content).getD [ascii "/bin/sh"] ++ [path]

/-- Looks a program up, for a script the one that executes it; the answer has the words of the
command. -/
def locate (s : Shell) (searchPath : List Raw) (words : List Raw) :
    Except FileFault (Program × List Raw) :=
  match s.world.disk.executable s.directory searchPath (words.headD []) with
  | .error fault => .error fault
  | .ok (_, .program p) => .ok (p, words)
  | .ok (path, .script _ content) =>
    let command := scriptCommand path content
    match s.world.disk.executableAt s.directory (command.headD []) with
    | .ok (.program p) => .ok (p, command ++ words.drop 1)
    | _ => .error .notFound

/-! ## Programs -/

/-- A program in the place of the shell. -/
def become (e : Executor) (p : Program) (words : List Raw) (environment : List (Raw × Raw))
    (s : Shell) : Shell :=
  let s := s.spend startTime
  if s.course = .stuck then s
  else
    match p with
    | .shell => becomeShell e s words environment
    | .tool name =>
      match Tool.named? name with
      | some tool => s.becomeTool tool words environment
      | none => s.ended 0

end LobsterServer.Host.Shell
