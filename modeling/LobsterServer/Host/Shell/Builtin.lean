import LobsterServer.Host.Comparison
import LobsterServer.Host.Format
import LobsterServer.Host.Shell.Reader
import LobsterServer.Host.Shell.State
import LobsterServer.Host.Tool.Argument

set_option autoImplicit false

/-!
# The shell's own commands

Commands that change the shell itself or tell about it.  Those that execute scripts are defined
with the execution of commands; the others are functions from a shell to a shell.
-/

namespace LobsterServer.Host

/-- The commands of the shell that are not special. -/
def regularCommands : List String :=
  ["[", "cd", "command", "echo", "false", "kill", "local", "printf", "pwd", "read", "test", "true",
   "wait"]

/-- The commands whose arguments may be assignments. -/
def assigningCommands : List String := ["export", "readonly", "local"]

/-- A command of the shell that does the work of a tool. -/
def ownTool? (name : Raw) : Option (Task → Effort) :=
  match String.ofList name with
  | "echo" => some fun t => .print t (writeWords t.arguments)
  | "printf" => some shellFormat
  | "test" => some compare
  | "[" => some compare
  | "true" => some fun t => .exit t 0
  | "false" => some fun t => .exit t 1
  | _ => none

namespace Shell

/-- The shell after a command of its own that failed, and that ends it if it is special. -/
def fail (s : Shell) (isSpecial : Bool) (what : Raw) : Shell :=
  if isSpecial then s.abandon 2 what else s.complain 2 what

/-- The shell after a command of its own that succeeded. -/
def succeed (s : Shell) : Shell := { s with status := 0 }

/-- A number that counts something; the largest is that of a 32-bit integer. -/
def countOf? (t : Raw) : Option Nat :=
  match number? t with
  | some n => if n < 0x80000000 then some n else none
  | none => none

/-- The complaint about a text that is no number. -/
def illegalNumber (t : Raw) : Raw := ascii "Illegal number: " ++ t

/-- A value in quotes, so that it can be read again: quotes in it stand between double quotes.
`fuel` bounds its length. -/
def quotedFrom : (fuel : Nat) → Raw → Raw
  | 0, _ => []
  | fuel + 1, t =>
    let part := t.takeWhile (· ≠ '\'')
    let rest := t.drop part.length
    let quotes := rest.takeWhile (· = '\'')
    let after := rest.drop quotes.length
    '\'' :: part ++ ['\''] ++
      if quotes = [] then []
      else '"' :: quotes ++ ['"'] ++ if after = [] then [] else quotedFrom fuel after

/-- A value in quotes, so that it can be read again. -/
def inQuotes (t : Raw) : Raw := quotedFrom (t.length + 1) t

/-! ## Arguments -/

/-- Reads the options in front of the arguments of the shell's own commands.  `letters` are those
that stand alone, and `valued` those that take a value. -/
def ownArguments (letters valued : String) : List Raw → Except Raw Arguments
  | [] => .ok ⟨[], []⟩
  | ['-'] :: rest => .ok ⟨[], ['-'] :: rest⟩
  | ['-', '-'] :: rest => .ok ⟨[], rest⟩
  | ('-' :: t) :: rest =>
    match readLetters t, rest with
    | .error c, _ => .error (ascii "Illegal option -" ++ [c])
    | .ok (options, none), rest =>
      (ownArguments letters valued rest).map fun a => { a with options := options ++ a.options }
    | .ok (options, some c), value :: rest =>
      (ownArguments letters valued rest).map fun a =>
        { a with options := options ++ (c, value) :: a.options }
    | .ok (_, some c), [] => .error (ascii "No arg for -" ++ c :: ascii " option")
  | rest => .ok ⟨[], rest⟩
where
  /-- Reads the letters of an argument; the last may take the next argument as its value. -/
  readLetters : Raw → Except Char (List (Char × Raw) × Option Char)
    | [] => .ok ([], none)
    | c :: rest =>
      if valued.toList.contains c then
        .ok (if rest = [] then ([], some c) else ([(c, rest)], none))
      else if letters.toList.contains c then
        (readLetters rest).map fun (options, last) => ((c, []) :: options, last)
      else .error c

/-- A command of the shell that takes options. -/
def withOptions (letters valued : String) (isSpecial : Bool) (act : Shell → Arguments → Shell)
    (s : Shell) (arguments : List Raw) : Shell :=
  match ownArguments letters valued arguments with
  | .ok a => act s a
  | .error complaint => s.fail isSpecial complaint

/-! ## Variables -/

/-- The variables in the order of their names. -/
def sortedVariables (s : Shell) : List (Raw × Variable) :=
  (s.bindings.map fun (name, v) => (name.toList, v)).mergeSort fun a b => Text.atMost a.1 b.1

/-- Writes variables as assignments behind a word. -/
def showVariables (s : Shell) (front : String) (p : Variable → Bool) : Shell :=
  let lines := s.sortedVariables.filterMap fun (name, v) =>
    if !p v then none
    else
      match v.value with
      | some value => some (closedLine (ascii front ++ name ++ '=' :: inQuotes value))
      | none => if front = "" then none else some (closedLine (ascii front ++ name))
  (s.write 1 lines.flatten).succeed

/-- An argument that may be an assignment: a name, and a value if there is one. -/
def splitAssignment (t : Raw) : Raw × Option Raw :=
  let name := t.takeWhile (· ≠ '=')
  match t.drop name.length with
  | _ :: value => (name, some value)
  | [] => (name, none)

/-- Marks variables and sets those that have a value. -/
def markVariables (s : Shell) (mark : Variable → Variable) (arguments : List Raw) : Shell :=
  arguments.foldl
    (fun s argument =>
      let (name, value) := splitAssignment argument
      if s.course ≠ .running then s
      else if !isName name then s.abandon 2 (name ++ ascii ": bad variable name")
      else
        let s := match value with
          | some value => s.assign name value
          | none => s
        if s.course ≠ .running then s
        else s.setVariable name (mark ((s.lookUp? name).getD ⟨none, false, false⟩)))
    s.succeed

/-- Takes variables or functions away. -/
def unset (s : Shell) (a : Arguments) : Shell :=
  let isFunction := a.has 'f'
  a.operands.foldl
    (fun s name =>
      if s.course ≠ .running then s
      else if isFunction then { s with functions := s.functions.erase (String.ofList name) }
      else if !isName name then s.abandon 2 (name ++ ascii ": bad variable name")
      else
        match s.lookUp? name with
        | some v =>
          if v.isFixed then s.abandon 2 (name ++ ascii ": is read only")
          else { s with bindings := s.bindings.erase (String.ofList name) }
        | none => s)
    s.succeed

/-- Makes variables local to the open function: its end gives back what they were. -/
def makeLocal (s : Shell) (arguments : List Raw) : Shell :=
  if s.calls = 0 then s.abandon 2 (ascii "not in a function")
  else
    arguments.foldl
      (fun s argument =>
        let (name, value) := splitAssignment argument
        if s.course ≠ .running then s
        else
          let entry := (String.ofList name, s.lookUp? name)
          let hidden := match s.hidden with
            | first :: rest => (entry :: first) :: rest
            | [] => [[entry]]
          let s := { s with hidden }
          match value with
          | some value => s.assign name value
          | none => s)
      s.succeed

/-- The shell with variables as they were. -/
def restore (s : Shell) (entries : List (String × Option Variable)) : Shell :=
  entries.foldl
    (fun s (name, v?) =>
      match v? with
      | some v => { s with bindings := s.bindings.insert name v }
      | none => { s with bindings := s.bindings.erase name })
    s

/-! ## Options and parameters -/

/-- The options, with their letters. -/
def optionNames : List (String × Option Char) :=
  [("errexit", some 'e'), ("noglob", some 'f'), ("ignoreeof", some 'I'), ("interactive", some 'i'),
   ("monitor", some 'm'), ("noexec", some 'n'), ("stdin", some 's'), ("xtrace", some 'x'),
   ("verbose", some 'v'), ("vi", some 'V'), ("emacs", some 'E'), ("noclobber", some 'C'),
   ("allexport", some 'a'), ("notify", some 'b'), ("nounset", some 'u'), ("privileged", some 'p'),
   ("nolog", none), ("debug", none)]

/-- The letters of the options in the order in which they are shown. -/
def optionLetters : List Char := optionNames.filterMap Prod.snd

/-- The options with one switched. -/
def switched (options : List Char) (on : Bool) (c : Char) : List Char :=
  let others := options.filter (· ≠ c)
  if on then others ++ [c] else others

/-- The shell with options switched that letters stand for; or the letter that stands for none. -/
def switchAll (s : Shell) (on : Bool) (letters : Raw) : Except Char Shell :=
  letters.foldlM
    (fun s c =>
      if optionLetters.contains c then .ok { s with options := switched s.options on c }
      else .error c)
    s

/-- Writes all options, as a table or as commands. -/
def showOptions (s : Shell) (asTable : Bool) : Shell :=
  let isOn (c : Option Char) := c.any s.has
  let line (name : String) (c : Option Char) : Raw :=
    if asTable then
      ascii name ++ List.replicate (16 - name.length) ' ' ++ ascii (if isOn c then "on" else "off")
    else ascii ("set " ++ (if isOn c then "-o " else "+o ") ++ name)
  let head := if asTable then ascii "Current option settings\n" else []
  (s.write 1 (head ++ optionNames.flatMap fun (name, c) => closedLine (line name c))).succeed

/-- Reads options in front of arguments: the shell with them, and the other arguments if there are
any or a double dash says that there are none. -/
def readOptions (s : Shell) : List Raw → Shell × Option (List Raw)
  | [] => (s, none)
  | ['-', '-'] :: rest => (s, some rest)
  | ['-'] :: rest => (s, if rest = [] then none else some rest)
  | [sign, 'o'] :: rest =>
    if sign = '-' ∨ sign = '+' then
      match rest with
      | [] => (s.showOptions (sign = '-'), none)
      | name :: rest =>
        match optionNames.lookup (String.ofList name) with
        | some c =>
          readOptions { s with options := c.elim s.options (switched s.options (sign = '-')) } rest
        | none =>
          (s.abandon 2 (ascii "Illegal option " ++ sign :: ascii "o " ++ name), none)
    else (s, some ([sign, 'o'] :: rest))
  | (sign :: letters) :: rest =>
    if (sign = '-' ∨ sign = '+') ∧ letters ≠ [] then
      match s.switchAll (sign = '-') letters with
      | .ok s => readOptions s rest
      | .error c => (s.abandon 2 (ascii "Illegal option " ++ [sign, c]), none)
    else (s, some ((sign :: letters) :: rest))
  | [] :: rest => (s, some ([] :: rest))

/-- Sets options and parameters. -/
def set (s : Shell) (arguments : List Raw) : Shell :=
  if arguments = [] then s.showVariables "" fun _ => true
  else
    match s.succeed.readOptions arguments with
    | (s, some parameters) => { s with parameters }
    | (s, none) => s

/-- Drops parameters. -/
def shift (s : Shell) (arguments : List Raw) : Shell :=
  match arguments with
  | [] => drop 1
  | t :: _ =>
    match countOf? t with
    | some n => drop n
    | none => s.abandon 2 (illegalNumber t)
where
  /-- Drops a number of parameters. -/
  drop (n : Nat) : Shell :=
    if s.parameters.length < n then s.abandon 2 (ascii "can't shift that many")
    else { s with parameters := s.parameters.drop n, status := 0 }

/-! ## Input -/

/-- A line as it is read: its characters, each with the knowledge whether a backslash protects it;
whether a line break ends it; and how many bytes it takes. -/
def readCharacters (isPlain : Bool) : Raw → List Glyph × Bool × Nat
  | [] => ([], false, 0)
  | '\n' :: _ => ([], true, 1)
  | '\\' :: c :: rest =>
    if isPlain then
      let (glyphs, ends, n) := readCharacters isPlain (c :: rest)
      (.char '\\' false true :: glyphs, ends, n + 1)
    else
      let (glyphs, ends, n) := readCharacters isPlain rest
      (if c = '\n' then glyphs else .char c true false :: glyphs, ends, n + 2)
  | c :: rest =>
    let (glyphs, ends, n) := readCharacters isPlain rest
    (.char c false true :: glyphs, ends, n + 1)

/-- Whether a glyph is a gap at which fields are split. -/
def isFieldGap (separators : Raw) : Glyph → Bool
  | .char c _ splits => splits && separators.contains c && (c = ' ' || c = '\t' || c = '\n')
  | _ => false

/-- Whether fields are split at a glyph. -/
def isSeparator (separators : Raw) : Glyph → Bool
  | .char c _ splits => splits && separators.contains c
  | _ => false

/-- Parts a row of glyphs for some variables, the last of which takes all that is left. -/
def partition (separators : Raw) : (names : List Raw) → List Glyph → List (Raw × Raw)
  | [], _ => []
  | [last], glyphs =>
    let body := glyphs.dropWhile (isFieldGap separators)
    let trimmed := (body.reverse.dropWhile (isFieldGap separators)).reverse
    let isSingle := (splitFields separators trimmed).length ≤ 1
    let trimmed := if isSingle then
        (trimmed.reverse.dropWhile (isSeparator separators)).reverse
      else trimmed
    [(last, Glyph.text trimmed)]
  | name :: rest, glyphs =>
    let body := glyphs.dropWhile (isFieldGap separators)
    let field := body.takeWhile fun g => !isSeparator separators g
    let after := (body.drop field.length).dropWhile (isFieldGap separators)
    let after := match after with
      | g :: more =>
        if isSeparator separators g && (body.drop field.length) ≠ [] then more else g :: more
      | [] => []
    (name, Glyph.text field) :: partition separators rest after

/-- Reads a line of the input into variables. -/
def readLineInto (s : Shell) (a : Arguments) : Shell :=
  let names := a.operands
  match names.find? fun name => !isName name with
  | some name => s.fail false (name ++ ascii ": bad variable name")
  | none =>
    match if names = [] then none else s.channel? 0 with
    | none => if names = [] then s.fail false (ascii "arg count") else { s with status := 1 }
    | some channel =>
      let (glyphs, ends, n) := readCharacters (a.has 'r') ((s.world.available channel).getD [])
      let (world, moment) := s.world.take channel (if ends then some n else none)
      let s := { s with world }.waitUntil moment
      let s : Shell := (partition s.separators names glyphs).foldl
        (fun s (name, value) => s.assign name value) s
      if s.course ≠ .running then s else { s with status := if ends then 0 else 1 }

/-! ## Directories -/

/-- Goes to another directory. -/
def changeDirectory (s : Shell) (a : Arguments) : Shell :=
  let path := match a.operands with
    | [] => s.textOf (ascii "HOME")
    | path :: _ => path
  let isBack := path = ['-']
  let target := if isBack then s.textOf (ascii "OLDPWD") else path
  if target = [] then s.succeed
  else
    match s.world.disk.lookUp s.directory target with
    | .ok (place, .directory) =>
      let old := s.directory.path
      let s := { s with directory := place, status := 0 }
      let s := (s.assignExported (ascii "OLDPWD") old).assignExported (ascii "PWD") place.path
      if isBack then s.write 1 (closedLine (Place.path place)) else s
    | _ => s.fail false (ascii "can't cd to " ++ path)

/-! ## Jobs and signals -/

/-- The job that an argument names. -/
def job? (s : Shell) (t : Raw) : Option Job :=
  match t with
  | '%' :: rest =>
    if rest = [] ∨ rest = ['%'] ∨ rest = ['+'] then s.jobs.head?
    else (number? rest).bind fun n => s.jobs.reverse[n - 1]?
  | _ => (number? t).bind fun n => s.jobs.find? (·.number = n)

/-- The first moment when a signal arrives that the shell acts upon. -/
def firstInterruption? (s : Shell) (moment : Moment) : Option Sent :=
  (s.world.signals.filter fun m =>
      m.target = s.number && m.moment < moment && (s.trap? m.signal) ≠ some []
        && ((s.trap? m.signal).isSome || impact m.signal ≠ .none)).foldl
    (fun first m =>
      match first with
      | none => some m
      | some f => if m.moment < f.moment then some m else some f)
    none

/-- Waits until a moment, or until a signal arrives that the shell acts upon. -/
def waitFor (s : Shell) (moment : Moment) (status : Nat) : Shell :=
  match s.firstInterruption? moment with
  | some m => { s.waitUntil m.moment with status := 128 + m.signal }
  | none => { s.waitUntil moment with status := status }

/-- Waits for jobs. -/
def waitForJobs (s : Shell) (arguments : List Raw) : Shell :=
  match arguments with
  | [] =>
    let t := s.waitFor (s.jobs.foldl (fun m j => max m j.ends) s.now) 0
    { t with jobs := t.jobs.filter fun j => t.now < j.ends }
  | _ =>
    arguments.foldl
      (fun s t =>
        if s.course ≠ .running then s
        else
          match s.job? t with
          | some job =>
            let s := (s.waitFor job.ends job.code).reap
            if s.now < job.ends then s
            else
              match job.signal.bind obituary? with
              | some told => { s.write 2 (closedLine (ascii told)) with
                  jobs := s.jobs.map fun j =>
                    if j.number = job.number then { j with signal := none } else j }
              | none => s
          | none =>
            if t.head? = some '%' then s.fail false (ascii "No such job: " ++ t)
            else
              match number? t with
              | some _ => { s with status := 127 }
              | none => s.fail false (illegalNumber t))
      s.succeed

/-- Sends signals. -/
def kill (s : Shell) (arguments : List Raw) : Shell :=
  match SignalOrder.read arguments with
  | .refuse complaint => s.fail false complaint
  | .list codes =>
    match listSignals codes with
    | .ok lines => (s.write 1 lines).succeed
    | .error complaint => s.fail false complaint
  | .send signal targets =>
    targets.foldl
      (fun s t =>
        if s.course ≠ .running then s
        else
          match number? t with
          | some n =>
            if s.mayReach n then s.send signal n
            else s.complain 1 (ascii "No such process\n")
          | none =>
            if t.head? = some '%' then
              if (s.job? t).isSome then s.complain 1 (ascii "No such process\n")
              else s.fail false (ascii "No such job: " ++ t)
            else if (integer? t).isSome then s.complain 1 (ascii "No such process\n")
            else s.fail false (illegalNumber t))
      s.succeed

/-- Sets what is done at signals. -/
def setTraps (s : Shell) (a : Arguments) : Shell :=
  match a.operands with
  | [] =>
    let lines := (s.traps.mergeSort fun a b => a.1 ≤ b.1).flatMap fun (signal, action) =>
      closedLine (ascii "trap -- " ++ inQuotes action ++ ' ' :: signalName signal)
    (s.write 1 lines).succeed
  | [only] => setAll none [only]
  | action :: signals =>
    if (number? action).isSome then setAll none (action :: signals)
    else setAll (if action = ['-'] then none else some action) signals
where
  /-- Sets the same for some signals. -/
  setAll (action : Option Raw) (signals : List Raw) : Shell :=
    signals.foldl
      (fun s t =>
        match signalNamed? t with
        | none =>
          { s.write 2 (ascii "trap: " ++ t ++ ascii ": bad trap\n") with status := 1 }
        | some signal =>
          let others := s.traps.filter fun e => e.1 ≠ signal
          match action with
          | none => { s with traps := others }
          | some action => { s with traps := (signal, action) :: others })
      s.succeed

/-! ## Ends -/

/-- The code that an argument gives, or the last one if there is none. -/
def givenCode (s : Shell) (arguments : List Raw) : Except Raw Nat :=
  match arguments with
  | [] => .ok s.status
  | t :: _ =>
    match countOf? t with
    | some n => .ok (n % 256)
    | none => .error (illegalNumber t)

/-- Ends the shell. -/
def leave (s : Shell) (arguments : List Raw) : Shell :=
  match s.givenCode arguments with
  | .ok n => { s with course := .exited n, status := n }
  | .error complaint => s.abandon 2 complaint

/-- Ends the open function. -/
def giveBack (s : Shell) (arguments : List Raw) : Shell :=
  match s.givenCode arguments with
  | .ok n => { s with course := .returning, status := n }
  | .error complaint => s.abandon 2 complaint

/-- Leaves loops. -/
def leaveLoops (s : Shell) (again : Bool) (arguments : List Raw) : Shell :=
  let count := match arguments with
    | [] => some 1
    | t :: _ => (countOf? t).filter (0 < ·)
  match count with
  | none => s.abandon 2 (illegalNumber (arguments.headD []))
  | some n =>
    if s.loops = 0 then s.succeed
    else
      let n := min n s.loops
      { s with course := if again then .continuing n else .breaking n, status := 0 }

/-- Writes or marks variables. -/
def declare (word : String) (isMarked : Variable → Bool) (mark : Variable → Variable) (s : Shell)
    (a : Arguments) : Shell :=
  if a.operands = [] ∨ a.has 'p' then s.showVariables word isMarked
  else s.markVariables mark a.operands

/-- A command of the shell that neither executes scripts nor does the work of a tool. -/
def builtin? (name : String) : Option (Shell → List Raw → Shell) :=
  match name with
  | ":" => some fun s _ => s.succeed
  | "break" => some fun s a => s.leaveLoops false a
  | "continue" => some fun s a => s.leaveLoops true a
  | "exit" => some leave
  | "return" => some giveBack
  | "export" => some (withOptions "p" "" true
    (declare "export " (·.isExported) fun v => { v with isExported := true }))
  | "readonly" => some (withOptions "p" "" true
    (declare "readonly " (·.isFixed) fun v => { v with isFixed := true }))
  | "unset" => some (withOptions "vf" "" true unset)
  | "local" => some makeLocal
  | "set" => some set
  | "shift" => some shift
  | "read" => some (withOptions "r" "p" false readLineInto)
  | "cd" => some (withOptions "LP" "" false changeDirectory)
  | "pwd" => some (withOptions "LP" "" false fun s _ =>
    (s.write 1 (closedLine s.directory.path)).succeed)
  | "wait" => some (withOptions "" "" false fun s a => s.waitForJobs a.operands)
  | "kill" => some kill
  | "trap" => some (withOptions "" "" true setTraps)
  | _ => none

end Shell

end LobsterServer.Host
