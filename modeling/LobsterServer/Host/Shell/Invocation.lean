import LobsterServer.Host.Shell.Launch

set_option autoImplicit false

/-!
# Simple commands

The first word of a simple command names a command of the shell, a function or a program.  The
assignments in front of it last as long as the command, or for good if there is no other word.
-/

namespace LobsterServer.Host.Shell

/-! ## Commands of the shell -/

/-- The complaint of a shell about a command that it cannot start, and its exit code. -/
def startComplaint (name : Raw) (fault : FileFault) : Nat × Raw :=
  match fault with
  | .notFound => (127, name ++ ascii ": not found")
  | .notADirectory => (127, name ++ ascii ": not found")
  | .permissionDenied => if name = [] then (127, ascii ": Permission denied") else
    (126, name ++ ascii ": Permission denied")
  | fault => (126, name ++ ascii (": " ++ fault.cause))

/-- The work of a tool that is a command of the shell. -/
def runOwnTool (s : Shell) (tool : Task → Effort) (words : List Raw) : Shell :=
  let (t, code, ok) := s.work tool words [] s.complaintStart
  if ok then { t with status := code }
  else t.complain 1 (words.headD [] ++ ascii ": I/O error")

/-- A program in the place of the shell, or a complaint. -/
def replaceBy (e : Executor) (words : List Raw) (s : Shell) : Shell :=
  let name := words.headD []
  match s.locate s.searchPath words with
  | .ok (p, words) =>
    let environment := s.environment
    let traps := s.traps.filter (·.2 = [])
    e.run (.become p words environment) { s with command := none, traps, isReplaced := true }
  | .error fault =>
    let (code, complaint) := startComplaint name fault
    s.abandon code complaint

/-- Executes a file in the shell. -/
def source (e : Executor) (m : Manner) (s : Shell) (a : Arguments) : Shell :=
  match a.operands with
  | [] => s.abandon 2 (ascii "filename argument required")
  | name :: _ =>
    let found : Except Raw Raw :=
      if name.contains '/' then
        match s.world.disk.lookUp s.directory name with
        | .ok (_, .data text _) => .ok text
        | .ok _ => .ok []
        | .error fault =>
          .error (ascii "cannot open " ++ name ++ ascii (": " ++ openFault true fault))
      else
        let texts := s.searchPath.filterMap fun directory =>
          match s.world.disk.lookUp s.directory (directory ++ '/' :: name) with
          | .ok (_, .data text _) => some text
          | _ => none
        match texts with
        | text :: _ => .ok text
        | [] => .error (name ++ ascii ": not found")
    match found with
    | .error complaint => s.abandon 2 complaint
    | .ok text =>
      let t := e.run (.script ⟨m.isTested, false⟩ text) { s with command := some name }
      { t with
        command := s.command, course := if t.course = .returning then .running else t.course }

/-- Does what a command of the shell says; `words` are its name and its arguments. -/
def runOwn (e : Executor) (m : Manner) (words : List Raw) (s : Shell) : Shell :=
  let name := words.headD []
  let arguments := words.drop 1
  let t := { s with command := some name }
  let t := match String.ofList name with
    | "eval" =>
      if arguments = [] then t.succeed
      else e.run (.script ⟨m.isTested, false⟩ (joinedBy [' '] arguments)) t
    | "." => withOptions "" "" true (source e m) t arguments
    | "exec" => if arguments = [] then t.succeed else replaceBy e arguments t
    | key =>
      match ownTool? name with
      | some tool => runOwnTool t tool words
      | none =>
        match builtin? key with
        | some act => act t arguments
        | none => t.succeed
  { t with command := s.command }

/-! ## Functions and programs -/

/-- Calls a function. -/
def call (e : Executor) (m : Manner) (body : Command) (arguments : List Raw) (s : Shell) : Shell :=
  if maxCalls ≤ s.calls then
    s.abandon 2 (ascii "Maximum function recursion depth (" ++ decimal maxCalls
      ++ ascii ") reached")
  else
    let t := e.run (.command ⟨m.isTested, false⟩ body)
      { s with
        parameters := arguments, calls := s.calls + 1, loops := 0
        hidden := [] :: s.hidden }
    let t := { t with hidden := t.hidden.drop 1 }.restore (t.hidden.headD [])
    { t with
      parameters := s.parameters, calls := s.calls, loops := s.loops
      course := if t.course = .returning then .running else t.course }

/-- Runs a program; where nothing follows, it takes the place of the shell. -/
def runProgram (e : Executor) (m : Manner) (words : List Raw) (s : Shell) : Shell :=
  let name := words.headD []
  let environment := s.environment
  match s.locate s.searchPath words with
  | .error fault =>
    let (code, complaint) := startComplaint name
      (if name = [] then .permissionDenied else fault)
    s.complain code complaint
  | .ok (p, words) =>
    if m.isLast && s.traps.all (·.2 = []) then
      e.run (.become p words environment) { s with isReplaced := true }
    else s.joined (branch e (.become p words environment) { s.fork with isReplaced := true })

/-! ## Assignments -/

/-- Makes assignments, each before the value of the next is found; gives the values.  `exports` says
that programs get the variables too. -/
def assignInTurn (e : Executor) (exports : Bool) (assignments : List (Raw × Word)) (s : Shell) :
    List (Raw × Raw) × Shell :=
  assignments.foldl
    (fun (values, s) (name, word) =>
      if !s.isRunning then (values, s)
      else
        let (value, s) := s.valueOfWord e word
        let s := if s.isRunning then s.assign name value else s
        let s := match s.lookUp? name with
          | some v => if exports then s.setVariable name { v with isExported := true } else s
          | none => s
        (values ++ [(name, value)], s))
    ([], s)

/-! ## Simple commands -/

/-- Writes a command that is about to run, if that is asked for.  It goes to where the error output
led before its redirections. -/
def trace (values : List (Raw × Raw)) (words : List Raw) (before s : Shell) : Shell :=
  if !s.has 'x' then s
  else
    let shown := values.map (fun (name, value) => name ++ '=' :: value) ++ words
    let line := closedLine (s.textOf (ascii "PS4") ++ joinedBy [' '] shown)
    { { s with streams := before.streams }.write 2 line with streams := s.streams }

/-- Words in which the values of assignments behind a command that makes them are not split. -/
def wordFields (e : Executor) (words : List Word) (s : Shell) : List Raw × Shell :=
  let isAssigning := ((words.head?.bind Word.plain?).map String.ofList).any
    assigningCommands.contains
  if !isAssigning then s.fieldsOf e words
  else
    words.foldl
      (fun (fields, s) w =>
        if !s.isRunning then (fields, s)
        else
          match Word.assignment? w with
          | some (name, value) =>
            let (text, s) := s.valueOfWord e value
            (fields ++ [name ++ '=' :: text], s)
          | none =>
            let (more, s) := s.fieldsOf e [w]
            (fields ++ more, s))
      ([], s)

/-- Does what words say.  `hidesFunctions` says that no function is meant. -/
def dispatch (e : Executor) (m : Manner) (hidesFunctions : Bool) (words : List Raw) (s : Shell) :
    Shell :=
  let key := String.ofList (words.headD [])
  let own := specialCommands.contains key || regularCommands.contains key
  let function? :=
    if hidesFunctions || specialCommands.contains key then none else s.functions.get? key
  match function? with
  | some body => call e m body (words.drop 1) s
  | none => if own then runOwn e m words s else runProgram e m words s

/-- Does what words say, also where the first of them hides functions. -/
def invoke (e : Executor) (m : Manner) (words : List Raw) (s : Shell) : Shell :=
  if words.head? = some (ascii "command") ∧ !s.functions.has "command" then
    let named := { s with command := words.head? }
    match ownArguments "p" "" (words.drop 1) with
    | .error complaint => { named.fail false complaint with command := s.command }
    | .ok ⟨_, words⟩ => if words = [] then s.succeed else dispatch e m true words s
  else dispatch e m false words s

/-- Runs a simple command. -/
def runSimple (e : Executor) (m : Manner) (assignments : List (Raw × Word)) (words : List Word)
    (redirects : List Redirect) (s : Shell) : Shell :=
  let (fields, s) := wordFields e words { s with outputStatus := 0 }
  if !s.isRunning then s
  else
    let (t, ok) := s.redirectAll e redirects
    match fields with
    | [] =>
      if !ok then t.withStreamsOf s
      else
        let (values, t) := assignInTurn e false assignments t
        let t := if t.isRunning then { trace values [] s t with status := t.outputStatus } else t
        t.withStreamsOf s
    | name :: _ =>
      let isSpecial := specialCommands.contains (String.ofList name)
      if !ok then
        let t := t.withStreamsOf s
        if isSpecial && t.isRunning then { t with course := .exited t.status } else t
      else
        let before := assignments.map fun (name, _) => (String.ofList name, s.lookUp? name)
        let (values, t) := assignInTurn e (!isSpecial) assignments t
        let t := if t.isRunning then invoke e m fields (trace values fields s t) else t
        let t := if isSpecial then t else t.restore before
        if fields = [ascii "exec"] then t else t.withStreamsOf s

end LobsterServer.Host.Shell
