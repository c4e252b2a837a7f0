import LobsterServer.Host.Shell.Invocation
import LobsterServer.Host.Shell.Reader

set_option autoImplicit false

/-!
# Executing commands

What a shell does with each kind of command, in terms of what it does with the commands in it; and
the executor that ties both together.  Its fuel bounds how deep commands are nested; a shell that
exceeds it counts as never ending, like one whose loop goes on until the run is given up.
-/

namespace LobsterServer.Host.Shell

/-! ## Loops -/

/-- What follows a round of a loop. -/
inductive Round where
  | again (s : Shell)
  | done (s : Shell)

/-- What follows a round of a loop that has ended in some state. -/
def Round.of (s : Shell) : Round :=
  match s.course with
  | .running => .again s
  | .breaking n =>
    .done { s with course := if n ≤ 1 then .running else .breaking (n - 1) }
  | .continuing n =>
    if n ≤ 1 then .again { s with course := .running }
    else .done { s with course := .continuing (n - 1) }
  | _ => .done s

/-- The number of the first channel that is not one of the run itself. -/
def firstInnerChannel : Nat := 3

/-- Whether the shell has written to a pipe without end, as far as can be told. -/
def isFlooding (s : Shell) : Bool :=
  match s.channel? 1 with
  | some n => firstInnerChannel ≤ n && pipeBound ≤ s.world.heldBytes n
  | none => false

/-- How many rounds of a loop pass before its output is looked at. -/
def roundsAtOnce : Nat := 4096

/-- Runs a body as long as a condition holds, or does not if `inverted`.  `status` is the exit code
so far, and `rounds` bounds the rounds. -/
def repeating (e : Executor) (m : Manner) (inverted : Bool) (condition body : Command) :
    (rounds : Nat) → (status : Nat) → Shell → Shell
  | 0, _, s => s.stop
  | rounds + 1, status, s =>
    if rounds % roundsAtOnce = 0 && s.isFlooding then { s.stop with floods := true }
    else
      match Round.of (e.run (.command ⟨true, false⟩ condition) s) with
      | .done t => t
      | .again t =>
        if (t.status = 0) = inverted then { t with status }
        else
          match Round.of (e.run (.command ⟨m.isTested, false⟩ body) t) with
          | .done t => t
          | .again t => repeating e m inverted condition body rounds t.status t

/-- Runs a body for each of some values of a variable. -/
def forEach (e : Executor) (m : Manner) (name : Raw) (body : Command) : List Raw → Shell → Shell
  | [], s => s
  | value :: rest, s =>
    let s := s.assign name value
    if !s.isRunning then s
    else
      match Round.of (e.run (.command ⟨m.isTested, false⟩ body) s) with
      | .done t => t
      | .again t => forEach e m name body rest t

/-- The shell after something that loops inside it may leave. -/
def inLoop (body : Shell → Shell) (s : Shell) : Shell :=
  { body { s with loops := s.loops + 1 } with loops := s.loops }

/-- How many rounds there can be until the run is given up: each takes time. -/
def roundsLeft (s : Shell) : Nat := (s.deadline - s.now) / commandTime + 2

/-! ## Cases -/

/-- Whether a text fits one of some words as a pattern. -/
def fitsOne (e : Executor) (t : Raw) : List Word → Shell → Bool × Shell
  | [], s => (false, s)
  | w :: rest, s =>
    let (p, s) := s.patternOfWord e w
    if !s.isRunning then (false, s)
    else if Pattern.fits p t then (true, s)
    else fitsOne e t rest s

/-- Runs the first body with a pattern that fits a text. -/
def runCase (e : Executor) (m : Manner) (t : Raw) : List (List Word × Command) → Shell → Shell
  | [], s => s.succeed
  | (patterns, body) :: rest, s =>
    let (fits, s) := fitsOne e t patterns s
    if !s.isRunning then s
    else if fits then e.run (.command m body) s
    else runCase e m t rest s

/-! ## Pipelines -/

/-- A command of a pipeline that has ended, and what it wrote to the next. -/
structure Stage where
  number : Nat
  ends : Moment
  floods : Bool
  chunks : List Chunk
  signal : Option Nat
  code : Nat

/-- Runs the commands of a pipeline, each of which reads from the channel of the one in front. -/
def runStages (e : Executor) (m : Manner) (s : Shell) :
    (input : Option Nat) → List Command → World → List Stage × World
  | _, [], world => ([], world)
  | input, c :: rest, world =>
    let (world, output) : World × Option Nat :=
      if rest.isEmpty then (world, none)
      else
        let (world, n) := world.addChannel (.sink [] [])
        (world, some n)
    let part := { s with world }.fork
    let part := input.elim part (part.connect 0)
    let part := output.elim part (part.connect 1)
    let part := branch e (.command ⟨m.isTested, true⟩ c) part
    let chunks := output.elim [] part.world.chunks
    let world := output.elim part.world fun n => part.world.turn n part.floods
    let stage : Stage :=
      ⟨part.number, if part.course = .stuck then never else part.now, part.floods, chunks,
        part.signal?, part.code⟩
    let (stages, world) := runStages e m s output rest world
    (stage :: stages, world)

/-- A stage whose reader has ended: what it writes later ends it too. -/
def Stage.beforeReader (stage : Stage) (readerEnds : Moment) (world : World) : Stage × World :=
  if stage.ends ≤ readerEnds then (stage, world)
  else
    let breaks : Option Moment :=
      match (stage.chunks.map Chunk.moment).filter (readerEnds < ·) with
      | first :: _ => some first
      | [] => if stage.floods then some readerEnds else none
    match breaks with
    | none => (stage, world)
    | some moment =>
      ({ stage with ends := moment, signal := some brokenPipe, code := 128 + brokenPipe },
        world.cut (· = stage.number) moment)

/-- The stages of a pipeline where no one writes to a stage that has ended. -/
def settleStages : List Stage → World → List Stage × World
  | [], world => ([], world)
  | stage :: rest, world =>
    let (rest, world) := settleStages rest world
    match rest with
    | [] => ([stage], world)
    | reader :: _ =>
      let (stage, world) := stage.beforeReader reader.ends world
      (stage :: rest, world)

/-- Runs a pipeline; its exit code is that of the last command. -/
def runPipeline (e : Executor) (m : Manner) (commands : List Command) (s : Shell) : Shell :=
  let (stages, world) := runStages e m s none commands s.world
  let (stages, world) := settleStages stages world
  let ends := (stages.map Stage.ends).foldl max s.now
  let code := (stages.getLast?.map Stage.code).getD 0
  let t := { s with world, status := code }
  if never ≤ ends then { t.stop with floods := stages.getLast?.any Stage.floods }
  else
    let t := t.waitUntil ends
    (stages.filterMap fun stage => stage.signal.bind obituary?).foldl
      (fun t told => t.write 2 (closedLine (ascii told))) t

/-! ## Parts that run on their own -/

/-- Runs a body in a shell of its own. -/
def runApart (e : Executor) (m : Manner) (body : Command) (redirects : List Redirect) (s : Shell) :
    Shell :=
  let order : Order := .command ⟨m.isTested, true⟩ body
  if m.isLast && s.traps.all (·.2 = []) then
    let (t, ok) := s.redirectAll e redirects
    if ok then { e.run order t with isReplaced := true } else t.withStreamsOf s
  else
    let (part, ok) := s.fork.redirectAll e redirects
    s.joined (if ok then branch e order part else conclude e { part with course := .exited 2 })

/-- Runs a body beside the shell.  Redirections around the body stay in force until its end. -/
def runBeside (e : Executor) (m : Manner) (body : Command) (s : Shell) : Shell :=
  let part := s.fork.connectNew 0 .null
  let part := { part with traps := (interrupt, []) :: (quitSignal, []) :: part.traps }
  let (inner, redirects) := match body with
    | .group _ inner redirects => (inner, redirects)
    | body => (body, [])
  let (part, ok) := part.redirectAll e redirects
  s.withJob (if ok then branch e (.command ⟨m.isTested, true⟩ inner) part
    else conclude e { part with course := .exited 2 })

/-! ## All commands -/

/-- The shell after a command whose failure ends it, if that is asked for. -/
def checked (m : Manner) (s : Shell) : Shell :=
  if s.isRunning && s.has 'e' && !m.isTested && s.status ≠ 0 then
    { s with course := .exited s.status }
  else s

/-- The shell after a second command, if it goes on behind the first. -/
def andThen (s : Shell) (second : Shell → Shell) : Shell := if s.isRunning then second s else s

/-- Runs a command. -/
def perform (e : Executor) (m : Manner) (c : Command) (s : Shell) : Shell :=
  let tested : Manner := ⟨true, false⟩
  let inner : Manner := ⟨m.isTested, false⟩
  match c with
  | .skip => s.succeed
  | .simple line assignments words redirects =>
    checked m (heed e signalBound
      (runSimple e m assignments words redirects ({ s with line }.spend commandTime)))
  | .pipe commands => checked m (heed e signalBound (runPipeline e m commands s))
  | .sequence first second =>
    (e.run (.command inner first) s).andThen (e.run (.command m second))
  | .both first second =>
    (e.run (.command tested first) s).andThen fun t =>
      if t.status = 0 then e.run (.command m second) t else t
  | .either first second =>
    (e.run (.command tested first) s).andThen fun t =>
      if t.status = 0 then t else e.run (.command m second) t
  | .negated c =>
    (e.run (.command tested c) s).andThen fun t =>
      { t with status := if t.status = 0 then 1 else 0 }
  | .loop inverted condition body =>
    inLoop (fun s => repeating e m inverted condition body s.roundsLeft 0 s) s
  | .each line name words body =>
    let (fields, s) := { s with line }.fieldsOf e words
    s.andThen fun s =>
      if fields.isEmpty then s.succeed else inLoop (forEach e m name body fields) s
  | .choice condition body other =>
    (e.run (.command tested condition) s).andThen fun t =>
      if t.status = 0 then e.run (.command m body) t else e.run (.command m other) t
  | .select line word cases =>
    let (t, s) := { s with line }.textOfWord e word
    s.andThen (runCase e m t cases)
  | .group line body redirects =>
    within e redirects (e.run (.command inner body)) { s with line }
  | .subshell line body redirects =>
    checked m (heed e signalBound (runApart e m body redirects { s with line }))
  | .background line body => runBeside e m body { s with line }
  | .define name body =>
    { s with functions := s.functions.insert (String.ofList name) body }.succeed

/-! ## Scripts -/

/-- Whether there is nothing to do for a command. -/
def isNothing : Command → Bool
  | .skip => true
  | _ => false

/-- Executes the lines of a script.  `lines` bounds their number, and `status` is the exit code if
there is no command. -/
def runLines (e : Executor) (m : Manner) : (lines : Nat) → Scan → Shell → Shell
  | 0, _, s => s
  | lines + 1, scan, s =>
    match readLine.run scan with
    | .error fault =>
      let t := { s with line := fault.line }
      { t.write 2 (closedLine (t.complaintStart ++ fault.message)) with
        course := .exited 2, status := 2 }
    | .ok (none, _) => s
    | .ok (some c, scan) =>
      let s := { s with
        documents := scan.documents ++ s.documents, nextDocument := scan.nextDocument }
      if isNothing c then runLines e m lines { scan with documents := [] } s
      else
        (e.run (.command ⟨m.isTested, m.isLast && scan.isOver⟩ c) s).andThen
          (runLines e m lines { scan with documents := [] })

/-- Executes a script. -/
def runScript (e : Executor) (m : Manner) (text : Raw) (s : Shell) : Shell :=
  let isEmpty := text.all isGap
  if isEmpty then s.succeed
  else runLines e m (text.length + 1) (Scan.start text s.nextDocument) s

/-! ## The executor -/

/-- Obeys an order in terms of others. -/
def obey (e : Executor) (order : Order) (s : Shell) : Shell :=
  if s.deadline ≤ s.now || firstNumber + maxPrograms ≤ s.world.nextNumber then s.stop
  else
    match order with
    | .command m c => if s.has 'n' then s else perform e m c s
    | .script m text => runScript e m text s
    | .become p words environment => become e p words environment s

/-- The executor of a depth. -/
def executor : (depth : Nat) → Executor
  | 0 => ⟨fun _ s => s.stop, fun _ _ s => ([], s.stop)⟩
  | depth + 1 =>
    ⟨fun order s => obey (executor depth) order s,
      fun splits w s => s.expandWord (executor depth) splits w⟩

end LobsterServer.Host.Shell
