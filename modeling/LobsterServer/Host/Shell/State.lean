import LobsterServer.Host.Shell.Field
import LobsterServer.Host.Shell.Scan
import LobsterServer.Host.Shell.Signal
import LobsterServer.Host.World

set_option autoImplicit false

/-!
# The state of a shell

A running program is known by its number, its streams and its clock; a shell has parameters,
variables and functions besides.  A program other than a shell is one that has none of these.
-/

namespace LobsterServer.Host

/-- How a shell goes on. -/
inductive Course where
  /-- with its next command -/
  | running
  /-- behind a number of loops -/
  | breaking (loops : Nat)
  /-- with the next round of the last of a number of loops -/
  | continuing (loops : Nat)
  /-- behind the function -/
  | returning
  /-- not at all: it has ended -/
  | exited (code : Nat)
  /-- not at all: a signal has ended it -/
  | killed (signal : Nat)
  /-- never to an end -/
  | stuck
  deriving DecidableEq, Repr

/-- A variable, which may have no value yet. -/
structure Variable where
  value : Option Raw
  isExported : Bool
  isFixed : Bool
  deriving DecidableEq, Repr

/-- A program that runs beside the shell. -/
structure Job where
  number : Nat
  ends : Moment
  /-- the exit code that its end stands for -/
  code : Nat
  /-- the signal that ends it -/
  signal : Option Nat
  /-- the number by which it is listed -/
  slot : Nat
  /-- whether the shell knows that it has ended -/
  isReaped : Bool

/-- A running shell. -/
structure Shell where
  /-- the name it was started under -/
  name : Raw
  parameters : List Raw
  bindings : Table Variable
  functions : Table Command
  /-- the letters of the options that are on -/
  options : List Char
  /-- what is done at signals, and at the end under the number 0; nothing for those ignored -/
  traps : List (Nat × Raw)
  /-- the exit code of the last command -/
  status : Nat
  /-- the exit code of the last commands whose output became part of a word -/
  outputStatus : Nat
  /-- its number -/
  number : Nat
  /-- the number of the shell that its script knows -/
  shownNumber : Nat
  jobs : List Job
  lastJob : Option Nat
  /-- the channels of its streams -/
  streams : List (Nat × Nat)
  directory : Place
  now : Moment
  /-- when the run is given up -/
  deadline : Moment
  /-- the line of the command -/
  line : Nat
  /-- the command of the shell that complains -/
  command : Option Raw
  course : Course
  /-- how many loops are open -/
  loops : Nat
  /-- how many functions are open -/
  calls : Nat
  /-- the variables that the open functions will give back, for each function -/
  hidden : List (List (String × Option Variable))
  documents : List (Nat × Word)
  nextDocument : Nat
  /-- whether it writes without end -/
  floods : Bool
  /-- whether another program has taken its place -/
  isReplaced : Bool
  world : World

namespace Shell

/-- The number of the first program. -/
def firstNumber : Nat := 1000

/-- Microseconds that a command of the shell takes. -/
def commandTime : Moment := 4

/-- Microseconds until a part of the shell runs on its own. -/
def forkTime : Moment := 300

/-- Microseconds until a program runs. -/
def startTime : Moment := 1000

/-- The most bytes in a pipe before it counts as endless. -/
def pipeBound : Nat := 1500000

/-- The most programs that are started before their number counts as endless. -/
def maxPrograms : Nat := 20000

/-- The most bytes of a value before it counts as endless. -/
def maxValue : Nat := 4000000

/-- How many functions may be open. -/
def maxCalls : Nat := 1000

/-! ## Streams -/

/-- The channel of a stream. -/
def channel? (s : Shell) (stream : Nat) : Option Nat := s.streams.lookup stream

/-- The streams with one that leads to a channel. -/
def withStream (streams : List (Nat × Nat)) (stream channel : Nat) : List (Nat × Nat) :=
  (stream, channel) :: streams.filter fun e => e.1 ≠ stream

/-- Writes to a stream; the answer says whether there is room. -/
def tryWrite (s : Shell) (stream : Nat) (bytes : Raw) : Shell × Bool :=
  if bytes = [] then (s, true)
  else
    match s.channel? stream with
    | none => (s, false)
    | some n =>
      let (world, fits) := s.world.write n s.now s.number bytes
      ({ s with world }, fits)

/-- Writes to a stream. -/
def write (s : Shell) (stream : Nat) (bytes : Raw) : Shell := (s.tryWrite stream bytes).1

/-- The shell where nothing more happens. -/
def stop (s : Shell) : Shell := { s with course := .stuck, now := never }

/-- The shell after some time. -/
def spend (s : Shell) (time : Moment) : Shell :=
  if never ≤ s.now + time then s.stop else { s with now := s.now + time }

/-- The shell at a later moment. -/
def waitUntil (s : Shell) (moment : Moment) : Shell := s.spend (moment - s.now)

/-! ## Complaints -/

/-- How a complaint begins. -/
def complaintStart (s : Shell) : Raw :=
  s.name ++ ascii ": " ++ decimal s.line ++ ascii ": "
    ++ match s.command with
      | some c => c ++ ascii ": "
      | none => []

/-- The shell with a complaint on its error output, and an exit code. -/
def complain (s : Shell) (code : Nat) (what : Raw) : Shell :=
  { s.write 2 (closedLine (s.complaintStart ++ what)) with status := code }

/-- The shell after a complaint that ends it. -/
def abandon (s : Shell) (code : Nat) (what : Raw) : Shell :=
  { s.complain code what with course := .exited code }

/-! ## Variables -/

/-- The variable of a name. -/
def lookUp? (s : Shell) (name : Raw) : Option Variable := s.bindings.get? (String.ofList name)

/-- The shell with a variable set, whatever it was. -/
def setVariable (s : Shell) (name : Raw) (v : Variable) : Shell :=
  { s with bindings := s.bindings.insert (String.ofList name) v }

/-- The shell with a value for a variable; one that is fixed keeps its value. -/
def assign (s : Shell) (name value : Raw) : Shell :=
  if maxValue < value.length then s.stop
  else match s.lookUp? name with
  | some v =>
    if v.isFixed then s.abandon 2 (name ++ ascii ": is read only")
    else s.setVariable name { v with value := some value }
  | none => s.setVariable name ⟨some value, s.options.contains 'a', false⟩

/-- The shell with a value for a variable that programs get too. -/
def assignExported (s : Shell) (name value : Raw) : Shell :=
  let t := s.assign name value
  match t.lookUp? name with
  | some v => t.setVariable name { v with isExported := true }
  | none => t

/-- The value of a variable. -/
def textOf (s : Shell) (name : Raw) : Raw := ((s.lookUp? name).bind Variable.value).getD []

/-- The characters at which fields are split. -/
def separators (s : Shell) : Raw :=
  match s.lookUp? (ascii "IFS") with
  | some ⟨some t, _, _⟩ => t
  | _ => [' ', '\t', '\n']

/-- What joins the parameters to one text. -/
def joint (s : Shell) : Raw :=
  match s.lookUp? (ascii "IFS") with
  | some ⟨some t, _, _⟩ => t.take 1
  | _ => [' ']

/-- The directories in which executables are looked up. -/
def searchPath (s : Shell) : List Raw :=
  match (s.lookUp? (ascii "PATH")).bind Variable.value with
  | some t => Text.splitOn ':' t
  | none => []

/-- The variables that programs get. -/
def environment (s : Shell) : List (Raw × Raw) :=
  s.bindings.reverse.filterMap fun (name, v) =>
    match v.isExported, v.value with
    | true, some value => some (name.toList, value)
    | _, _ => none

/-- The value of a parameter that has one text. -/
def parameter? (s : Shell) (name : Raw) : Option Raw :=
  match name with
  | ['?'] => some (decimal s.status)
  | ['#'] => some (decimal s.parameters.length)
  | ['$'] => some (decimal s.shownNumber)
  | ['!'] => s.lastJob.map decimal
  | ['-'] => some s.options
  | ['0'] => some s.name
  | _ =>
    match number? name with
    | some n => s.parameters[n - 1]?
    | none => (s.lookUp? name).bind Variable.value

/-- Whether a parameter is one of those that stand for all parameters. -/
def isRow (name : Raw) : Bool := name = ['@'] || name = ['*']

/-- Whether an option is on. -/
def has (s : Shell) (option : Char) : Bool := s.options.contains option

/-! ## Ends -/

/-- The exit code that the end of a program stands for. -/
def code (s : Shell) : Nat :=
  match s.course with
  | .exited code => code
  | .killed signal => 128 + signal
  | _ => s.status

/-- The signal that has ended a program. -/
def signal? (s : Shell) : Option Nat :=
  match s.course with
  | .killed signal => some signal
  | _ => none

/-- The world when a program lets go of all its channels. -/
def release (s : Shell) : Shell :=
  { s with
    world := s.streams.foldl (fun w (_, channel) => w.hold channel s.number s.now) s.world }

/-- A part of the shell that runs on its own. -/
def fork (s : Shell) : Shell :=
  { s with
    number := s.world.nextNumber
    world := { s.world with nextNumber := s.world.nextNumber + 1 }
    now := s.now + forkTime
    traps := s.traps.filter fun t => t.2 = [] && t.1 ≠ 0
    jobs := []
    floods := false }

/-- The shell that knows which jobs have ended. -/
def reap (s : Shell) : Shell :=
  { s with jobs := s.jobs.map fun j => { j with isReaped := j.isReaped || j.ends ≤ s.now } }

/-- The shell after the end of a part for which it has waited.  How a signal has ended the part is
told. -/
def joined (s c : Shell) : Shell :=
  let t := { s with world := c.world, status := c.code, now := max s.now c.now }.reap
  let t := match c.course with
    | .stuck => { t.stop with floods := t.floods || c.floods }
    | _ => t
  match c.signal?.bind obituary? with
  | some told => t.write 2 (closedLine (ascii told))
  | none => t

/-- The shell with a job beside it. -/
def withJob (s c : Shell) : Shell :=
  let ends := if c.course = .stuck then never else c.now
  let slot := (s.jobs.head?.map Job.slot).getD 0 + 1
  { s with
    world := c.world
    jobs := ⟨c.number, ends, c.code, c.signal?, slot, false⟩ :: s.jobs
    lastJob := some c.number
    status := 0 }

/-! ## Signals -/

/-- The shell when a signal has reached it that nothing is done against. -/
def suffer (s : Shell) (signal : Nat) : Shell :=
  match impact signal with
  | .none => s
  | .ends => { s with course := .killed signal }
  | .stops => s.stop

/-- The action for a signal; an empty one ignores it. -/
def trap? (s : Shell) (signal : Nat) : Option Raw := s.traps.lookup signal

/-- The shell that has sent a signal to a program.  The number zero is no signal. -/
def send (s : Shell) (signal target : Nat) : Shell :=
  if signal = 0 then s
  else match s.jobs.find? (·.number = target) with
  | some job =>
    if job.ends ≤ s.now ∨ impact signal ≠ .ends then s
    else
      { s with
        world := s.world.cut (· = target) s.now
        jobs := s.jobs.map fun j =>
          if j.number = target then
            { j with ends := s.now, code := 128 + signal, signal := some signal }
          else j }
  | none =>
    { s with world := { s.world with signals := s.world.signals ++ [⟨s.now, target, signal⟩] } }

/-- Whether there is or may be a program of a number. -/
def mayReach (s : Shell) (target : Nat) : Bool :=
  target = s.number || s.jobs.any (fun j => j.number = target && !j.isReaped)
    || (firstNumber ≤ target && target < s.number)

/-- The first signal on its way to the shell, and the world without it. -/
def nextSignal? (s : Shell) : Option (Sent × World) :=
  match s.world.signals.find? fun m => m.target = s.number && m.moment ≤ s.now with
  | none => none
  | some m =>
    some (m, { s.world with
      signals := s.world.signals.eraseP fun n =>
        n.target = m.target && n.moment = m.moment && n.signal = m.signal })

end Shell

end LobsterServer.Host
