import LobsterServer.Host.Number

set_option autoImplicit false

/-!
# Signals

The signals of the host, their names, and what they do to a program that does nothing against them.
-/

namespace LobsterServer.Host

/-- What a signal does. -/
inductive Impact where
  | none
  | ends
  /-- stops for ever -/
  | stops
  deriving DecidableEq, Repr

/-- The signals that have names, with their numbers. -/
def signalNames : List (String × Nat) :=
  [("HUP", 1), ("INT", 2), ("QUIT", 3), ("ILL", 4), ("TRAP", 5), ("ABRT", 6), ("BUS", 7),
   ("FPE", 8), ("KILL", 9), ("USR1", 10), ("SEGV", 11), ("USR2", 12), ("PIPE", 13),
   ("ALRM", 14), ("TERM", 15), ("CHLD", 17), ("CONT", 18), ("STOP", 19), ("TSTP", 20),
   ("TTIN", 21), ("TTOU", 22), ("URG", 23), ("XCPU", 24), ("XFSZ", 25), ("VTALRM", 26),
   ("PROF", 27), ("WINCH", 28), ("IO", 29), ("PWR", 30), ("SYS", 31)]

/-- The signal that interrupts. -/
def interrupt : Nat := 2

/-- The signal that asks a program to quit. -/
def quitSignal : Nat := 3

/-- The signal that ends what it reaches in any case. -/
def killSignal : Nat := 9

/-- The signal of a pipe that nobody reads. -/
def brokenPipe : Nat := 13

/-- The signal that ends what it reaches if nothing else is said. -/
def defaultSignal : Nat := 15

/-- The number above all signals. -/
def signalBound : Nat := 65

/-- What a signal does.  Zero is no signal, and a few are for those that wait for them. -/
def impact (signal : Nat) : Impact :=
  if [0, 17, 18, 23, 28].contains signal then .none
  else if [19, 20, 21, 22].contains signal then .stops
  else .ends

/-- The name of a signal. -/
def signalName (signal : Nat) : Raw :=
  match signalNames.find? (·.2 = signal) with
  | some (name, _) => name.toList
  | none => if signal = 0 then ascii "EXIT" else decimal signal

/-- The signal of a name or a number. -/
def signalNamed? (t : Raw) : Option Nat :=
  match number? t with
  | some n => if n < signalBound then some n else none
  | none =>
    let name := String.ofList (t.map Char.toUpper)
    if name = "EXIT" then some 0
    else (signalNames.find? fun s => s.1 = name).map Prod.snd

/-- How the end of a program by a signal is told; nothing is said about interrupts and broken
pipes. -/
def obituary? (signal : Nat) : Option String :=
  if signal = interrupt || signal = brokenPipe then none
  else
    match signal with
    | 1 => some "Hangup"
    | 3 => some "Quit"
    | 4 => some "Illegal instruction"
    | 5 => some "Trace/breakpoint trap"
    | 6 => some "Aborted"
    | 7 => some "Bus error"
    | 8 => some "Floating point exception"
    | 9 => some "Killed"
    | 10 => some "User defined signal 1"
    | 11 => some "Segmentation fault"
    | 12 => some "User defined signal 2"
    | 14 => some "Alarm clock"
    | 15 => some "Terminated"
    | 24 => some "CPU time limit exceeded"
    | 25 => some "File size limit exceeded"
    | 26 => some "Virtual timer expired"
    | 27 => some "Profiling timer expired"
    | 29 => some "I/O possible"
    | 30 => some "Power failure"
    | 31 => some "Bad system call"
    | _ => none

/-- What a command that sends a signal is told: the signal and where it goes to. -/
inductive SignalOrder where
  | send (signal : Nat) (targets : List Raw)
  /-- the names of signals are asked for -/
  | list (codes : List Raw)
  | refuse (complaint : Raw)

/-- How the command that sends signals is used. -/
def signalUsage : Raw :=
  ascii ("Usage: kill [-s sigspec | -signum | -sigspec] [pid | job]... or\n"
    ++ "kill -l [exitstatus]")

/-- Reads the arguments of a command that sends a signal. -/
def SignalOrder.read : List Raw → SignalOrder
  | [] => .refuse signalUsage
  | ['-', 'l'] :: codes => .list codes
  | [['-', 's']] => .refuse (ascii "No arg for -s option")
  | ['-', 's'] :: name :: targets => named name name targets
  | ['-', '-'] :: targets => .send defaultSignal targets
  | ('-' :: name) :: targets =>
    match signalNamed? name with
    | some n => if targets = [] then .refuse signalUsage else .send n targets
    | none => .refuse (ascii "Illegal option -" ++ name.take 1)
  | targets => .send defaultSignal targets
where
  /-- Reads a signal that is named. -/
  named (shown name : Raw) (targets : List Raw) : SignalOrder :=
    match signalNamed? name with
    | some n => if targets = [] then .refuse signalUsage else .send n targets
    | none => .refuse (ascii "invalid signal number or name: " ++ shown)

/-- The answer to the question for names of signals: those of numbers or exit codes, or all. -/
def listSignals (codes : List Raw) : Except Raw Raw :=
  match codes with
  | [] =>
    .ok ((List.range signalBound).flatMap fun n =>
      closedLine (if n = 0 then ['0'] else extendedName n))
  | code :: _ =>
    match number? code with
    | some n =>
      let n := if 128 < n then n - 128 else n
      if 0 < n ∧ n < signalBound then .ok (closedLine (extendedName n))
      else .error (ascii "invalid signal number or exit status: " ++ code)
    | none => .error (ascii "Illegal number: " ++ code)
where
  /-- The name of a signal, also of those that are counted from both ends. -/
  extendedName (n : Nat) : Raw :=
    if 34 < n ∧ n ≤ 49 then ascii "RTMIN+" ++ decimal (n - 34)
    else if 49 < n ∧ n < 64 then ascii "RTMAX-" ++ decimal (64 - n)
    else if n = 34 then ascii "RTMIN"
    else if n = 64 then ascii "RTMAX"
    else signalName n

end LobsterServer.Host
