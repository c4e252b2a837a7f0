import LobsterServer.Compiler.Produce
import LobsterServer.Host.Shell.Execution

set_option autoImplicit false

/-!
# A host system

A host with a shell, small programs and an almost empty tree of files.  It runs what the server
asks for: the executable is found, the program works with an empty input, and a run that takes as
long as its time limit is given up.
-/

namespace LobsterServer.Host

/-! ## The tree of files -/

/-- The directories of the host. -/
def directories : List String :=
  ["", "/bin", "/boot", "/dev", "/etc", "/home", "/lib", "/media", "/mnt", "/opt", "/proc",
   "/proc/self", "/root", "/run", "/sbin", "/srv", "/sys", "/tmp", "/usr", "/usr/bin", "/usr/lib",
   "/usr/local", "/usr/local/bin", "/usr/local/sbin", "/usr/sbin", "/usr/share", "/var",
   "/var/tmp"]

/-- The files of the host that cannot be run, with their contents. -/
def dataFiles : List (String × String) :=
  [("/etc/passwd", "root:x:0:0:root:/root:/bin/bash\n"), ("/etc/group", "root:x:0:\n"),
   ("/etc/hosts", "127.0.0.1\tlocalhost\n"), ("/etc/hostname", "localhost\n"), ("/etc/fstab", ""),
   ("/etc/shadow", "root:*:19000:0:99999:7:::\n"), ("/etc/os-release", "")]

/-- The devices of the host. -/
def devices : List (String × Device) :=
  [("/dev/null", .null), ("/dev/zero", .zero), ("/dev/full", .full), ("/dev/random", .zero),
   ("/dev/urandom", .zero), ("/dev/tty", .locked), ("/dev/stdin", .stream 0),
   ("/dev/stdout", .stream 1), ("/dev/stderr", .stream 2)]

/-- The programs of the host. -/
def programs : List (String × Program) :=
  (["sh", "dash", "bash"].map fun name => (name, .shell))
    ++ Tool.table.map fun (name, _) => (name, .tool name)

/-- The directories in which bare names are looked up. -/
def searchPath : List String :=
  ["/usr/local/sbin", "/usr/local/bin", "/usr/sbin", "/usr/bin", "/sbin", "/bin"]

/-- The files of the host. -/
def files : Disk :=
  { entries :=
      directories.map (fun path => (path, .directory))
        ++ dataFiles.map (fun (path, content) => (path, .data content.toList false))
        ++ devices.map (fun (path, device) => (path, .device device))
        ++ ["/bin/", "/usr/bin/"].flatMap fun directory =>
          programs.map fun (name, program) => (directory ++ name, .program program)
    searchPath := searchPath.map String.toList }

/-- The directory in which programs are started. -/
def workingDirectory : Place := [ascii "tmp"]

/-- The variables that programs are started with. -/
def environment : List (Raw × Raw) :=
  [(ascii "HOME", ascii "/root"), (ascii "PATH", joinedBy [':'] (searchPath.map String.toList))]

/-! ## Runs -/

/-- The channels of a run: its input, its output and its error output. -/
def runChannels : Array Channel := #[.null, .sink [] [], .sink [] []]

/-- The channel of the output. -/
def outputChannel : Nat := 1

/-- The channel of the error output. -/
def errorChannel : Nat := 2

/-- Microseconds until a run is given up. -/
def deadline (i : Invocation) : Moment := i.timeout * 1000

/-- The process of an invocation before its program has begun. -/
def beginning (i : Invocation) : Shell :=
  { name := [], parameters := [], bindings := [], functions := [], options := [], traps := []
    status := 0, outputStatus := 0
    number := Shell.firstNumber, shownNumber := Shell.firstNumber, jobs := [], lastJob := none
    streams := [(0, 0), (1, outputChannel), (2, errorChannel)], directory := workingDirectory
    now := 0, deadline := deadline i, line := 0, command := none, course := .running, loops := 0
    calls := 0, hidden := [], documents := [], nextDocument := 0, floods := false
    isReplaced := true
    world := ⟨files, runChannels, [], Shell.firstNumber + 1⟩ }

/-- How deep the commands of an invocation may be nested. -/
def depth (i : Invocation) : Nat := 100000 + 16 * i.arguments.foldl (fun n a => n + a.length) 0

/-- How the end of a program ends the run: the run goes on as long as its output is held open. -/
def result (i : Invocation) (s : Shell) : RunResult :=
  let ends := max s.now (max (s.world.ends outputChannel) (s.world.ends errorChannel))
  if s.course = .stuck ∨ deadline i ≤ ends then .error (.timeout i.executable i.timeout)
  else
    match s.course with
    | .killed _ => .error (.killed i.executable)
    | _ =>
      .ok ⟨s.code, (s.world.output outputChannel).bytes, (s.world.output errorChannel).bytes⟩

/-- Runs an invocation on the host. -/
def execute (i : Invocation) : RunResult :=
  let words := (i.executable :: i.arguments).map fun t => Raw.ofText t.toList
  let refuse (fault : FileFault) : RunResult := .error (.spawn i.executable fault.message)
  if words.any (·.contains '\x00') then refuse .nulInArgument
  else
    let s := beginning i
    match s.locate (searchPath.map String.toList) words with
    | .error fault => refuse fault
    | .ok (program, words) =>
      let e := Shell.executor (depth i)
      result i (Shell.branch e (.become program words environment) s)

end LobsterServer.Host
