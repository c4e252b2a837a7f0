import LobsterServer.CommandLine.Report
import LobsterServer.Host.System
import LobsterServer.Rehearsal.Session

set_option autoImplicit false

/-!
# The command line on a bench

A bench is a directory of stand-ins for the compiler, in front of the other directories in which
executables are looked up.  A server that is started by its command line is rehearsed there with a
small editor session, until it shows its first message or publishes its first diagnostics.
-/

namespace LobsterServer.Rehearsal.Bench

/-- A program on the bench. -/
inductive Tool where
  /-- prints the banner, and reports its arguments when it compiles -/
  | standard
  /-- ends with a code when it is probed -/
  | exits (code : Int)
  /-- prints nothing when it is probed -/
  | silent
  /-- complains when it is probed -/
  | complains
  /-- tells that it is another program when it is probed -/
  | foreign
  /-- breaks down when it compiles -/
  | breaksDown
  /-- takes very long when it is probed -/
  | slowToStart
  /-- takes very long when it compiles -/
  | slowToCompile
  /-- a program of the host -/
  | host
  deriving DecidableEq, Repr

/-- The directory of the bench, as it is written in arguments and answers. -/
def directory : String := "<fake>"

/-- Where the directory of the bench lies. -/
def place : String := "/bench/fake"

/-- The stand-ins on the bench. -/
def tools : List (String × Tool) :=
  [("lobster", .standard), ("lobster2", .standard), ("exit2", .exits 2), ("silent", .silent),
   ("noisy", .complains), ("python", .foreign), ("crash", .breaksDown),
   ("slowprobe", .slowToStart), ("slow", .slowToCompile)]

/-- What stands at a path of the host, as seen from the bench. -/
def entryOf : Host.Entry Host.Program → Host.Entry Tool
  | .directory => .directory
  | .data content runs => .data content runs
  | .device d => .device d
  | .program _ => .program .host

/-- The files of the host, with the bench. -/
def files : Host.Files Tool :=
  { entries :=
      [("/bench", .directory), (place, .directory)]
        ++ tools.map (fun (name, tool) => (place ++ "/" ++ name, .program tool))
        ++ Host.files.entries.map fun (path, entry) => (path, entryOf entry)
    searchPath := place.toList :: Host.files.searchPath }

/-- The program that an executable stands for. -/
def tool (executable : Text) : Except FileFault Tool :=
  match files.executable Host.workingDirectory files.searchPath (Host.Raw.ofText executable) with
  | .ok (_, .program tool) => .ok tool
  | .ok (_, .script _ _) => .ok .host
  | .error fault => .error fault

/-- The path of an executable, which may lie on the bench. -/
def placed (executable : Text) : Text :=
  Text.replaceAll directory.toList place.toList executable

/-- Milliseconds of what takes very long. -/
def longTime : Nat := 60000

/-- The name under which what takes very long is held back. -/
def longHold : String := "long"

/-- The report of a stand-in about its own arguments, as a warning on the first line.  The file is
shown by a word. -/
def selfReport (i : Invocation) : Text :=
  let shown := i.arguments.dropLast ++ ["<file>"]
  lastArgument i ++ "(1): warning: ".toList ++ Path.lastPiece i.executable.toList ++ " args".toList
    ++ shown.flatMap (fun a => " [".toList ++ a.toList ++ [']']) ++ ['\n']

/-- What a stand-in does when it is given time: its output, and how long it takes. -/
def Tool.output (tool : Tool) (i : Invocation) : Output × Nat :=
  if isProbe i then
    match tool with
    | .exits code => (⟨code, [], []⟩, 0)
    | .silent => (⟨0, [], []⟩, 0)
    | .complains => (⟨1, [], Text.encode "not found\n".toList⟩, 0)
    | .foreign => (⟨0, Text.encode "Python 3.12\n".toList, []⟩, 0)
    | .slowToStart => (⟨1, Text.encode Verdict.banner.toList, []⟩, longTime)
    | _ => (⟨1, Text.encode (Verdict.banner ++ "\n").toList, []⟩, 0)
  else
    match tool with
    | .breaksDown => (⟨3, [], Text.encode "internal error\n".toList⟩, 0)
    | _ => (⟨0, (selfReport i).encode, []⟩, if tool = .slowToCompile then longTime else 0)

/-- The compiler on the bench. -/
def compiler : Compiler := fun i _ =>
  match tool (placed i.executable.toList) with
  | .error fault => ⟨.error (.spawn i.executable fault.message), none⟩
  | .ok .host => ⟨Host.execute i, none⟩
  | .ok tool =>
    let (output, elapsed) := tool.output i
    ⟨if i.timeout ≤ elapsed then .error (.timeout i.executable i.timeout) else .ok output,
      if elapsed = 0 then none else some longHold⟩

/-! ## Sessions -/

/-- The document that is opened on the bench. -/
def documentUri : String := "file:///work/game.lobster"

/-- A server with a configuration, after an editor without abilities has introduced itself. -/
def started (config : Config) : Session :=
  ((Session.start config compiler []).receive (.hello 0 false)).receive .ready

/-- A session in which what takes very long comes to its end. -/
def later (s : Session) : Session := s.release longHold

/-- The first message that a server shows. -/
def firstShown (config : Config) : Option Json :=
  let s := started config
  (s.log.shown.head?.or (later s).log.shown.head?).map (messageParams 1)

/-- The first diagnostics that a server publishes after a document has been opened. -/
def firstPublished (config : Config) (text : Text) : Option Json :=
  let s := (started config).receive (.didOpen documentUri text 1)
  (s.log.published.head?.or (later s).log.published.head?).map
    fun (uri, diagnostics, version) => publishParams uri diagnostics version

end LobsterServer.Rehearsal.Bench
