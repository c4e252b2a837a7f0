import LobsterServer.Compiler.Produce
import LobsterServer.Text.Search

set_option autoImplicit false

/-!
# Scripted compilers

A rehearsal runs the server against a compiler that follows a script.  A script is a list of
rules; the first rule that fits a run says how it ends.  A rule may hold a compile back until the
rehearsal releases it, so that later messages overtake it.
-/

namespace LobsterServer.Rehearsal

/-- Bytes a scripted run prints. -/
inductive Stream where
  /-- a text, in which `{file}` stands for the file the run was given -/
  | text (t : Text)
  | bytes (b : List UInt8)
  deriving DecidableEq, Repr

/-- How a scripted run fails. -/
inductive Failure where
  | spawn (cause : String)
  | timeout (millis : Nat)
  | killed
  | io (cause : String)
  deriving DecidableEq, Repr

/-- The error that a failure means for an executable. -/
def Failure.error (executable : String) : Failure → RunError
  | .spawn cause => .spawn executable cause
  | .timeout millis => .timeout executable millis
  | .killed => .killed executable
  | .io cause => .io cause

/-- How a scripted run ends. -/
inductive Reply where
  | prints (code : Int) (stdout stderr : Stream)
  | fails (failure : Failure)
  deriving DecidableEq, Repr

/-- One rule of a script.  All the conditions it gives have to hold. -/
structure Rule where
  /-- whether the rule is for probes; else it is for compiles -/
  probe : Bool
  /-- the executable that is run -/
  executable : Option String
  /-- a part of the text of the scratch copy -/
  content : Option Text
  /-- the name of the file that is compiled -/
  file : Option Text
  /-- the name under which the compile is held back -/
  hold : Option String
  reply : Reply
  deriving DecidableEq, Repr

/-- How a run ends, and under which name its end is held back. -/
structure Play where
  result : RunResult
  hold : Option String

/-- A compiler, as far as a rehearsal sees it: how each invocation ends, given what the scratch
copy holds. -/
abbrev Compiler := Invocation → Option Text → Play

namespace Stream

/-- What `{file}` is written as in a stream. -/
def filePlaceholder : Text := "\x7bfile\x7d".toList

/-- The bytes of a stream in a run on `file`. -/
def bytesFor (file : Text) : Stream → List UInt8
  | text t => (Text.replaceAll filePlaceholder file t).encode
  | bytes b => b

end Stream

/-- The last argument of an invocation. -/
def lastArgument (i : Invocation) : Text := (i.arguments.getLastD "").toList

/-- How a reply ends a run. -/
def Reply.result (i : Invocation) : Reply → RunResult
  | .prints code stdout stderr =>
    .ok ⟨code, stdout.bytesFor (lastArgument i), stderr.bytesFor (lastArgument i)⟩
  | .fails failure => .error (failure.error i.executable)

/-- Whether an invocation is a probe. -/
def isProbe (i : Invocation) : Bool := i.arguments.isEmpty

/-- Whether a rule fits a run. -/
def Rule.fits (r : Rule) (i : Invocation) (content : Option Text) : Bool :=
  r.probe == isProbe i
    && r.executable.all (· = i.executable)
    && r.content.all (fun part => Text.includes part (content.getD []))
    && r.file.all (· = Path.lastPiece (lastArgument i))

/-- The reply where no rule fits: a probe prints the banner, a compile finds nothing. -/
def defaultReply (i : Invocation) : Reply :=
  if isProbe i then .prints 1 (.text (Verdict.banner ++ " v1").toList) (.text [])
  else .prints 0 (.text []) (.text [])

/-- The compiler that follows a script. -/
def scripted (rules : List Rule) : Compiler := fun i content =>
  match rules.find? fun r => r.fits i content with
  | some r => ⟨r.reply.result i, if isProbe i then none else r.hold⟩
  | none => ⟨(defaultReply i).result i, none⟩

end LobsterServer.Rehearsal
