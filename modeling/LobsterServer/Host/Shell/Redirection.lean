import LobsterServer.Host.Shell.Expansion

set_option autoImplicit false

/-!
# Redirections

A redirection lets a stream lead to a file, to where another stream leads, or to a text.  The
streams are as before when the command has ended.
-/

namespace LobsterServer.Host.Shell

/-- The shell with a stream that leads to a channel. -/
def connect (s : Shell) (stream channel : Nat) : Shell :=
  { s with streams := withStream s.streams stream channel }

/-- The shell with a stream that leads to a new channel. -/
def connectNew (s : Shell) (stream : Nat) (c : Channel) : Shell :=
  let (world, n) := s.world.addChannel c
  { s with world }.connect stream n

/-- Why a file cannot be opened for reading or be made. -/
def openFault (reads : Bool) : FileFault → String
  | .notFound => if reads then "No such file" else "Directory nonexistent"
  | .notADirectory => if reads then "No such file" else "Directory nonexistent"
  | fault => fault.cause

/-- Opens a file for a stream; the answer says whether that was possible. -/
def openFile (s : Shell) (stream : Nat) (kind : RedirectKind) (path : Raw) : Shell × Bool :=
  let reads := kind = RedirectKind.read
  let appends := kind = RedirectKind.append
  let refuse (reason : String) : Shell × Bool :=
    let verb := if reads then "cannot open " else "cannot create "
    (s.complain 2 (ascii verb ++ path ++ ascii (": " ++ reason)), false)
  let into (c : Channel) : Shell × Bool := (s.connectNew stream c, true)
  let written (place : Place) (content : Raw) (runs : Bool) : Shell × Bool :=
    let disk := s.world.disk.put place (.data content runs)
    let offset := if appends then content.length else 0
    ({ s with world := { s.world with disk } }.connectNew stream (.file place offset appends), true)
  match s.world.disk.follow s.directory path with
  | .error fault => refuse (openFault reads fault)
  | .ok (place, none) =>
    if reads then refuse (openFault reads .notFound) else written place [] false
  | .ok (_, some .directory) => if reads then into .null else refuse FileFault.isADirectory.cause
  | .ok (_, some (.device .null)) => into .null
  | .ok (_, some (.device .zero)) => into .zero
  | .ok (_, some (.device .full)) => into .full
  | .ok (_, some (.device (.stream n))) =>
    match s.channel? n with
    | some channel => (s.connect stream channel, true)
    | none => refuse (openFault reads .notFound)
  | .ok (_, some (.device .locked)) => refuse FileFault.noDevice.cause
  | .ok (_, some (.program _)) => if reads then into .null else refuse "Text file busy"
  | .ok (place, some (.data content runs)) =>
    match kind with
    | .read => into (.file place 0 false)
    | .write =>
      if s.has 'C' then refuse "File exists" else written place [] runs
    | .clobber => written place [] runs
    | _ => written place content runs

/-- Redirects a stream; the answer says whether that was possible.  There is no complaint about the
error output, which is closed first. -/
def redirect (e : Executor) (r : Redirect) (s : Shell) : Shell × Bool :=
  match r with
  | .mk stream (.here number) _ =>
    let (text, s) := s.textOfWord e ((s.documents.lookup number).getD [])
    if s.isRunning then (s.connectNew stream (.source [(s.now, text)] s.now false), true)
    else (s, false)
  | .mk stream kind word =>
    let (target, s) := s.textOfWord e word
    if !s.isRunning then (s, false)
    else if kind = .follow then
      if target = ['-'] then
        ({ s with streams := s.streams.filter fun p => p.1 ≠ stream }, true)
      else
        match number? target with
        | none => (s.abandon 2 (ascii "Syntax error: Bad fd number"), false)
        | some n =>
          match s.channel? n with
          | some channel => (s.connect stream channel, true)
          | none =>
            if stream = 2 then ({ s with status := 2 }, false)
            else (s.complain 2 (target ++ ascii ": Bad file descriptor"), false)
    else s.openFile stream kind target

/-- Redirects streams, one after the other, up to the first that cannot be redirected. -/
def redirectAll (e : Executor) (redirects : List Redirect) (s : Shell) : Shell × Bool :=
  redirects.foldl (fun (s, ok) r => if ok then s.redirect e r else (s, false)) (s, true)

/-- The shell with the streams that another state of it had.  A program that has taken its place
keeps its own. -/
def withStreamsOf (s before : Shell) : Shell :=
  if s.isReplaced then s else { s with streams := before.streams }

/-- The shell after something is done under redirections. -/
def within (e : Executor) (redirects : List Redirect) (body : Shell → Shell) (s : Shell) : Shell :=
  if redirects.isEmpty then body s
  else
    let (t, ok) := s.redirectAll e redirects
    (if ok then body t else t).withStreamsOf s

end LobsterServer.Host.Shell
