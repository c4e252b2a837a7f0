import LobsterServer.Host.Shell.State

set_option autoImplicit false

/-!
# Orders

Commands hold commands: what a shell does with one is said in terms of what it does with others.
An executor is what is known of the others.  With it, this module says what a shell does about the
signals that reach it and at its end.
-/

namespace LobsterServer.Host

/-- How a command is run. -/
structure Manner where
  /-- its failure is looked at, so that it ends no shell -/
  isTested : Bool
  /-- the shell does nothing behind it -/
  isLast : Bool
  deriving DecidableEq, Repr

/-- What a shell is told to do. -/
inductive Order where
  | command (manner : Manner) (c : Command)
  /-- all commands of a script -/
  | script (manner : Manner) (text : Raw)
  /-- a program takes the place of the shell; the words are its name and its arguments -/
  | become (p : Program) (words : List Raw) (environment : List (Raw × Raw))

/-- How orders are obeyed and words are expanded. -/
structure Executor where
  run : Order → Shell → Shell
  /-- `splits` says that fields may end at the characters of the word itself -/
  expand : (splits : Bool) → Word → Shell → List Glyph × Shell

namespace Shell

/-- Whether the shell goes on with its next command. -/
def isRunning (s : Shell) : Bool := s.course = .running

/-- The shell after it has acted upon the signals that have reached it.  `most` bounds their
number. -/
def heed (e : Executor) : (most : Nat) → Shell → Shell
  | 0, s => s
  | most + 1, s =>
    match s.nextSignal? with
    | none => s
    | some (m, world) =>
      let s := { s with world }
      match if m.signal = killSignal then none else s.trap? m.signal with
      | none => heed e most (s.suffer m.signal)
      | some [] => heed e most s
      | some action =>
        let t := e.run (.script ⟨false, false⟩ action) s
        if t.isRunning then heed e most { t with status := s.status } else t

/-- A program at its end: the shell does what it was told to do there, and all streams are let
go. -/
def conclude (e : Executor) (s : Shell) : Shell :=
  match s.course with
  | .killed _ => s.release
  | .stuck => s.release
  | _ =>
    let s := { s with status := s.code }
    let ended := { s with course := .exited s.status }
    match s.trap? 0 with
    | none => ended.release
    | some action =>
      let traps := s.traps.filter fun t => t.1 ≠ 0
      let t := e.run (.script ⟨false, false⟩ action) { s with course := .running, traps }
      match t.course with
      | .exited _ => t.release
      | .killed _ => t.release
      | .stuck => t.release
      | _ => { t with course := .exited s.status }.release

/-- A part of the shell that runs on its own until its end. -/
def branch (e : Executor) (order : Order) (part : Shell) : Shell :=
  conclude e (e.run order part)

end Shell

end LobsterServer.Host
