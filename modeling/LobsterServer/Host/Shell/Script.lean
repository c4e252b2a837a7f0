import LobsterServer.Host.Raw

set_option autoImplicit false

/-!
# Shell scripts

The commands of a command shell: simple commands with redirections, pipelines, lists, loops,
conditions and functions.
-/

namespace LobsterServer.Host

/-- How a stream of a command is redirected. -/
inductive RedirectKind where
  /-- from a file -/
  | read
  /-- to a file, which is emptied first -/
  | write
  /-- to a file, also where files are not to be emptied -/
  | clobber
  /-- to the end of a file -/
  | append
  /-- from and to a file -/
  | both
  /-- from or to where another stream leads -/
  | follow
  /-- from a text in the script: the here-document of a number -/
  | here (number : Nat)
  deriving DecidableEq, Repr

/-- What is done for a parameter with or without a value. -/
inductive Otherwise where
  /-- a word stands in -/
  | standIn
  /-- a word becomes the value -/
  | assign
  /-- a word is a complaint -/
  | fail
  /-- a word stands in for a value -/
  | replace
  deriving DecidableEq, Repr

mutual

/-- A part of a word. -/
inductive Piece where
  /-- characters without quotes -/
  | text (t : Raw)
  /-- characters that stand for themselves -/
  | quoted (t : Raw)
  /-- a parameter, and whether it stands in quotes -/
  | parameter (name : Raw) (use : Use) (inQuotes : Bool)
  /-- the value of an expression -/
  | arithmetic (expression : List Piece)
  /-- the output of commands, and whether it stands in quotes -/
  | output (command : Command) (inQuotes : Bool)

/-- What a parameter is used for. -/
inductive Use where
  | value
  /-- the length of its value -/
  | size
  /-- its value, or something else; `orEmpty` says that an empty value is none -/
  | otherwise (kind : Otherwise) (orEmpty : Bool) (word : List Piece)
  /-- its value without the shortest or longest part at its front or end that fits a pattern -/
  | trim (front longest : Bool) (pattern : List Piece)
  /-- nothing that can be done -/
  | bad

/-- A redirection of a stream. -/
inductive Redirect where
  | mk (stream : Nat) (kind : RedirectKind) (word : List Piece)

/-- A command. -/
inductive Command where
  /-- assignments, words and redirections, and the line where it starts -/
  | simple (line : Nat) (assignments : List (Raw × List Piece)) (words : List (List Piece))
      (redirects : List Redirect)
  /-- the output of each is the input of the next -/
  | pipe (commands : List Command)
  /-- one after the other -/
  | sequence (first second : Command)
  /-- the second if the first succeeds -/
  | both (first second : Command)
  /-- the second if the first fails -/
  | either (first second : Command)
  /-- success and failure swapped -/
  | negated (command : Command)
  /-- the body as long as the condition succeeds, or fails if `inverted` -/
  | loop (inverted : Bool) (condition body : Command)
  /-- the body for each word -/
  | each (line : Nat) (name : Raw) (words : List (List Piece)) (body : Command)
  /-- one of two bodies -/
  | choice (condition body other : Command)
  /-- the first body with a pattern that fits a word -/
  | select (line : Nat) (word : List Piece) (cases : List (List (List Piece) × Command))
  /-- a body with redirections of its own -/
  | group (line : Nat) (body : Command) (redirects : List Redirect)
  /-- a body in a shell of its own -/
  | subshell (line : Nat) (body : Command) (redirects : List Redirect)
  /-- beside all that follows -/
  | background (line : Nat) (body : Command)
  /-- names a body -/
  | define (name : Raw) (body : Command)
  | skip

end

/-- A word, as it is written. -/
abbrev Word := List Piece

instance : Inhabited Command := ⟨.skip⟩
instance : Inhabited Piece := ⟨.text []⟩

/-- The text of a word that is written without quotes and expansions. -/
def Word.plain? : Word → Option Raw
  | [.text t] => some t
  | _ => none

/-- The text of a word that has no expansions. -/
def Word.literal? (w : Word) : Option Raw :=
  w.foldr (fun p rest => match p, rest with
    | .text t, some r => some (t ++ r)
    | .quoted t, some r => some (t ++ r)
    | _, _ => none) (some [])

/-- Splits an assignment into its name and its value. -/
def Word.assignment? : Word → Option (Raw × Word)
  | .text t :: rest =>
    let name := t.takeWhile (· ≠ '=')
    match t.drop name.length with
    | _ :: value =>
      if isName name then some (name, if value = [] then rest else .text value :: rest) else none
    | [] => none
  | _ => none

end LobsterServer.Host
