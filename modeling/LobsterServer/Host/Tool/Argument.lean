import LobsterServer.Host.Number
import LobsterServer.Host.Program

set_option autoImplicit false

/-!
# Arguments of tools

Tools take options, which may stand among the operands, and name files to read.
-/

namespace LobsterServer.Host

/-- The options that a tool knows. -/
structure OptionTable where
  /-- the letters of options -/
  letters : String
  /-- the letters of options that take a value -/
  valued : String
  /-- options that are written as words, with their letters -/
  long : List (String × Char)
  /-- the exit code after a complaint about options -/
  failure : Nat

/-- The arguments of a tool, read by a table. -/
structure Arguments where
  /-- the options in order, each with its value if it takes one -/
  options : List (Char × Raw)
  operands : List Raw

namespace Arguments

/-- Whether an option is given. -/
def has (a : Arguments) (c : Char) : Bool := a.options.any (·.1 = c)

end Arguments

namespace OptionTable

/-- Reads the letters of an argument: the options that they stand for, and the letter that takes a
value of the next argument if there is one. -/
def readLetters (table : OptionTable) : Raw → Except Raw (List (Char × Raw) × Option Char)
  | [] => .ok ([], none)
  | c :: rest =>
    if table.valued.toList.contains c then
      if rest = [] then .ok ([], some c) else .ok ([(c, rest)], none)
    else if table.letters.toList.contains c then
      (readLetters table rest).map fun (options, last) => ((c, []) :: options, last)
    else .error (ascii "invalid option -- '" ++ [c, '\''])

/-- Reads an option that is a word. -/
def readLong (table : OptionTable) (t : Raw) : Except Raw (List (Char × Raw) × Option Char) :=
  let name := t.takeWhile (· ≠ '=')
  let value := t.drop name.length
  let fitting := table.long.filter fun o => name.isPrefixOf o.1.toList
  let exact := fitting.filter fun o => o.1.toList = name
  match exact ++ fitting with
  | [] => .error (ascii "unrecognized option '--" ++ t ++ ['\''])
  | (whole, c) :: _ =>
    match table.valued.toList.contains c, value with
    | true, [] => .ok ([], some c)
    | true, _ :: value => .ok ([(c, value)], none)
    | false, [] => .ok ([(c, [])], none)
    | false, _ =>
      .error (ascii ("option '--" ++ whole ++ "' doesn't allow an argument"))

/-- Reads arguments.  `inOrder` says that no options follow the first operand. -/
def read (table : OptionTable) (inOrder : Bool) : List Raw → Except Raw Arguments
  | [] => .ok ⟨[], []⟩
  | t :: rest =>
    if t = ['-', '-'] then .ok ⟨[], rest⟩
    else if t = ['-'] ∨ t.head? ≠ some '-' then
      if inOrder then .ok ⟨[], t :: rest⟩
      else (read table inOrder rest).map fun a => { a with operands := t :: a.operands }
    else
      let first := match t with
        | '-' :: '-' :: long => table.readLong long
        | _ => table.readLetters (t.drop 1)
      match first, rest with
      | .error fault, _ => .error fault
      | .ok (options, none), rest =>
        (read table inOrder rest).map fun a => { a with options := options ++ a.options }
      | .ok (options, some c), value :: rest =>
        (read table inOrder rest).map fun a =>
          { a with options := options ++ (c, value) :: a.options }
      | .ok (_, some c), [] => .error (ascii "option requires an argument -- '" ++ [c, '\''])

end OptionTable

namespace Task

/-- The line that follows a complaint about the use of a tool. -/
def hint (t : Task) : Raw :=
  ascii "Try '" ++ t.name ++ ascii " --help' for more information."

/-- A complaint about the use of a tool. -/
def misuse (t : Task) (code : Nat) (message : Raw) : Effort :=
  .fail t code (t.complaint ++ message ++ '\n' :: t.hint)

/-- Does the work of a tool if its arguments can be read. -/
def withArguments (t : Task) (table : OptionTable) (work : Arguments → Effort) : Effort :=
  match table.read false t.arguments with
  | .ok a => work a
  | .error fault => t.misuse table.failure fault

/-- A complaint about a file. -/
def refuse (t : Task) (path : Raw) (fault : FileFault) : Raw :=
  closedLine (t.complaint ++ path ++ ascii (": " ++ fault.cause))

/-- What a tool reads: the content of a source, and whether that has an end. -/
structure Source where
  path : Raw
  content : Raw
  ends : Bool

/-- Reads what is named, or the input if nothing is; gives the sources, the complaints, and whether
the input was read.  The complaints are worded by `refuse`. -/
def sources (t : Task) (refuse : Raw → FileFault → Raw) (operands : List Raw) :
    List Source × Raw × Bool :=
  let operands := if operands = [] then [['-']] else operands
  operands.foldl
    (fun (found, complaints, usesInput) path =>
      if path = ['-'] then
        let content := if usesInput then [] else t.input.getD []
        (found ++ [⟨path, content, !t.goesOn⟩], complaints, true)
      else
        match t.readFile path with
        | .ok (content, ends) => (found ++ [⟨path, content, ends⟩], complaints, usesInput)
        | .error fault => (found, complaints ++ refuse path fault, usesInput))
    ([], [], false)

/-- A tool that writes what it makes of all that it reads. -/
def filter (t : Task) (operands : List Raw) (work : List Raw → Raw) : Effort :=
  let (found, complaints, usesInput) := t.sources t.refuse operands
  ⟨if complaints = [] then 0 else 1, [(2, complaints), (1, work (found.map Source.content))],
    if usesInput then none else some 0, t.disk, if found.all Source.ends then 0 else never⟩

end Task

end LobsterServer.Host
