import LobsterServer.Server.State
import LobsterServer.Text.Digit
import LobsterServer.Uri

set_option autoImplicit false

/-!
# Command-line options

The options of the server's command line, and how a list of arguments chooses among them.

An option that takes a value gets it after an equals sign, or from the next argument that is no
option itself.  Such an option is judged when the next known option comes, or at the end: only
then is a missing, repeated or unreadable value reported.  An unknown argument is reported at
once, in front of what is not judged yet.
-/

namespace LobsterServer.CommandLine

/-- An option of the command line. -/
inductive Switch where
  /-- talk over standard input and output, which the server always does -/
  | stdio
  /-- the compiler -/
  | executable
  /-- a directory to search for imports -/
  | importDirectory
  /-- the time limit of a compile -/
  | compileTimeout
  /-- the time limit of a probe -/
  | probeTimeout
  /-- turn experimental features off -/
  | noExperimental
  /-- print the options -/
  | help
  /-- print the version -/
  | version
  deriving DecidableEq, Repr

namespace Switch

/-- All options, in the order in which they are explained. -/
def all : List Switch :=
  [stdio, executable, importDirectory, compileTimeout, probeTimeout, noExperimental, help, version]

/-- The name of an option, behind two dashes. -/
def long : Switch → String
  | stdio => "stdio"
  | executable => "executable"
  | importDirectory => "import"
  | compileTimeout => "compile-timeout"
  | probeTimeout => "probe-timeout"
  | noExperimental => "no-experimental"
  | help => "help"
  | version => "version"

/-- The letter of an option, behind one dash. -/
def short? : Switch → Option Char
  | help => some 'h'
  | version => some 'V'
  | _ => none

/-- What the value of an option is called, if it takes one. -/
def valueName? : Switch → Option String
  | executable => some "EXECUTABLE"
  | importDirectory => some "DIR"
  | compileTimeout => some "SECS"
  | probeTimeout => some "SECS"
  | _ => none

/-- An option as it is named in messages: with its value, if it takes one. -/
def shown (o : Switch) : String :=
  match o.valueName? with
  | some name => "--" ++ o.long ++ " <" ++ name ++ ">"
  | none => "--" ++ o.long

/-- The option of a name. -/
def ofLong? (name : String) : Option Switch := all.find? fun o => o.long = name

/-- The option of a letter. -/
def ofShort? (letter : Char) : Option Switch := all.find? fun o => o.short? = some letter

end Switch

/-- Why the arguments are refused. -/
inductive Refusal where
  /-- an argument that is no option -/
  | unexpected (argument : String)
  /-- a value behind an option that takes none -/
  | unexpectedValue (value : String) (option : Switch)
  /-- an option without its value -/
  | missingValue (option : Switch)
  /-- an option that may be given once only -/
  | repeated (option : Switch)
  /-- a value that is no number of seconds -/
  | invalidValue (value : String) (option : Switch) (fault : Text.NumberFault)
  deriving DecidableEq, Repr

/-- The wording of a fault in a number. -/
def faultText : Text.NumberFault → String
  | .empty => "cannot parse integer from empty string"
  | .invalidDigit => "invalid digit found in string"
  | .tooLarge => "number too large to fit in target type"

/-- The wording of a refusal. -/
def Refusal.message : Refusal → String
  | .unexpected argument => "unexpected argument '" ++ argument ++ "' found"
  | .unexpectedValue value option =>
    "unexpected value '" ++ value ++ "' for '" ++ option.shown ++ "' found; no more were expected"
  | .missingValue option =>
    "a value is required for '" ++ option.shown ++ "' but none was supplied"
  | .repeated option => "the argument '" ++ option.shown ++ "' cannot be used multiple times"
  | .invalidValue value option fault =>
    "invalid value '" ++ value ++ "' for '" ++ option.shown ++ "': " ++ faultText fault

/-- What the arguments ask for. -/
inductive Request where
  /-- serve with this configuration -/
  | serve (config : Config)
  /-- print the options -/
  | help
  /-- print the version -/
  | version
  /-- nothing: the arguments are refused -/
  | refused (refusal : Refusal)

/-! ## Reading the arguments -/

/-- How far reading has come. -/
structure Choice where
  config : Config
  /-- the options judged so far -/
  given : List Switch
  /-- an option that is not judged yet, with its value if it has come -/
  pending : Option (Switch × Option String)

/-- The configuration without any options. -/
def defaultConfig : Config := .default Uri.filePath?

/-- Before the first argument. -/
def Choice.start : Choice := ⟨defaultConfig, [], none⟩

/-- What reading one argument leads to: on to the next, or to an end. -/
abbrev Reading := Except Request Choice

/-- Ends reading with a refusal. -/
def refuse {α : Type} (r : Refusal) : Except Request α := .error (.refused r)

/-- Reads a number of seconds, as milliseconds. -/
def readSeconds (option : Switch) (value : String) : Except Request Nat :=
  match Text.readNumber 0x10000000000000000 value.toList with
  | .ok n => .ok (n * 1000)
  | .error fault => refuse (.invalidValue value option fault)

namespace Choice

/-- The choice with an option that may be given once. -/
def once (c : Choice) (option : Switch) : Reading :=
  if c.given.contains option then refuse (.repeated option)
  else .ok { c with given := option :: c.given }

/-- Judges an option with its value. -/
def withValue (c : Choice) (option : Switch) (value : String) : Reading :=
  match option with
  | .importDirectory =>
    let defaults := { c.config.defaults with imports := c.config.defaults.imports ++ [value] }
    .ok { c with config := { c.config with defaults := defaults } }
  | .executable => do
    let c ← c.once option
    let defaults := { c.config.defaults with executable := value }
    return { c with config := { c.config with defaults := defaults } }
  | .compileTimeout => do
    let c ← c.once option
    return { c with config := { c.config with compileTimeout := ← readSeconds option value } }
  | .probeTimeout => do
    let c ← c.once option
    return { c with config := { c.config with probeTimeout := ← readSeconds option value } }
  | _ => .ok c

/-- Judges an option without a value. -/
def withoutValue (c : Choice) (option : Switch) : Reading :=
  match option with
  | .help => .error .help
  | .version => .error .version
  | .noExperimental => do
    let c ← c.once option
    let defaults := { c.config.defaults with experimental := false }
    return { c with config := { c.config with defaults := defaults } }
  | _ => c.once option

/-- Judges the option that waits for it. -/
def judge (c : Choice) : Reading :=
  match c.pending with
  | none => .ok c
  | some (option, none) => refuse (.missingValue option)
  | some (option, some value) => { c with pending := none }.withValue option value

/-- Reads an argument behind two dashes. -/
def long (c : Choice) (name : String) (attached : Option String) : Reading :=
  match Switch.ofLong? name, attached with
  | none, _ => refuse (.unexpected ("--" ++ name))
  | some option, some value =>
    if option.valueName?.isSome then do (← c.judge).withValue option value
    else refuse (.unexpectedValue value option)
  | some option, none =>
    if option.valueName?.isSome then do return { (← c.judge) with pending := some (option, none) }
    else do (← c.judge).withoutValue option

/-- Reads letters behind one dash. -/
def letters (c : Choice) : List Char → Reading
  | [] => .ok c
  | letter :: rest =>
    match Switch.ofShort? letter with
    | none => refuse (.unexpected (String.ofList ['-', letter]))
    | some option => do letters (← (← c.judge).withoutValue option) rest

/-- Reads an argument that is no option: the value of the option before it. -/
def plain (c : Choice) (argument : String) : Reading :=
  match c.pending with
  | some (option, none) => .ok { c with pending := some (option, some argument) }
  | _ => refuse (.unexpected argument)

/-- Reads one argument. -/
def next (c : Choice) (argument : String) : Reading :=
  match argument.toList with
  | '-' :: '-' :: rest =>
    let name := rest.takeWhile (· ≠ '=')
    let attached :=
      if name.length < rest.length then some (String.ofList (rest.drop (name.length + 1)))
      else none
    c.long (String.ofList name) attached
  | '-' :: letter :: rest => c.letters (letter :: rest)
  | _ => c.plain argument

/-- Reads the arguments that are left.  Two dashes alone end the options, and nothing may follow
them. -/
def readAll (c : Choice) : List String → Reading
  | [] => c.judge
  | "--" :: [] => c.judge
  | "--" :: argument :: _ => refuse (.unexpected argument)
  | argument :: rest => do readAll (← c.next argument) rest

end Choice

/-- Reads the arguments of the command line. -/
def read (arguments : List String) : Request :=
  match Choice.start.readAll arguments with
  | .ok c => .serve c.config
  | .error request => request

end LobsterServer.CommandLine
