import LobsterServer.Host.Decimal
import LobsterServer.Host.Program

set_option autoImplicit false

/-!
# Formatted output

Escapes behind a backslash, and formats whose conversions behind a percent sign take arguments.
-/

namespace LobsterServer.Host

/-- The character that a letter behind a backslash stands for. -/
def escaped? : Char → Option Char
  | 'a' => some '\x07'
  | 'b' => some '\x08'
  | 't' => some '\t'
  | 'n' => some '\n'
  | 'v' => some '\x0b'
  | 'f' => some '\x0c'
  | 'r' => some '\x0d'
  | 'e' => some '\x1b'
  | '\\' => some '\\'
  | _ => none

/-- The byte of a number, of which only the last eight bits count. -/
def byteOf (n : Nat) : Char := Char.ofNat (n % 256)

/-- Octal digits at the front of a text, at most `most` of them: their value, and the rest. -/
def octal : Nat → Nat → Raw → Nat × Raw
  | 0, value, t => (value, t)
  | most + 1, value, c :: t =>
    if '0' ≤ c ∧ c ≤ '7' then octal most (value * 8 + (c.toNat - '0'.toNat)) t
    else (value, c :: t)
  | _ + 1, value, [] => (value, [])

/-- Reads what follows a backslash: what it stands for, and the rest. -/
def readEscape (t : Raw) : Raw × Raw :=
  match t with
  | [] => (['\\'], [])
  | c :: rest =>
    if '0' ≤ c ∧ c ≤ '7' then
      let (value, rest) := octal 3 0 (c :: rest)
      ([byteOf value], rest)
    else
      match escaped? c with
      | some b => ([b], rest)
      | none => (['\\', c], rest)

/-- A text with its escapes resolved, and whether the output ends at `\c`.  `fuel` bounds the
number of characters. -/
def unescape : Nat → Raw → Raw × Bool
  | 0, _ => ([], false)
  | _ + 1, [] => ([], false)
  | _ + 1, '\\' :: 'c' :: _ => ([], true)
  | fuel + 1, '\\' :: '0' :: t =>
    let (value, rest) := octal 3 0 t
    let (bytes, ends) := unescape fuel rest
    (byteOf value :: bytes, ends)
  | fuel + 1, '\\' :: t =>
    let (first, rest) := readEscape t
    let (bytes, ends) := unescape fuel rest
    (first ++ bytes, ends)
  | fuel + 1, c :: t =>
    let (bytes, ends) := unescape fuel t
    (c :: bytes, ends)

/-- Writes arguments joined by blanks, with their escapes resolved.  `-n` in front leaves out the
line break. -/
def writeWords (arguments : List Raw) : Raw :=
  let (ending, words) :=
    match arguments with
    | ['-', 'n'] :: words => ([], words)
    | words => (['\n'], words)
  let t := joinedBy [' '] words
  let (bytes, ends) := unescape (t.length + 1) t
  if ends then bytes else bytes ++ ending

/-! ## Formats -/

/-- A conversion of a format. -/
structure Conversion where
  flags : Raw
  width : Nat
  precision : Option Nat
  letter : Char

/-- What is wrong with a format or with an argument of it. -/
inductive FormatFault where
  /-- an argument is no number -/
  | noNumber (argument : Raw)
  /-- something follows the number of an argument -/
  | partlyRead (argument : Raw)
  /-- the number of an argument is too large -/
  | outOfRange (argument : Raw)
  /-- a directive has no letter that is known -/
  | invalid (directive : Raw)
  /-- a directive has no letter at all -/
  | noLetter (directive : Raw)
  deriving DecidableEq, Repr

/-- What writing a format once has led to. -/
structure Written where
  bytes : Raw
  /-- the arguments that are left -/
  left : List Raw
  /-- whether an argument was asked for -/
  asked : Bool
  faults : List FormatFault
  /-- the exit code if the output ends here -/
  ends : Option Nat

/-- Fills a value up to the width of its conversion; zeros go behind its sign. -/
def Conversion.fill (c : Conversion) (zeros : Bool) (sign value : Raw) : Raw :=
  let gap := c.width - (sign.length + value.length)
  if c.flags.contains '-' then sign ++ value ++ List.replicate gap ' '
  else if zeros && c.flags.contains '0' then sign ++ List.replicate gap '0' ++ value
  else List.replicate gap ' ' ++ sign ++ value

/-- The sign that stands in front of a number. -/
def Conversion.sign (c : Conversion) (negative : Bool) : Raw :=
  if negative then ['-']
  else if c.flags.contains '+' then ['+']
  else if c.flags.contains ' ' then [' ']
  else []

/-- An integer argument: its value, and what is wrong with it. -/
def integerArgument (t : Raw) : Int × Option FormatFault :=
  match t with
  | '\'' :: d :: _ => (d.toNat, none)
  | '"' :: d :: _ => (d.toNat, none)
  | [] => (0, none)
  | _ =>
    match readInteger t with
    | (some n, []) => (n, none)
    | (some n, _) => (n, some (.partlyRead t))
    | (none, _) => (0, some (.noNumber t))

/-- A number argument: its value, and what is wrong with it. -/
def decimalArgument (t : Raw) : Decimal.Value × Option FormatFault :=
  match t with
  | '\'' :: d :: _ => (.finite ⟨false, d.toNat, 0⟩, none)
  | '"' :: d :: _ => (.finite ⟨false, d.toNat, 0⟩, none)
  | [] => (.finite ⟨false, 0, 0⟩, none)
  | _ =>
    match Decimal.read t with
    | (v, []) => (v, none)
    | (v, rest) => (v, some (if rest = t then .noNumber t else .partlyRead t))

/-- Writes an integer in a base, with what its flags ask for. -/
def Conversion.unsigned (c : Conversion) (base : Nat) (upper : Bool) (n : Nat) : Raw :=
  let digits := (Nat.toDigits base n).map fun d => if upper then d.toUpper else d
  let digits := if c.precision = some 0 ∧ n = 0 then [] else digits
  let digits := List.replicate (c.precision.getD 0 - digits.length) '0' ++ digits
  let alternate := c.flags.contains '#'
  let digits := if alternate && base = 8 && digits.head? ≠ some '0' then '0' :: digits else digits
  let front := if alternate && base = 16 && n ≠ 0 then ['0', if upper then 'X' else 'x'] else []
  c.fill c.precision.isNone front digits

/-- The value of an argument under a conversion, and what is wrong with it; nothing for a letter
that is no conversion. -/
def Conversion.convert? (c : Conversion) (argument : Raw) : Option (Raw × Option FormatFault) :=
  let limit (t : Raw) : Raw :=
    match c.precision with
    | some n => t.take n
    | none => t
  let (n, fault) := integerArgument argument
  let within (low high : Int) : Int × Option FormatFault :=
    if n < low then (low, some (.outOfRange argument))
    else if high < n then (high, some (.outOfRange argument))
    else (n, fault)
  let unsignedValue (base : Nat) (upper : Bool) : Raw × Option FormatFault :=
    let (n, fault) := within (-0xffffffffffffffff) 0xffffffffffffffff
    (c.unsigned base upper (n % 0x10000000000000000).toNat, fault)
  let decimalValue : Raw × Option FormatFault :=
    let (v, fault) := decimalArgument argument
    (c.fill v.isFinite (c.sign v.isNegative)
      (v.render c.letter (c.precision.getD 6) (c.flags.contains '#')), fault)
  match c.letter with
  | 's' => some (c.fill false [] (limit argument), none)
  | 'c' => some (c.fill false [] [argument.headD '\x00'], none)
  | 'u' => some (unsignedValue 10 false)
  | 'o' => some (unsignedValue 8 false)
  | 'x' => some (unsignedValue 16 false)
  | 'X' => some (unsignedValue 16 true)
  | 'e' => some decimalValue
  | 'E' => some decimalValue
  | 'f' => some decimalValue
  | 'F' => some decimalValue
  | 'g' => some decimalValue
  | 'G' => some decimalValue
  | letter =>
    if letter = 'd' ∨ letter = 'i' then
      let (n, fault) := within (-maxInteger - 1) maxInteger
      let digits := if c.precision = some 0 ∧ n = 0 then [] else decimal n.natAbs
      let digits := List.replicate (c.precision.getD 0 - digits.length) '0' ++ digits
      some (c.fill c.precision.isNone (c.sign (n < 0)) digits, fault)
    else none

/-- Reads a number of a conversion, which may be an argument: its value, the arguments that are
left, and the rest. -/
def readSize (t : Raw) (arguments : List Raw) : Option Int × List Raw × Raw :=
  match t with
  | '*' :: t => (some (integerArgument (arguments.headD [])).1, arguments.tail, t)
  | t =>
    let (n, rest) := readDigits 10 t
    (n.map Int.ofNat, arguments, rest)

/-- Reads a conversion behind its percent sign: the conversion, the arguments that are left, and the
rest; or nothing if its letter is missing. -/
def readConversion (t : Raw) (arguments : List Raw) :
    Option (Conversion × List Raw × Raw) :=
  let flags := t.takeWhile fun c => ['-', '+', ' ', '#', '0'].contains c
  let (width, arguments, rest) := readSize (t.drop flags.length) arguments
  let flags := if width.any (· < 0) then '-' :: flags else flags
  let (precision, arguments, rest) :=
    match rest with
    | '.' :: rest =>
      let (n, arguments, rest) := readSize rest arguments
      (some (n.getD 0), arguments, rest)
    | rest => (none, arguments, rest)
  match rest with
  | [] => none
  | letter :: rest =>
    some (⟨flags, (width.getD 0).natAbs,
      precision.bind fun n => if n < 0 then none else some n.toNat, letter⟩, arguments, rest)

/-- The exit code after a directive that cannot be read. -/
def formatFailure : Nat := 2

/-- Writes a format once.  `fuel` bounds the number of its characters. -/
def format : Nat → Raw → List Raw → Written
  | 0, _, arguments => ⟨[], arguments, false, [], none⟩
  | _ + 1, [], arguments => ⟨[], arguments, false, [], none⟩
  | fuel + 1, '%' :: '%' :: t, arguments =>
    let w := format fuel t arguments
    { w with bytes := '%' :: w.bytes }
  | fuel + 1, '%' :: t, arguments =>
    match readConversion t arguments with
    | none => ⟨[], arguments, false, [.noLetter ('%' :: t)], some formatFailure⟩
    | some (c, arguments, rest) =>
      let argument := arguments.headD []
      if c.letter = 'b' then
        let (bytes, ends) := unescape (argument.length + 1) argument
        let bytes := match c.precision with
          | some n => bytes.take n
          | none => bytes
        let value := c.fill false [] bytes
        if ends then ⟨value, arguments.tail, true, [], some 0⟩
        else
          let w := format fuel rest arguments.tail
          { w with bytes := value ++ w.bytes, asked := true }
      else
        match c.convert? argument with
        | none =>
          let shown := '%' :: t.take (t.length - rest.length)
          ⟨[], arguments, false, [.invalid shown], some formatFailure⟩
        | some (value, fault) =>
          let w := format fuel rest arguments.tail
          { w with bytes := value ++ w.bytes, asked := true, faults := fault.toList ++ w.faults }
  | fuel + 1, '\\' :: 'c' :: t, arguments =>
    let w := format fuel t arguments
    { w with bytes := '\\' :: 'c' :: w.bytes }
  | fuel + 1, '\\' :: t, arguments =>
    let (bytes, t) := readEscape t
    let w := format fuel t arguments
    { w with bytes := bytes ++ w.bytes }
  | fuel + 1, c :: t, arguments =>
    let w := format fuel t arguments
    { w with bytes := c :: w.bytes }

/-- Writes a format again and again until no argument is left; once, if it takes none.  `rounds`
bounds the repetitions. -/
def formatAll (t : Raw) : (rounds : Nat) → List Raw → Written
  | 0, arguments => ⟨[], arguments, false, [], none⟩
  | rounds + 1, arguments =>
    let w := format (t.length + 1) t arguments
    if w.asked ∧ w.left ≠ [] ∧ w.ends = none then
      let more := formatAll t rounds w.left
      { more with bytes := w.bytes ++ more.bytes, faults := w.faults ++ more.faults }
    else w

/-- The wording about a fault of a format. -/
def FormatFault.message : FormatFault → Raw
  | .noNumber argument => argument ++ ascii ": expected numeric value"
  | .partlyRead argument => argument ++ ascii ": not completely converted"
  | .outOfRange argument => argument ++ ascii ": Numerical result out of range"
  | .invalid directive => directive ++ ascii ": invalid directive"
  | .noLetter _ => ascii "missing format character"

/-- Writes arguments as a format says. -/
def writeFormat (task : Task) (t : Raw) (arguments : List Raw) : Effort :=
  let w := formatAll t (arguments.length + 1) arguments
  let code := match w.ends with
    | some n => n
    | none => if w.faults = [] then 0 else 1
  ⟨code,
    w.faults.map (fun f => (2, closedLine (task.complaint ++ f.message))) ++ [(1, w.bytes)],
    some 0, task.disk, 0⟩

/-- Writes arguments as a format says, as a command of the shell. -/
def shellFormat (task : Task) : Effort :=
  match task.arguments with
  | [] => task.complain 2 "usage: printf format [arg ...]"
  | [['-', '-']] => task.complain 2 "usage: printf format [arg ...]"
  | ['-', '-'] :: t :: arguments => writeFormat task t arguments
  | ('-' :: c :: _) :: _ => .fail task 2 (task.complaint ++ ascii "Illegal option -" ++ [c])
  | t :: arguments => writeFormat task t arguments

end LobsterServer.Host
