import LobsterServer.Host.Number
import LobsterServer.Host.Program

set_option autoImplicit false

/-!
# Comparisons

Tests of texts, numbers and files, which succeed or fail.  An expression is a choice of
conjunctions of tests; the arguments are looked at from a place on, and whether one is an operator
depends on those behind it.
-/

namespace LobsterServer.Host

namespace Comparison

/-- What an argument is in an expression. -/
inductive Kind where
  | ending
  | operand
  /-- an operator with one operand -/
  | unary
  /-- an operator between two operands -/
  | binary
  | negation
  | conjunction
  | disjunction
  | openParen
  | closeParen
  deriving DecidableEq, Repr

/-- What a text is if it is an operator. -/
def operatorKind? (t : Raw) : Option Kind :=
  match String.ofList t with
  | "!" => some .negation
  | "-a" => some .conjunction
  | "-o" => some .disjunction
  | "(" => some .openParen
  | ")" => some .closeParen
  | s =>
    if ["=", "!=", "<", ">", "-eq", "-ne", "-ge", "-gt", "-le", "-lt", "-nt", "-ot",
        "-ef"].contains s then some .binary
    else if ["-r", "-w", "-x", "-e", "-f", "-d", "-c", "-b", "-p", "-u", "-g", "-k", "-s", "-t",
        "-z", "-n", "-h", "-O", "-G", "-L", "-S"].contains s then some .unary
    else none

/-- What the first of some arguments is: an operator with one operand counts as an operand where it
stands in front of nothing or of another operator. -/
def kindAt : List Raw → Kind
  | [] => .ending
  | t :: rest =>
    match operatorKind? t with
    | none => .operand
    | some .unary =>
      match rest with
      | [] => .operand
      | [_] => .unary
      | next :: _ => if operatorKind? next = some .binary then .operand else .unary
    | some .openParen => if rest = [] then .operand else .openParen
    | some kind => kind

/-- What tests need to know. -/
structure Scene where
  disk : Disk
  directory : Place

/-- A computation on the arguments that are left. -/
abbrev Judgement := StateT (List Raw) (Except Raw)

/-- Goes on to the next argument. -/
def step : Judgement Unit := modify fun arguments => arguments.drop 1

/-- An integer with gaps around it. -/
def integerOf (t : Raw) : Except Raw Int :=
  let body := Text.dropEndWhile isGap (t.dropWhile isGap)
  match integer? body with
  | some n =>
    if -maxInteger - 1 ≤ n ∧ n ≤ maxInteger then .ok n
    else .error (ascii "Illegal number: " ++ t)
  | none => .error (ascii "Illegal number: " ++ t)

/-- Compares two integers. -/
def compareIntegers (a b : Raw) (holds : Int → Int → Bool) : Except Raw Bool := do
  return holds (← integerOf a) (← integerOf b)

/-- The value of an operator between two operands. -/
def compareTwo (scene : Scene) (a operator b : Raw) : Except Raw Bool :=
  match String.ofList operator with
  | "=" => .ok (a = b)
  | "!=" => .ok (a ≠ b)
  | "<" => .ok (a < b)
  | ">" => .ok (b < a)
  | "-eq" => compareIntegers a b fun m n => m = n
  | "-ne" => compareIntegers a b fun m n => m ≠ n
  | "-lt" => compareIntegers a b fun m n => m < n
  | "-le" => compareIntegers a b fun m n => m ≤ n
  | "-gt" => compareIntegers a b fun m n => n < m
  | "-ge" => compareIntegers a b fun m n => n ≤ m
  | "-ef" =>
    match scene.disk.lookUp scene.directory a, scene.disk.lookUp scene.directory b with
    | .ok (p, _), .ok (q, _) => .ok (p = q)
    | _, _ => .ok false
  | _ => .ok false

/-- Whether a file is as an operator asks. -/
def isAs (operator : String) (place : Place) : Entry Program → Bool
  | .directory => ["-e", "-d", "-r", "-w", "-x", "-s", "-O", "-G"].contains operator
  | .data content runs =>
    ["-e", "-f", "-r", "-w", "-O", "-G"].contains operator
      || (operator = "-s" && content ≠ []) || (operator = "-x" && runs)
  | .device _ =>
    ["-e", "-c", "-r", "-w", "-O", "-G"].contains operator
      || (["-h", "-L"].contains operator && place.getLast?.any ((ascii "std").isPrefixOf ·))
  | .program _ => ["-e", "-f", "-r", "-w", "-x", "-s", "-O", "-G"].contains operator

/-- The value of an operator with one operand. -/
def judgeOne (scene : Scene) (operator operand : Raw) : Except Raw Bool :=
  match String.ofList operator with
  | "-n" => .ok (operand ≠ [])
  | "-z" => .ok (operand = [])
  | "-t" => (integerOf operand).map fun _ => false
  | s =>
    match scene.disk.lookUp scene.directory operand with
    | .ok (place, entry) => .ok (isAs s place entry)
    | .error _ => .ok false

mutual

/-- The value of a choice. -/
def judgeEither (scene : Scene) (fuel : Nat) (holds : Bool) : Judgement Bool :=
  match fuel with
  | 0 => throw (ascii "too deep")
  | fuel + 1 => do
    let value ← judgeBoth scene fuel true
    if kindAt ((← get).drop 1) = .disjunction then
      step
      step
      judgeEither scene fuel (holds || value)
    else return holds || value

/-- The value of a conjunction. -/
def judgeBoth (scene : Scene) (fuel : Nat) (holds : Bool) : Judgement Bool :=
  match fuel with
  | 0 => throw (ascii "too deep")
  | fuel + 1 => do
    let value ← judgeNot scene fuel
    if kindAt ((← get).drop 1) = .conjunction then
      step
      step
      judgeBoth scene fuel (holds && value)
    else return holds && value

/-- The value of a test with negations in front. -/
def judgeNot (scene : Scene) (fuel : Nat) : Judgement Bool :=
  match fuel with
  | 0 => throw (ascii "too deep")
  | fuel + 1 => do
    if kindAt (← get) = .negation then
      if ((← get).drop 1) ≠ [] then step
      else return true
      return !(← judgeNot scene fuel)
    else judgePrimary scene fuel

/-- The value of one test.  It ends at its last argument. -/
def judgePrimary (scene : Scene) (fuel : Nat) : Judgement Bool :=
  match fuel with
  | 0 => throw (ascii "too deep")
  | fuel + 1 => do
    let arguments ← get
    match kindAt arguments, arguments with
    | .ending, _ => return false
    | _, [] => return false
    | .openParen, _ =>
      step
      if kindAt (← get) = .closeParen then return false
      else
        let value ← judgeEither scene fuel false
        step
        if kindAt (← get) = .closeParen then return value
        else throw (ascii "closing paren expected")
    | .unary, operator :: rest =>
      step
      match rest with
      | [] => throw (operator ++ ascii ": argument expected")
      | operand :: _ =>
        match judgeOne scene operator operand with
        | .ok value => return value
        | .error complaint => throw complaint
    | _, a :: rest =>
      if kindAt rest = .binary then
        step
        step
        match rest with
        | operator :: b :: _ =>
          match compareTwo scene a operator b with
          | .ok value => return value
          | .error complaint => throw complaint
        | _ => throw (rest.headD [] ++ ascii ": argument expected")
      else return a ≠ []

end

/-- The value of an expression that is not cut down further. -/
def judgeWhole (scene : Scene) (arguments : List Raw) : Except Raw Bool := do
  let (value, rest) ← (judgeEither scene (4 * arguments.length + 16) false).run arguments
  match rest with
  | last :: _ :: _ => .error (last ++ ascii ": unexpected operator")
  | _ => .ok value

/-- The value of an expression.  Of three arguments the middle one decides; of three and four,
parentheses around the others and a negation in front are taken off first. -/
def judge (scene : Scene) (fuel : Nat) (arguments : List Raw) : Except Raw Bool :=
  match fuel, arguments with
  | _, [] => .ok false
  | 0, _ => .ok false
  | fuel + 1, first :: rest =>
    let n := arguments.length
    let middle := match arguments with
      | [a, o, b] => if operatorKind? o = some .binary then some (a, o, b) else none
      | _ => none
    match middle with
    | some (a, o, b) => compareTwo scene a o b
    | none =>
      if n = 3 ∨ n = 4 then
        if first = ['('] ∧ rest.getLast? = some [')'] then judgeWhole scene rest.dropLast
        else if first = ['!'] then (judge scene fuel rest).map (!·)
        else judgeWhole scene arguments
      else judgeWhole scene arguments

end Comparison

/-- Succeeds if an expression holds; written as a bracket it needs a bracket at its end. -/
def compare (t : Task) : Effort :=
  let isBracket := t.name.getLast? = some '['
  if isBracket ∧ t.arguments.getLast? ≠ some [']'] then t.complain 2 "missing ]"
  else
    let arguments := if isBracket then t.arguments.dropLast else t.arguments
    match Comparison.judge ⟨t.disk, t.directory⟩ (arguments.length + 1) arguments with
    | .ok true => .exit t 0
    | .ok false => .exit t 1
    | .error complaint => .fail t 2 (t.complaint ++ complaint)

end LobsterServer.Host
