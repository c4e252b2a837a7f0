import LobsterServer.Host.Number

set_option autoImplicit false

/-!
# Arithmetic of the shell

Expressions over 64-bit integers with the operators of C: a choice, logical and bitwise operators,
comparisons, shifts, sums, products, and assignments to variables.  Reading and computing are one:
an operand that is not needed is read without effect.
-/

namespace LobsterServer.Host.Arithmetic

/-- Why an expression has no value. -/
inductive Fault where
  /-- an operand is missing -/
  | expectingPrimary
  /-- something follows the expression -/
  | expectingEnd
  /-- a closing parenthesis is missing -/
  | expectingClose
  /-- the colon of a choice is missing -/
  | expectingColon
  | divisionByZero
  /-- the value of a variable is no number -/
  | illegalNumber (value : Raw)
  deriving DecidableEq, Repr

/-- The wording of a fault in an expression. -/
def Fault.message (expression : Raw) : Fault → Raw
  | .expectingPrimary => about "expecting primary"
  | .expectingEnd => about "expecting EOF"
  | .expectingClose => about "expecting ')'"
  | .expectingColon => about "expecting ':'"
  | .divisionByZero => about "division by zero"
  | .illegalNumber value => ascii "Illegal number: " ++ value
where
  /-- The wording of a fault that names the expression. -/
  about (what : String) : Raw :=
    ascii ("arithmetic expression: " ++ what ++ ": \"") ++ expression ++ ['"']

/-- What is known while an expression is computed: the values of variables, and what is left of the
expression. -/
structure State where
  /-- the variables that were assigned, the last first -/
  assigned : List (Raw × Int)
  rest : Raw

/-- Computes a part of an expression. -/
abbrev Computation := StateT State (Except Fault)

/-- An operator between two operands. -/
structure Operator where
  sign : Raw
  /-- operators of a higher level bind their operands first -/
  level : Nat
  /-- whether it may stand in front of the equals sign of an assignment -/
  assigns : Bool
  apply : Int → Int → Except Fault Int

/-- A truth value as a number. -/
def truth (b : Bool) : Int := if b then 1 else 0

/-- The bits of an integer. -/
def bits (n : Int) : UInt64 := (Int64.ofInt n).toUInt64

/-- The integer of bits. -/
def ofBits (n : UInt64) : Int := n.toInt64.toInt

/-- The operators between two operands.  One that starts with another comes first. -/
def operators : List Operator :=
  let plain (f : Int → Int → Int) (a b : Int) : Except Fault Int := .ok (f a b)
  let divided (f : Int → Int → Int) (a b : Int) : Except Fault Int :=
    if b = 0 then .error .divisionByZero else .ok (wrap (f a b))
  [⟨ascii "||", 1, false, plain fun a b => truth (a ≠ 0 || b ≠ 0)⟩,
   ⟨ascii "&&", 2, false, plain fun a b => truth (a ≠ 0 && b ≠ 0)⟩,
   ⟨ascii "==", 6, false, plain fun a b => truth (a = b)⟩,
   ⟨ascii "!=", 6, false, plain fun a b => truth (a ≠ b)⟩,
   ⟨ascii "<<", 8, true, plain fun a b => ofBits (bits a <<< bits (b % 64))⟩,
   ⟨ascii ">>", 8, true, plain fun a b => (Int64.ofInt a >>> Int64.ofInt (b % 64)).toInt⟩,
   ⟨ascii "<=", 7, false, plain fun a b => truth (a ≤ b)⟩,
   ⟨ascii ">=", 7, false, plain fun a b => truth (b ≤ a)⟩,
   ⟨ascii "<", 7, false, plain fun a b => truth (a < b)⟩,
   ⟨ascii ">", 7, false, plain fun a b => truth (b < a)⟩,
   ⟨ascii "|", 3, true, plain fun a b => ofBits (bits a ||| bits b)⟩,
   ⟨ascii "^", 4, true, plain fun a b => ofBits (bits a ^^^ bits b)⟩,
   ⟨ascii "&", 5, true, plain fun a b => ofBits (bits a &&& bits b)⟩,
   ⟨ascii "+", 9, true, plain fun a b => wrap (a + b)⟩,
   ⟨ascii "-", 9, true, plain fun a b => wrap (a - b)⟩,
   ⟨ascii "*", 10, true, plain fun a b => wrap (a * b)⟩,
   ⟨ascii "/", 10, true, divided Int.tdiv⟩,
   ⟨ascii "%", 10, true, divided Int.tmod⟩]

/-- The level of the operators that bind last. -/
def lowestLevel : Nat := 1

/-- The level above all operators. -/
def topLevel : Nat := 11

/-- Goes on behind gaps, and gives what follows. -/
def look : Computation Raw := do
  let s ← get
  let rest := s.rest.dropWhile fun c => c = ' ' || c = '\t' || c = '\n'
  set { s with rest }
  return rest

/-- Goes on behind some characters. -/
def skip (n : Nat) : Computation Unit := modify fun s => { s with rest := s.rest.drop n }

/-- The operator at the front of a text, unless it is the front of an assignment. -/
def operatorAt? (t : Raw) : Option Operator :=
  (operators.find? fun o => o.sign.isPrefixOf t).filter fun o =>
    match o.assigns, t.drop o.sign.length with
    | true, '=' :: '=' :: _ => true
    | true, '=' :: _ => false
    | _, _ => true

/-- The operator of an assignment at the front of a text, and its length: nothing in it for a plain
one. -/
def assignmentAt? (t : Raw) : Option (Option Operator × Nat) :=
  match t with
  | '=' :: '=' :: _ => none
  | '=' :: _ => some (none, 1)
  | _ =>
    (operators.find? fun o =>
      o.assigns && o.sign.isPrefixOf t && (t.drop o.sign.length).head? = some '=').map fun o =>
        (some o, o.sign.length + 1)

/-- The value of a variable: its last assignment, or what its text says. -/
def valueOf (lookUp : Raw → Raw) (name : Raw) : Computation Int := do
  match (← get).assigned.lookup name with
  | some n => return n
  | none =>
    let text := lookUp name
    match readInteger text with
    | (some n, rest) =>
      if (rest.dropWhile isGap) = [] then return max (-maxInteger - 1) (min maxInteger n)
      else throw (.illegalNumber text)
    | (none, _) => if (text.dropWhile isGap) = [] then return 0 else throw (.illegalNumber text)

mutual

/-- Reads an assignment or a choice.  `live` says that its value is needed. -/
def readAssignment (lookUp : Raw → Raw) (fuel : Nat) (live : Bool) : Computation Int :=
  match fuel with
  | 0 => throw .expectingPrimary
  | fuel + 1 => do
    let t ← look
    let name := t.takeWhile isNameChar
    let after := (t.drop name.length).dropWhile fun c => c = ' ' || c = '\t' || c = '\n'
    match (if isName name then assignmentAt? after else none) with
    | none => readChoice lookUp fuel live
    | some (operator, n) =>
      modify fun s => { s with rest := after.drop n }
      let right ← readAssignment lookUp fuel live
      if !live then return right
      else
        let value ← match operator with
          | none => pure right
          | some o =>
            let left ← valueOf lookUp name
            match o.apply left right with
            | .ok n => pure n
            | .error fault => throw fault
        modify fun s => { s with assigned := (name, value) :: s.assigned }
        return value

/-- Reads a choice between two values. -/
def readChoice (lookUp : Raw → Raw) (fuel : Nat) (live : Bool) : Computation Int :=
  match fuel with
  | 0 => throw .expectingPrimary
  | fuel + 1 => do
    let condition ← readLevel lookUp fuel lowestLevel live
    match ← look with
    | '?' :: _ =>
      skip 1
      let first ← readAssignment lookUp fuel (live && condition ≠ 0)
      match ← look with
      | ':' :: _ =>
        skip 1
        let second ← readChoice lookUp fuel (live && condition = 0)
        return if condition ≠ 0 then first else second
      | _ => throw .expectingColon
    | _ => return condition

/-- Reads operands joined by operators of a level and of those above it. -/
def readLevel (lookUp : Raw → Raw) (fuel level : Nat) (live : Bool) : Computation Int :=
  match fuel with
  | 0 => throw .expectingPrimary
  | fuel + 1 => do
    if topLevel ≤ level then readOperand lookUp fuel live
    else
      let first ← readLevel lookUp fuel (level + 1) live
      readMore lookUp fuel level live first

/-- Reads further operands of a level. -/
def readMore (lookUp : Raw → Raw) (fuel level : Nat) (live : Bool) (first : Int) :
    Computation Int :=
  match fuel with
  | 0 => throw .expectingPrimary
  | fuel + 1 => do
    match operatorAt? (← look) with
    | none => return first
    | some o =>
      if o.level ≠ level then return first
      else
        skip o.sign.length
        let needed := !((o.sign = ['&', '&'] && first = 0) || (o.sign = ['|', '|'] && first ≠ 0))
        let second ← readLevel lookUp fuel (level + 1) (live && needed)
        if !live then readMore lookUp fuel level live first
        else
          match o.apply first second with
          | .ok n => readMore lookUp fuel level live n
          | .error fault => throw fault

/-- Reads a number, a variable, a sign or an expression in parentheses. -/
def readOperand (lookUp : Raw → Raw) (fuel : Nat) (live : Bool) : Computation Int :=
  match fuel with
  | 0 => throw .expectingPrimary
  | fuel + 1 => do
    let t ← look
    match t with
    | '(' :: _ =>
      skip 1
      let n ← readAssignment lookUp fuel live
      match ← look with
      | ')' :: _ =>
        skip 1
        return n
      | _ => throw .expectingClose
    | '!' :: _ =>
      skip 1
      return truth ((← readOperand lookUp fuel live) = 0)
    | '~' :: _ =>
      skip 1
      return -(← readOperand lookUp fuel live) - 1
    | '-' :: _ =>
      skip 1
      return wrap (-(← readOperand lookUp fuel live))
    | '+' :: _ =>
      skip 1
      readOperand lookUp fuel live
    | c :: _ =>
      if c.isDigit then
        let (n, rest) := readConstant t
        modify fun s => { s with rest }
        return min maxInteger (n.getD 0)
      else if isNameChar c then
        let name := t.takeWhile isNameChar
        skip name.length
        if live then valueOf lookUp name else return 0
      else throw .expectingPrimary
    | [] => throw .expectingPrimary

end

/-- The value of an expression, and the variables that it assigns, the last first. -/
def evaluate (lookUp : Raw → Raw) (expression : Raw) : Except Fault (Int × List (Raw × Int)) :=
  let whole : Computation Int := do
    let n ← readAssignment lookUp (16 * expression.length + 32) true
    if (← look) = [] then return n else throw .expectingEnd
  (whole.run ⟨[], expression⟩).map fun (n, s) => (n, s.assigned)

end LobsterServer.Host.Arithmetic
