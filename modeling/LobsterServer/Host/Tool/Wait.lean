import LobsterServer.Host.Tool.Argument

set_option autoImplicit false

/-!
# Waiting

A time is written in seconds, or in other units if a letter says so.
-/

namespace LobsterServer.Host.Tool

/-- Microseconds of a time; nothing within the option for one without end. -/
def duration? (t : Raw) : Option (Option Moment) :=
  let body := match t with
    | '+' :: rest => rest
    | rest => rest
  let name := String.ofList (body.map Char.toLower)
  if name = "infinity" ∨ name = "inf" then some none
  else
    let whole := body.takeWhile Char.isDigit
    let (fraction, suffix) :=
      match body.drop whole.length with
      | '.' :: rest =>
        let digits := rest.takeWhile Char.isDigit
        (digits, rest.drop digits.length)
      | rest => ([], rest)
    if whole = [] ∧ fraction = [] then none
    else
      let micros := ofDigits 10 (whole ++ (fraction ++ List.replicate 6 '0').take 6)
      match suffix with
      | [] => some (some micros)
      | ['s'] => some (some micros)
      | ['m'] => some (some (micros * 60))
      | ['h'] => some (some (micros * 3600))
      | ['d'] => some (some (micros * 86400))
      | _ => none

/-- Waits as long as all its arguments say. -/
def wait (t : Task) : Effort :=
  t.withArguments ⟨"", "", [], 1⟩ fun a =>
    if a.operands = [] then t.misuse 1 (ascii "missing operand")
    else
      let wrong := a.operands.filter fun o => (duration? o).isNone
      if wrong ≠ [] then
        t.misuse 1 (joinedBy ('\n' :: t.complaint)
          (wrong.map fun o => ascii "invalid time interval '" ++ o ++ ['\'']))
      else
        let times := a.operands.filterMap duration?
        let elapsed := times.foldl (fun sum time => time.elim never (sum + ·)) 0
        { Effort.exit t 0 with elapsed := min never elapsed }

end LobsterServer.Host.Tool
