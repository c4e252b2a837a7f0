import LobsterServer.Host.Format
import LobsterServer.Host.Pattern
import LobsterServer.Host.Tool.Argument

set_option autoImplicit false

/-!
# The tool that works on bytes

Bytes are replaced, dropped or squeezed.
-/

namespace LobsterServer.Host.Tool

/-- All bytes in order. -/
def allBytes : Raw := (List.range 256).map Char.ofNat

/-- The characters from one to another. -/
def charRange (low high : Char) : Raw :=
  (List.range (high.toNat + 1 - low.toNat)).map fun i => Char.ofNat (low.toNat + i)

/-- Reads a set: ranges, classes, repetitions and escapes.  `room` is how many characters a
repetition without a count fills, and `fuel` bounds the length. -/
def readSet (room : Nat) : (fuel : Nat) → Raw → Raw
  | 0, _ => []
  | _ + 1, [] => []
  | fuel + 1, '[' :: ':' :: rest =>
    let name := rest.takeWhile (· ≠ ':')
    match rest.drop name.length with
    | ':' :: ']' :: after =>
      ((Pattern.classRanges name).mergeSort fun a b => a.1 ≤ b.1).flatMap
        (fun r => charRange r.1 r.2) ++ readSet room fuel after
    | _ => '[' :: readSet room fuel (':' :: rest)
  | fuel + 1, '[' :: c :: '*' :: rest =>
    let digits := rest.takeWhile Char.isDigit
    match rest.drop digits.length with
    | ']' :: after =>
      let n := ((readConstant digits).1).getD 0
      List.replicate (if n = 0 then room else n) c ++ readSet room fuel after
    | _ => '[' :: readSet room fuel (c :: '*' :: rest)
  | fuel + 1, t =>
    let one (t : Raw) : Char × Raw :=
      match t with
      | '\\' :: rest =>
        match readEscape rest with
        | (bytes, rest) => (bytes.getLastD '\\', rest)
      | c :: rest => (c, rest)
      | [] => ('\x00', [])
    let (low, rest) := one t
    match rest with
    | '-' :: c :: more =>
      let (high, after) := one (c :: more)
      charRange low high ++ readSet room fuel after
    | _ => low :: readSet room fuel rest

/-- Repetitions of some characters are left out. -/
def squeeze (set : Raw) (t : Raw) : Raw :=
  (t.foldl (fun (written : Raw) c =>
    if written.head? = some c && set.contains c then written else c :: written) []).reverse

/-- What a byte becomes, for all bytes. -/
def replacementTable (old new : Raw) : Array Char :=
  (old.zipIdx).foldl
    (fun table (c, i) => table.setIfInBounds c.toNat ((new[i]?.or new.getLast?).getD c))
    allBytes.toArray

/-- Replaces, drops or squeezes bytes. -/
def replaceBytes (t : Task) : Effort :=
  match OptionTable.read ⟨"dscCt", "", [("delete", 'd'), ("squeeze-repeats", 's'),
      ("complement", 'c'), ("truncate-set1", 't')], 1⟩ true t.arguments with
  | .error fault => t.misuse 1 fault
  | .ok a =>
    let set (room : Nat) (r : Raw) : Raw := readSet room (r.length + 1) r
    let chosen (r : Raw) : Raw :=
      let s := set 0 r
      if a.has 'c' || a.has 'C' then allBytes.filter fun c => !s.contains c else s
    let input := t.input.getD []
    let write (r : Raw) : Effort := (Effort.print t r).readingAll
    match a.operands with
    | [] => t.misuse 1 (ascii "missing operand")
    | [one] =>
      let old := chosen one
      if a.has 'd' then
        if a.has 's' then
          t.misuse 1 (ascii "missing operand after '" ++ one ++
            ascii ("'\nTwo strings must be given when both deleting and squeezing repeats."))
        else write (input.filter fun c => !old.contains c)
      else if a.has 's' then write (squeeze old input)
      else
        t.misuse 1 (ascii "missing operand after '" ++ one
          ++ ascii "'\nTwo strings must be given when translating.")
    | [one, two] =>
      let old := chosen one
      let new := set (old.length - (set 0 two).length) two
      if a.has 'd' then
        if a.has 's' then write (squeeze new (input.filter fun c => !old.contains c))
        else
          t.misuse 1 (ascii "extra operand '" ++ two
            ++ ascii "'\nOnly one string may be given when deleting without squeezing repeats.")
      else if new = [] then
        .fail t 1 (t.complaint
          ++ ascii "when not truncating set1, string2 must be non-empty")
      else
        let table := replacementTable old new
        let replaced := input.map fun c => table[c.toNat]?.getD c
        write (if a.has 's' then squeeze new replaced else replaced)
    | _ :: _ :: extra :: _ => t.misuse 1 (ascii "extra operand '" ++ extra ++ ['\''])

end LobsterServer.Host.Tool
