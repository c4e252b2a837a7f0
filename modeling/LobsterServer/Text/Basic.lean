set_option autoImplicit false

/-!
# Text and its measures

The server scans two kinds of text: the contents of open documents and the output of the
compiler.  Both are lists of characters here.  Editors name places in a text by UTF-16 code
units and the compiler's world counts UTF-8 bytes, so both lengths are measures on the list.
-/

namespace LobsterServer

/-- A text, as the list of its characters. -/
abbrev Text := List Char

namespace Text

/-- UTF-16 code units of one character: two above the basic plane, one below. -/
def charUnits (c : Char) : Nat := if c.toNat < 0x10000 then 1 else 2

/-- Length of a text in UTF-16 code units. -/
def unitLength (t : Text) : Nat := t.foldr (fun c n => charUnits c + n) 0

/-- Length of a text in UTF-8 bytes. -/
def byteLength (t : Text) : Nat := t.foldr (fun c n => c.utf8Size + n) 0

/-- The UTF-8 encoding of a text. -/
def encode (t : Text) : List UInt8 := t.flatMap String.utf8EncodeChar

@[simp] theorem unitLength_nil : unitLength [] = 0 := rfl

@[simp] theorem unitLength_cons (c : Char) (t : Text) :
    unitLength (c :: t) = charUnits c + unitLength t := rfl

@[simp] theorem unitLength_append (s t : Text) :
    unitLength (s ++ t) = unitLength s + unitLength t := by
  induction s with
  | nil => simp
  | cons c s ih => simp [ih, Nat.add_assoc]

@[simp] theorem byteLength_nil : byteLength [] = 0 := rfl

@[simp] theorem byteLength_cons (c : Char) (t : Text) :
    byteLength (c :: t) = c.utf8Size + byteLength t := rfl

@[simp] theorem byteLength_append (s t : Text) :
    byteLength (s ++ t) = byteLength s + byteLength t := by
  induction s with
  | nil => simp
  | cons c s ih => simp [ih, Nat.add_assoc]

/-- Whether a text comes no later than another in the order by characters. -/
def atMost (s t : Text) : Bool := !t.lex s

/-- The text without the longest run at its end whose characters satisfy `p`. -/
def dropEndWhile (p : Char → Bool) (t : Text) : Text := (t.reverse.dropWhile p).reverse

/-- The pieces of a text between the characters `sep`.  There is always at least one. -/
def splitOn (sep : Char) : Text → List Text
  | [] => [[]]
  | c :: t =>
    match splitOn sep t with
    | [] => [[c]]
    | piece :: rest => if c = sep then [] :: piece :: rest else (c :: piece) :: rest

theorem splitOn_ne_nil (sep : Char) (t : Text) : splitOn sep t ≠ [] := by
  cases t with
  | nil => simp [splitOn]
  | cons c t =>
    simp only [splitOn]
    split
    · simp
    · split <;> simp

end Text

end LobsterServer
