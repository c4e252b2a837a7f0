set_option autoImplicit false

/-!
# A hash of bytes

Four numbers of 64 bits are mixed with the bytes, eight of them at a time, and make up the hash at
the end.  There is one round of mixing for each eight bytes, there are three at the end, and the
key is zero.
-/

namespace LobsterServer.SipHash

/-- The numbers that are mixed. -/
structure State where
  v0 : UInt64
  v1 : UInt64
  v2 : UInt64
  v3 : UInt64

/-- The numbers at the beginning.  A key that is not zero would be mixed into them. -/
def State.start : State :=
  ⟨0x736F6D6570736575, 0x646F72616E646F6D, 0x6C7967656E657261, 0x7465646279746573⟩

/-- The bits of a number moved to the left; those that leave it come in at the right. -/
def rotateLeft (n k : UInt64) : UInt64 := (n <<< k) ||| (n >>> (64 - k))

/-- One round of mixing: each number is added to one and then mixed with another. -/
def State.round (s : State) : State :=
  let v0 := s.v0 + s.v1
  let v1 := rotateLeft s.v1 13 ^^^ v0
  let v2 := s.v2 + s.v3
  let v3 := rotateLeft s.v3 16 ^^^ v2
  let v0 := rotateLeft v0 32 + v3
  let v2 := v2 + v1
  ⟨v0, rotateLeft v1 17 ^^^ v2, rotateLeft v2 32, rotateLeft v3 21 ^^^ v0⟩

/-- The numbers after a word has been mixed in. -/
def State.absorb (s : State) (word : UInt64) : State :=
  let mixed := { s with v3 := s.v3 ^^^ word }.round
  { mixed with v0 := mixed.v0 ^^^ word }

/-- The word with these bytes, the lowest one first. -/
def wordOf (bytes : List UInt8) : UInt64 :=
  bytes.foldr (fun b word => (word <<< 8) ||| b.toUInt64) 0

/-- The numbers after all bytes.  The last word has less than eight of them and the number of all
at its top, of which it keeps eight bits. -/
def State.absorbAll (length : Nat) (s : State) : List UInt8 → State
  | b0 :: b1 :: b2 :: b3 :: b4 :: b5 :: b6 :: b7 :: rest =>
    (s.absorb (wordOf [b0, b1, b2, b3, b4, b5, b6, b7])).absorbAll length rest
  | rest => s.absorb ((UInt64.ofNat length <<< 56) ||| wordOf rest)

/-- The hash that the numbers make up. -/
def State.finish (s : State) : UInt64 :=
  let mixed := { s with v2 := s.v2 ^^^ 0xFF }.round.round.round
  mixed.v0 ^^^ mixed.v1 ^^^ mixed.v2 ^^^ mixed.v3

/-- The hash of bytes. -/
def hash (bytes : List UInt8) : UInt64 := (State.start.absorbAll bytes.length bytes).finish

example : hash [] = 0xD1FBA762150C532C := by decide
example : hash [1, 2, 3, 4, 5, 6, 7, 8, 9] = 0x027ED508FE95ACB3 := by decide

end LobsterServer.SipHash
