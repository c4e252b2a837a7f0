import LobsterServer.Character.Ranges

set_option autoImplicit false

/-!
# Marks

Marks combine with the character in front of them.  The tables hold the marks that a domain may
have.
-/

namespace LobsterServer.Character

/-- Marks that take no room of their own. -/
def nonspacing : List Range :=
  readRanges
    ["300 70 113 7 107 2d 1 1 1 2 1 2 1 1 48 b 30 15 10 1 65 7 2 6 2 2 1 4 23 1 1e 1b 5b b 3a 9",
     "7fd 1 18 4 1 9 1 3 1 5 2b 3 3b 9 2a 39 37 1 1 1 4 8 4 1 3 7 a 2 1d 1 3a 1 4 4 8 1 14 2 1a 5",
     "a3c 1 4 11 1e 2 3 1 b 2 39 1 4 8 4 1 14 2 16 8 3a 1 2 1 1 4 8 a b 2 1e 1 3d 1 c 1 32 1 3 1",
     "c3c 1 1 3 5 11 b 2 1d 1 3a 1 2 1 6 1 5 2 14 2 1c 2 39 2 4 4 8 1 14 2 1d 1 48 1 7 5 5a 1 2 7",
     "e47 8 62 1 2 9 b 7 49 2 1b 1 1 1 1 1 37 e 1 5 1 2 5 30 9 1 66 4 1 6 1 2 2 2 19 2 4 3 10 4",
     "1082 1 2 2 6 1 f 1 2bf 3 3b2 3 1d 2 1e 2 1e 2 43 7 8 1 2 b 9 1 a7 2 22 1 76 3 4 2 9 1 6 3",
     "1a17 2 2 1 3a 1 1 9 1 1 2 8 6 d 30 54 30 1 1 5 1 1 5 1 28 9 c 2 20 4 2 2 1 3 38 1 1 2 3 1",
     "1bef 3 3a 8 2 2 98 3 1 d 1 7 4 1 6 1 3 2 c6 40 2d0 21 bfe 3 8d 1 60 20 22a 4 6b 2 75d4 4 1 a",
     "a69e 2 50 2 110 1 3 1 4 1 19 2 5 1 97 2 1a 12 d 1 26 8 19 b 2e 3 30 1 2 4 2 2 27 1 43 6 2 2",
     "aa35 2 c 1 8 1 2f 1 33 1 1 3 2 2 5 2 1 1 2a 2 8 1 ee 1 2 1 4 1 4f30 1 301 10 3cd 1 e2 1 95 5",
     "10a01 f 28 8 a5 2 23d 4 41 5 13d 2 4d 6 46 b 31 4 7b 1 36 f 29 1 2 2 a 3 31 4 2 2 7 1 3d 3",
     "11127 5 1 8 3e 1 c 2 34 9 a 4 2 1 5f 3 2 1 1 2 6 1 2 1 9d 1 3 8 15 2 39 2 3 1 25 f 46 6 d 1",
     "113d0 1 1 1 e 2 55 8 2 3 1 1 17 1 54 6 1 1 4 2 1 2 ee 4 6 2 1 2 1b 2 55 8 2 1 1 2 6a 1 1 1",
     "116b0 6 1 1 65 1 1 1 2 4 1 5 103 9 1 2 100 2 1 1 4 1 90 8 4 1 20 a 28 6 2 4 8 1 9 6 2 3 2e d",
     "11a98 2 c6 1 1 3 1 1 c9 e 1 1 52 16 2 7 1 2 1 2 7a 15 1 1 48 2 3 1 1 1 15b 2 b 2 34 5 5 1",
     "11f42 1 17 1 14e5 1 6 f 2cc8 c 3 3 9c0 5 3b 7 418 1 3f 4 51 1 4cb8 2 1261 47 220 3 11 8 2 7",
     "1d1aa 4 94 3 7bb 37 4 32 8 1 e 1 16 15 550 90 a0 7 177 1 3d 4 1fc 4 fe 2 f3 1 2 1 7 2 5 1",
     "1e8d0 7 6d 7"]

/-- Marks that take room. -/
def spacing : List Range :=
  readRanges
    ["903 1 37 1 2 3 8 4 1 2 32 2 3a 3 6 6 a 1 2b 1 3a 3 42 1 3a 3 8 4 35 2 3a 1 1 1 6 6 a 1 66 2",
     "bc1 c a 1 29 3 3d 4 3d 2 3a 1 1 5 2 5 9 2 1c 1 e 2 3a 3 5 7 a 1 2a 2 4b 3 6 8 12 2 14a 2",
     "f7f 1 ab 2 4 1 6 1 2 2 19 2 a 3 2 7 15 2 2 6 2 1 a 3 678 1 1e 1 81 1 7 8 1 2 15a 4 2 9 1 6",
     "1a19 2 3a 1 1 1 9 1 1 2 8 6 91 1 30 1 5 1 1 5 1 2 3d 1 1e 1 4 2 2 1 3c 1 2 3 1 1 3 2 30 8",
     "1c34 2 ab 1 15 1 1336 2 77f3 2 2 1 58 2 32 10 8e 2 2f 1 30 2 4 2 2 3 6e 2 2 2 18 1 2d 1 1 1",
     "aaeb 1 2 2 5 1 ed 2 1 2 1 2 1 1 6413 1 1 1 7f 1 2d 3 4 2 73 1 18 2 3b 1 30 3 9 2 d 1 5d 3",
     "11232 2 1 1 aa 3 1f 2 3a 2 1 d 9 1 a 2 54 3 7 c 1 1 65 3 8 2 3 1 6a 3 6 1 1 4 2 1 ed 3 6 4",
     "115be 1 71 3 8 2 1 1 6d 1 1 2 6 1 67 1 1 2 4 1 105 3 9 1 f7 9 4 1 2 1 1 1 8e 3 8 4 4 1 54 1",
     "11a57 2 3e 1 c9 1 3 1 1 1 c7 1 e 1 6a 1 7 1 2 1 d5 5 4 2 1 1 15e 2 c 1 30 2 8 2 1 1 41e8 3",
     "16f51 37 68 2 6173 2 6 6"]

/-- Whether a character is a mark, which needs a character in front of it. -/
def isMark (c : Char) : Bool := isIn nonspacing c || isIn spacing c

/-- Characters of one class among the marks. -/
structure ClassRange where
  range : Range
  value : Nat
  deriving DecidableEq, Repr

/-- Ranges with their classes, from triples of numbers: a gap, a size, and a class. -/
def classesFrom (start : Nat) : List Nat → List ClassRange
  | gap :: size :: value :: rest =>
    ⟨⟨start + gap, start + gap + size - 1⟩, value⟩ :: classesFrom (start + gap + size) rest
  | _ => []

/-- Reads a table of classes. -/
def readClasses (rows : List String) : List ClassRange :=
  rows.flatMap fun row => classesFrom 0 (numbers row)

/-- The classes of the marks that attach to a place of the character in front of them. -/
def classes : List ClassRange :=
  readClasses
    ["300 15 e6 0 1 e8 0 4 dc 0 1 e8 0 1 d8 0 5 dc 0 2 ca 0 4 dc 0 2 ca 0 b dc 0 5 1 0 4 dc 0 a e6",
     "347 3 dc 0 3 e6 0 2 dc 1 3 e6 0 4 dc 0 1 e6 0 1 e8 0 2 dc 0 1 e6 0 1 e9 0 2 ea 0 1 e9 0 2 ea",
     "362 1 e9 0 d e6 113 5 e6 109 1 dc 0 4 e6 0 1 dc 0 3 e6 0 1 de 0 1 dc 0 6 e6 0 6 dc 0 2 e6",
     "5aa 1 dc 0 2 e6 0 1 de 0 1 e4 0 1 e6 0 1 a 0 1 b 0 1 c 0 1 d 0 1 e 0 1 f 0 1 10 0 1 11",
     "5b8 1 12 0 2 13 0 1 14 0 1 15 0 1 16 1 1 17 1 1 18 0 1 19 1 1 e6 0 1 dc 1 1 12 48 8 e6",
     "618 1 1e 0 1 1f 0 1 20 30 1 1b 0 1 1c 0 1 1d 0 1 1e 0 1 1f 0 1 20 0 1 21 0 1 22 0 2 e6",
     "655 2 dc 0 5 e6 0 1 dc 0 2 e6 0 1 dc 10 1 23 65 7 e6 2 4 e6 0 1 dc 0 1 e6 2 2 e6 1 1 dc",
     "6eb 2 e6 0 1 dc 23 1 24 1e 1 e6 0 1 dc 0 2 e6 0 1 dc 0 2 e6 0 3 dc 0 1 e6 0 2 dc 0 1 e6",
     "73e 1 dc 0 3 e6 0 1 dc 0 1 e6 0 1 dc 0 1 e6 0 1 dc 0 1 e6 0 1 dc 0 2 e6 a0 7 e6 0 1 dc",
     "7f3 1 e6 9 1 dc 18 4 e6 1 9 e6 1 3 e6 1 5 e6 2b 3 dc 3b 2 e6 0 3 dc 0 4 e6 2a 5 e6 0 5 dc",
     "8d4 e e6 1 1 dc 0 2 e6 0 1 dc 0 2 e6 0 1 dc 0 3 e6 0 3 dc 0 1 1b 0 1 1c 0 1 1d 0 3 e6 0 1 dc",
     "8f7 2 e6 0 2 dc 0 5 e6 3c 1 7 10 1 9 3 1 e6 0 1 dc 0 2 e6 67 1 7 10 1 9 30 1 e6 3d 1 7",
     "a4d 1 9 6e 1 7 10 1 9 6e 1 7 10 1 9 7f 1 9 6e 1 7 10 1 9 7 1 54 0 1 5b 65 1 7 10 1 9 6d 2 9",
     "d4d 1 9 7c 1 9 6d 2 67 0 1 9 d 4 6b 6c 2 76 0 1 9 d 4 7a 4c 2 dc 1b 1 dc 1 1 dc 1 1 d8",
     "f71 1 81 0 1 82 1 1 84 5 4 82 2 1 82 1 2 e6 0 1 9 1 2 e6 3e 1 dc 70 1 7 1 2 9 52 1 dc",
     "135d 3 e6 3b4 2 9 1e 1 9 9d 1 9 a 1 e6 cb 1 e4 8f 1 de 0 1 e6 0 1 dc db 1 e6 0 1 dc 47 1 9",
     "1a75 8 e6 2 1 dc 30 5 e6 0 6 dc 0 2 e6 0 1 dc 1 2 dc 0 2 e6 0 2 dc 0 5 e6 0 1 dc 0 12 e6",
     "1add 1 dc 2 6 e6 0 1 dc 0 4 e6 0 1 ea 48 1 7 f 1 9 26 1 e6 0 1 dc 0 7 e6 36 2 9 3a 1 7 b 2 9",
     "1c37 1 7 98 3 e6 1 1 1 0 5 dc 0 2 e6 0 4 dc 0 1 e6 1 7 1 4 1 dc 6 1 e6 3 2 e6 c6 2 e6 0 1 dc",
     "1dc3 7 e6 0 1 dc 0 2 e6 0 1 ea 0 1 d6 0 1 dc 0 1 ca 0 25 e6 0 1 e8 0 2 e4 0 1 dc 0 1 da",
     "1dfb 1 e6 0 1 e9 0 1 dc 0 1 e6 0 1 dc 2d0 2 e6 0 2 1 0 4 e6 0 3 1 0 2 e6 4 1 e6 3 2 1 0 1 e6",
     "20e8 1 dc 0 1 e6 0 2 1 0 4 dc 0 1 e6 bfe 3 e6 8d 1 9 60 20 e6 22a 1 da 0 1 e4 0 1 e8 0 1 de",
     "302e 2 e0 69 2 8 75d4 1 e6 4 a e6 20 2 e6 50 2 e6 114 1 9 25 1 9 97 1 9 1b 12 e6 39 3 dc",
     "a953 1 9 5f 1 7 c 1 9 ef 1 e6 1 2 e6 0 1 dc 2 2 e6 5 2 e6 1 1 e6 34 1 9 f6 1 9 4f30 1 1a",
     "fe20 7 e6 0 7 dc 0 2 e6 3cd 1 dc e2 1 dc 95 5 e6 692 1 dc 1 1 e6 28 1 e6 0 1 1 0 1 dc 4 1 9",
     "10ae5 1 e6 0 1 dc 23d 4 e6 41 5 e6 13d 2 e6 4d 2 dc 1 3 dc 46 2 dc 0 3 e6 0 1 dc 0 1 e6",
     "10f4d 4 dc 31 1 e6 0 1 dc 0 1 e6 0 1 dc c0 1 9 29 1 9 e 1 9 39 1 9 0 1 7 45 3 e6 30 2 9",
     "11173 1 7 4c 1 9 9 1 7 6a 1 9 0 1 7 b2 1 7 0 1 9 50 2 7 10 1 9 18 f e6 59 3 9 71 1 9 3 1 7",
     "1145e 1 e6 63 1 9 0 1 7 fb 1 9 0 1 7 7e 1 9 76 1 9 0 1 7 73 1 9 10d 1 9 0 1 7 102 2 9 4 1 7",
     "119e0 1 9 53 1 9 12 1 9 51 1 9 1a5 1 9 102 1 7 1 2 9 51 1 9 1a9 2 9 41ec 1 9 9c0 5 1 3b 7 e6",
     "16ff0 2 6 4cac 1 1 14c6 2 d8 0 3 1 3 1 e2 0 5 d8 8 8 dc 2 5 e6 0 2 dc 1e 4 e6 94 3 e6",
     "1e000 90 e6 a0 7 e6 177 1 e6 3d 4 e6 1fc 2 e8 0 1 dc 0 1 e6 fe 1 e6 0 1 dc f3 1 e6 2 1 e6",
     "1e6ee 2 e6 5 1 e6 1da 7 dc 6d 6 e6 0 1 7"]

/-- The class of a mark: marks of one class stand at the same place, so that their order matters.
It is zero for every other character. -/
def markClass (c : Char) : Nat :=
  if c.toNat < 0x300 then 0
  else ((classes.find? fun r => r.range.holds c).map ClassRange.value).getD 0

/-- Whether a character is a sign that joins consonants by silencing a vowel. -/
def isVirama (c : Char) : Bool := markClass c = 9

end LobsterServer.Character
