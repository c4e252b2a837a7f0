import LobsterServer.Character.Mark

set_option autoImplicit false

/-!
# Directions of writing

Most scripts run from left to right, some from right to left, and signs follow what is around them.
The tables hold the characters that a domain may have.
-/

namespace LobsterServer.Character

/-- How a character runs in a line. -/
inductive Direction where
  /-- a letter from left to right -/
  | forward
  /-- a letter from right to left -/
  | backward
  /-- a digit of Arabic -/
  | arabicDigit
  /-- a digit of any European script -/
  | digit
  /-- a mark, which runs with the character in front of it -/
  | mark
  /-- a sign that runs with what is around it -/
  | neutral
  deriving DecidableEq, Repr

/-- Letters from right to left. -/
def backwards : List Range :=
  readRanges
    ["5be 1 1 1 2 1 2 1 9 25 13 1 2 1 1 1 d 30 22 3 1 65 f 2 7 2 a 17 1 1e 1d 59 b 3a 9 2 4 1 3 18",
     "81a 1 9 1 3 1 7 29 5 32 10 2a f2e8 11 2b0 1 98c 11c 4 e1 f 26 a a5 6 4b a 1e4 26 6 1f 21",
     "10e80 2a 3 1b 38 46 b 31 4 71 d809 d0 52 22 7 3f3"]

/-- Digits of Arabic. -/
def arabicDigits : List Range :=
  readRanges
    ["660 a 1 2 106c3 1a 116 1f"]

/-- Digits of European scripts past ASCII. -/
def digits : List Range :=
  readRanges
    ["6f0 a fbe7 1b"]

/-- Signs. -/
def neutrals : List Range :=
  readRanges
    ["a1 37 1f 1 1c1 2 7 e 2 1c 1 11 75 1 80 1 193 6 76 2 1 2 1 1 1 2 5a 1 73 1 a 1 10c 4 1f8 2",
     "9fb 1 f5 1 101 8 7d 7 1c0 1 fa 4 452 a 66 1 29a 2 13e 1 14 1b 135 6 98 22 60c b8 40 4a",
     "218a 1ac 45 1a 1 316 1 153 100 300 e5 6 e 7 100 205 3 19 f 1 6 1 5 3 60 1 5a 1 c4 26 1bda 40",
     "a490 37 146 3 63 1 a 2 80 22 66 1 9f 4 c 2 3a 4 2f2 2 5057 23d 45 2 2ba 1 3e 4d 3 11 77e 1",
     "10b39 7 22e 1 161 9 179 14 5fa d 968 1d 4ff0 1 5c1d 2f1 2f8 59 3 1 ba 57 fa8 1 bf0 240 3d 3",
     "1f1ad 1 b2 99b"]

/-- Marks without room that run from left to right all the same. -/
def forwardMarks : List Nat := [0xCBF, 0xCC6, 0x11A07, 0x11A08, 0x11C3F]

/-- The direction of a character. -/
def direction (c : Char) : Direction :=
  if c.toNat < 0x80 then
    if c.isAlpha then .forward else if c.isDigit then .digit else .neutral
  else if isIn backwards c then .backward
  else if isIn arabicDigits c then .arabicDigit
  else if isIn digits c then .digit
  else if isIn neutrals c then .neutral
  else if (isIn nonspacing c && !forwardMarks.contains c.toNat) || c.toNat = 0x1171E then .mark
  else .forward

end LobsterServer.Character
