import LobsterServer.Character.Mark

set_option autoImplicit false

/-!
# Joining letters

In cursive scripts a letter may join the letters beside it.  The tables hold the letters that a
domain may have.
-/

namespace LobsterServer.Character

/-- Letters that join the letters on both of their sides. -/
def dual : List Range :=
  readRanges
    ["620 1 5 1 1 1 1 5 4 d 1 7 1 2 23 2 9 f 12 26 1 2 9 1 1 1 1 2 28 3 2 1 12 3 5 4 1 9 1 1 1 1",
     "72d 2 1f b 3 f 2 4 1 1 2 3 2 6 4a 21 56 5 2 1 1 a 1 1 a 1 1 4 2 1 1d 1 2 5 1 1 10 a 5 2 2 6",
     "8ba f f3e 1 18 59 e 22 1 1 8f95 32 624e 5 e 4 1 5 1 3 a 4 91 1 1 1 3 3 1 2 1 1 2 1 1c 2",
     "10d01 21 1 1 19f 2 1 2 68 3 1 11 c 3 1c 4 2 c 2e 1 1 2 4 1 2 2 1 2 1 1 2 1 5 1 d957 22"]

/-- Letters that join the letter in front of them alone. -/
def right : List Range :=
  readRanges
    ["622 4 1 1 1 1 5 4 15 1 28 3 14 12 26 1 2 9 1 1 1 1 2 2 1 1 18 2 20 1 4 5 4 1 9 1 1 1 1 1 2 1",
     "74d 1 b 3 f 2 4 1 1 2 3 2 c6 1 5 2 1 1 a 1 1 3 e 1 1 1a b 1 1b 3 1 1 2 2 6 1 1020b 1 1 1 1 2",
     "10ace 5 a 1 3 1 2 1 a 1 91 1 1 3 3 1 2 1 1 2 1 1 17 4 175 1 19f 1 70 1 20 1 1f 2 3e 3 2 2",
     "10fbd 1 4 2 5 1"]

/-- Letters that join the letter behind them alone. -/
def left : List Nat := [0xA872, 0x10ACD, 0x10AD7, 0x10D00, 0x10FCB]

/-- Whether a character does not part the letters beside it. -/
def isTransparent (c : Char) : Bool := isIn nonspacing c || c.toNat = 0x1E94B

/-- Whether a letter joins the one behind it. -/
def joinsNext (c : Char) : Bool := isIn dual c || left.contains c.toNat

/-- Whether a letter joins the one in front of it. -/
def joinsPrevious (c : Char) : Bool := isIn dual c || isIn right c

end LobsterServer.Character
