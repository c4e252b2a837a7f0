import LobsterServer.Character.Composition
import LobsterServer.Character.Direction
import LobsterServer.Character.Joining
import LobsterServer.Uri.Label.Mapping
import LobsterServer.Uri.Punycode

set_option autoImplicit false

/-!
# Labels

A domain consists of labels between dots.  A label with characters past ASCII has a form in ASCII,
which starts with a sign of its own.  Not every text is a label: marks need a letter in front of
them, letters are joined only where a script asks for it, and the directions of writing may not mix.
-/

namespace LobsterServer.Uri.Label

open Character

/-- Whether a text has characters past ASCII. -/
def isWide (t : Text) : Bool := t.any fun c => 0x80 ≤ c.toNat

/-! ## The form in ASCII -/

/-- What the form of a label in ASCII starts with. -/
def sign : Text := "xn--".toList

/-- How many characters may follow the sign. -/
def maxCode : Nat := 2000

/-- How many characters a label with characters past ASCII may have. -/
def maxWide : Nat := 1000

/-- The label that a text stands for.  Behind the sign there is the form in ASCII of a label, which
is written in composed characters that stand for themselves. -/
def ofText? (t : Text) : Option Text :=
  if sign.isPrefixOf t then
    let code := t.drop sign.length
    if isWide code || maxCode < code.length || t.getLast? = some '-' then none
    else
      (Punycode.decode? code).filter fun label =>
        label.all isPlain && decide (composed label = label)
  else some t

/-- The form of a label in ASCII. -/
def toAscii (label : Text) : Text :=
  if isWide label then sign ++ Punycode.encode label else label

/-! ## Letters and marks -/

/-- Whether the first character of a text that is not transparent has a property. -/
def reaches (p : Char → Bool) (t : Text) : Bool :=
  ((t.dropWhile isTransparent).head?.map p).getD false

/-- Whether a joiner or a sign against joining may stand between two texts, the first of which has
its last character at the front: behind a virama, or, for the sign, between joined letters. -/
def mayJoin (c : Char) (before after : Text) : Bool :=
  (before.head?.map isVirama).getD false
    || (c.toNat = 0x200C && reaches joinsNext before && reaches joinsPrevious after)

/-- Whether all joiners of a label stand where they may; `before` is the text in front, its last
character at the front. -/
def joinersFit (before : Text) : Text → Bool
  | [] => true
  | c :: rest =>
    (!(c.toNat = 0x200C || c.toNat = 0x200D) || mayJoin c before rest)
      && joinersFit (c :: before) rest

/-- Whether a text may be a label, its directions aside. -/
def isFit (label : Text) : Bool :=
  !isWide label
    || (!(label.head?.map isMark).getD false && joinersFit [] label && label.length ≤ maxWide)

/-! ## Directions -/

/-- Whether a direction is one of a script from right to left. -/
def isBackward (d : Direction) : Bool := d = .backward || d = .arabicDigit

/-- Whether the directions of a label do not mix: the first character is a letter that all other
letters agree with, signs are not at the end, and digits are of one kind. -/
def directionsFit (label : Text) : Bool :=
  let ds := label.map direction
  match ds, ds.reverse.dropWhile (· = .mark) with
  | .forward :: rest, last :: _ =>
    !rest.any isBackward && (last = .forward || last = .digit)
  | .backward :: rest, last :: _ =>
    !rest.contains .forward && last ≠ .neutral
      && !(rest.contains .digit && rest.contains .arabicDigit)
  | [], _ => true
  | _, _ => false

/-- Whether the directions of labels in one domain do not mix. -/
def allDirectionsFit (labels : List Text) : Bool :=
  !(labels.any fun label => label.any fun c => isBackward (direction c))
    || labels.all directionsFit

end LobsterServer.Uri.Label
