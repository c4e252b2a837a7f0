import LobsterServer.Text.Basic

set_option autoImplicit false

/-!
# Searching in texts

Tests for a text at the front of another, and the first place where one occurs in another.
-/

namespace LobsterServer

namespace Text

/-- Characters in front of the first occurrence of `pattern` in a text. -/
def find? (pattern : Text) : Text → Option Nat
  | [] => if pattern.isEmpty then some 0 else none
  | c :: t =>
    if pattern.isPrefixOf (c :: t) then some 0 else (find? pattern t).map (· + 1)

/-- Whether `pattern` occurs in a text. -/
def includes (pattern t : Text) : Bool := (find? pattern t).isSome

/-- A text with every occurrence of `pattern` replaced, from the left and without overlaps.  An
empty pattern occurs nowhere.  `skip` counts the characters of an occurrence that were replaced
already. -/
def replaceFrom (pattern replacement : Text) : Nat → Text → Text
  | _, [] => []
  | skip + 1, _ :: t => replaceFrom pattern replacement skip t
  | 0, c :: t =>
    if pattern ≠ [] ∧ pattern.isPrefixOf (c :: t) then
      replacement ++ replaceFrom pattern replacement (pattern.length - 1) t
    else c :: replaceFrom pattern replacement 0 t

/-- A text with every occurrence of `pattern` replaced by `replacement`. -/
def replaceAll (pattern replacement t : Text) : Text := replaceFrom pattern replacement 0 t

end Text

/-- Whether the string `s` starts with `start`. -/
def startsWith (start s : String) : Bool := start.toList.isPrefixOf s.toList

example : Text.find? ['v', 'a'] ['x', 'v', 'v', 'a'] = some 2 := by decide
example : Text.replaceAll ['a', 'a'] ['b'] ['a', 'a', 'a'] = ['b', 'a'] := by decide

end LobsterServer
