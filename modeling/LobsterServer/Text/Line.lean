import LobsterServer.Text.Basic

set_option autoImplicit false

/-!
# Lines of compiler output

Output is cut at every line feed.  A carriage return directly before that line feed belongs to
the terminator; any other carriage return is part of its line.  A text that ends in a line feed
has no further, empty line after it.
-/

namespace LobsterServer.Text

/-- A terminated line without the carriage return in front of its line feed, if there is one. -/
def dropReturn (line : Text) : Text :=
  if line.getLast? = some '\r' then line.dropLast else line

/-- The lines of a text. -/
def lines (t : Text) : List Text :=
  let pieces := splitOn '\n' t
  pieces.dropLast.map dropReturn ++ pieces.getLast?.toList.filter (· ≠ [])

example : lines ['a', '\r', '\n', '\r'] = [['a'], ['\r']] := by decide
example : lines ['\n'] = [[]] := by decide
example : lines [] = [] := by decide

end LobsterServer.Text
