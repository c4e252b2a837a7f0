import LobsterServer.Document.Location

set_option autoImplicit false

/-!
# Cutting a text

Every position leads to a place between two characters, whether or not it names one.  So a range
always cuts a text into three parts, and replacing it changes the middle part alone.
-/

namespace LobsterServer.Text

/-! ## Places -/

theorem take_append_drop_take (t : Text) {i j : Nat} (h : i ≤ j) :
    t.take i ++ (t.take j).drop i = t.take j := by
  have hsplit := List.take_append_drop i (t.take j)
  rwa [List.take_take, Nat.min_eq_left h] at hsplit

/-- Places further on have more bytes in front of them. -/
theorem byteLength_take_le (t : Text) {i j : Nat} (h : i ≤ j) :
    byteLength (t.take i) ≤ byteLength (t.take j) := by
  rw [← take_append_drop_take t h, byteLength_append]
  exact Nat.le_add_right _ _

theorem byteLength_take_max (t : Text) (i j : Nat) :
    byteLength (t.take (max i j)) = max (byteLength (t.take i)) (byteLength (t.take j)) := by
  rcases Nat.le_total i j with h | h
  · rw [Nat.max_eq_right h, Nat.max_eq_right (byteLength_take_le t h)]
  · rw [Nat.max_eq_left h, Nat.max_eq_left (byteLength_take_le t h)]

/-! ## Replacements -/

/-- `next` is `t` with `new` in the place of all that lies between the byte offsets `start` and
`stop`, neither of which is inside a character. -/
def IsReplacement (t : Text) (start stop : Nat) (new next : Text) : Prop :=
  ∃ front removed back, t = front ++ removed ++ back ∧ next = front ++ new ++ back ∧
    byteLength front = start ∧ byteLength (front ++ removed) = stop

/-- Whatever range is replaced, the text is cut between characters: where the range starts, and
where it ends or, if that lies before its start, at the start again. -/
theorem isReplacement_splice (t : Text) (r : Range) (new : Text) :
    IsReplacement t (offset t r.start) (max (offset t r.end) (offset t r.start)) new
      (t.splice r new) := by
  let start := index t r.start
  let stop := max (index t r.end) start
  have hmiddle : t.take start ++ (t.take stop).drop start = t.take stop :=
    take_append_drop_take t (Nat.le_max_right _ _)
  refine ⟨t.take start, (t.take stop).drop start, t.drop stop, ?_, rfl, rfl, ?_⟩
  · rw [hmiddle, List.take_append_drop]
  · rw [hmiddle]
    exact byteLength_take_max t _ _

end LobsterServer.Text
