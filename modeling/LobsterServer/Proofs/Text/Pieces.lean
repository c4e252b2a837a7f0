import LobsterServer.Text.Blank
import LobsterServer.Text.Line

set_option autoImplicit false

/-!
# Pieces of a text

A text is cut at a separator into pieces, and joining pieces that have no separator in them gives
a text that is cut into these pieces again.  Lines are printed in this way.
-/

namespace LobsterServer.Text

variable {sep : Char} {t : Text}

theorem splitOn_cons_self (sep : Char) (t : Text) :
    splitOn sep (sep :: t) = [] :: splitOn sep t := by
  cases hpieces : splitOn sep t with
  | nil => exact absurd hpieces (splitOn_ne_nil sep t)
  | cons piece rest => simp [splitOn, hpieces]

theorem splitOn_cons_of_ne {c : Char} (h : c ≠ sep) {piece : Text} {rest : List Text}
    (hpieces : splitOn sep t = piece :: rest) : splitOn sep (c :: t) = (c :: piece) :: rest := by
  simp [splitOn, hpieces, h]

/-- A text without the separator is one piece. -/
theorem splitOn_of_notMem (h : sep ∉ t) : splitOn sep t = [t] := by
  induction t with
  | nil => rfl
  | cons c t ih =>
    have hc : c ≠ sep := fun hsame => h (hsame ▸ List.mem_cons_self)
    exact splitOn_cons_of_ne hc (ih fun hmem => h (List.mem_cons_of_mem c hmem))

/-- A text is cut at each separator in it. -/
theorem splitOn_append_cons (sep : Char) (front back : Text) :
    splitOn sep (front ++ sep :: back) = splitOn sep front ++ splitOn sep back := by
  induction front with
  | nil => exact splitOn_cons_self sep back
  | cons c front ih =>
    by_cases hc : c = sep
    · subst hc
      rw [List.cons_append, splitOn_cons_self, splitOn_cons_self, ih, List.cons_append]
    · cases hpieces : splitOn sep front with
      | nil => exact absurd hpieces (splitOn_ne_nil sep front)
      | cons piece rest =>
        rw [hpieces, List.cons_append] at ih
        rw [List.cons_append, splitOn_cons_of_ne hc ih, splitOn_cons_of_ne hc hpieces,
          List.cons_append]

/-- A character that is no separator goes to the end of the last piece. -/
theorem splitOn_concat {c : Char} (h : c ≠ sep) (t : Text) :
    ∃ earlier last, splitOn sep t = earlier ++ [last] ∧
      splitOn sep (t ++ [c]) = earlier ++ [last ++ [c]] := by
  induction t with
  | nil => exact ⟨[], [], rfl, by simp [splitOn, h]⟩
  | cons d t ih =>
    obtain ⟨earlier, last, hpieces, hconcat⟩ := ih
    by_cases hd : d = sep
    · subst hd
      refine ⟨[] :: earlier, last, ?_, ?_⟩
      · rw [splitOn_cons_self, hpieces, List.cons_append]
      · rw [List.cons_append, splitOn_cons_self, hconcat, List.cons_append]
    · cases earlier with
      | nil =>
        exact ⟨[], d :: last, splitOn_cons_of_ne hd hpieces, splitOn_cons_of_ne hd hconcat⟩
      | cons piece earlier =>
        exact ⟨(d :: piece) :: earlier, last, splitOn_cons_of_ne hd hpieces,
          splitOn_cons_of_ne hd hconcat⟩

/-- There is one piece more than there are separators. -/
theorem length_splitOn (sep : Char) (t : Text) : (splitOn sep t).length = t.count sep + 1 := by
  induction t with
  | nil => rfl
  | cons c t ih =>
    by_cases hc : c = sep
    · subst hc
      rw [splitOn_cons_self, List.length_cons, ih, List.count_cons_self]
    · obtain ⟨piece, rest, hpieces⟩ := List.exists_cons_of_ne_nil (splitOn_ne_nil sep t)
      rw [splitOn_cons_of_ne hc hpieces, List.count_cons_of_ne hc, ← ih, hpieces,
        List.length_cons, List.length_cons]

/-- Pieces without the separator are what the text they are joined to is cut into. -/
theorem splitOn_intercalate {pieces : List Text} (hne : pieces ≠ [])
    (hclean : ∀ piece ∈ pieces, sep ∉ piece) :
    splitOn sep ([sep].intercalate pieces) = pieces := by
  induction pieces with
  | nil => exact absurd rfl hne
  | cons piece rest ih =>
    have hpiece : sep ∉ piece := hclean piece List.mem_cons_self
    cases rest with
    | nil =>
      rw [List.intercalate_singleton]
      exact splitOn_of_notMem hpiece
    | cons next rest =>
      have hrest := ih (List.cons_ne_nil _ _)
        fun other hother => hclean other (List.mem_cons_of_mem piece hother)
      rw [List.intercalate_cons_cons, List.append_assoc, List.singleton_append,
        splitOn_append_cons, hrest, splitOn_of_notMem hpiece, List.singleton_append]

/-- Lines, one after another; the last one may be terminated as well. -/
def printed (terminated : Bool) (lines : List Text) : Text :=
  ['\n'].intercalate lines ++ if terminated then ['\n'] else []

/-- What was printed is cut into the lines, and maybe an empty rest. -/
theorem splitOn_printed (terminated : Bool) {lines : List Text}
    (hclean : ∀ line ∈ lines, '\n' ∉ line) :
    ∃ rest : List Text, (∀ line ∈ rest, line = []) ∧
      splitOn '\n' (printed terminated lines) = lines ++ rest := by
  by_cases hne : lines = []
  · subst hne
    cases terminated with
    | false => exact ⟨[[]], by simp, rfl⟩
    | true => exact ⟨[[], []], by simp, rfl⟩
  · have hcut := splitOn_intercalate hne hclean
    cases terminated with
    | false => exact ⟨[], by simp, by simp [printed, hcut]⟩
    | true => exact ⟨[[]], by simp, by simp [printed, splitOn_append_cons, hcut, splitOn]⟩

/-! ## Ends of lines -/

theorem dropEndWhile_append_of_pos {p : Char → Bool} {c : Char} (h : p c = true) (t : Text) :
    dropEndWhile p (t ++ [c]) = dropEndWhile p t := by
  simp [dropEndWhile, h]

/-- Blanks at the end of a text do not matter once it is trimmed. -/
theorem trimEnd_append {c : Char} (h : isBlank c = true) (t : Text) :
    trimEnd (t ++ [c]) = trimEnd t :=
  dropEndWhile_append_of_pos h t

/-- A line loses nothing, or a carriage return at its end. -/
theorem dropReturn_cases (line : Text) :
    dropReturn line = line ∨ line = dropReturn line ++ ['\r'] := by
  unfold dropReturn
  split
  · rename_i hlast
    obtain ⟨front, rfl⟩ := List.getLast?_eq_some_iff.mp hlast
    exact .inr (by rw [List.dropLast_concat])
  · exact .inl rfl

theorem dropReturn_concat (line : Text) (c : Char) :
    dropReturn (line ++ [c]) = if c = '\r' then line else line ++ [c] := by
  simp [dropReturn]

/-! ## Lines in front of a line feed -/

/-- A line feed ends the line in front of it, and the lines behind it do not depend on it. -/
theorem lines_append_cons (front back : Text) :
    lines (front ++ '\n' :: back) = lines (front ++ ['\n']) ++ lines back := by
  obtain ⟨earlier, last, hback⟩ :=
    (List.eq_nil_or_concat (splitOn '\n' back)).resolve_left (splitOn_ne_nil '\n' back)
  have hfront := splitOn_append_cons '\n' front back
  rw [hback, List.concat_eq_append, ← List.append_assoc] at hfront
  simp [lines, hfront, hback, splitOn_append_cons, splitOn]

/-- A line feed behind an unfinished line only takes the carriage return at the end of that
line, if there is one. -/
theorem exists_lines_concat {c : Char} (h : c ≠ '\n') (t : Text) :
    ∃ earlier last, lines (t ++ [c]) = earlier ++ [last ++ [c]] ∧
      lines (t ++ [c] ++ ['\n']) = earlier ++ [if c = '\r' then last else last ++ [c]] := by
  obtain ⟨earlier, last, -, hpieces⟩ := splitOn_concat h t
  refine ⟨earlier.map dropReturn, last, ?_, ?_⟩
  · simp [lines, hpieces]
  · rw [lines, splitOn_append_cons, hpieces]
    simp [splitOn, dropReturn_concat]

end LobsterServer.Text
