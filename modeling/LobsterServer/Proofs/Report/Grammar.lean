import Mathlib.Data.List.TakeWhile
import LobsterServer.Proofs.Text.Occurrence
import LobsterServer.Report.Line

set_option autoImplicit false

/-!
# The grammar of report lines

A line has the form of a report if some *mark*, such as `(7): error: `, stands in it behind at
least one character.  The reader finds a report line exactly in the lines of this form, with the
shortest possible file name.  A mark has its only opening parenthesis at its front, so two marks
never overlap; hence a file name that does not have the form itself is read back as it was written.
-/

namespace LobsterServer.Report

/-- What stands between the file name and the message. -/
def mark (digits : Text) (word : String) : Text :=
  '(' :: digits ++ "): ".toList ++ word.toList ++ ": ".toList

/-- The parts of a mark are digits and one of the words. -/
def IsMark (digits : Text) (word : String) : Prop :=
  digits ≠ [] ∧ (∀ c ∈ digits, Text.isDigit c = true) ∧ word ∈ words

/-- Behind at least one character there is a mark in the text. -/
def HasForm (t : Text) : Prop :=
  ∃ file digits word message, file ≠ [] ∧ IsMark digits word ∧
    t = file ++ mark digits word ++ message

theorem HasForm.cons {t : Text} (h : HasForm t) (c : Char) : HasForm (c :: t) := by
  obtain ⟨file, digits, word, message, -, hmark, rfl⟩ := h
  exact ⟨c :: file, digits, word, message, List.cons_ne_nil _ _, hmark, rfl⟩

/-! ## Reading a mark -/

theorem after?_eq_some {start : String} {t rest : Text} :
    after? start t = some rest ↔ t = start.toList ++ rest := by
  unfold after?
  constructor
  · intro h
    split at h
    · rename_i hprefix
      obtain ⟨tail, rfl⟩ := List.isPrefixOf_iff_prefix.mp hprefix
      rw [List.drop_left] at h
      cases h
      rfl
    · cases h
  · rintro rfl
    rw [if_pos (List.isPrefixOf_iff_prefix.mpr (List.prefix_append ..)), List.drop_left]

/-- The severity words start with different letters, so at most one of them is read. -/
theorem remark?_eq_some {t message : Text} {word : String} :
    remark? t = some (word, message) ↔
      word ∈ words ∧ t = word.toList ++ ": ".toList ++ message := by
  constructor
  · intro h
    obtain ⟨found, hfound, hread⟩ := List.exists_of_findSome?_eq_some h
    obtain ⟨rest, hrest, hpair⟩ := Option.map_eq_some_iff.mp hread
    cases hpair
    refine ⟨hfound, ?_⟩
    rw [← String.toList_append]
    exact after?_eq_some.mp hrest
  · rintro ⟨hword, rfl⟩
    simp only [words, List.mem_cons, List.not_mem_nil, or_false] at hword
    rcases hword with rfl | rfl | rfl <;> rfl

/-- What follows the digits at the front of a text. -/
theorem drop_digits (t : Text) :
    t.drop (t.takeWhile Text.isDigit).length = t.dropWhile Text.isDigit := by
  have hdrop : (t.takeWhile Text.isDigit ++ t.dropWhile Text.isDigit).drop
      (t.takeWhile Text.isDigit).length = t.dropWhile Text.isDigit := List.drop_left
  rwa [List.takeWhile_append_dropWhile] at hdrop

/-- The rest of a report line is a mark and a message. -/
theorem rest?_eq_some {t digits message : Text} {word : String} :
    rest? t = some (digits, word, message) ↔
      IsMark digits word ∧ t = mark digits word ++ message := by
  constructor
  · intro h
    unfold rest? at h
    split at h
    · rename_i t
      simp only [drop_digits] at h
      split at h
      · cases h
      · rename_i hdigits
        obtain ⟨tail, htail, hremark⟩ := Option.bind_eq_some_iff.mp h
        obtain ⟨⟨found, rest⟩, hfound, hparts⟩ := Option.map_eq_some_iff.mp hremark
        cases hparts
        obtain ⟨hword, rfl⟩ := remark?_eq_some.mp hfound
        refine ⟨⟨hdigits, fun c hc => List.mem_takeWhile_imp hc, hword⟩, ?_⟩
        calc '(' :: t = '(' :: (t.takeWhile Text.isDigit ++ t.dropWhile Text.isDigit) := by
              rw [List.takeWhile_append_dropWhile]
          _ = _ := by
              rw [after?_eq_some.mp htail]
              simp [mark]
    · cases h
  · rintro ⟨⟨hne, hdigits, hword⟩, rfl⟩
    have htail : mark digits word ++ message =
        '(' :: (digits ++ ("): ".toList ++ (word.toList ++ ": ".toList ++ message))) := by
      simp [mark]
    have htake : (digits ++ ("): ".toList ++ (word.toList ++ ": ".toList ++ message))).takeWhile
        Text.isDigit = digits := by
      rw [List.takeWhile_append_of_pos hdigits]
      exact List.append_nil digits
    simp only [htail, rest?, htake, if_neg hne, List.drop_left,
      after?_eq_some.mpr rfl, Option.bind_some, remark?_eq_some.mpr ⟨hword, rfl⟩, Option.map_some]

/-! ## Reading a line -/

/-- A mark has no opening parenthesis behind its front. -/
theorem paren_notMem_tail_mark {digits : Text} {word : String} (h : IsMark digits word) :
    '(' ∉ (mark digits word).tail := by
  obtain ⟨-, hdigits, hword⟩ := h
  have hparen : '(' ∉ digits := fun hmem => absurd (hdigits _ hmem) (by decide)
  simp only [words, List.mem_cons, List.not_mem_nil, or_false] at hword
  rcases hword with rfl | rfl | rfl <;> simp [mark, hparen]

/-- A mark that starts in front of another one ends in front of it. -/
theorem mark_prefix {front digits digits' message message' : Text} {word word' : String}
    (hmark : IsMark digits word) (hfront : front ≠ [])
    (h : mark digits word ++ message = front ++ mark digits' word' ++ message') :
    mark digits word <+: front := by
  rw [List.append_assoc] at h
  exact Text.prefix_of_append_eq hfront (paren_notMem_tail_mark hmark) h

/-- A report line is read back as it was written, if its file name has no mark in it. -/
theorem parse?_of_mark {file digits : Text} {word : String} (hfile : file ≠ [])
    (hclean : ¬ HasForm file) (hmark : IsMark digits word) (message : Text) :
    Line.parse? (file ++ mark digits word ++ message) = some ⟨file, digits, word, message⟩ := by
  induction file with
  | nil => exact absurd rfl hfile
  | cons c file ih =>
    by_cases hlast : file = []
    · subst hlast
      simp only [List.cons_append, List.nil_append, Line.parse?,
        rest?_eq_some.mpr ⟨hmark, rfl⟩]
    · have hnone : rest? (file ++ mark digits word ++ message) = none := by
        rw [Option.eq_none_iff_forall_ne_some]
        rintro ⟨digits', word', message'⟩ hrest
        obtain ⟨hmark', hsplit⟩ := rest?_eq_some.mp hrest
        obtain ⟨more, rfl⟩ := mark_prefix hmark' hlast hsplit.symm
        exact hclean ⟨[c], digits', word', more, List.cons_ne_nil _ _, hmark', rfl⟩
      simp only [List.cons_append, Line.parse?, hnone,
        ih hlast fun h => hclean (h.cons c), Option.map_some]

theorem not_hasForm_singleton (c : Char) : ¬ HasForm [c] := by
  rintro ⟨file, digits, word, message, hfile, -, hsplit⟩
  have hlength := congrArg List.length hsplit
  have hpos := List.length_pos_iff.mpr hfile
  simp only [mark, List.length_cons, List.length_append, List.length_nil] at hlength
  omega

/-- In front of a character that starts no mark, a text keeps its form. -/
theorem hasForm_of_cons {c : Char} {t message : Text} (h : HasForm (c :: t))
    (hnone : rest? (t ++ message) = none) : HasForm t := by
  obtain ⟨file, digits, word, more, hfile, hmark, hsplit⟩ := h
  cases file with
  | nil => exact absurd rfl hfile
  | cons d file =>
    have ht : t = file ++ mark digits word ++ more := (List.cons.inj hsplit).2
    subst ht
    by_cases hlast : file = []
    · subst hlast
      rw [List.nil_append, rest?_eq_some.mpr ⟨hmark, List.append_assoc ..⟩] at hnone
      cases hnone
    · exact ⟨file, digits, word, more, hlast, hmark, rfl⟩

/-- A line is read as a report line exactly if it consists of a file name without a mark, a mark
and a message. -/
theorem parse?_eq_some_iff {t : Text} {l : Line} :
    Line.parse? t = some l ↔ (l.file ≠ [] ∧ ¬ HasForm l.file) ∧ IsMark l.digits l.word ∧
      t = l.file ++ mark l.digits l.word ++ l.message := by
  constructor
  · intro h
    induction t generalizing l with
    | nil => cases h
    | cons c t ih =>
      unfold Line.parse? at h
      split at h
      · rename_i digits word message hrest
        cases h
        obtain ⟨hmark, rfl⟩ := rest?_eq_some.mp hrest
        exact ⟨⟨List.cons_ne_nil _ _, not_hasForm_singleton c⟩, hmark, rfl⟩
      · rename_i hrest
        obtain ⟨l, hl, rfl⟩ := Option.map_eq_some_iff.mp h
        obtain ⟨⟨-, hclean⟩, hmark, rfl⟩ := ih hl
        rw [List.append_assoc] at hrest
        exact ⟨⟨List.cons_ne_nil _ _, fun hform => hclean (hasForm_of_cons hform hrest)⟩, hmark,
          rfl⟩
  · rintro ⟨⟨hfile, hclean⟩, hmark, rfl⟩
    exact parse?_of_mark hfile hclean hmark l.message

/-- A line is not read as a report line exactly if it does not have the form of one. -/
theorem parse?_eq_none_iff {t : Text} : Line.parse? t = none ↔ ¬ HasForm t := by
  constructor
  · rintro hnone ⟨file, digits, word, message, hfile, hmark, rfl⟩
    induction file with
    | nil => exact hfile rfl
    | cons c file ih =>
      simp only [List.cons_append, Line.parse?] at hnone
      split at hnone
      · cases hnone
      · rename_i hrest
        by_cases hlast : file = []
        · subst hlast
          rw [List.nil_append, rest?_eq_some.mpr ⟨hmark, rfl⟩] at hrest
          cases hrest
        · exact ih hlast (Option.map_eq_none_iff.mp hnone)
  · intro hform
    rw [Option.eq_none_iff_forall_ne_some]
    intro l hl
    obtain ⟨⟨hfile, -⟩, hmark, hsplit⟩ := parse?_eq_some_iff.mp hl
    exact hform ⟨l.file, l.digits, l.word, l.message, hfile, hmark, hsplit⟩

/-- What is added to the end of a report line is added to its message. -/
theorem parse?_append {t : Text} {l : Line} (h : Line.parse? t = some l) (more : Text) :
    Line.parse? (t ++ more) = some { l with message := l.message ++ more } := by
  obtain ⟨hfile, hmark, rfl⟩ := parse?_eq_some_iff.mp h
  exact parse?_eq_some_iff.mpr ⟨hfile, hmark, List.append_assoc ..⟩

/-- A carriage return at its end makes no line a report line. -/
theorem parse?_append_return {t : Text} (h : Line.parse? t = none) :
    Line.parse? (t ++ ['\r']) = none := by
  rw [parse?_eq_none_iff] at h ⊢
  rintro ⟨file, digits, word, message, hfile, hmark, hsplit⟩
  rcases List.eq_nil_or_concat message with rfl | ⟨message, c, rfl⟩
  · -- a mark ends in a space
    have hend : file ++ mark digits word ++ [] =
        (file ++ '(' :: digits ++ "): ".toList ++ word.toList ++ [':']) ++ [' '] := by
      simp [mark]
    rw [hend] at hsplit
    exact absurd (List.append_inj' hsplit rfl).2 (by decide)
  · rw [List.concat_eq_append, ← List.append_assoc] at hsplit
    obtain ⟨rfl, -⟩ := List.append_inj' hsplit rfl
    exact h ⟨file, digits, word, message, hfile, hmark, rfl⟩

end LobsterServer.Report
