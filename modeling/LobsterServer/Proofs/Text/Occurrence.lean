import LobsterServer.Text.Blank
import LobsterServer.Text.Search

set_option autoImplicit false

/-!
# First occurrences

Searching a text finds the first occurrence of a pattern if there is any.  What is added to the end
of the text comes behind it, so the occurrence stays the first.  Occurrences of a pattern whose
first character does not come again in it never overlap, so the first one is the one with none in
front of it.
-/

namespace LobsterServer.Text

/-- The first occurrence of a pattern in a text stands between `before` and `after`. -/
structure FirstOccurrence (pattern t before after : Text) : Prop where
  split : t = before ++ pattern ++ after
  first : ∀ a b, t = a ++ pattern ++ b → before.length ≤ a.length

variable {pattern t before after : Text}

/-- The first occurrence in a text is the first one in a longer text. -/
theorem FirstOccurrence.append (h : FirstOccurrence pattern t before after) (more : Text) :
    FirstOccurrence pattern (t ++ more) before (after ++ more) := by
  refine ⟨by rw [h.split, List.append_assoc], fun a b hsplit => ?_⟩
  refine Nat.le_of_not_lt fun hearlier => ?_
  -- an earlier occurrence ends within the text
  have hshort : (a ++ pattern).length ≤ t.length := by
    have hlength := congrArg List.length h.split
    simp only [List.length_append] at hlength ⊢
    omega
  have hprefix : a ++ pattern <+: t :=
    List.prefix_of_prefix_length_le ⟨b, hsplit.symm⟩ (List.prefix_append t more) hshort
  obtain ⟨rest, hrest⟩ := hprefix
  exact Nat.not_le_of_lt hearlier (h.first a rest hrest.symm)

theorem FirstOccurrence.cons {c : Char} (h : FirstOccurrence pattern t before after)
    (hfront : ¬ pattern <+: c :: t) : FirstOccurrence pattern (c :: t) (c :: before) after := by
  refine ⟨by rw [h.split]; rfl, fun a b hsplit => ?_⟩
  cases a with
  | nil => exact absurd ⟨b, hsplit.symm⟩ hfront
  | cons d a =>
    exact Nat.succ_le_succ (h.first a b (List.cons.inj hsplit).2)

/-- There is only one first occurrence. -/
theorem FirstOccurrence.unique {before' after' : Text} (h : FirstOccurrence pattern t before after)
    (h' : FirstOccurrence pattern t before' after') : before = before' ∧ after = after' := by
  have hlength : before.length = before'.length :=
    Nat.le_antisymm (h.first _ _ h'.split) (h'.first _ _ h.split)
  have hsplit := h.split.symm.trans h'.split
  rw [List.append_assoc, List.append_assoc] at hsplit
  obtain ⟨hbefore, hrest⟩ := List.append_inj hsplit hlength
  exact ⟨hbefore, List.append_cancel_left hrest⟩

/-- Of two ways to cut a text the one that cuts earlier leaves the rest of the other front as
well. -/
theorem exists_append_of_lt {front back front' back' : Text} (h : front ++ back = front' ++ back')
    (hlt : front'.length < front.length) :
    ∃ rest, rest ≠ [] ∧ front = front' ++ rest ∧ back' = rest ++ back := by
  rcases List.append_eq_append_iff.mp h with ⟨rest, hlonger, -⟩ | ⟨rest, hfront, hback⟩
  · rw [hlonger, List.length_append] at hlt
    omega
  · refine ⟨rest, ?_, hfront, hback⟩
    rintro rfl
    rw [hfront, List.append_nil] at hlt
    exact Nat.lt_irrefl _ hlt

/-- A text that has a character at its front alone ends in front of the place where this character
comes again. -/
theorem prefix_of_append_eq {c : Char} {front rest rest' : Text} (hfront : front ≠ [])
    (hc : c ∉ pattern.tail) (h : pattern ++ rest = front ++ c :: rest') : pattern <+: front := by
  have hleft : pattern <+: pattern ++ rest := List.prefix_append ..
  have hright : front <+: pattern ++ rest := by
    rw [h]
    exact List.prefix_append ..
  rcases List.prefix_or_prefix_of_prefix hleft hright with hshort | ⟨more, hmore⟩
  · exact hshort
  -- the front ends inside the pattern, and then the character stands there
  cases more with
  | nil =>
    rw [List.append_nil] at hmore
    exact ⟨[], by rw [hmore, List.append_nil]⟩
  | cons d more =>
    rw [← hmore, List.append_assoc, List.append_cancel_left_eq] at h
    obtain ⟨rfl, -⟩ := List.cons.inj h
    refine absurd ?_ hc
    rw [← hmore, List.tail_append_of_ne_nil hfront]
    exact List.mem_append_right _ List.mem_cons_self

/-- In front of the first occurrence there is no other one. -/
theorem FirstOccurrence.not_infix (h : FirstOccurrence pattern t before after)
    (hne : pattern ≠ []) : ¬ pattern <:+: before := by
  rintro ⟨x, y, rfl⟩
  have hle := h.first x (y ++ pattern ++ after) (by rw [h.split]; simp only [List.append_assoc])
  have hpos := List.length_pos_iff.mpr hne
  simp only [List.length_append] at hle
  omega

/-- An occurrence with none in front of it is the first one, if the first character of the pattern
does not come again in it. -/
theorem firstOccurrence_of_not_infix {c : Char} {pattern before : Text} (hc : c ∉ pattern)
    (h : ¬ c :: pattern <:+: before) (after : Text) :
    FirstOccurrence (c :: pattern) (before ++ c :: pattern ++ after) before after := by
  refine ⟨rfl, fun a b hsplit => Nat.le_of_not_lt fun hearlier => ?_⟩
  rw [List.append_assoc, List.append_assoc] at hsplit
  obtain ⟨rest, hne, hrest, htail⟩ := exists_append_of_lt hsplit hearlier
  obtain ⟨more, hmore⟩ := prefix_of_append_eq hne hc htail
  exact h ⟨a, more, by rw [hrest, ← hmore, List.append_assoc]⟩

/-- What is found is the first occurrence. -/
theorem firstOccurrence_of_find? {i : Nat} (h : find? pattern t = some i) :
    ∃ before after, FirstOccurrence pattern t before after ∧ before.length = i := by
  induction t generalizing i with
  | nil =>
    simp only [find?, List.isEmpty_iff, Option.ite_none_right_eq_some, Option.some.injEq] at h
    obtain ⟨rfl, rfl⟩ := h
    exact ⟨[], [], ⟨rfl, fun _ _ _ => Nat.zero_le _⟩, rfl⟩
  | cons c t ih =>
    simp only [find?] at h
    split at h
    · rename_i hprefix
      cases h
      obtain ⟨after, hafter⟩ := List.isPrefixOf_iff_prefix.mp hprefix
      exact ⟨[], after, ⟨hafter.symm, fun _ _ _ => Nat.zero_le _⟩, rfl⟩
    · rename_i hprefix
      obtain ⟨j, hj, rfl⟩ := Option.map_eq_some_iff.mp h
      obtain ⟨before, after, hfirst, rfl⟩ := ih hj
      exact ⟨c :: before, after,
        hfirst.cons fun h => hprefix (List.isPrefixOf_iff_prefix.mpr h), rfl⟩

/-- A pattern that occurs is found. -/
theorem exists_find? (h : pattern <:+: t) : ∃ i, find? pattern t = some i := by
  induction t with
  | nil =>
    have hempty : pattern = [] := List.eq_nil_of_infix_nil h
    exact ⟨0, by simp [find?, hempty]⟩
  | cons c t ih =>
    by_cases hprefix : pattern.isPrefixOf (c :: t)
    · exact ⟨0, by simp [find?, hprefix]⟩
    · rcases List.infix_cons_iff.mp h with hfront | hbehind
      · exact absurd (List.isPrefixOf_iff_prefix.mpr hfront) hprefix
      · obtain ⟨i, hi⟩ := ih hbehind
        exact ⟨i + 1, by simp [find?, hprefix, hi]⟩

/-! ## Beginnings -/

/-- Trimming keeps what a text starts with, up to a character that is not blank. -/
theorem prefix_trimEnd {start : Text} {c : Char} (hc : isBlank c = false)
    (h : start ++ [c] <+: t) : start ++ [c] <+: trimEnd t := by
  obtain ⟨rest, rfl⟩ := h
  unfold trimEnd dropEndWhile
  rw [List.reverse_append, List.reverse_append, List.dropWhile_append]
  split
  · simp [hc]
  · rw [List.reverse_append]
    simp

end LobsterServer.Text
