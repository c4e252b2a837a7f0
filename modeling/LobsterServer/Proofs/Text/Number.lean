import LobsterServer.Text.Digit

set_option autoImplicit false

/-!
# Reading a number that was written

The decimal digits of a number are ASCII digits, so they are digits of some script, and reading
them gives the number back as long as it is below the limit.
-/

namespace LobsterServer.Text

/-- The decimal digits of a number. -/
def decimal (n : Nat) : Text := Nat.toDigits 10 n

theorem decimal_ne_nil (n : Nat) : decimal n ≠ [] := Nat.toDigits_ne_nil

theorem decimal_of_lt {n : Nat} (h : n < 10) : decimal n = [n.digitChar] :=
  Nat.toDigits_of_lt_base h

theorem decimal_of_le {n : Nat} (h : 10 ≤ n) :
    decimal n = decimal (n / 10) ++ [(n % 10).digitChar] :=
  Nat.toDigits_of_base_le (by decide) h

/-! ## Digits -/

/-- Each digit stands for a character of its own, with its value. -/
theorem asciiDigit?_digitChar {d : Nat} (h : d < 10) : asciiDigit? d.digitChar = some d := by
  revert h
  revert d
  decide

theorem isDigit_digitChar {d : Nat} (h : d < 10) : isDigit d.digitChar = true := by
  revert h
  revert d
  decide

theorem isDigit_of_mem_decimal (n : Nat) : ∀ c ∈ decimal n, isDigit c = true := by
  induction n using Nat.strongRecOn with
  | ind n ih =>
    intro c hc
    by_cases hn : n < 10
    · rw [decimal_of_lt hn, List.mem_singleton] at hc
      rw [hc]
      exact isDigit_digitChar hn
    · rw [decimal_of_le (Nat.le_of_not_lt hn), List.mem_append, List.mem_singleton] at hc
      rcases hc with hfront | rfl
      · exact ih (n / 10) (by omega) c hfront
      · exact isDigit_digitChar (Nat.mod_lt n (by decide))

/-! ## Reading -/

theorem readDigits_snoc {limit value : Nat} {t : Text} {c : Char} {d : Nat}
    (hd : asciiDigit? c = some d) : ∀ {acc : Nat}, readDigits limit acc t = .ok value →
      value * 10 + d < limit → readDigits limit acc (t ++ [c]) = .ok (value * 10 + d) := by
  induction t with
  | nil =>
    intro acc hread hlt
    cases hread
    simp [readDigits, hd, hlt]
  | cons b t ih =>
    intro acc hread hlt
    simp only [readDigits] at hread
    cases hb : asciiDigit? b with
    | none =>
      rw [hb] at hread
      cases hread
    | some e =>
      rw [hb] at hread
      simp only [] at hread
      split at hread
      · rename_i hbelow
        simp only [List.cons_append, readDigits, hb, if_pos hbelow]
        exact ih hread hlt
      · cases hread

/-- The digits of a number are read as the number. -/
theorem readDigits_decimal {limit : Nat} (n : Nat) (h : n < limit) :
    readDigits limit 0 (decimal n) = .ok n := by
  induction n using Nat.strongRecOn with
  | ind n ih =>
    by_cases hn : n < 10
    · simp [decimal_of_lt hn, readDigits, asciiDigit?_digitChar hn, h]
    · have hsplit : n / 10 * 10 + n % 10 = n := by omega
      have hfront := ih (n / 10) (by omega) (by omega)
      have hlast := asciiDigit?_digitChar (Nat.mod_lt n (by decide : 0 < 10))
      rw [decimal_of_le (Nat.le_of_not_lt hn), readDigits_snoc hlast hfront (by omega), hsplit]

/-- A run of characters that does not start with a sign is read as digits. -/
theorem readNumber_of_unsigned {c : Char} (h : c ≠ '+') (limit : Nat) (t : Text) :
    readNumber limit (c :: t) = readDigits limit 0 (c :: t) := by
  unfold readNumber
  split
  · rename_i hempty
    cases hempty
  · rename_i hsign
    cases hsign
    exact absurd rfl h
  · rename_i hsign
    cases hsign
    exact absurd rfl h
  · rfl

/-- A number of 32 bits is read back from its digits. -/
theorem lineNumber_decimal {n : Nat} (h : n < 0x100000000) : lineNumber (decimal n) = n := by
  have hread := readDigits_decimal n h
  have hdigits := isDigit_of_mem_decimal n
  unfold lineNumber
  cases hdecimal : decimal n with
  | nil => exact absurd hdecimal (decimal_ne_nil n)
  | cons c t =>
    rw [hdecimal] at hread hdigits
    have hplus : c ≠ '+' := by
      rintro rfl
      exact absurd (hdigits '+' List.mem_cons_self) (by decide)
    rw [readNumber_of_unsigned hplus, hread]

end LobsterServer.Text
