import LobsterServer.Text.Lossy

set_option autoImplicit false

/-!
# Decoding what was encoded

Lossy decoding loses nothing of a text that was encoded.  A character of more than one byte is
decoded byte by byte: its first byte says how many follow and shuts out what is no character, and
each further byte adds six bits to the value.
-/

namespace LobsterServer.Text

/-! ## First bytes -/

variable {n : Nat}

theorem lead_one (h : n < 0x80) : lead (UInt8.ofNat n) = .whole (Char.ofNat n) := by
  have hn : (UInt8.ofNat n).toNat = n := by simp; omega
  simp [lead, UInt8.lt_iff_toNat_lt, hn, h]

theorem lead_two (hlow : 0xC2 ≤ n) (hhigh : n < 0xE0) :
    lead (UInt8.ofNat n) = .longer ⟨n - 0xC0, 1, 0x80, 0xBF⟩ := by
  have hn : (UInt8.ofNat n).toNat = n := by simp; omega
  have h₁ : ¬ n < 0x80 := by omega
  have h₂ : ¬ n < 0xC2 := by omega
  simp [lead, UInt8.lt_iff_toNat_lt, hn, h₁, h₂, hhigh]

theorem lead_three (hlow : 0xE0 ≤ n) (hhigh : n < 0xF0) :
    lead (UInt8.ofNat n) = .longer ⟨n - 0xE0, 2, if n = 0xE0 then 0xA0 else 0x80,
      if n = 0xED then 0x9F else 0xBF⟩ := by
  have hn : (UInt8.ofNat n).toNat = n := by simp; omega
  have h₁ : ¬ n < 0x80 := by omega
  have h₂ : ¬ n < 0xC2 := by omega
  have h₃ : ¬ n < 0xE0 := by omega
  simp [lead, UInt8.lt_iff_toNat_lt, ← UInt8.toNat_inj, hn, h₁, h₂, h₃, hhigh]

theorem lead_four (hlow : 0xF0 ≤ n) (hhigh : n < 0xF5) :
    lead (UInt8.ofNat n) = .longer ⟨n - 0xF0, 3, if n = 0xF0 then 0x90 else 0x80,
      if n = 0xF4 then 0x8F else 0xBF⟩ := by
  have hn : (UInt8.ofNat n).toNat = n := by simp; omega
  have h₁ : ¬ n < 0x80 := by omega
  have h₂ : ¬ n < 0xC2 := by omega
  have h₃ : ¬ n < 0xE0 := by omega
  have h₄ : ¬ n < 0xF0 := by omega
  simp [lead, UInt8.lt_iff_toNat_lt, ← UInt8.toNat_inj, hn, h₁, h₂, h₃, h₄, hhigh]

/-! ## Further bytes -/

/-- A further byte within its bounds adds six bits to the value. -/
theorem decodeFrom_further {u : Unfinished} (hn : n < 64) (hlow : u.low.toNat ≤ n + 128)
    (hhigh : n + 128 ≤ u.high.toNat) (bytes : List UInt8) :
    decodeFrom (some u) (UInt8.ofNat (n + 128) :: bytes) =
      if u.missing ≤ 1 then Char.ofNat (u.value * 64 + n) :: decodeFrom none bytes
      else decodeFrom (some ⟨u.value * 64 + n, u.missing - 1, 0x80, 0xBF⟩) bytes := by
  have hbyte : (UInt8.ofNat (n + 128)).toNat = n + 128 := by simp; omega
  have hbounds : u.low ≤ UInt8.ofNat (n + 128) ∧ UInt8.ofNat (n + 128) ≤ u.high := by
    rw [UInt8.le_iff_toNat_le, UInt8.le_iff_toNat_le, hbyte]
    exact ⟨hlow, hhigh⟩
  rw [decodeFrom, if_pos hbounds, hbyte, Nat.add_sub_cancel]

/-- A byte in the middle of a character leaves one byte less to come. -/
theorem decodeFrom_middle {value missing : Nat} {low high : UInt8} (hn : n < 64)
    (hlow : low.toNat ≤ n + 128) (hhigh : n + 128 ≤ high.toNat) (bytes : List UInt8) :
    decodeFrom (some ⟨value, missing + 2, low, high⟩) (UInt8.ofNat (n + 128) :: bytes) =
      decodeFrom (some ⟨value * 64 + n, missing + 1, 0x80, 0xBF⟩) bytes :=
  (decodeFrom_further hn hlow hhigh bytes).trans (if_neg (by simp))

/-- Six bits are within the bounds of every byte but the second. -/
theorem further_bounds (hn : n < 64) :
    (0x80 : UInt8).toNat ≤ n + 128 ∧ n + 128 ≤ (0xBF : UInt8).toNat :=
  ⟨Nat.le_add_left 128 n, Nat.add_le_add_right (Nat.le_of_lt_succ hn) 128⟩

/-- The last byte of a character completes its value. -/
theorem decodeFrom_last {value : Nat} (hn : n < 64) (bytes : List UInt8) :
    decodeFrom (some ⟨value, 1, 0x80, 0xBF⟩) (UInt8.ofNat (n + 128) :: bytes) =
      Char.ofNat (value * 64 + n) :: decodeFrom none bytes :=
  (decodeFrom_further hn (further_bounds hn).1 (further_bounds hn).2 bytes).trans
    (if_pos (Nat.le_refl 1))

/-! ## Characters of each length -/

section Lengths

variable {a b c d : Nat} (bytes : List UInt8)

theorem decodeFrom_two (ha : 2 ≤ a) (ha' : a < 32) (hb : b < 64) :
    decodeFrom none (UInt8.ofNat (a + 192) :: UInt8.ofNat (b + 128) :: bytes) =
      Char.ofNat (a * 64 + b) :: decodeFrom none bytes := by
  have hlead := lead_two (n := a + 192) (by omega) (by omega)
  rw [Nat.add_sub_cancel] at hlead
  simp only [decodeFrom.eq_3, hlead]
  exact decodeFrom_last hb bytes

theorem decodeFrom_three (ha : a < 16) (hb : b < 64) (hc : c < 64) (hlow : a = 0 → 32 ≤ b)
    (hhigh : a = 13 → b < 32) :
    decodeFrom none (UInt8.ofNat (a + 224) :: UInt8.ofNat (b + 128) :: UInt8.ofNat (c + 128) ::
        bytes) = Char.ofNat ((a * 64 + b) * 64 + c) :: decodeFrom none bytes := by
  have hlead := lead_three (n := a + 224) (by omega) (by omega)
  rw [Nat.add_sub_cancel] at hlead
  simp only [decodeFrom.eq_3, hlead]
  rw [decodeFrom_middle hb, decodeFrom_last hc]
  · by_cases hzero : a = 0
    · have hb' := hlow hzero
      simp [hzero]
      omega
    · simp [hzero]
  · by_cases hsurrogate : a = 13
    · have hb' := hhigh hsurrogate
      simp [hsurrogate]
      omega
    · simp [hsurrogate]
      omega

theorem decodeFrom_four (ha : a < 5) (hb : b < 64) (hc : c < 64) (hd : d < 64)
    (hlow : a = 0 → 16 ≤ b) (hhigh : a = 4 → b < 16) :
    decodeFrom none (UInt8.ofNat (a + 240) :: UInt8.ofNat (b + 128) :: UInt8.ofNat (c + 128) ::
        UInt8.ofNat (d + 128) :: bytes) =
      Char.ofNat (((a * 64 + b) * 64 + c) * 64 + d) :: decodeFrom none bytes := by
  have hlead := lead_four (n := a + 240) (by omega) (by omega)
  rw [Nat.add_sub_cancel] at hlead
  simp only [decodeFrom.eq_3, hlead]
  rw [decodeFrom_middle hb, decodeFrom_middle hc (further_bounds hc).1 (further_bounds hc).2,
    decodeFrom_last hd]
  · by_cases hzero : a = 0
    · have hb' := hlow hzero
      simp [hzero]
      omega
    · simp [hzero]
  · by_cases hlast : a = 4
    · have hb' := hhigh hlast
      simp [hlast]
      omega
    · simp [hlast]
      omega

end Lengths

/-! ## Texts -/

/-- The encoding of a character is decoded to the character. -/
theorem decodeFrom_encodeChar (c : Char) (bytes : List UInt8) :
    decodeFrom none (String.utf8EncodeChar c ++ bytes) = c :: decodeFrom none bytes := by
  have hself : ∀ n, n = c.val.toNat → Char.ofNat n = c := fun n hn => by
    rw [hn]
    exact Char.ofNat_toNat c
  have hvalid : c.val.toNat < 0xD800 ∨ 0xDFFF < c.val.toNat ∧ c.val.toNat < 0x110000 := c.valid
  unfold String.utf8EncodeChar
  generalize c.val.toNat = v at hself hvalid ⊢
  simp only []
  split
  · simp only [List.singleton_append, decodeFrom.eq_3, lead_one (n := v) (by omega), hself v rfl]
  split
  · rw [List.cons_append, List.singleton_append,
      decodeFrom_two bytes (by omega) (by omega) (by omega), hself _ (by omega)]
  split
  · rw [List.cons_append, List.cons_append, List.singleton_append,
      decodeFrom_three bytes (by omega) (by omega) (by omega) (by omega) (by omega),
      hself _ (by omega)]
  · rw [List.cons_append, List.cons_append, List.cons_append, List.singleton_append,
      decodeFrom_four bytes (by omega) (by omega) (by omega) (by omega) (by omega) (by omega),
      hself _ (by omega)]

/-- The encoding of a text is decoded to the text. -/
theorem decodeLossy_encode (t : Text) : decodeLossy (encode t) = t := by
  unfold decodeLossy
  induction t with
  | nil => rfl
  | cons c t ih =>
    have hencode : encode (c :: t) = String.utf8EncodeChar c ++ encode t := rfl
    rw [hencode, decodeFrom_encodeChar, ih]

end LobsterServer.Text
