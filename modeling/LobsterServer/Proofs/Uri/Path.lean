import LobsterServer.Path
import LobsterServer.Uri

set_option autoImplicit false

/-!
# Places that URIs name

Escaping the pieces of a URI's path changes nothing about the place that the URI names, and such a
place is always named from the root.
-/

namespace LobsterServer.Uri

/-! ## Escapes -/

/-- The byte that two hexadecimal digits stand for, and what follows them. -/
def digits? : Text → Option (UInt8 × Text)
  | a :: b :: rest =>
    (hexValue? a).bind fun x => (hexValue? b).map fun y => (UInt8.ofNat (x * 16 + y), rest)
  | _ => none

theorem digits?_of_hexValue? {a : Char} (h : hexValue? a = none) (t : Text) :
    digits? (a :: t) = none := by
  cases t with
  | nil => rfl
  | cons b rest => simp only [digits?, h, Option.bind_none]

/-- A percent sign stands for a byte together with two digits behind it, else for itself. -/
theorem percentDecode_percent (t : Text) :
    percentDecode ('%' :: t) =
      match digits? t with
      | some (byte, rest) => byte :: percentDecode rest
      | none => String.utf8EncodeChar '%' ++ percentDecode t := by
  rcases t with _ | ⟨a, _ | ⟨b, rest⟩⟩
  · rfl
  · rfl
  · rw [percentDecode]
    cases ha : hexValue? a with
    | none => simp [digits?, ha]
    | some x => cases hb : hexValue? b <;> simp [digits?, ha, hb]

theorem percentDecode_cons_of_ne {c : Char} (h : c ≠ '%') (t : Text) :
    percentDecode (c :: t) = String.utf8EncodeChar c ++ percentDecode t := by
  rw [percentDecode]
  exact fun _ _ _ hpercent => absurd hpercent h

theorem length_lt_of_digits? {t rest : Text} {byte : UInt8} (h : digits? t = some (byte, rest)) :
    rest.length < t.length := by
  rcases t with _ | ⟨a, _ | ⟨b, more⟩⟩
  · cases h
  · cases h
  · simp only [digits?, Option.bind_eq_some_iff, Option.map_eq_some_iff, Prod.mk.injEq] at h
    obtain ⟨x, -, y, -, -, rfl⟩ := h
    simp only [List.length_cons]
    omega

theorem hexValue?_upperHex {n : Nat} (h : n < 16) : hexValue? (upperHex n) = some n := by
  revert h
  revert n
  decide

/-- An escaped byte is read as that byte. -/
theorem percentDecode_escapeByte (byte : UInt8) (t : Text) :
    percentDecode (escapeByte byte ++ t) = byte :: percentDecode t := by
  have hbound : byte.toNat < 256 := byte.toNat_lt
  have hhigh := hexValue?_upperHex (n := byte.toNat / 16) (by omega)
  have hlow := hexValue?_upperHex (n := byte.toNat % 16) (by omega)
  have hwhole : byte.toNat / 16 * 16 + byte.toNat % 16 = byte.toNat := by omega
  have hdigits : digits? (upperHex (byte.toNat / 16) :: upperHex (byte.toNat % 16) :: t) =
      some (byte, t) := by
    simp only [digits?, hhigh, hlow, Option.bind_some, Option.map_some, hwhole, UInt8.ofNat_toNat]
  have hescape : escapeByte byte ++ t =
      '%' :: upperHex (byte.toNat / 16) :: upperHex (byte.toNat % 16) :: t := rfl
  rw [hescape, percentDecode_percent, hdigits]

theorem percentDecode_escapeBytes (bytes : List UInt8) (t : Text) :
    percentDecode (bytes.flatMap escapeByte ++ t) = bytes ++ percentDecode t := by
  induction bytes with
  | nil => rfl
  | cons byte rest ih =>
    rw [List.flatMap_cons, List.append_assoc, percentDecode_escapeByte, ih, List.cons_append]

/-! ## Parts of a URI -/

namespace Part

variable (p : Part) {c : Char}

theorem encode_cons_of_escaped (h : p.isEscaped c = true) (t : Text) :
    p.encode (c :: t) = (String.utf8EncodeChar c).flatMap escapeByte ++ p.encode t := by
  rw [encode, List.flatMap_cons, encodeChar, if_pos h]
  rfl

theorem encode_cons_of_kept (h : p.isEscaped c = false) (t : Text) :
    p.encode (c :: t) = c :: p.encode t := by
  rw [encode, List.flatMap_cons, encodeChar, if_neg (Bool.eq_false_iff.mp h)]
  rfl

/-- Every part lets the percent sign stand. -/
theorem isEscaped_percent : p.isEscaped '%' = false := by cases p <;> decide

theorem hexValue?_of_mem_escapes (h : c ∈ p.escapes) : hexValue? c = none := by
  have hall : (p.escapes.all fun c => (hexValue? c).isNone) = true := by cases p <;> decide
  exact Option.isNone_iff_eq_none.mp (List.all_eq_true.mp hall c h)

/-- What a part does not let stand is no hexadecimal digit. -/
theorem hexValue?_of_escaped (h : p.isEscaped c = true) : hexValue? c = none := by
  simp only [isEscaped, Bool.or_eq_true, decide_eq_true_eq, List.contains_iff_mem] at h
  rcases h with hbounds | hmem
  · have houtside : c.toNat < 0x20 ∨ 0x7F ≤ c.toNat := hbounds
    simp only [hexValue?, Char.le_def, UInt32.le_iff_toNat_le]
    have hval : c.val.toNat = c.toNat := rfl
    rw [hval, if_neg (by simp; omega), if_neg (by simp; omega), if_neg (by simp; omega)]
  · exact p.hexValue?_of_mem_escapes hmem

/-- An escaped character starts with a percent sign. -/
theorem exists_encode_of_escaped (h : p.isEscaped c = true) (t : Text) :
    ∃ rest, p.encode (c :: t) = '%' :: rest := by
  rw [p.encode_cons_of_escaped h]
  cases hbytes : String.utf8EncodeChar c with
  | nil => exact absurd hbytes (String.utf8EncodeChar_ne_nil)
  | cons byte more => exact ⟨_, rfl⟩

/-- Escaping neither makes two digits nor takes them away. -/
theorem digits?_encode (t : Text) :
    digits? (p.encode t) = (digits? t).map fun (byte, rest) => (byte, p.encode rest) := by
  cases t with
  | nil => rfl
  | cons a rest =>
    cases ha : p.isEscaped a with
    | true =>
      obtain ⟨more, hmore⟩ := p.exists_encode_of_escaped ha rest
      rw [hmore, digits?_of_hexValue? (p.hexValue?_of_escaped ha), digits?_of_hexValue? (by decide)]
      rfl
    | false =>
      rw [p.encode_cons_of_kept ha]
      cases rest with
      | nil => rfl
      | cons b rest =>
        cases hb : p.isEscaped b with
        | true =>
          obtain ⟨more, hmore⟩ := p.exists_encode_of_escaped hb rest
          have hsign : hexValue? '%' = none := by decide
          rw [hmore]
          simp [digits?, p.hexValue?_of_escaped hb, hsign]
        | false =>
          rw [p.encode_cons_of_kept hb]
          cases hx : hexValue? a <;> cases hy : hexValue? b <;> simp [digits?, hx, hy]

end Part

/-- Escaping does not change the bytes that a part stands for. -/
theorem percentDecode_encode (p : Part) (t : Text) :
    percentDecode (p.encode t) = percentDecode t := by
  induction hn : t.length using Nat.strongRecOn generalizing t with
  | ind n ih =>
    cases t with
    | nil => rfl
    | cons c rest =>
      have hrest : percentDecode (p.encode rest) = percentDecode rest :=
        ih rest.length (by simp [← hn]) rest rfl
      by_cases hpercent : c = '%'
      · subst hpercent
        rw [p.encode_cons_of_kept p.isEscaped_percent, percentDecode_percent,
          percentDecode_percent, p.digits?_encode]
        cases hdigits : digits? rest with
        | none => simp only [Option.map_none, hrest]
        | some found =>
          obtain ⟨byte, more⟩ := found
          have hlt := length_lt_of_digits? hdigits
          simp only [Option.map_some, ih more.length (by simp [← hn]; omega) more rfl]
      · rw [percentDecode_cons_of_ne hpercent, ← hrest]
        cases hescaped : p.isEscaped c with
        | true => rw [p.encode_cons_of_escaped hescaped, percentDecode_escapeBytes]
        | false => rw [p.encode_cons_of_kept hescaped, percentDecode_cons_of_ne hpercent]

/-! ## Places on this machine -/

/-- Escaping the pieces of a path does not change the place that a URI names. -/
theorem path?_encode (u : Uri) (pieces : List Text) :
    path? { u with trail := .pieces (pieces.map Part.path.encode) } =
      path? { u with trail := .pieces pieces } := by
  cases pieces with
  | nil => rfl
  | cons piece rest =>
    simp only [path?, List.map_cons, isHere, List.flatMap_cons, List.flatMap_map,
      percentDecode_encode]

/-- What starts with a byte still does when a drive letter at its end is closed. -/
theorem head_closeDrive (byte : UInt8) (bytes : List UInt8) :
    ∃ more, closeDrive (byte :: bytes) = byte :: more := by
  unfold closeDrive
  split
  · split
    · exact ⟨_, rfl⟩
    · exact ⟨_, rfl⟩
  · exact ⟨_, rfl⟩

/-- A place that a URI names is named from the root. -/
theorem isAbsolute_of_filePath? {uri path : String} (h : filePath? uri = some path) :
    Path.isAbsolute path.toList = true := by
  simp only [filePath?, Option.map_eq_some_iff, Option.bind_eq_some_iff] at h
  obtain ⟨t, ⟨u, -, hpath⟩, rfl⟩ := h
  unfold path? at hpath
  split at hpath
  · rename_i piece rest _
    split at hpath
    · cases hpath
      obtain ⟨more, hmore⟩ : ∃ more,
          closeDrive ((piece :: rest).flatMap fun piece => 0x2F :: percentDecode piece) =
            0x2F :: more :=
        head_closeDrive _ _
      rw [String.toList_ofList, hmore]
      rfl
    · cases hpath
  · cases hpath

end LobsterServer.Uri
