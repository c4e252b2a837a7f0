import Mathlib.Data.List.TakeWhile
import LobsterServer.Path
import LobsterServer.Scratch
import LobsterServer.Uri.Percent
import LobsterServer.Proofs.Text.Pieces

set_option autoImplicit false

/-!
# The path of a scratch copy

The compiler is given the whole path of a scratch copy and names it in its reports.  The server
knows the copy by its place within the scratch directory.  Whatever that directory is, the whole
path has its components and then those of the place within it: the sub-directory for the URI,
which no other URI has as long as the digests differ, and the file name, unless that is one which
no file can have.
-/

namespace LobsterServer

namespace Path

/-- The path starts with a character that can only be part of a name. -/
def StartsWithName (p : Text) : Prop := ∃ c rest, p = c :: rest ∧ c ≠ '/' ∧ c ≠ '.'

variable {p : Text}

theorem StartsWithName.ne_nil (h : StartsWithName p) : p ≠ [] := by
  obtain ⟨c, rest, rfl, -⟩ := h
  exact List.cons_ne_nil c rest

theorem StartsWithName.append (h : StartsWithName p) (q : Text) : StartsWithName (p ++ q) := by
  obtain ⟨c, rest, rfl, hname⟩ := h
  exact ⟨c, rest ++ q, rfl, hname⟩

theorem StartsWithName.isAbsolute_eq (h : StartsWithName p) : isAbsolute p = false := by
  obtain ⟨c, rest, rfl, hslash, -⟩ := h
  exact decide_eq_false fun hfirst => hslash (Option.some.inj hfirst)

theorem StartsWithName.startsHere_eq (h : StartsWithName p) : startsHere p = false := by
  obtain ⟨c, rest, rfl, -, hdot⟩ := h
  have hwhole : c :: rest ≠ ['.'] := fun hsame => hdot (List.cons.inj hsame).1
  have hprefix : ['.', '/'].isPrefixOf (c :: rest) = false := by
    rw [List.isPrefixOf, beq_false_of_ne (Ne.symm hdot), Bool.false_and]
  rw [startsHere, hprefix, decide_eq_false hwhole, Bool.false_or]

/-- The components of a path that starts with a name are its pieces. -/
theorem StartsWithName.components_eq (h : StartsWithName p) :
    components p = (Text.splitOn '/' p).filterMap pieceComponent? := by
  rw [components, headLength, h.isAbsolute_eq, h.startsHere_eq]
  rfl

theorem StartsWithName.pieceComponent?_eq (h : StartsWithName p) :
    pieceComponent? p = some (.name p) := by
  obtain ⟨c, rest, rfl, -, hdot⟩ := h
  simp [pieceComponent?, hdot]

theorem headLength_le_one (p : Text) : headLength p ≤ 1 := by
  unfold headLength
  split <;> omega

/-- What stands behind a separator adds its own components. -/
theorem components_append_slash {front : Text} (hne : front ≠ []) (back : Text) :
    components (front ++ '/' :: back) =
      components front ++ (Text.splitOn '/' back).filterMap pieceComponent? := by
  obtain ⟨d, rest, rfl⟩ := List.exists_cons_of_ne_nil hne
  have habsolute : isAbsolute (d :: rest ++ '/' :: back) = isAbsolute (d :: rest) := rfl
  have hhere : startsHere (d :: rest ++ '/' :: back) = startsHere (d :: rest) := by
    cases rest with
    | nil => simp [startsHere, List.isPrefixOf, Bool.beq_eq_decide_eq, eq_comm]
    | cons e rest => simp [startsHere, List.isPrefixOf]
  have hhead : headLength (d :: rest ++ '/' :: back) = headLength (d :: rest) := by
    unfold headLength
    rw [habsolute, hhere]
  have hdrop : (d :: rest ++ '/' :: back).drop (headLength (d :: rest)) =
      (d :: rest).drop (headLength (d :: rest)) ++ '/' :: back :=
    List.drop_append_of_le_length
      (Nat.le_trans (headLength_le_one _) (Nat.succ_le_succ (Nat.zero_le _)))
  rw [components, components, habsolute, hhere, hhead, hdrop, Text.splitOn_append_cons,
    List.filterMap_append, List.append_assoc]

@[simp] theorem join_eq_nil {front back : Text} :
    join front back = [] ↔ front = [] ∧ back = [] := by
  unfold join
  by_cases habsolute : isAbsolute back = true
  · have hback : back ≠ [] := by
      rintro rfl
      cases habsolute
    rw [if_pos habsolute]
    exact iff_of_false hback fun h => hback h.2
  · rw [if_neg habsolute]
    split
    · exact List.append_eq_nil_iff
    · rename_i hfront
      exact iff_of_false (by simp) fun h => hfront (.inl h.1)

/-- What stands at the end of a path is not touched when the path is joined to a directory. -/
theorem join_append (front : Text) (h : StartsWithName p) (q : Text) :
    join front (p ++ q) = join front p ++ q := by
  unfold join
  rw [(h.append q).isAbsolute_eq, h.isAbsolute_eq, if_neg Bool.false_ne_true,
    if_neg Bool.false_ne_true]
  split <;> simp only [List.append_assoc, List.cons_append]

/-- The last piece is the one behind the last separator. -/
theorem lastPiece_append_slash {name : Text} (h : '/' ∉ name) (front : Text) :
    lastPiece (front ++ '/' :: name) = name := by
  rw [lastPiece, Text.splitOn_append_cons, Text.splitOn_of_notMem h]
  simp

/-- A path that is joined to a directory adds its components to those of the directory, if it
starts with a name. -/
theorem components_join (front : Text) (h : StartsWithName p) :
    components (join front p) = components front ++ components p := by
  unfold join
  rw [h.isAbsolute_eq, if_neg Bool.false_ne_true, h.components_eq]
  by_cases hempty : front = []
  · subst hempty
    exact h.components_eq
  by_cases hlast : front.getLast? = some '/'
  · rw [if_pos (.inr hlast)]
    obtain ⟨earlier, rfl⟩ := List.getLast?_eq_some_iff.mp hlast
    rw [List.append_assoc, List.singleton_append]
    by_cases hroot : earlier = []
    · subst hroot
      rfl
    · rw [components_append_slash hroot, components_append_slash hroot]
      simp [Text.splitOn, pieceComponent?]
  · rw [if_neg (not_or.mpr ⟨hempty, hlast⟩), components_append_slash hempty]

end Path

namespace Scratch

/-! ## The sub-directory for a URI -/

/-- The characters of a sub-directory are hexadecimal digits. -/
theorem exists_digit_of_mem_toDigits (n : Nat) :
    ∀ c ∈ Nat.toDigits 16 n, ∃ d < 16, c = d.digitChar := by
  induction n using Nat.strongRecOn with
  | ind n ih =>
    intro c hc
    by_cases hn : n < 16
    · rw [Nat.toDigits_of_lt_base hn, List.mem_singleton] at hc
      exact ⟨n, hn, hc⟩
    · rw [Nat.toDigits_of_base_le (by decide) (Nat.le_of_not_lt hn), List.mem_append,
        List.mem_singleton] at hc
      rcases hc with hfront | hlast
      · exact ih (n / 16) (by omega) c hfront
      · exact ⟨n % 16, Nat.mod_lt n (by decide), hlast⟩

/-- A digit of a number is no part of a path but of a name. -/
theorem digitChar_ne {d : Nat} (h : d < 16) : d.digitChar ≠ '/' ∧ d.digitChar ≠ '.' := by
  revert h
  revert d
  decide

theorem ne_of_mem_hexDigits {n : UInt64} {c : Char} (h : c ∈ hexDigits n) : c ≠ '/' ∧ c ≠ '.' := by
  rcases List.mem_append.mp h with hzero | hdigit
  · rw [List.eq_of_mem_replicate hzero]
    decide
  · obtain ⟨d, hd, rfl⟩ := exists_digit_of_mem_toDigits n.toNat c hdigit
    exact digitChar_ne hd

/-- The number that hexadecimal digits stand for. -/
def hexNumber (t : Text) : Nat := t.foldl (fun n c => n * 16 + (Uri.hexValue? c).getD 0) 0

theorem hexValue?_digitChar {d : Nat} (h : d < 16) : Uri.hexValue? d.digitChar = some d := by
  revert h
  revert d
  decide

theorem hexNumber_toDigits (n : Nat) : hexNumber (Nat.toDigits 16 n) = n := by
  induction n using Nat.strongRecOn with
  | ind n ih =>
    by_cases hn : n < 16
    · simp [hexNumber, Nat.toDigits_of_lt_base hn, hexValue?_digitChar hn]
    · have hfront := ih (n / 16) (by omega)
      have hlast := hexValue?_digitChar (Nat.mod_lt n (by decide : 0 < 16))
      unfold hexNumber at hfront ⊢
      rw [Nat.toDigits_of_base_le (by decide) (Nat.le_of_not_lt hn), List.foldl_append, hfront]
      simp only [List.foldl_cons, List.foldl_nil, hlast, Option.getD_some]
      omega

/-- Zeros in front of a number do not change it. -/
theorem hexNumber_replicate_append (k : Nat) (t : Text) :
    hexNumber (List.replicate k '0' ++ t) = hexNumber t := by
  induction k with
  | zero => rfl
  | succ k ih => exact ih

theorem hexNumber_hexDigits (n : UInt64) : hexNumber (hexDigits n) = n.toNat := by
  unfold hexDigits
  rw [hexNumber_replicate_append, hexNumber_toDigits]

/-- URIs with different digests have different sub-directories. -/
theorem slot_ne {uri other : String} (h : digest other.toList ≠ digest uri.toList) :
    slot other ≠ slot uri := by
  intro hsame
  have hdigits : hexDigits (digest other.toList) = hexDigits (digest uri.toList) :=
    String.ofList_injective hsame
  have hnumbers := congrArg hexNumber hdigits
  rw [hexNumber_hexDigits, hexNumber_hexDigits] at hnumbers
  exact h (UInt64.toNat_inj.mp hnumbers)

/-! ## The place within the scratch directory -/

theorem toList_slot (uri : String) : (slot uri).toList = hexDigits (digest uri.toList) :=
  String.toList_ofList

theorem toList_relativePath (uri : String) :
    (relativePath uri).toList = (slot uri).toList ++ '/' :: Path.shownName uri.toList := by
  simp [relativePath, fileName]

/-- A sub-directory starts with a digit. -/
theorem startsWithName_slot (uri : String) : Path.StartsWithName (slot uri).toList := by
  rw [toList_slot]
  have hne : hexDigits (digest uri.toList) ≠ [] :=
    List.append_ne_nil_of_right_ne_nil _ Nat.toDigits_ne_nil
  obtain ⟨c, rest, hdigits⟩ := List.exists_cons_of_ne_nil hne
  refine ⟨c, rest, hdigits, ne_of_mem_hexDigits (n := digest uri.toList) ?_⟩
  rw [hdigits]
  exact List.mem_cons_self

theorem notMem_slot (uri : String) : '/' ∉ (slot uri).toList := by
  rw [toList_slot]
  exact fun hmem => (ne_of_mem_hexDigits hmem).1 rfl

theorem startsWithName_relativePath (uri : String) :
    Path.StartsWithName (relativePath uri).toList := by
  rw [toList_relativePath]
  exact (startsWithName_slot uri).append _

@[simp] theorem relativePath_ne_empty (uri : String) : relativePath uri ≠ "" := by
  intro hempty
  have hne := (startsWithName_relativePath uri).ne_nil
  rw [hempty] at hne
  exact hne rfl

/-- A file name has no separator in it. -/
theorem notMem_fileName (uri : Text) : '/' ∉ Path.shownName uri := by
  intro hmem
  have hpasses := List.mem_takeWhile_imp (List.mem_reverse.mp hmem)
  exact absurd hpasses (by decide)

/-- The sub-directory for a URI is one name. -/
theorem components_slot (uri : String) :
    Path.components (slot uri).toList = [.name (slot uri).toList] := by
  have hname := startsWithName_slot uri
  rw [hname.components_eq, Text.splitOn_of_notMem (notMem_slot uri),
    List.filterMap_cons_some hname.pieceComponent?_eq, List.filterMap_nil]

/-- The place of a copy is its sub-directory, and the file name in it, if a file can have this
name. -/
theorem components_relativePath (uri : String) :
    Path.components (relativePath uri).toList =
      .name (slot uri).toList :: (Path.pieceComponent? (Path.shownName uri.toList)).toList := by
  rw [toList_relativePath, Path.components_append_slash (startsWithName_slot uri).ne_nil,
    components_slot, Text.splitOn_of_notMem (notMem_fileName uri.toList), List.singleton_append]
  cases hpiece : Path.pieceComponent? (Path.shownName uri.toList) <;> simp [hpiece]

theorem components_join_slot (root : Text) (uri : String) :
    Path.components (Path.join root (slot uri).toList) =
      Path.components root ++ [.name (slot uri).toList] := by
  rw [Path.components_join root (startsWithName_slot uri), components_slot]

/-- The path of a copy has the components of the scratch directory and then those of its place. -/
theorem components_filePath (s : Scratch) (uri : String) :
    Path.components (s.filePath uri).toList =
      Path.components s.root.toList ++ Path.components (relativePath uri).toList := by
  rw [filePath, String.toList_ofList, Path.components_join _ (startsWithName_relativePath uri)]

/-- The last piece of the path of a copy is the file name. -/
theorem lastPiece_filePath (s : Scratch) (uri : String) :
    Path.lastPiece (s.filePath uri).toList = Path.shownName uri.toList := by
  rw [filePath, String.toList_ofList, toList_relativePath,
    Path.join_append _ (startsWithName_slot uri)]
  exact Path.lastPiece_append_slash (notMem_fileName uri.toList) _

/-- The path of a scratch copy ends in its place within the scratch directory. -/
theorem endsWith_filePath (s : Scratch) (uri : String) :
    Path.endsWith (s.filePath uri).toList (relativePath uri).toList = true := by
  rw [Path.endsWith, List.isSuffixOf_iff_suffix, components_filePath]
  exact List.suffix_append _ _

end Scratch

end LobsterServer
