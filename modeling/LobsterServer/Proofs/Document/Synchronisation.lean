import LobsterServer.Document.Basic
import LobsterServer.Proofs.Text.Place
import LobsterServer.Proofs.Text.Units

set_option autoImplicit false

/-!
# Server and editor hold the same text

An editor holds a document as UTF-16 code units and replaces the units between two positions.  The
server holds characters and looks for the place of a position by counting the units that it passes.
The main statement says that the two stay in step through any changes whose ranges the editor may
name, and that a range which it may not name still cuts the text between characters.
-/

namespace LobsterServer

namespace Text

/-! ## The editor's side -/

/-- The units in front of a line, if there are that many lines. -/
def lineStart? : Nat → List UInt16 → Option Nat
  | 0, _ => some 0
  | _ + 1, [] => none
  | line + 1, u :: us =>
    (if u = lineFeed then lineStart? line us else lineStart? (line + 1) us).map (· + 1)

/-- The units of the first line. -/
def lineLength (us : List UInt16) : Nat := (us.takeWhile (· ≠ lineFeed)).length

/-- Whether the place after `i` units lies between the two units of a surrogate pair. -/
def insidePair (us : List UInt16) : Nat → Bool
  | 0 => false
  | i + 1 => us[i]?.any isHighSurrogate && us[i + 1]?.any isLowSurrogate

/-- The units in front of a position that the editor may name: it stands on a line of the text, not
behind the end of that line and not inside a surrogate pair. -/
def unitIndex? (us : List UInt16) (p : Position) : Option Nat :=
  (lineStart? p.line.toNat us).bind fun start =>
    if p.character.toNat ≤ lineLength (us.drop start) ∧
        insidePair us (start + p.character.toNat) = false then
      some (start + p.character.toNat)
    else none

/-- The editor's text after a change, if the editor may make it. -/
def edit? (us : List UInt16) (c : Change) : Option (List UInt16) :=
  match c.range with
  | none => some (units c.text)
  | some r =>
    match unitIndex? us r.start, unitIndex? us r.end with
    | some start, some stop =>
      if r.start ≤ r.end then some (us.take start ++ units c.text ++ us.drop stop) else none
    | _, _ => none

/-! ## Lines -/

@[simp] theorem lineStart?_zero (us : List UInt16) : lineStart? 0 us = some 0 := by
  cases us <;> rfl

/-- Units that end no line are passed on the way to a later line. -/
theorem lineStart?_append {line : Nat} {front : List UInt16} (h : lineFeed ∉ front)
    (us : List UInt16) :
    lineStart? (line + 1) (front ++ us) =
      (lineStart? (line + 1) us).map (· + front.length) := by
  induction front with
  | nil => simp
  | cons u front ih =>
    have hne : u ≠ lineFeed := fun heq => h (heq ▸ List.mem_cons_self)
    have hrest : lineFeed ∉ front := fun hmem => h (List.mem_cons_of_mem _ hmem)
    rw [List.cons_append, lineStart?, if_neg hne, ih hrest, Option.map_map]
    rfl

/-- The start of a line of units is the start of a line of characters, and from there on only the
column counts. -/
theorem lineIndex_of_lineStart? {line start : Nat} {t : Text}
    (h : lineStart? line (units t) = some start) :
    ∃ i, unitLength (t.take i) = start ∧
      ∀ column, lineIndex column line t = i + columnIndex column 0 (t.drop i) := by
  induction t generalizing line start with
  | nil =>
    cases line with
    | zero =>
      cases h
      exact ⟨0, rfl, fun column => by simp [lineIndex]⟩
    | succ line => cases h
  | cons c t ih =>
    cases line with
    | zero =>
      rw [lineStart?_zero] at h
      cases h
      exact ⟨0, rfl, fun column => by simp [lineIndex]⟩
    | succ line =>
      by_cases hc : c = '\n'
      · subst hc
        rw [units_cons, charToUnits_lineFeed, List.singleton_append, lineStart?, if_pos rfl] at h
        obtain ⟨before, hbefore, rfl⟩ := Option.map_eq_some_iff.mp h
        obtain ⟨i, hi, hindex⟩ := ih hbefore
        refine ⟨i + 1, ?_, fun column => ?_⟩
        · rw [List.take_succ_cons, unitLength_cons, hi]
          exact Nat.add_comm 1 before
        · simp only [lineIndex, if_true, List.drop_succ_cons, hindex column]
          omega
      · rw [units_cons, lineStart?_append (lineFeed_notMem_charToUnits hc)] at h
        obtain ⟨before, hbefore, rfl⟩ := Option.map_eq_some_iff.mp h
        obtain ⟨i, hi, hindex⟩ := ih hbefore
        refine ⟨i + 1, ?_, fun column => ?_⟩
        · rw [List.take_succ_cons, unitLength_cons, hi, length_charToUnits]
          exact Nat.add_comm _ _
        · simp only [lineIndex, if_neg hc, List.drop_succ_cons, hindex column]
          omega

/-! ## Columns -/

theorem lineLength_append {front : List UInt16} (h : lineFeed ∉ front) (us : List UInt16) :
    lineLength (front ++ us) = front.length + lineLength us := by
  have hall : ∀ u ∈ front, decide (u ≠ lineFeed) = true := fun u hu =>
    decide_eq_true fun heq => h (heq ▸ hu)
  rw [lineLength, List.takeWhile_append_of_pos hall, List.length_append, lineLength]

theorem insidePair_drop {us : List UInt16} (n : Nat) {i : Nat}
    (h : insidePair us (n + i) = false) : insidePair (us.drop n) i = false := by
  cases i with
  | zero => rfl
  | succ i =>
    simp only [insidePair, List.getElem?_drop]
    exact h

/-- A place that a column may name is not inside a character. -/
theorem charUnits_le_of_column {c : Char} {t : Text} {k : Nat} (hpos : 0 < k)
    (h : insidePair (units (c :: t)) k = false) : charUnits c ≤ k := by
  by_cases hc : charUnits c = 1
  · omega
  · obtain ⟨high, low, hpair, hhigh, hlow⟩ := charToUnits_of_pair hc
    have hlength : charUnits c = 2 := by rw [← length_charToUnits, hpair]; rfl
    have hk : k ≠ 1 := by
      rintro rfl
      simp [insidePair, units_cons, hpair, hhigh, hlow] at h
    omega

/-- A column that the first line has leads past as many units. -/
theorem unitLength_take_columnIndex {column passed : UInt32} {k : Nat} {t : Text}
    (hcolumn : column.toNat = passed.toNat + k) (hk : k ≤ lineLength (units t))
    (hpair : insidePair (units t) k = false)
    (hsmall : passed.toNat + unitLength t < 0x100000000) :
    unitLength (t.take (columnIndex column passed t)) = k := by
  induction t generalizing passed k with
  | nil =>
    have hzero : k = 0 := Nat.le_zero.mp hk
    rw [hzero]
    rfl
  | cons c t ih =>
    by_cases hstop : c = '\n' ∨ column ≤ passed
    · have hzero : k = 0 := by
        rcases hstop with rfl | hle
        · rw [units_cons, charToUnits_lineFeed, List.singleton_append] at hk
          simpa [lineLength] using hk
        · have hle' := UInt32.le_iff_toNat_le.mp hle
          omega
      rw [columnIndex, if_pos hstop, hzero]
      rfl
    · rw [not_or] at hstop
      obtain ⟨hc, hpassed⟩ := hstop
      have hpos : 0 < k := by
        have hlt := mt UInt32.le_iff_toNat_le.mpr hpassed
        omega
      have hwidth := charUnits_le_of_column hpos hpair
      obtain ⟨rest, rfl⟩ := Nat.exists_eq_add_of_le hwidth
      rw [unitLength_cons] at hsmall
      have hnext : (passed + UInt32.ofNat (charUnits c)).toNat = passed.toNat + charUnits c := by
        rw [UInt32.toNat_add, UInt32.toNat_ofNat']
        omega
      have hrest : unitLength (t.take (columnIndex column (passed + UInt32.ofNat (charUnits c)) t))
          = rest := by
        refine ih (by omega) ?_ ?_ (by omega)
        · rw [units_cons, lineLength_append (lineFeed_notMem_charToUnits hc),
            length_charToUnits] at hk
          omega
        · have hdrop := insidePair_drop (charUnits c) hpair
          rwa [units_cons, List.drop_left' (length_charToUnits c)] at hdrop
      rw [columnIndex, if_neg (by simp [hc, hpassed]), List.take_succ_cons, unitLength_cons, hrest]

/-! ## Positions -/

/-- The place of a position that the editor may name has as many units in front of it as the editor
counts. -/
theorem unitLength_take_index {t : Text} {p : Position} {place : Nat}
    (hsmall : unitLength t < 0x100000000) (h : unitIndex? (units t) p = some place) :
    unitLength (t.take (index t p)) = place := by
  obtain ⟨start, hstart, hplace⟩ := Option.bind_eq_some_iff.mp h
  split at hplace
  · rename_i hnamed
    obtain ⟨hcolumn, hpair⟩ := hnamed
    cases hplace
    obtain ⟨i, rfl, hindex⟩ := lineIndex_of_lineStart? hstart
    rw [drop_units] at hcolumn
    have hpair' := insidePair_drop _ hpair
    rw [drop_units] at hpair'
    have hrest : unitLength (t.drop i) < 0x100000000 := by
      have hsplit : unitLength t = unitLength (t.take i) + unitLength (t.drop i) := by
        rw [← unitLength_append, List.take_append_drop]
      omega
    have hzero : p.character.toNat = (0 : UInt32).toNat + p.character.toNat :=
      (Nat.zero_add _).symm
    have hk := unitLength_take_columnIndex hzero hcolumn hpair' (by simpa using hrest)
    rw [index, hindex, List.take_add, unitLength_append, hk]
  · cases hplace

/-- A later line starts behind the end of an earlier one. -/
theorem lineStart?_lt {us : List UInt16} {line later start next : Nat} (hlt : line < later)
    (hstart : lineStart? line us = some start) (hnext : lineStart? later us = some next) :
    start + lineLength (us.drop start) < next := by
  induction us generalizing line later start next with
  | nil =>
    obtain ⟨later, rfl⟩ := Nat.exists_eq_succ_of_ne_zero (Nat.ne_zero_of_lt hlt)
    cases hnext
  | cons u us ih =>
    obtain ⟨later, rfl⟩ := Nat.exists_eq_succ_of_ne_zero (Nat.ne_zero_of_lt hlt)
    obtain ⟨next, hrest, rfl⟩ := Option.map_eq_some_iff.mp hnext
    cases line with
    | zero =>
      cases hstart
      by_cases hu : u = lineFeed
      · simp [lineLength, hu]
      · rw [if_neg hu] at hrest
        have hbehind := ih (Nat.zero_lt_succ later) (lineStart?_zero us) hrest
        have hfront : lineFeed ∉ [u] := by simpa using Ne.symm hu
        have hlonger : lineLength (u :: us) = 1 + lineLength us := lineLength_append hfront us
        simp only [List.drop_zero, Nat.zero_add] at hbehind ⊢
        omega
    | succ line =>
      obtain ⟨start, hbefore, rfl⟩ := Option.map_eq_some_iff.mp hstart
      rw [List.drop_succ_cons]
      by_cases hu : u = lineFeed
      · rw [if_pos hu] at hrest hbefore
        have hbehind := ih (Nat.lt_of_succ_lt_succ hlt) hbefore hrest
        omega
      · rw [if_neg hu] at hrest hbefore
        have hbehind := ih hlt hbefore hrest
        omega

/-- The editor's places are ordered as its positions. -/
theorem unitIndex?_le {us : List UInt16} {p q : Position} {i j : Nat} (h : p ≤ q)
    (hp : unitIndex? us p = some i) (hq : unitIndex? us q = some j) : i ≤ j := by
  obtain ⟨start, hstart, hi⟩ := Option.bind_eq_some_iff.mp hp
  obtain ⟨next, hnext, hj⟩ := Option.bind_eq_some_iff.mp hq
  split at hi
  · rename_i hnamed
    split at hj
    · cases hi
      cases hj
      rcases h with hline | ⟨hline, hcharacter⟩
      · have hbehind := lineStart?_lt (UInt32.lt_iff_toNat_lt.mp hline) hstart hnext
        omega
      · rw [hline, hnext] at hstart
        cases hstart
        exact Nat.add_le_add_left (UInt32.le_iff_toNat_le.mp hcharacter) _
    · cases hj
  · cases hi

/-! ## Changes -/

/-- An incremental change that the editor may make leads it to the encoding of the server's text. -/
theorem units_splice {t new : Text} {r : Range} {start stop : Nat}
    (hsmall : unitLength t < 0x100000000) (hstart : unitIndex? (units t) r.start = some start)
    (hstop : unitIndex? (units t) r.end = some stop) (hle : r.start ≤ r.end) :
    units (t.splice r new) = (units t).take start ++ units new ++ (units t).drop stop := by
  have horder := unitIndex?_le hle hstart hstop
  have hfirst := unitLength_take_index hsmall hstart
  have hlast := unitLength_take_index hsmall hstop
  have hmax : unitLength (t.take (max (index t r.end) (index t r.start))) = stop := by
    rcases Nat.le_total (index t r.start) (index t r.end) with h | h
    · rw [Nat.max_eq_left h, hlast]
    · have hback := unitLength_take_le t h
      rw [Nat.max_eq_right h]
      omega
  simp only [splice, span, units_append]
  rw [← hfirst, take_units, ← hmax, drop_units]

end Text

namespace Document

open Text

/-- A change that the editor may make leads it to the encoding of the server's text. -/
theorem units_applyChange {t : Text} {c : Change} {us : List UInt16}
    (hsmall : unitLength t < 0x100000000) (h : edit? (units t) c = some us) :
    units (applyChange t c) = us := by
  unfold edit? at h
  unfold applyChange
  cases hrange : c.range with
  | none =>
    simp only [hrange, Option.some.injEq] at h
    exact h
  | some r =>
    simp only [hrange] at h
    split at h
    · rename_i start stop hstart hstop
      split at h
      · rename_i hle
        cases h
        exact units_splice hsmall hstart hstop hle
      · cases h
    · cases h

theorem units_applyChanges {changes : List Change} {t : Text} {us : List UInt16}
    (hsmall : ∀ n, unitLength ((changes.take n).foldl applyChange t) < 0x100000000)
    (h : changes.foldlM edit? (units t) = some us) : units (changes.foldl applyChange t) = us := by
  induction changes generalizing t with
  | nil => exact Option.some.inj h
  | cons c changes ih =>
    rw [List.foldlM_cons] at h
    obtain ⟨next, hnext, hrest⟩ := Option.bind_eq_some_iff.mp h
    rw [← units_applyChange (hsmall 0) hnext] at hrest
    exact ih (fun n => hsmall (n + 1)) hrest

/-- Server and editor stay in step.  Through changes that the editor may make, and under which the
text stays below `2 ^ 32` units, the server's text remains the one that the editor holds; and
whatever range a change names, the text is cut between characters and only what lies between the
two cuts is replaced. -/
theorem applyChanges_in_step (d : Document) (changes : List Change) (version : Int) :
    ((∀ n, unitLength (d.applyChanges (changes.take n) version).text < 0x100000000) →
      ∀ us, changes.foldlM edit? (units d.text) = some us →
        units (d.applyChanges changes version).text = us) ∧
    ∀ before c after r, changes = before ++ c :: after → c.range = some r →
      let t := (d.applyChanges before version).text
      IsReplacement t (offset t r.start) (max (offset t r.end) (offset t r.start)) c.text
        (d.applyChanges (before ++ [c]) version).text := by
  refine ⟨fun hsmall us h => units_applyChanges hsmall h, ?_⟩
  intro before c after r _ hrange t
  have hnext : (d.applyChanges (before ++ [c]) version).text = t.splice r c.text := by
    simp only [applyChanges, List.foldl_append, List.foldl_cons, List.foldl_nil, applyChange,
      hrange]
    rfl
  rw [hnext]
  exact isReplacement_splice t r c.text

/-- The clef is a surrogate pair.  An edit in front of it, one that takes it out together with the
end of its line, and one on the line that comes of it, with a new text at the end. -/
theorem applyChanges_in_step_around_a_pair :
    ∃ d changes us, d = Document.fresh "a" ['é', Char.ofNat 0x1D11E, '\n', 'v'] 1 none ∧
      changes = [⟨some ⟨⟨0, 0⟩, ⟨0, 1⟩⟩, ['a', '\n']⟩, ⟨some ⟨⟨1, 0⟩, ⟨2, 0⟩⟩, []⟩,
        ⟨some ⟨⟨1, 1⟩, ⟨1, 1⟩⟩, [Char.ofNat 0x1D11E]⟩] ∧
      (∀ n, unitLength (d.applyChanges (changes.take n) 2).text < 0x100000000) ∧
      units d.text = [0xE9, 0xD834, 0xDD1E, 10, 0x76] ∧
      changes.foldlM edit? (units d.text) = some us ∧ us = [0x61, 10, 0x76, 0xD834, 0xDD1E] ∧
      units (d.applyChanges changes 2).text = us := by
  let d := Document.fresh "a" ['é', Char.ofNat 0x1D11E, '\n', 'v'] 1 none
  let changes : List Change :=
    [⟨some ⟨⟨0, 0⟩, ⟨0, 1⟩⟩, ['a', '\n']⟩, ⟨some ⟨⟨1, 0⟩, ⟨2, 0⟩⟩, []⟩,
      ⟨some ⟨⟨1, 1⟩, ⟨1, 1⟩⟩, [Char.ofNat 0x1D11E]⟩]
  have hsmall : ∀ n, unitLength (d.applyChanges (changes.take n) 2).text < 0x100000000 := by
    intro n
    match n with
    | 0 | 1 | 2 => decide
    | n + 3 =>
      rw [List.take_of_length_le (Nat.le_add_left 3 n)]
      decide
  exact ⟨d, changes, _, rfl, rfl, hsmall, by decide, by decide, rfl,
    (applyChanges_in_step d changes 2).1 hsmall _ (by decide)⟩

end Document

end LobsterServer
