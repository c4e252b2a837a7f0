import LobsterServer.Proofs.Document.Fixes

set_option autoImplicit false

/-!
# Which `var` is rewritten

The fix that makes a variable a constant looks for the letters of the keyword, not for the word: it
takes the first place of the range where they stand.  A longer word such as `variance` has these
letters too, and when it comes first it is rewritten in the place of the keyword.  The main
statement says that this is the only way in which the fix misses the keyword.
-/

namespace LobsterServer

open Text (FirstOccurrence unitLength)

/-- A letter, a digit or an underscore. -/
def Text.isWordCharacter (c : Char) : Bool := c.isAlphanum || c = '_'

/-- What stands between two texts is a whole word, given the characters that words consist of: none
of these stands directly in front of it or directly behind it. -/
def Text.IsWholeWord (inWord : Char → Bool) (before after : Text) : Prop :=
  before.getLast?.any inWord = false ∧ after.head?.any inWord = false

instance (inWord : Char → Bool) (before after : Text) :
    Decidable (Text.IsWholeWord inWord before after) :=
  inferInstanceAs (Decidable (_ ∧ _))

/-- The letters of the keyword stand in the text between `before` and `after`, and the only edit of
the action replaces them. -/
structure CodeAction.Rewrites (a : CodeAction) (t before after : Text) : Prop where
  split : t = before ++ "var".toList ++ after
  edits_eq : a.edits =
    [⟨⟨t.position before.length, t.position (before.length + "var".toList.length)⟩, "let".toList⟩]

namespace QuickFix

variable {doc : Document} {a : CodeAction}

/-- Sent back as a change, the edit of the action replaces the letters and nothing else. -/
theorem text_of_rewrites {before after : Text} (h : a.Rewrites doc.text before after)
    (small : unitLength doc.text < 0x100000000) (version : Int) :
    (doc.applyChanges a.changes version).text = before ++ "let".toList ++ after := by
  rw [← Text.splice_positions small h.split, CodeAction.changes, h.edits_eq]
  rfl

/-- The edit for a range replaces the first `var` of the range. -/
theorem of_variableToConstant {t : Text} {r : Range} {edits : List TextEdit}
    (h : variableToConstant t r = some edits) :
    ∃ before after, FirstOccurrence "var".toList (t.slice r) before after ∧
      edits = [⟨⟨t.position (t.index r.start + before.length),
        t.position (t.index r.start + before.length + "var".toList.length)⟩, "let".toList⟩] := by
  obtain ⟨i, hfound, rfl⟩ := Option.map_eq_some_iff.mp h
  obtain ⟨before, after, hfirst, rfl⟩ := Text.firstOccurrence_of_find? hfound
  exact ⟨before, after, hfirst, rfl⟩

/-- An action is the one for one of the diagnostics. -/
theorem exists_of_mem_actions {diagnostics : List Diagnostic} {state : ErrorState}
    (h : a ∈ actions doc diagnostics state) :
    ∃ d ∈ diagnostics, a.diagnostics = [d] ∧
      variableToConstant doc.text d.range = some a.edits := by
  unfold actions at h
  split at h
  · cases h
  · obtain ⟨d, hd, haction⟩ := List.mem_filterMap.mp h
    obtain ⟨fix, hfix, hmade⟩ := Option.bind_eq_some_iff.mp haction
    obtain ⟨edits, hedits, rfl⟩ := Option.map_eq_some_iff.mp hmade
    -- there is only one fix
    rw [lookup_eq] at hfix
    split at hfix
    · cases hfix
      exact ⟨d, hd, rfl, hedits⟩
    · cases hfix

/-- The fix takes the first place where the letters of the keyword stand.  Every action answers one
of the diagnostics, and it replaces the first `var` of the range of this diagnostic; this is a whole
word of the document exactly if a whole word `var` stands in the range with no `var` in front of it
there, be it a word or a part of one.  Whichever characters words consist of, no other word is
rewritten then. -/
theorem action_rewrites_first_var {diagnostics : List Diagnostic} {state : ErrorState}
    (proposed : a ∈ actions doc diagnostics state) :
    ∃ d ∈ diagnostics, a.diagnostics = [d] ∧ ∃ front before after back,
      doc.text = front ++ doc.text.slice d.range ++ back ∧
      front.length = doc.text.index d.range.start ∧
      FirstOccurrence "var".toList (doc.text.slice d.range) before after ∧
      a.Rewrites doc.text (front ++ before) (after ++ back) ∧
      (unitLength doc.text < 0x100000000 → ∀ version,
        (doc.applyChanges a.changes version).text =
          front ++ before ++ "let".toList ++ (after ++ back)) ∧
      ∀ inWord : Char → Bool,
        Text.IsWholeWord inWord (front ++ before) (after ++ back) ↔
          ∃ earlier later, doc.text.slice d.range = earlier ++ "var".toList ++ later ∧
            Text.IsWholeWord inWord (front ++ earlier) (later ++ back) ∧
            ¬ "var".toList <:+: earlier := by
  obtain ⟨d, hd, hanswers, hedits⟩ := exists_of_mem_actions proposed
  obtain ⟨before, after, hfirst, hedit⟩ := of_variableToConstant hedits
  obtain ⟨back, hback⟩ := doc.text.exists_append_slice d.range
  have hfront : (doc.text.take (doc.text.index d.range.start)).length =
      doc.text.index d.range.start :=
    List.length_take_of_le (Text.index_le_length doc.text d.range.start)
  generalize doc.text.take (doc.text.index d.range.start) = front at hback hfront
  have hrewrites : a.Rewrites doc.text (front ++ before) (after ++ back) := by
    refine ⟨?_, ?_⟩
    · rw [hfirst.split] at hback
      simpa only [List.append_assoc] using hback
    · rw [List.length_append, hfront]
      exact hedit
  refine ⟨d, hd, hanswers, front, before, after, back, hback, hfront, hfirst, hrewrites,
    text_of_rewrites hrewrites, fun inWord => ⟨fun hword => ?_, ?_⟩⟩
  · exact ⟨before, after, hfirst.split, hword, hfirst.not_infix (by decide)⟩
  · rintro ⟨earlier, later, hsplit, hword, hnone⟩
    have hother : FirstOccurrence "var".toList (doc.text.slice d.range) earlier later := by
      rw [hsplit]
      exact Text.firstOccurrence_of_not_infix (by decide) hnone later
    obtain ⟨rfl, rfl⟩ := hfirst.unique hother
    exact hword

/-- The word in front of the keyword has some of its letters only, so the keyword is rewritten,
although it is not the first word of its line. -/
theorem action_rewrites_first_var_behind_a_word :
    ∃ (doc : Document) (d : Diagnostic) (a : CodeAction),
      doc = Document.fresh "a" "x\nif val: var variance = 1".toList 1 none ∧
      d.range = doc.text.lineRange 1 ∧ a ∈ actions doc [d] .none ∧
      a.Rewrites doc.text "x\nif val: ".toList " variance = 1".toList ∧
      Text.IsWholeWord Text.isWordCharacter "x\nif val: ".toList " variance = 1".toList ∧
      (doc.applyChanges a.changes 2).text = "x\nif val: let variance = 1".toList := by
  let doc := Document.fresh "a" "x\nif val: var variance = 1".toList 1 none
  let d : Diagnostic := ⟨doc.text.lineRange 1, .warning, some "prefer-let", none, ""⟩
  let a : CodeAction := ⟨"Make variable constant", "a",
    [⟨⟨⟨1, 8⟩, ⟨1, 11⟩⟩, "let".toList⟩], true, [d]⟩
  have proposed : a ∈ actions doc [d] .none := by decide
  obtain ⟨e, he, -, front, before, after, back, hsplit, hfront, hfirst, hrewrites, hchanged,
    hword⟩ := action_rewrites_first_var proposed
  obtain rfl : e = d := List.mem_singleton.mp he
  have hslice : doc.text.slice d.range =
      "if val: ".toList ++ "var".toList ++ " variance = 1".toList := by decide
  have hnone : ¬ "var".toList <:+: "if val: ".toList := by decide
  -- the line stands behind the first one, up to the end of the text
  have hwhole : front ++ (doc.text.slice d.range ++ back) =
      "x\n".toList ++ (doc.text.slice d.range ++ []) := by
    rw [← List.append_assoc, ← hsplit]
    decide
  obtain ⟨rfl, hrest⟩ := List.append_inj hwhole hfront
  obtain rfl : back = [] := List.append_cancel_left hrest
  have hfirst' : FirstOccurrence "var".toList (doc.text.slice d.range) "if val: ".toList
      " variance = 1".toList := by
    rw [hslice]
    exact Text.firstOccurrence_of_not_infix (by decide) hnone _
  obtain ⟨rfl, rfl⟩ := hfirst.unique hfirst'
  exact ⟨doc, d, a, rfl, rfl, proposed, hrewrites,
    (hword Text.isWordCharacter).mpr ⟨_, _, hslice, by decide, hnone⟩, hchanged (by decide) 2⟩

/-- A longer word that comes first is rewritten, and the keyword is left as it is. -/
theorem longer_word_rewritten :
    ∃ (doc : Document) (d : Diagnostic) (a : CodeAction) (before after : Text),
      doc = Document.fresh "a" "if variance > 1: var x = f(variance)".toList 1 none ∧
      d.range = doc.text.lineRange 0 ∧ actions doc [d] .none = [a] ∧
      a.Rewrites doc.text before after ∧ ¬ Text.IsWholeWord Text.isWordCharacter before after ∧
      (doc.applyChanges a.changes 2).text = "if letiance > 1: var x = f(variance)".toList := by
  let doc := Document.fresh "a" "if variance > 1: var x = f(variance)".toList 1 none
  let d : Diagnostic := ⟨doc.text.lineRange 0, .warning, some "prefer-let", none, ""⟩
  let a : CodeAction := ⟨"Make variable constant", "a",
    [⟨⟨⟨0, 3⟩, ⟨0, 6⟩⟩, "let".toList⟩], true, [d]⟩
  refine ⟨doc, d, a, "if ".toList, "iance > 1: var x = f(variance)".toList, rfl, rfl, by decide,
    ⟨rfl, by decide⟩, by decide, by decide⟩

end QuickFix

end LobsterServer
