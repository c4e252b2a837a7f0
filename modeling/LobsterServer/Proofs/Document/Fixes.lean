import Mathlib.Data.List.Forall2
import Mathlib.Data.List.Infix
import LobsterServer.Proofs.Document.QuickFix

set_option autoImplicit false

/-!
# Quick fixes are exact

The server is sent any diagnostics, with ranges that need not name places of the document.  It
answers those that the fix is for, if the text that their range covers has a `var` in it.  The main
statement says that there is one fix for each of these, in their order, and none for the others,
and that the edits of a fix, sent back as a change, replace the first `var` of the range and
nothing else.
-/

namespace LobsterServer

open Text (FirstOccurrence byteLength unitLength)

/-- The diagnostic says that a variable could be a constant: by its code, or else by how its
message starts. -/
def Diagnostic.IsFixable (d : Diagnostic) : Prop :=
  d.code = some "prefer-let" ∨ "use `let` to declare".toList <+: d.message.toList

instance (d : Diagnostic) : Decidable d.IsFixable :=
  inferInstanceAs (Decidable (_ ∨ _))

/-- `next` is `t` with `let` in the place of the first `var` of the range. -/
def Text.DeclaresConstant (t : Text) (r : Range) (next : Text) : Prop :=
  ∃ front before after back, byteLength front = t.offset r.start ∧
    t = front ++ t.slice r ++ back ∧ FirstOccurrence "var".toList (t.slice r) before after ∧
    next = front ++ (before ++ "let".toList ++ after) ++ back

/-- The changes that make the edits of an action. -/
def CodeAction.changes (a : CodeAction) : List Change :=
  a.edits.map fun edit => ⟨some edit.range, edit.newText⟩

/-- The action answers the diagnostic: its edits declare a constant in the range of the diagnostic
and change nothing else in the document. -/
structure CodeAction.IsFixOf (doc : Document) (d : Diagnostic) (a : CodeAction) : Prop where
  title_eq : a.title = "Make variable constant"
  uri_eq : a.uri = doc.uri
  preferred : a.isPreferred = true
  diagnostics_eq : a.diagnostics = [d]
  exact_edits : ∀ version,
    doc.text.DeclaresConstant d.range (doc.applyChanges a.changes version).text

namespace QuickFix

/-- The fix that makes a variable a constant. -/
def makeConstant : QuickFix :=
  ⟨"prefer-let", "use `let` to declare", "Make variable constant", variableToConstant⟩

/-- There is no other fix. -/
theorem all_eq : all = [makeConstant] := rfl

theorem ofCode?_eq (code : String) :
    ofCode? code = if code = "prefer-let" then some makeConstant else none := by
  rw [ofCode?, all_eq, List.find?_singleton]
  exact if_congr (decide_eq_true_iff.trans eq_comm) rfl rfl

theorem ofMessage?_eq (message : String) :
    ofMessage? message =
      if "use `let` to declare".toList <+: message.toList then some makeConstant else none := by
  rw [ofMessage?, all_eq, List.find?_singleton]
  exact if_congr List.isPrefixOf_iff_prefix rfl rfl

/-- The fix is found for the diagnostics that it is for, and there is no other one to find. -/
theorem lookup_eq (d : Diagnostic) :
    lookup d = if d.IsFixable then some makeConstant else none := by
  rw [lookup, ofMessage?_eq]
  cases hd : d.code with
  | none =>
    rw [Option.bind_none, Option.none_or]
    exact if_congr (by simp [Diagnostic.IsFixable, hd]) rfl rfl
  | some code =>
    rw [Option.bind_some, ofCode?_eq]
    by_cases hcode : code = "prefer-let"
    · have hfixable : d.IsFixable := .inl (by rw [hd, hcode])
      rw [if_pos hcode, if_pos hfixable, Option.some_or]
    · rw [if_neg hcode, Option.none_or]
      exact if_congr (by simp [Diagnostic.IsFixable, hd, hcode]) rfl rfl

variable {doc : Document} {d : Diagnostic}

theorem action?_eq_none (h : ¬ (d.IsFixable ∧ "var".toList <:+: doc.text.slice d.range)) :
    action? doc d = none := by
  rw [action?, lookup_eq]
  by_cases hfixable : d.IsFixable
  · have hnone := variableToConstant_eq_none fun hoccurs => h ⟨hfixable, hoccurs⟩
    simp [hfixable, makeConstant, hnone]
  · simp [hfixable]

theorem exists_action? (small : unitLength doc.text < 0x100000000) (fixable : d.IsFixable)
    (occurs : "var".toList <:+: doc.text.slice d.range) :
    ∃ a, action? doc d = some a ∧ a.IsFixOf doc d := by
  obtain ⟨edit, before, after, back, hfirst, hback, hedit, hspliced⟩ :=
    exists_variableToConstant small occurs
  refine ⟨⟨"Make variable constant", doc.uri, [edit], true, [d]⟩, ?_, rfl, rfl, rfl, rfl,
    fun _ => ⟨_, before, after, back, rfl, hback, hfirst, hspliced⟩⟩
  simp [action?, lookup_eq, fixable, makeConstant, hedit]

/-- Diagnostics are answered one by one. -/
theorem forall₂_filterMap_action? (small : unitLength doc.text < 0x100000000)
    (diagnostics : List Diagnostic) :
    List.Forall₂ (fun d a => a.IsFixOf doc d)
      (diagnostics.filter fun d => d.IsFixable ∧ "var".toList <:+: doc.text.slice d.range)
      (diagnostics.filterMap (action? doc)) := by
  induction diagnostics with
  | nil => exact .nil
  | cons d diagnostics ih =>
    by_cases hanswered : d.IsFixable ∧ "var".toList <:+: doc.text.slice d.range
    · obtain ⟨a, ha, hfix⟩ := exists_action? small hanswered.1 hanswered.2
      rw [List.filter_cons_of_pos (by simpa using hanswered), List.filterMap_cons_some ha]
      exact .cons hfix ih
    · rw [List.filter_cons_of_neg (by simpa using hanswered),
        List.filterMap_cons_none (action?_eq_none hanswered)]
      exact ih

/-- Quick fixes are exact.  While the server is in no error state, and the last validation of the
document found no error, the diagnostics that the fix is for and whose range covers a `var` are
answered in their order with one action each, and no other diagnostic is answered.  The edits of
each action replace the first `var` of the range with `let`, and nothing else, whatever the range
is. -/
theorem actions_answer_occurrences (diagnostics : List Diagnostic)
    (small : unitLength doc.text < 0x100000000)
    (sound : ∀ found ∈ doc.diagnostics, found.severity ≠ .error) :
    List.Forall₂ (fun d a => a.IsFixOf doc d)
      (diagnostics.filter fun d => d.IsFixable ∧ "var".toList <:+: doc.text.slice d.range)
      (actions doc diagnostics .none) := by
  have hsound : doc.hasStructuralErrors = false := by
    simpa [Document.hasStructuralErrors, Diagnostic.isError] using sound
  have hactions : actions doc diagnostics .none = diagnostics.filterMap (action? doc) := by
    simp [actions, hsound, ErrorState.isErrored]
  rw [hactions]
  exact forall₂_filterMap_action? small diagnostics

/-- A range that starts inside the surrogate pair of a clef and ends behind the text covers two
times `var`, and the first one is replaced.  A range that ends before it starts covers nothing, and
a diagnostic of another kind is not answered. -/
theorem actions_answer_occurrences_around_a_pair :
    ∃ (doc : Document) (hint hidden reworded other : Diagnostic) (first second : CodeAction),
      doc = Document.fresh "a" (Char.ofNat 0x1D11E :: " var\nvary".toList) 1 none ∧
      hint = ⟨⟨⟨0, 1⟩, ⟨9, 9⟩⟩, .warning, none, none, "use `let` to declare: x"⟩ ∧
      hidden = ⟨⟨⟨1, 3⟩, ⟨1, 0⟩⟩, .warning, some "prefer-let", none, ""⟩ ∧
      reworded = ⟨⟨⟨1, 0⟩, ⟨1, 4⟩⟩, .hint, some "prefer-let", none, "never changes"⟩ ∧
      other = ⟨⟨⟨0, 0⟩, ⟨1, 4⟩⟩, .error, some "lobster", none, "unknown identifier"⟩ ∧
      unitLength doc.text < 0x100000000 ∧ (∀ found ∈ doc.diagnostics, found.severity ≠ .error) ∧
      actions doc [hint, hidden, other, reworded] .none = [first, second] ∧
      first.IsFixOf doc hint ∧ second.IsFixOf doc reworded ∧
      (doc.applyChanges first.changes 2).text = Char.ofNat 0x1D11E :: " let\nvary".toList ∧
      (doc.applyChanges second.changes 2).text = Char.ofNat 0x1D11E :: " var\nlety".toList := by
  let doc := Document.fresh "a" (Char.ofNat 0x1D11E :: " var\nvary".toList) 1 none
  let hint : Diagnostic :=
    ⟨⟨⟨0, 1⟩, ⟨9, 9⟩⟩, .warning, none, none, "use `let` to declare: x"⟩
  let hidden : Diagnostic := ⟨⟨⟨1, 3⟩, ⟨1, 0⟩⟩, .warning, some "prefer-let", none, ""⟩
  let reworded : Diagnostic :=
    ⟨⟨⟨1, 0⟩, ⟨1, 4⟩⟩, .hint, some "prefer-let", none, "never changes"⟩
  let other : Diagnostic :=
    ⟨⟨⟨0, 0⟩, ⟨1, 4⟩⟩, .error, some "lobster", none, "unknown identifier"⟩
  let first : CodeAction := ⟨"Make variable constant", "a",
    [⟨⟨⟨0, 3⟩, ⟨0, 6⟩⟩, "let".toList⟩], true, [hint]⟩
  let second : CodeAction := ⟨"Make variable constant", "a",
    [⟨⟨⟨1, 0⟩, ⟨1, 3⟩⟩, "let".toList⟩], true, [reworded]⟩
  have small : unitLength doc.text < 0x100000000 := by decide
  have sound : ∀ found ∈ doc.diagnostics, found.severity ≠ .error := nofun
  have hhint : hint.IsFixable ∧ "var".toList <:+: doc.text.slice hint.range :=
    ⟨by decide, [' '], "\nvary".toList, by decide⟩
  have hhidden : ¬ (hidden.IsFixable ∧ "var".toList <:+: doc.text.slice hidden.range) :=
    fun h => absurd (List.eq_nil_of_infix_nil h.2) (by decide)
  have hother : ¬ (other.IsFixable ∧ "var".toList <:+: doc.text.slice other.range) :=
    fun h => absurd h.1 (by decide)
  have hreworded : reworded.IsFixable ∧ "var".toList <:+: doc.text.slice reworded.range :=
    ⟨by decide, [], ['y'], by decide⟩
  have hall := actions_answer_occurrences [hint, hidden, other, reworded] small sound
  rw [List.filter_cons_of_pos (by exact decide_eq_true hhint),
    List.filter_cons_of_neg (by exact decide_eq_true_iff.not.mpr hhidden),
    List.filter_cons_of_neg (by exact decide_eq_true_iff.not.mpr hother),
    List.filter_cons_of_pos (by exact decide_eq_true hreworded), List.filter_nil] at hall
  have hactions : actions doc [hint, hidden, other, reworded] .none = [first, second] := by
    decide
  rw [hactions] at hall
  cases hall with
  | cons hfix hrest =>
    cases hrest with
    | cons hlast _ =>
      exact ⟨doc, hint, hidden, reworded, other, first, second, rfl, rfl, rfl, rfl, rfl, small,
        sound, hactions, hfix, hlast, by decide, by decide⟩

end QuickFix

end LobsterServer
