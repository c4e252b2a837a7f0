import LobsterServer.Proofs.Settings.SingleFlight

set_option autoImplicit false

/-!
# The executable that is probed

A call that asks the editor a question reads the global settings when it begins, and the probe of
its answer reads them when the answer comes.  The main statement says which executable each of the
two names, and that they name the same one exactly if the answer selects an executable itself or
the global executable is still the one of the beginning.
-/

namespace LobsterServer.Resolver

/-! ## The executable of an answer -/

/-- The executable that an answer of the editor selects.  An empty name selects nothing. -/
def selected? (reply : Answer) : Option String :=
  reply.bind fun choice => choice.executable.filter (· ≠ "")

theorem executableOr_eq (choice : Override) (global : Settings) :
    choice.executableOr global = (selected? (some choice)).getD global.executable := by
  obtain ⟨executable, imports, experimental⟩ := choice
  cases executable with
  | none => rfl
  | some name =>
    by_cases hname : name = ""
    · simp [Override.executableOr, selected?, Option.filter_some, hname]
    · simp [Override.executableOr, selected?, Option.filter_some, hname]

/-- The executable that is used. -/
theorem executable_settle (global : Settings) (directory : Option String) (reply : Answer) :
    (settle global directory reply).executable = (selected? reply).getD global.executable := by
  cases reply with
  | none => rfl
  | some choice => exact executableOr_eq choice global

/-- The executable that is probed. -/
theorem executableFor_eq (r : Resolver) (reply : Answer) :
    r.executableFor reply = (selected? reply).getD r.global.executable := by
  cases reply with
  | none => rfl
  | some choice => exact executableOr_eq choice r.global

/-- Where an answer selects no executable, two fallbacks lead to the same one only if they are the
same. -/
theorem getD_selected?_eq_iff (reply : Answer) (used probed : String) :
    (selected? reply).getD used = (selected? reply).getD probed ↔
      selected? reply ≠ none ∨ used = probed := by
  cases selected? reply with
  | none => simp
  | some name => simp

/-! ## An open question -/

/-- The call made after `before` asks the editor the question of the cell, and the question is
still open after `meanwhile`. -/
structure Asking (global : Settings) (before : List Operation) (uri : String)
    (directory : Option String) (meanwhile : List Operation) (cell : Nat) : Prop where
  asks : asks? (after global before) (.start uri directory) = some (cell, uri)
  unanswered : answers global (before ++ .start uri directory :: meanwhile) cell = []

/-- A call that asks a question makes the cell that it waits for. -/
theorem start_of_asks {r : Resolver} {uri : String} {directory : Option String} {cell : Nat}
    (h : asks? r (.start uri directory) = some (cell, uri)) :
    (r.start uri directory).2 = .waiting cell r.global directory ∧
      (r.start uri directory).1.cells[cell]? = some ⟨uri, none⟩ := by
  rcases r.start_cases uri directory with ⟨_, hstart⟩ | ⟨_, found, _, hstart⟩ | ⟨_, _, hstart⟩
  · simp [asks?, hstart] at h
  · simp [asks?, hstart] at h
  · have hcell : r.cells.length = cell := by simpa [asks?, hstart] using h
    subst hcell
    rw [hstart]
    exact ⟨rfl, by simp⟩

/-- The cell of an open question is empty. -/
theorem Asking.cell_open {global : Settings} {before meanwhile : List Operation} {uri : String}
    {directory : Option String} {cell : Nat}
    (h : Asking global before uri directory meanwhile cell) :
    (after global (before ++ .start uri directory :: meanwhile)).cells[cell]? =
      some ⟨uri, none⟩ := by
  have hmade : (after global (before ++ .start uri directory :: meanwhile)).Made cell uri := by
    rw [after_append]
    exact Made.foldl meanwhile ⟨none, (start_of_asks h.asks).2⟩
  obtain ⟨given, hcell⟩ := hmade
  have hhead := (account_of_history global (before ++ .start uri directory :: meanwhile)
    cell).heard_head
  rw [h.unanswered, hcell] at hhead
  have hnone : given = none := hhead.symm
  rw [hcell, hnone]

/-! ## The probe of a question -/

theorem answers_append_of_answered {global : Settings} {ops : List Operation} {cell : Nat}
    {reply : Fetched} (h : (answers global ops cell).head? = some reply) (later : List Operation) :
    (answers global (ops ++ later) cell).head? = some reply := by
  induction later using List.reverseRecOn with
  | nil => rwa [List.append_nil]
  | append_singleton later op ih =>
    rw [← List.append_assoc, answers_snoc, List.head?_append, ih, Option.some_or]

/-- After the first answer to its question nothing is probed for a cell. -/
theorem probes_append_of_answered {global : Settings} {ops : List Operation} {cell : Nat}
    {reply : Fetched} (h : (answers global ops cell).head? = some reply) (later : List Operation) :
    probes global (ops ++ later) cell = probes global ops cell := by
  have hcount : ∀ more, (probes global (ops ++ more) cell).length = 1 := by
    intro more
    have hanswered := answers_append_of_answered h more
    rw [(account_of_history global (ops ++ more) cell).probed_length, if_neg]
    intro hnone
    rw [hnone] at hanswered
    cases hanswered
  induction later using List.reverseRecOn with
  | nil => rw [List.append_nil]
  | append_singleton later op ih =>
    -- one probe is counted before and after, so the last operation adds none
    have hbefore := hcount later
    have hafter := hcount (later ++ [op])
    rw [← List.append_assoc, probes_snoc] at hafter ⊢
    rw [List.length_append, hbefore, Nat.add_eq_left, List.length_eq_zero_iff] at hafter
    rw [hafter, List.append_nil, ih]

/-- The first answer to a question is probed under the global settings of its moment. -/
theorem Asking.answered {global : Settings} {before meanwhile : List Operation} {uri : String}
    {directory : Option String} {cell : Nat}
    (h : Asking global before uri directory meanwhile cell) (reply : Fetched) :
    let history := before ++ .start uri directory :: meanwhile
    (answers global (history ++ [.answer cell reply]) cell).head? = some reply ∧
      probes global (history ++ [.answer cell reply]) cell =
        [(cell, (after global history).executableFor reply.answer)] := by
  intro history
  have hcell : (after global history).cells[cell]? = some ⟨uri, none⟩ := h.cell_open
  obtain ⟨hlt, -⟩ := List.getElem?_eq_some_iff.mp hcell
  have hunanswered : answers global history cell = [] := h.unanswered
  have hunprobed : probes global history cell = [] := by
    have hcount := (account_of_history global history cell).probed_length
    rw [if_pos hunanswered] at hcount
    exact List.length_eq_zero_iff.mp hcount
  rcases (after global history).answer_cases cell reply with ⟨_, _, hfilled⟩ | ⟨hfilled, _⟩
  · constructor
    · rw [answers_snoc, hunanswered, List.nil_append, hears?, if_pos ⟨rfl, hlt⟩]
      rfl
    · rw [probes_snoc, hunprobed, List.nil_append, probes?, hfilled]
      simp
  · exact absurd hcell (hfilled uri)

/-- A call asks the editor a question, and `meanwhile` is what happens until the first answer.  The
executable that is probed is the one that the answer selects, or else the global one of the
answer's moment; the call ends with the one that the answer selects, or else with the global one of
the call's beginning.  So the two are the same exactly if the answer selects one or the global
executable is still that of the beginning. -/
theorem probed_executable_of_call {global : Settings} {before meanwhile : List Operation}
    {uri : String} {directory : Option String} {cell : Nat}
    (h : Asking global before uri directory meanwhile cell) (reply : Fetched)
    (later : List Operation) :
    let begun := (after global before).global
    let current := (after global (before ++ .start uri directory :: meanwhile)).global
    let history := before ++ .start uri directory :: meanwhile ++ .answer cell reply :: later
    ∃ probed settings, probes global history cell = [(cell, probed)] ∧
      (after global history).finish ((after global before).start uri directory).2 = some settings ∧
      probed = (selected? reply.answer).getD current.executable ∧
      settings.executable = (selected? reply.answer).getD begun.executable ∧
      (settings.executable = probed ↔
        selected? reply.answer ≠ none ∨ begun.executable = current.executable) := by
  intro begun current history
  have hsplit : history =
      before ++ .start uri directory :: meanwhile ++ [.answer cell reply] ++ later := by
    simp [history]
  obtain ⟨hheard, hprobed⟩ := h.answered reply
  refine ⟨_, settle begun directory reply.answer, ?_, ?_, executableFor_eq _ reply.answer,
    executable_settle begun directory reply.answer, ?_⟩
  · rw [hsplit, probes_append_of_answered hheard, hprobed]
  · rw [(start_of_asks h.asks).1, finish_eq_head?_answers, hsplit,
      answers_append_of_answered hheard, Option.map_some, settle_answer]
  · rw [executable_settle, executableFor_eq]
    exact getD_selected?_eq_iff reply.answer begun.executable current.executable

/-- The global executable changes while a question is open, and the editor has no settings for the
document: the new executable is probed, and the call ends with the old one. -/
theorem probed_executable_of_call_across_a_change :
    ∃ settings, probes Settings.default [.setCapability true, .start "a" none,
        .setGlobal ⟨"other", [], false⟩, .answer 0 (.ok none)] 0 = [(0, "other")] ∧
      (after Settings.default [.setCapability true, .start "a" none,
        .setGlobal ⟨"other", [], false⟩, .answer 0 (.ok none)]).finish
          ((after Settings.default [.setCapability true]).start "a" none).2 = some settings ∧
      settings.executable = "lobster" := by
  have hasking : Asking Settings.default [.setCapability true] "a" none
      [.setGlobal ⟨"other", [], false⟩] 0 := ⟨rfl, rfl⟩
  obtain ⟨probed, settings, hprobed, hends, rfl, hused, -⟩ :=
    probed_executable_of_call hasking (.ok none) []
  exact ⟨settings, hprobed, hends, hused⟩

end LobsterServer.Resolver
