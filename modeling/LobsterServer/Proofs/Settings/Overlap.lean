import LobsterServer.Proofs.Settings.SingleFlight

set_option autoImplicit false

/-!
# Calls that begin together

Several calls begin, the editor answers every question that is open by then, and the calls end.
These are operations one after another, like those of any history, and no call is left waiting.
-/

namespace LobsterServer.Resolver

/-! ## The operations -/

/-- Calls for some documents begin. -/
def starts (directory : Option String) (uris : List String) : List Operation :=
  uris.map fun uri => .start uri directory

/-- The editor answers some questions, each by what it says about the document. -/
def replies (editor : String → Fetched) (questions : List (Nat × String)) : List Operation :=
  questions.map fun question => .answer question.1 (editor question.2)

/-- The call that an operation begins. -/
def begins? (r : Resolver) : Operation → Option Call
  | .start uri directory => some (r.start uri directory).2
  | _ => none

variable {r : Resolver}

theorem startAll_eq (r : Resolver) (directory : Option String) (uris : List String) :
    r.startAll directory uris =
      ((starts directory uris).foldl perform r, record begins? r (starts directory uris)) := by
  induction uris generalizing r with
  | nil => rfl
  | cons uri rest ih =>
    simp only [startAll, ih]
    rfl

/-! ## Open questions -/

theorem mem_openCells {n : Nat} {uri : String} :
    (n, uri) ∈ r.openCells ↔ r.cells[n]? = some ⟨uri, none⟩ := by
  simp only [openCells, List.mem_map, List.mem_filter, Prod.mk.injEq, Prod.exists]
  constructor
  · rintro ⟨⟨asked, answer⟩, i, ⟨hmem, hopen⟩, rfl, rfl⟩
    obtain rfl : answer = none := Option.isNone_iff_eq_none.mp hopen
    exact List.mk_mem_zipIdx_iff_getElem?.mp hmem
  · intro h
    exact ⟨⟨uri, none⟩, n, ⟨List.mk_mem_zipIdx_iff_getElem?.mpr h, rfl⟩, rfl, rfl⟩

theorem nodup_openCells (r : Resolver) : (r.openCells.map Prod.fst).Nodup := by
  have hnumbers : (r.cells.zipIdx.map Prod.snd).Nodup := by
    rw [List.zipIdx_map_snd]
    exact List.nodup_range'
  have hsublist : (r.openCells.map Prod.fst).Sublist (r.cells.zipIdx.map Prod.snd) := by
    rw [openCells, List.map_map]
    exact List.filter_sublist.map _
  exact hnumbers.sublist hsublist

theorem answer_of_open {n : Nat} {uri : String} (h : r.cells[n]? = some ⟨uri, none⟩)
    (reply : Fetched) : r.answer n reply =
      some ({ r with cells := r.cells.set n ⟨uri, some reply.answer⟩ },
        r.executableFor reply.answer) := by
  simp only [answer, h]

/-- An open question that is answered leaves the other open questions open. -/
theorem open_of_answer {n m : Nat} {uri : String} {reply : Fetched}
    (h : r.cells[n]? = some ⟨uri, none⟩) (hne : m ≠ n) :
    (r.perform (.answer m reply)).cells[n]? = some ⟨uri, none⟩ := by
  rcases r.answer_cases m reply with ⟨asked, -, hanswer⟩ | ⟨-, hanswer⟩
  · simpa [perform, hanswer, List.getElem?_set_ne hne] using h
  · simpa [perform, hanswer] using h

/-- Questions that are open are answered one after another, each with one probe. -/
theorem foldl_hear (editor : String → Fetched) (questions : List (Nat × String))
    (unlike : (questions.map Prod.fst).Nodup) (asked : Asked) :
    (∀ question ∈ questions, r.cells[question.1]? = some ⟨question.2, none⟩) →
    questions.foldl (hear editor) (r, asked) = ((replies editor questions).foldl perform r,
      ⟨asked.questions ++ questions.map Prod.snd,
        asked.probes ++ (record probes? r (replies editor questions)).map Prod.snd⟩) := by
  induction questions generalizing r asked with
  | nil => simp [replies, record]
  | cons question rest ih =>
    obtain ⟨n, uri⟩ := question
    intro areOpen
    obtain ⟨hnew, hrest⟩ := List.nodup_cons.mp unlike
    have hanswer := answer_of_open (areOpen (n, uri) List.mem_cons_self) (editor uri)
    have hkept : ∀ question ∈ rest, (r.perform (.answer n (editor uri))).cells[question.1]? =
        some ⟨question.2, none⟩ := by
      intro question hmem
      refine open_of_answer (areOpen question (List.mem_cons_of_mem _ hmem)) ?_
      rintro rfl
      exact hnew (List.mem_map.mpr ⟨question, hmem, rfl⟩)
    have hhear : hear editor (r, asked) (n, uri) = (r.perform (.answer n (editor uri)),
        ⟨asked.questions ++ [uri],
          asked.probes ++ [r.executableFor (editor uri).answer]⟩) := by
      simp only [hear, perform, hanswer]
    have hprobe : probes? r (.answer n (editor uri)) =
        some (n, r.executableFor (editor uri).answer) := by
      simp only [probes?, hanswer, Option.map_some]
    rw [List.foldl_cons, hhear, ih hrest _ hkept]
    simp [replies, record, hprobe]

/-! ## Every call ends -/

/-- A cell that is answered stays so, and one whose question is among those that are answered gets
its answer. -/
theorem answered_of_replies {n : Nat} {uri : String} (editor : String → Fetched)
    (questions : List (Nat × String)) (made : r.Made n uri)
    (h : (∃ given, r.cells[n]? = some ⟨uri, some given⟩) ∨ n ∈ questions.map Prod.fst) :
    ∃ given, ((replies editor questions).foldl perform r).cells[n]? = some ⟨uri, some given⟩ := by
  induction questions generalizing r with
  | nil => exact h.resolve_right List.not_mem_nil
  | cons question rest ih =>
    obtain ⟨m, other⟩ := question
    refine ih (made.perform _) ?_
    obtain ⟨answer, hcell⟩ := made
    rcases cell_perform hcell (.answer m (editor other)) with hkept | ⟨-, given, hfilled⟩
    · cases answer with
      | some given => exact .inl ⟨given, hkept⟩
      | none =>
        -- the cell is still open, so its question is yet to come
        have hlisted := h.resolve_left fun ⟨given, hgiven⟩ => by simp [hcell] at hgiven
        refine .inr ((List.mem_cons.mp hlisted).resolve_left ?_)
        rintro rfl
        obtain ⟨hlt, -⟩ := List.getElem?_eq_some_iff.mp hcell
        simp [perform, answer_of_open hcell, hlt] at hkept
    · exact .inl ⟨given, hfilled⟩

/-- A call that waits, waits for a cell that has been made. -/
theorem made_of_begins {global : Settings} {later : List Operation} {call : Call} {cell : Nat}
    (waits : call.cell? = some cell) : ∀ {ops : List Operation},
    call ∈ record begins? (after global ops) later →
      ∃ uri, (after global (ops ++ later)).Made cell uri := by
  induction later with
  | nil => exact fun h => absurd h List.not_mem_nil
  | cons op rest ih =>
    intro ops h
    rw [record, ← after_snoc] at h
    rcases List.mem_append.mp h with hfirst | hrest
    · -- the cell is in the cache already, or this call makes it
      have hmade : ∃ uri, ((after global ops).perform op).Made cell uri := by
        cases op with
        | start uri directory =>
          obtain rfl : call = ((after global ops).start uri directory).2 := by
            simpa [begins?] using hfirst
          rcases (after global ops).start_cases uri directory with
            ⟨-, hs⟩ | ⟨-, found, hfound, hs⟩ | ⟨-, -, hs⟩
          · rw [hs] at waits
            cases waits
          · rw [hs] at waits
            cases waits
            exact ⟨uri, (made_of_cached hfound).perform _⟩
          · rw [hs] at waits
            cases waits
            exact ⟨uri, none, by simp [perform, hs]⟩
        | answer | forget | setGlobal | setCapability => simp [begins?] at hfirst
      obtain ⟨uri, hmade⟩ := hmade
      refine ⟨uri, ?_⟩
      rw [after_append]
      exact hmade.foldl rest
    · simpa using ih hrest

/-- Calls that begin together are operations of the history: their starts, and then one answer to
each question that is open.  Every call ends, the editor has been asked about the documents of
these questions, and each answer has asked for its probe. -/
theorem resolveAll_after (global : Settings) (ops : List Operation) (directory : Option String)
    (uris : List String) (editor : String → Fetched) :
    let calls := record begins? (after global ops) (starts directory uris)
    let begun := after global (ops ++ starts directory uris)
    let answers := replies editor begun.openCells
    let ended := after global (ops ++ starts directory uris ++ answers)
    (after global ops).resolveAll directory uris editor =
        (ended, calls.filterMap ended.finish,
          ⟨begun.openCells.map Prod.snd, (record probes? begun answers).map Prod.snd⟩) ∧
      ∀ call ∈ calls, (ended.finish call).isSome := by
  intro calls begun answers ended
  have hbegun : begun = (starts directory uris).foldl perform (after global ops) :=
    after_append _ _ _
  have hended : ended = answers.foldl perform begun := after_append _ _ _
  constructor
  · have hanswered := foldl_hear editor begun.openCells (nodup_openCells begun) ⟨[], []⟩
      fun question hmem => mem_openCells.mp hmem
    simp only [resolveAll, startAll_eq, ← hbegun, answerOpen, hanswered, List.nil_append]
    rw [hended]
  · intro call hcall
    cases hcell : call with
    | resolved settings => rfl
    | waiting cell start directory =>
      have hwaits : call.cell? = some cell := by rw [hcell]; rfl
      obtain ⟨uri, hmade⟩ := made_of_begins hwaits hcall
      have hopen : (∃ given, begun.cells[cell]? = some ⟨uri, some given⟩) ∨
          cell ∈ begun.openCells.map Prod.fst := by
        obtain ⟨_ | given, hmade⟩ := hmade
        · exact .inr (List.mem_map.mpr ⟨(cell, uri), mem_openCells.mpr hmade, rfl⟩)
        · exact .inl ⟨given, hmade⟩
      obtain ⟨given, hgiven⟩ := answered_of_replies editor begun.openCells hmade hopen
      rw [← hended] at hgiven
      simp only [finish, hgiven, Option.isSome_some]

end LobsterServer.Resolver
