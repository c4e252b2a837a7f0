import LobsterServer.Settings.Resolver
import Mathlib.Data.List.Induction

set_option autoImplicit false

/-!
# One question for all calls

Calls for settings overlap as they like, with closed documents, new global settings and answers of
the editor between their parts.  The main statement says what becomes of a call, whatever happened
before it and happens after it: it ends with the settings that the first answer to one question
leads to, all calls between two closings of a document share that question, and it is asked once
and leads to one probe.
-/

namespace LobsterServer

/-- The cell that a call waits for. -/
def Call.cell? : Call → Option Nat
  | .resolved _ => none
  | .waiting cell _ _ => some cell

namespace Resolver

/-! ## Histories -/

/-- What can happen to a resolver.  An answer names the cell whose question it ends, and may say why
there is none. -/
inductive Operation where
  | start (uri : String) (directory : Option String)
  | answer (cell : Nat) (reply : Fetched)
  | forget (uri : String)
  | setGlobal (global : Settings)
  | setCapability (enabled : Bool)

/-- The resolver after an operation.  An answer that no question waits for changes nothing. -/
def perform (r : Resolver) : Operation → Resolver
  | .start uri directory => (r.start uri directory).1
  | .answer cell reply =>
    match r.answer cell reply with
    | some (r, _) => r
    | none => r
  | .forget uri => r.forget uri
  | .setGlobal global => { r with global := global }
  | .setCapability enabled => { r with capability := enabled }

/-- The resolver after operations on a fresh one. -/
def after (global : Settings) (ops : List Operation) : Resolver :=
  ops.foldl perform (fresh global)

/-- The question that an operation puts to the editor: the cell it is for and the document. -/
def asks? (r : Resolver) : Operation → Option (Nat × String)
  | .start uri directory =>
    if (r.start uri directory).1.cells.length = r.cells.length then none
    else some (r.cells.length, uri)
  | _ => none

/-- How the question of the cell ends, if it was asked. -/
def hears? (cell : Nat) (r : Resolver) : Operation → Option Fetched
  | .answer other reply => if other = cell ∧ cell < r.cells.length then some reply else none
  | _ => none

/-- The probe that an operation asks for: the cell whose answer it is for and the executable. -/
def probes? (r : Resolver) : Operation → Option (Nat × String)
  | .answer cell reply => (r.answer cell reply).map fun filled => (cell, filled.2)
  | _ => none

/-- What `read` takes from each operation of a history, given the resolver before it. -/
def record {α : Type} (read : Resolver → Operation → Option α) : Resolver → List Operation → List α
  | _, [] => []
  | r, op :: ops => (read r op).toList ++ record read (r.perform op) ops

/-- The questions that were asked for a cell. -/
def questions (global : Settings) (ops : List Operation) (cell : Nat) : List (Nat × String) :=
  (record asks? (fresh global) ops).filter fun question => question.1 = cell

/-- The answers and failures that came for the question of a cell. -/
def answers (global : Settings) (ops : List Operation) (cell : Nat) : List Fetched :=
  record (hears? cell) (fresh global) ops

/-- The probes that were asked for with the answer of a cell. -/
def probes (global : Settings) (ops : List Operation) (cell : Nat) : List (Nat × String) :=
  (record probes? (fresh global) ops).filter fun probe => probe.1 = cell

theorem after_snoc (global : Settings) (ops : List Operation) (op : Operation) :
    after global (ops ++ [op]) = (after global ops).perform op := by
  simp [after]

theorem after_append (global : Settings) (ops more : List Operation) :
    after global (ops ++ more) = more.foldl perform (after global ops) := by
  simp [after]

theorem record_snoc {α : Type} (read : Resolver → Operation → Option α) (r : Resolver)
    (ops : List Operation) (op : Operation) :
    record read r (ops ++ [op]) = record read r ops ++ (read (ops.foldl perform r) op).toList := by
  induction ops generalizing r with
  | nil => simp [record]
  | cons first ops ih => simp [record, ih]

theorem questions_snoc (global : Settings) (ops : List Operation) (op : Operation) (cell : Nat) :
    questions global (ops ++ [op]) cell = questions global ops cell ++
      (asks? (after global ops) op).toList.filter fun question => question.1 = cell := by
  rw [questions, record_snoc, List.filter_append]
  rfl

theorem answers_snoc (global : Settings) (ops : List Operation) (op : Operation) (cell : Nat) :
    answers global (ops ++ [op]) cell =
      answers global ops cell ++ (hears? cell (after global ops) op).toList :=
  record_snoc _ _ _ _

theorem probes_snoc (global : Settings) (ops : List Operation) (op : Operation) (cell : Nat) :
    probes global (ops ++ [op]) cell = probes global ops cell ++
      (probes? (after global ops) op).toList.filter fun probe => probe.1 = cell := by
  rw [probes, record_snoc, List.filter_append]
  rfl

/-! ## What an operation does -/

/-- A call begins in one of three ways: it needs no question, or finds one, or asks one. -/
theorem start_cases (r : Resolver) (uri : String) (directory : Option String) :
    (r.capability = false ∧ r.start uri directory = (r, .resolved r.global)) ∨
    (r.capability = true ∧ ∃ cell, r.cache.get? uri = some cell ∧
      r.start uri directory = (r, .waiting cell r.global directory)) ∨
    (r.capability = true ∧ r.cache.get? uri = none ∧ r.start uri directory =
      ({ r with cache := r.cache.insert uri r.cells.length, cells := r.cells ++ [⟨uri, none⟩] },
        .waiting r.cells.length r.global directory)) := by
  unfold start
  cases hcapability : r.capability with
  | false => exact .inl ⟨rfl, rfl⟩
  | true =>
    cases hcached : r.cache.get? uri with
    | some cell => exact .inr (.inl ⟨rfl, cell, rfl, rfl⟩)
    | none => exact .inr (.inr ⟨rfl, rfl, rfl⟩)

/-- An answer fills the cell that waits for it, or changes nothing. -/
theorem answer_cases (r : Resolver) (cell : Nat) (reply : Fetched) :
    (∃ uri, r.cells[cell]? = some ⟨uri, none⟩ ∧ r.answer cell reply =
      some ({ r with cells := r.cells.set cell ⟨uri, some reply.answer⟩ },
        r.executableFor reply.answer)) ∨
    ((∀ uri, r.cells[cell]? ≠ some ⟨uri, none⟩) ∧ r.answer cell reply = none) := by
  unfold answer
  rcases hcell : r.cells[cell]? with _ | ⟨uri, _ | given⟩
  · exact .inr ⟨fun _ h => (by cases h), rfl⟩
  · exact .inl ⟨uri, rfl, rfl⟩
  · exact .inr ⟨fun _ h => (by cases h), rfl⟩

/-- The cells that there are stay. -/
theorem length_cells_perform (r : Resolver) (op : Operation) :
    r.cells.length ≤ (r.perform op).cells.length := by
  cases op with
  | start uri directory =>
    rcases r.start_cases uri directory with ⟨_, h⟩ | ⟨_, cell, _, h⟩ | ⟨_, _, h⟩
    · simp [perform, h]
    · simp [perform, h]
    · simp [perform, h]
  | answer cell reply =>
    rcases r.answer_cases cell reply with ⟨uri, _, h⟩ | ⟨_, h⟩
    · simp [perform, h]
    · simp [perform, h]
  | forget uri => exact Nat.le_refl _
  | setGlobal global => exact Nat.le_refl _
  | setCapability enabled => exact Nat.le_refl _

/-! ## The account of a cell -/

/-- What has been asked, heard and probed for a cell is what the cell shows: nothing before it is
made, then its question, and with the first answer a probe. -/
structure Account (n : Nat) (cell : Option Cell) (asked : List (Nat × String))
    (heard : List Fetched) (probed : List (Nat × String)) : Prop where
  asked_eq : asked = (cell.map fun c => (n, c.uri)).toList
  heard_head : heard.head?.map Fetched.answer = cell.bind Cell.answer
  probed_length : probed.length = if heard = [] then 0 else 1

theorem Account.started {n : Nat} {r : Resolver} {uri : String} {directory : Option String}
    {asked probed : List (Nat × String)} {heard : List Fetched}
    (h : Account n (r.cells[n]?) asked heard probed) :
    Account n ((r.start uri directory).1.cells[n]?)
      (asked ++ (asks? r (.start uri directory)).toList.filter fun question => question.1 = n)
      heard probed := by
  have hsame : (r.start uri directory).1 = r →
      Account n ((r.start uri directory).1.cells[n]?)
        (asked ++ (asks? r (.start uri directory)).toList.filter fun question => question.1 = n)
        heard probed := by
    intro hr
    simpa [asks?, hr] using h
  rcases r.start_cases uri directory with ⟨_, hstart⟩ | ⟨_, cell, _, hstart⟩ | ⟨_, _, hstart⟩
  · exact hsame (by rw [hstart])
  · exact hsame (by rw [hstart])
  · have hasks : asks? r (.start uri directory) = some (r.cells.length, uri) := by
      simp [asks?, hstart]
    rw [hasks, hstart]
    by_cases hn : r.cells.length = n
    · -- the cell is made here
      subst hn
      rw [List.getElem?_eq_none (Nat.le_refl _)] at h
      refine ⟨?_, ?_, h.probed_length⟩
      · simp [h.asked_eq]
      · simpa using h.heard_head
    · have hcell : (r.cells ++ [⟨uri, none⟩])[n]? = r.cells[n]? := by
        rcases Nat.lt_or_gt_of_ne hn with hlt | hgt
        · rw [List.getElem?_eq_none (by simpa using Nat.succ_le_of_lt hlt),
            List.getElem?_eq_none (Nat.le_of_lt hlt)]
        · exact List.getElem?_append_left hgt
      simpa [hn, hcell] using h

theorem Account.answered {n cell : Nat} {r : Resolver} {reply : Fetched}
    {asked probed : List (Nat × String)} {heard : List Fetched}
    (h : Account n (r.cells[n]?) asked heard probed) :
    Account n ((r.perform (.answer cell reply)).cells[n]?) asked
      (heard ++ (hears? n r (.answer cell reply)).toList)
      (probed ++ (probes? r (.answer cell reply)).toList.filter fun probe => probe.1 = n) := by
  rcases r.answer_cases cell reply with ⟨uri, hcell, hanswer⟩ | ⟨hfilled, hanswer⟩
  · obtain ⟨hlt, -⟩ := List.getElem?_eq_some_iff.mp hcell
    by_cases hn : cell = n
    · -- the first answer
      subst hn
      rw [hcell] at h
      have hnone : heard = [] :=
        List.head?_eq_none_iff.mp (Option.map_eq_none_iff.mp h.heard_head)
      refine ⟨?_, ?_, ?_⟩
      · simpa [perform, hanswer, hlt] using h.asked_eq
      · simp [perform, hanswer, hears?, hlt, hnone]
      · have hbefore := h.probed_length
        simp [hnone] at hbefore
        simp [probes?, hears?, hanswer, hlt, hbefore]
    · simpa [perform, hanswer, hears?, probes?, hn, List.getElem?_set_ne hn] using h
  · by_cases hn : cell = n ∧ n < r.cells.length
    · -- a later answer
      obtain ⟨rfl, hlt⟩ := hn
      have hheard : heard ≠ [] := by
        rintro rfl
        have hhead := h.heard_head
        rw [List.getElem?_eq_getElem hlt] at hhead
        refine hfilled r.cells[cell].uri ?_
        rw [List.getElem?_eq_getElem hlt]
        have hnone : r.cells[cell].answer = none := hhead.symm
        rw [← hnone]
      refine ⟨?_, ?_, ?_⟩
      · simpa [perform, hanswer] using h.asked_eq
      · obtain ⟨first, hfirst⟩ := Option.isSome_iff_exists.mp (List.isSome_head?.mpr hheard)
        rw [List.head?_append, hfirst, Option.some_or]
        simpa [perform, hanswer, hfirst] using h.heard_head
      · simpa [probes?, hanswer, hheard] using h.probed_length
    · simpa [perform, hanswer, hears?, probes?, hn] using h

theorem account_of_history (global : Settings) (ops : List Operation) (n : Nat) :
    Account n ((after global ops).cells[n]?) (questions global ops n) (answers global ops n)
      (probes global ops n) := by
  induction ops using List.reverseRecOn with
  | nil => exact ⟨rfl, rfl, rfl⟩
  | append_singleton ops op ih =>
    rw [after_snoc, questions_snoc, answers_snoc, probes_snoc]
    cases op with
    | start uri directory => simpa [hears?, probes?, perform] using ih.started
    | answer cell reply => simpa [asks?] using ih.answered
    | forget uri | setGlobal global | setCapability enabled =>
      simpa [asks?, hears?, probes?, perform, Resolver.forget] using ih

/-! ## The life of a cell -/

/-- The cell has been made for the document. -/
def Made (r : Resolver) (cell : Nat) (uri : String) : Prop :=
  ∃ answer, r.cells[cell]? = some ⟨uri, answer⟩

theorem Made.lt {r : Resolver} {cell : Nat} {uri : String} (h : r.Made cell uri) :
    cell < r.cells.length := by
  obtain ⟨answer, hcell⟩ := h
  exact (List.getElem?_eq_some_iff.mp hcell).1

/-- A cell stays as it is, or gets its first answer. -/
theorem cell_perform {r : Resolver} {n : Nat} {cell : Cell} (h : r.cells[n]? = some cell)
    (op : Operation) :
    (r.perform op).cells[n]? = some cell ∨
      cell.answer = none ∧ ∃ answer, (r.perform op).cells[n]? = some ⟨cell.uri, some answer⟩ := by
  obtain ⟨hlt, -⟩ := List.getElem?_eq_some_iff.mp h
  cases op with
  | start uri directory =>
    rcases r.start_cases uri directory with ⟨_, hs⟩ | ⟨_, found, _, hs⟩ | ⟨_, _, hs⟩
    · exact .inl (by simpa [perform, hs] using h)
    · exact .inl (by simpa [perform, hs] using h)
    · exact .inl (by simpa [perform, hs, List.getElem?_append_left hlt] using h)
  | answer other reply =>
    rcases r.answer_cases other reply with ⟨uri, hother, ha⟩ | ⟨_, ha⟩
    · by_cases hsame : other = n
      · subst hsame
        rw [h] at hother
        cases hother
        exact .inr ⟨rfl, reply.answer, by simp [perform, ha, hlt]⟩
      · exact .inl (by simpa [perform, ha, List.getElem?_set_ne hsame] using h)
    · exact .inl (by simpa [perform, ha] using h)
  | forget uri => exact .inl h
  | setGlobal global => exact .inl h
  | setCapability enabled => exact .inl h

theorem Made.perform {r : Resolver} {cell : Nat} {uri : String} (h : r.Made cell uri)
    (op : Operation) : (r.perform op).Made cell uri := by
  obtain ⟨given, hcell⟩ := h
  rcases cell_perform hcell op with hsame | ⟨_, reply, hfilled⟩
  · exact ⟨given, hsame⟩
  · exact ⟨some reply, hfilled⟩

theorem Made.foldl {cell : Nat} {uri : String} (ops : List Operation) :
    ∀ {r : Resolver}, r.Made cell uri → (ops.foldl Resolver.perform r).Made cell uri := by
  induction ops with
  | nil => exact fun h => h
  | cons op ops ih => exact fun h => ih (h.perform op)

/-- What is in the cache for a document was there before, or has just been made for it. -/
theorem cached_of_perform {r : Resolver} {op : Operation} {uri : String} {cell : Nat}
    (h : (r.perform op).cache.get? uri = some cell) :
    r.cache.get? uri = some cell ∨
      (cell = r.cells.length ∧ (r.perform op).Made cell uri) := by
  cases op with
  | start other directory =>
    rcases r.start_cases other directory with ⟨_, hs⟩ | ⟨_, found, _, hs⟩ | ⟨_, _, hs⟩
    · exact .inl (by simpa [perform, hs] using h)
    · exact .inl (by simpa [perform, hs] using h)
    · simp only [perform, hs] at h ⊢
      by_cases huri : uri = other
      · subst huri
        rw [Table.get?_insert_self] at h
        cases h
        exact .inr ⟨rfl, none, by simp⟩
      · exact .inl (by rwa [Table.get?_insert_of_ne _ _ huri] at h)
  | answer other reply =>
    rcases r.answer_cases other reply with ⟨asked, _, ha⟩ | ⟨_, ha⟩
    · exact .inl (by simpa [perform, ha] using h)
    · exact .inl (by simpa [perform, ha] using h)
  | forget other =>
    by_cases huri : uri = other
    · subst huri
      simp [perform, Resolver.forget] at h
    · exact .inl (by rwa [perform, Resolver.forget, Table.get?_erase_of_ne _ huri] at h)
  | setGlobal global => exact .inl h
  | setCapability enabled => exact .inl h

/-- What is in the cache for a document has been made for it. -/
theorem made_of_cached {global : Settings} {ops : List Operation} {uri : String} {cell : Nat}
    (h : (after global ops).cache.get? uri = some cell) : (after global ops).Made cell uri := by
  induction ops using List.reverseRecOn with
  | nil => simp [after, fresh] at h
  | append_singleton ops op ih =>
    rw [after_snoc] at h ⊢
    rcases cached_of_perform h with hbefore | ⟨_, hmade⟩
    · exact (ih hbefore).perform op
    · exact hmade

/-- Only forgetting a document takes its cell out of the cache. -/
theorem cached_perform {r : Resolver} {op : Operation} {uri : String} {cell : Nat}
    (h : r.cache.get? uri = some cell) (hop : op ≠ .forget uri) :
    (r.perform op).cache.get? uri = some cell := by
  cases op with
  | start other directory =>
    rcases r.start_cases other directory with ⟨_, hs⟩ | ⟨_, found, _, hs⟩ | ⟨_, hnone, hs⟩
    · simpa [perform, hs] using h
    · simpa [perform, hs] using h
    · have huri : uri ≠ other := by
        rintro rfl
        rw [h] at hnone
        cases hnone
      simpa [perform, hs, Table.get?_insert_of_ne _ _ huri] using h
  | answer other reply =>
    rcases r.answer_cases other reply with ⟨asked, _, ha⟩ | ⟨_, ha⟩
    · simpa [perform, ha] using h
    · simpa [perform, ha] using h
  | forget other =>
    have huri : uri ≠ other := fun heq => hop (heq ▸ rfl)
    rwa [perform, Resolver.forget, Table.get?_erase_of_ne _ huri]
  | setGlobal global => exact h
  | setCapability enabled => exact h

/-- A cell that is out of the cache never comes back. -/
theorem not_cached_foldl {uri : String} {cell : Nat} (ops : List Operation) :
    ∀ {r : Resolver}, cell < r.cells.length → r.cache.get? uri ≠ some cell →
      (ops.foldl perform r).cache.get? uri ≠ some cell := by
  induction ops with
  | nil => exact fun _ h => h
  | cons op ops ih =>
    intro r hlt hgone
    refine ih (Nat.lt_of_lt_of_le hlt (length_cells_perform r op)) fun hback => ?_
    rcases cached_of_perform hback with hbefore | ⟨hnew, _⟩
    · exact hgone hbefore
    · omega

theorem cached_foldl_iff {uri : String} {cell : Nat} (ops : List Operation) :
    ∀ {r : Resolver}, cell < r.cells.length → r.cache.get? uri = some cell →
      ((ops.foldl perform r).cache.get? uri = some cell ↔ .forget uri ∉ ops) := by
  induction ops with
  | nil => exact fun _ h => iff_of_true h List.not_mem_nil
  | cons op ops ih =>
    intro r hlt hcached
    have hlt' := Nat.lt_of_lt_of_le hlt (length_cells_perform r op)
    by_cases hop : op = .forget uri
    · subst hop
      have hgone : (r.perform (.forget uri)).cache.get? uri ≠ some cell := by
        simp [perform, Resolver.forget]
      exact iff_of_false (not_cached_foldl ops hlt' hgone) fun h => h List.mem_cons_self
    · rw [List.foldl_cons, ih hlt' (cached_perform hcached hop), List.mem_cons, not_or]
      exact ⟨fun h => ⟨fun heq => hop heq.symm, h⟩, fun h => h.2⟩

/-! ## Calls -/

/-- The settings that the end of a question leads to: those of an override, and the global ones for
nothing and for a failure. -/
def settingsOf (global : Settings) (directory : Option String) : Fetched → Settings
  | .ok (some choice) => global.merged choice directory
  | .ok none => global
  | .error _ => global

theorem settle_answer (global : Settings) (directory : Option String) (reply : Fetched) :
    settle global directory reply.answer = settingsOf global directory reply := by
  rcases reply with _ | _ | choice <;> rfl

/-- A call for the settings of a document, made after `before` while the editor answers questions
and followed by `later`, is served by a cell. -/
structure ServedBy (global : Settings) (before : List Operation) (uri : String)
    (directory : Option String) (later : List Operation) (cell : Nat) : Prop where
  /-- The call waits for the cell, with the global settings of its beginning. -/
  waits : ((after global before).start uri directory).2 =
    .waiting cell (after global before).global directory
  /-- It finds the cell in the cache, or it makes the cell and asks its question. -/
  attaches : ((after global before).cache.get? uri = some cell ∧
      asks? (after global before) (.start uri directory) = none) ∨
    ((after global before).cache.get? uri = none ∧
      asks? (after global before) (.start uri directory) = some (cell, uri))
  /-- It ends with what the first answer to that question leads to, and not before. -/
  ends : (after global (before ++ .start uri directory :: later)).finish
      (.waiting cell (after global before).global directory) =
    (answers global (before ++ .start uri directory :: later) cell).head?.map
      (settingsOf (after global before).global directory)
  /-- The question is asked once. -/
  asked_once : questions global (before ++ .start uri directory :: later) cell = [(cell, uri)]
  /-- The first answer asks for a probe, and no other does. -/
  probed_once : (probes global (before ++ .start uri directory :: later) cell).length =
    if answers global (before ++ .start uri directory :: later) cell = [] then 0 else 1
  /-- The cell stays in the cache until the document is forgotten. -/
  cached_iff : (after global (before ++ .start uri directory :: later)).cache.get? uri = some cell ↔
    .forget uri ∉ later
  /-- Later calls for the document share the cell until the document is forgotten. -/
  shared_iff : ∀ between next rest, later = between ++ .start uri next :: rest →
    (after global (before ++ .start uri directory :: between)).capability = true →
      (((after global (before ++ .start uri directory :: between)).start uri next).2.cell? =
        some cell ↔ .forget uri ∉ between)

/-- A call that has begun waits for the cell that is then in the cache. -/
theorem cell?_start_iff {r : Resolver} {uri : String} {directory : Option String} {cell : Nat}
    (hcapability : r.capability = true) (hlt : cell < r.cells.length) :
    (r.start uri directory).2.cell? = some cell ↔ r.cache.get? uri = some cell := by
  rcases r.start_cases uri directory with ⟨hoff, _⟩ | ⟨_, found, hfound, hs⟩ | ⟨_, hnone, hs⟩
  · rw [hoff] at hcapability
    cases hcapability
  · rw [hs, hfound]
    rfl
  · rw [hs, hnone]
    refine iff_of_false (fun h => ?_) (fun h => by cases h)
    have hnew : r.cells.length = cell := Option.some.inj h
    omega

theorem finish_eq_head?_answers (global : Settings) (ops : List Operation) (cell : Nat)
    (start : Settings) (directory : Option String) :
    (after global ops).finish (.waiting cell start directory) =
      (answers global ops cell).head?.map (settingsOf start directory) := by
  have hhead := (account_of_history global ops cell).heard_head
  have hends : (answers global ops cell).head?.map (settingsOf start directory) =
      ((answers global ops cell).head?.map Fetched.answer).map (settle start directory) := by
    cases (answers global ops cell).head? with
    | none => rfl
    | some reply => exact congrArg some (settle_answer start directory reply).symm
  rw [hends, hhead]
  simp only [finish]
  rcases (after global ops).cells[cell]? with _ | ⟨uri, _ | given⟩
  · rfl
  · rfl
  · rfl

theorem servedBy_of_made {global : Settings} {before : List Operation} {uri : String}
    {directory : Option String} {cell : Nat} (later : List Operation)
    (waits : ((after global before).start uri directory).2 =
      .waiting cell (after global before).global directory)
    (attaches : ((after global before).cache.get? uri = some cell ∧
        asks? (after global before) (.start uri directory) = none) ∨
      ((after global before).cache.get? uri = none ∧
        asks? (after global before) (.start uri directory) = some (cell, uri)))
    (cached : ((after global before).start uri directory).1.cache.get? uri = some cell) :
    ServedBy global before uri directory later cell := by
  have hsplit : ∀ more, after global (before ++ .start uri directory :: more) =
      more.foldl perform (after global (before ++ [.start uri directory])) := by
    intro more
    rw [← after_append, List.append_assoc, List.singleton_append]
  have hcached : (after global (before ++ [.start uri directory])).cache.get? uri = some cell := by
    rw [after_snoc]
    exact cached
  have hmade := made_of_cached hcached
  have hlater : (after global (before ++ .start uri directory :: later)).Made cell uri := by
    rw [hsplit]
    exact hmade.foldl later
  have haccount := account_of_history global (before ++ .start uri directory :: later) cell
  refine ⟨waits, attaches, finish_eq_head?_answers global _ cell _ directory, ?_,
    haccount.probed_length, ?_, ?_⟩
  · obtain ⟨given, hcell⟩ := hlater
    rw [haccount.asked_eq, hcell]
    rfl
  · rw [hsplit]
    exact cached_foldl_iff later hmade.lt hcached
  · intro between next rest _ hcapability
    rw [hsplit] at hcapability ⊢
    rw [cell?_start_iff hcapability (hmade.foldl between).lt]
    exact cached_foldl_iff between hmade.lt hcached

/-- The settings of a document are asked for once.  Whatever happened before a call and happens
after it: a call made while the editor answers no questions ends with the global settings of its
beginning and leaves no trace, and any other is served by a cell. -/
theorem start_single_flight (global : Settings) (before : List Operation) (uri : String)
    (directory : Option String) (later : List Operation) :
    ((after global before).capability = false →
      ((after global before).start uri directory).1 = after global before ∧
      asks? (after global before) (.start uri directory) = none ∧
      probes? (after global before) (.start uri directory) = none ∧
      (after global (before ++ .start uri directory :: later)).finish
        ((after global before).start uri directory).2 = some (after global before).global) ∧
    ((after global before).capability = true →
      ∃ cell, ServedBy global before uri directory later cell) := by
  have hcases := (after global before).start_cases uri directory
  constructor
  · intro hoff
    rcases hcases with ⟨_, hs⟩ | ⟨hon, _⟩ | ⟨hon, _⟩
    · refine ⟨by rw [hs], by simp [asks?, hs], rfl, by rw [hs]; rfl⟩
    · rw [hoff] at hon
      cases hon
    · rw [hoff] at hon
      cases hon
  · intro hon
    rcases hcases with ⟨hoff, _⟩ | ⟨_, cell, hcached, hs⟩ | ⟨_, hnone, hs⟩
    · rw [hoff] at hon
      cases hon
    · exact ⟨cell, servedBy_of_made later (by rw [hs]) (.inl ⟨hcached, by simp [asks?, hs]⟩)
        (by rw [hs]; exact hcached)⟩
    · exact ⟨_, servedBy_of_made later (by rw [hs]) (.inr ⟨hnone, by simp [asks?, hs]⟩)
        (by rw [hs]; exact Table.get?_insert_self _ _ _)⟩

/-- The second of two calls that overlap.  While their question is open the document is forgotten
and the global settings change; then an answer comes and a failure after it, and a third call asks
anew. -/
theorem start_single_flight_of_overlapping :
    ∃ before later, before = [.setCapability true, .start "a" none] ∧
      later = [.forget "a", .setGlobal ⟨"other", [], false⟩,
        .answer 0 (.ok (some ⟨some "x", [], none⟩)), .answer 0 (.error (.request "closed")),
        .start "a" none] ∧
      (after Settings.default before).capability = true ∧
      ServedBy Settings.default before "a" (some "/w") later 0 ∧
      (after Settings.default (before ++ .start "a" (some "/w") :: later)).finish
        (.waiting 0 Settings.default (some "/w")) = some ⟨"x", ["/w"], true⟩ := by
  let before : List Operation := [.setCapability true, .start "a" none]
  let later : List Operation := [.forget "a", .setGlobal ⟨"other", [], false⟩,
    .answer 0 (.ok (some ⟨some "x", [], none⟩)), .answer 0 (.error (.request "closed")),
    .start "a" none]
  obtain ⟨cell, hserved⟩ :=
    (start_single_flight Settings.default before "a" (some "/w") later).2 rfl
  have hcell : Call.waiting 0 Settings.default (some "/w") =
      .waiting cell Settings.default (some "/w") := hserved.waits
  cases hcell
  exact ⟨before, later, rfl, rfl, rfl, hserved, hserved.ends⟩

end Resolver

end LobsterServer
