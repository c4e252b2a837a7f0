import LobsterServer.Proofs.Server.EditorView

set_option autoImplicit false

/-!
# Documents that are left alone

While no notification of a document is taken in and no pass finds an error in it, the document
keeps its text and stays without an error, whatever else the server does.  A task keeps its stop
while no event moves it, and its pass looks at the document that its ticket names.
-/

namespace LobsterServer

/-! ## The document in the store -/

namespace Store

/-- A document is open with this text, and the last validation found no error in it. -/
def Holds (s : Store) (uri : String) (text : Text) : Prop :=
  ∃ d, s.get? uri = some d ∧ d.text = text ∧ d.hasStructuralErrors = false

variable {s t : Store} {uri other : String} {text : Text}

/-- Putting another document changes nothing. -/
theorem Holds.put_of_ne (h : s.Holds uri text) {d : Document} (hne : d.uri ≠ uri) :
    (s.put d).Holds uri text := by
  obtain ⟨doc, hdoc, hholds⟩ := h
  exact ⟨doc, (get?_put_of_ne s d (Ne.symm hne)).trans hdoc, hholds⟩

/-- A pass that begins changes neither the text nor what was found. -/
theorem Holds.startPass (h : s.Holds uri text) (hs : s.WellFormed) (other : String) :
    (s.startPass other).1.Holds uri text := by
  cases hopen : s.get? other with
  | none =>
    rw [startPass_of_closed hopen]
    exact h
  | some d =>
    have hother : (s.marked d).uri = other := by simpa using hs.uri_eq hopen
    rw [startPass_of_open hopen]
    by_cases hsame : other = uri
    · obtain ⟨doc, hdoc, hholds⟩ := h
      rw [hsame, hdoc] at hopen
      cases hopen
      exact ⟨s.marked d, by rw [get?_put hother, if_pos hsame.symm], hholds⟩
    · have hbefore : ({ s with generation := s.generation + 1 } : Store).Holds uri text := h
      exact hbefore.put_of_ne (by rwa [hother])

/-- A pass that settles a document without an error leaves no error known. -/
theorem Holds.finishPass (h : s.Holds uri text) (hs : s.WellFormed) {ticket : Ticket}
    {findings : List Diagnostic} {status : Status} {publish : Bool}
    (finished : s.finishPass ticket findings = .ok (t, .settled status publish))
    (sound : ticket.uri = uri → findings.any Diagnostic.isError = false) :
    t.Holds uri text := by
  obtain ⟨d, hopen, -, -, rfl, -⟩ := settled_of_finishPass finished
  have huri : (settledWith d findings).uri = ticket.uri := by simpa using hs.uri_eq hopen
  by_cases hsame : ticket.uri = uri
  · obtain ⟨doc, hdoc, htext, -⟩ := h
    rw [hsame, hdoc] at hopen
    cases hopen
    exact ⟨settledWith d findings, by rw [get?_put huri, if_pos hsame.symm], htext, sound hsame⟩
  · exact h.put_of_ne (by rwa [huri])

end Store

/-! ## What a pass was given -/

/-- The ticket and the snapshot that a pass has while it is not at its end. -/
def Pass.given? : Pass → Option (Ticket × Document)
  | .due _ => none
  | .begun ticket snapshot => some (ticket, snapshot)
  | .gated ticket snapshot _ => some (ticket, snapshot)
  | .resolving ticket snapshot _ _ => some (ticket, snapshot)
  | .resolved ticket snapshot _ _ => some (ticket, snapshot)
  | .written ticket snapshot _ => some (ticket, snapshot)
  | .compiling ticket snapshot _ => some (ticket, snapshot)
  | .found _ _ => none

/-- The snapshot of a task's pass is one of the document that its ticket names. -/
def Task.Matched : Task → Prop
  | .validating pass _ => ∀ ticket snapshot, pass.given? = some (ticket, snapshot) →
      snapshot.uri = ticket.uri
  | _ => True

/-- A pass that goes on with what it was given. -/
theorem Task.Matched.next {pass next : Pass} {rest : List String}
    (h : Task.Matched (.validating pass rest)) (same : next.given? = pass.given?) :
    Task.Matched (.validating next rest) :=
  fun ticket snapshot hgiven => h ticket snapshot (same ▸ hgiven)

/-- A pass that has no snapshot. -/
theorem Task.matched_of_none {pass : Pass} (h : pass.given? = none) (rest : List String) :
    Task.Matched (.validating pass rest) := by
  intro ticket snapshot hgiven
  rw [h] at hgiven
  cases hgiven

namespace Server

variable {s t : Server} {e : Event} {es : List Event} {effects : List Effect} {uri : String}
  {text : Text}

/-! ## Quiet runs -/

/-- While these events happen, no notification of the document is taken in, and no pass finds an
error in it. -/
def Quiet (uri : String) (s : Server) (es : List Event) : Prop :=
  record (takes? uri) s es = [] ∧
    ∀ entry ∈ record settles? s es, entry.1.uri = uri → entry.2.any Diagnostic.isError = false

/-- A message that is taken in is about another document. -/
theorem ne_of_takes?_eq_none {n : Nat} {message : Message} {other : String}
    (hn : movedTask e = some n) (found : s.task? n = some (.arrived message))
    (about : message.about? = some other) (quiet : takes? uri s e = none) : other ≠ uri := by
  rintro rfl
  rw [takes?_of_task hn found, Task.notice?_eq_some.mpr ⟨rfl, about⟩] at quiet
  cases quiet

/-- A stretch that takes in no notification of a document, and in which no pass finds an error in
it, leaves the document as it is. -/
theorem holds_of_stretch (h : Stretch s e t effects) (hs : s.store.WellFormed)
    (holds : s.store.Holds uri text) (quiet : takes? uri s e = none)
    (sound : ∀ entry, settles? s e = some entry → entry.1.uri = uri →
      entry.2.any Diagnostic.isError = false) : t.store.Holds uri text := by
  cases h with
  | @opened n other new version task =>
    have hne := ne_of_takes?_eq_none rfl task rfl quiet
    have hbefore :
        ({ s.store with generation := s.store.generation + 1 } : Store).Holds uri text := holds
    exact hbefore.put_of_ne hne
  | @changed n other changes version store task accepted =>
    have hne := ne_of_takes?_eq_none rfl task rfl quiet
    cases hopen : s.store.get? other with
    | none =>
      rw [Store.change_of_closed hopen] at accepted
      cases accepted
    | some d =>
      rw [Store.change_of_open hopen] at accepted
      cases accepted
      have hother : (d.applyChanges changes version).uri = other := by
        simpa using hs.uri_eq hopen
      exact holds.put_of_ne (by rwa [hother])
  | @closed n other task =>
    have hne := ne_of_takes?_eq_none rfl task rfl quiet
    obtain ⟨doc, hdoc, hholds⟩ := holds
    refine ⟨doc, ?_, hholds⟩
    simpa only [moveTask, Store.get?_close, if_neg (Ne.symm hne)] using hdoc
  | @began n other rest store ticket snapshot task started =>
    have hstarted := holds.startPass hs other
    rw [started] at hstarted
    exact hstarted
  | @missed n other rest store reason task refused =>
    have hstarted := holds.startPass hs other
    rw [refused] at hstarted
    exact hstarted
  | @settled n ticket findings rest store status publish task finished =>
    refine holds.finishPass hs finished fun hsame => sound (ticket, findings) ?_ hsame
    simp [settles?, task, finished]
  | dropped task finished =>
    obtain ⟨rfl, -⟩ := Store.stale_of_finishPass finished
    exact holds
  | _ => exact holds

/-- While all is quiet about a document it stays as it is. -/
theorem holds_of_runs (run : Runs s es t effects) (hs : s.store.WellFormed)
    (holds : s.store.Holds uri text) (quiet : Quiet uri s es) : t.store.Holds uri text := by
  induction run with
  | nil s => exact holds
  | @cons s t u e es a b hstep _ ih =>
    obtain ⟨htakes, hsettles⟩ := quiet
    simp only [record, hstep, List.append_eq_nil_iff, Option.toList_eq_nil_iff] at htakes hsettles
    have hsound : ∀ entry, settles? s e = some entry → entry.1.uri = uri →
        entry.2.any Diagnostic.isError = false := fun entry hentry =>
      hsettles entry (List.mem_append_left _ (by simp [hentry]))
    refine ih (wellFormed_of_step hs hstep)
      (holds_of_stretch (stretch_of_step hstep) hs holds htakes.1 hsound) ⟨htakes.2, ?_⟩
    exact fun entry hentry => hsettles entry (List.mem_append_right _ hentry)

/-- A task that no event moves stays at its stop. -/
theorem task?_of_runs {n : Nat} {task : Task} (run : Runs s es t effects)
    (found : s.task? n = some task) (waits : ∀ e ∈ es, movedTask e ≠ some n) :
    t.task? n = some task := by
  induction run with
  | nil s => exact found
  | cons hstep _ ih =>
    have hnext := task?_of_stretch (stretch_of_step hstep) (waits _ List.mem_cons_self) found
    exact ih hnext fun e he => waits e (List.mem_cons_of_mem _ he)

/-! ## A pass and its document -/

theorem matched_of_stretch (h : Stretch s e t effects) (hs : s.store.WellFormed)
    (hall : s.AllTasks fun _ => Task.Matched) : t.AllTasks fun _ => Task.Matched := by
  cases h with
  | arrived message => exact hall.enqueue trivial
  | greeted | readied | parted | ignored | closed | offered | installed | kept | asked | recovered
  | probed | probeEnded | judged =>
    exact hall.moveTask rfl trivial
  | opened | changed | skipped | unwritable | compileEnded =>
    exact hall.moveTask rfl (Task.matched_of_none rfl [])
  | swept | missed | settled | dropped | lost =>
    exact hall.moveTask rfl (Task.elim_next? (fun _ _ => Task.matched_of_none rfl _) _)
  | @began n uri rest store ticket snapshot task started =>
    refine hall.moveTask rfl fun given document hgiven => ?_
    cases hgiven
    obtain ⟨d, hopen, rfl, rfl⟩ := Store.open_of_startPass (s := s.store) (by rw [started])
    simpa using hs.uri_eq hopen
  | gated task | called task | resolved task | wrote task | compiled task =>
    exact hall.moveTask rfl (Task.Matched.next (hall.of_task? task) rfl)
  | workerTook | workerProbed | workerProbeEnded | workerJudged | answered => exact hall

/-- In every run from the start a pass looks at the document that its ticket names. -/
theorem matched_of_runs {config : Config} {root : String}
    (run : Runs (Server.start config root) es t effects) : t.AllTasks fun _ => Task.Matched := by
  refine run.snoc_induction (P := fun _ t _ => t.AllTasks fun _ => Task.Matched)
    (fun _ hentry => absurd hentry List.not_mem_nil) ?_
  intro es t u a b e hrun hall hstep
  exact matched_of_stretch (stretch_of_step hstep) (wellFormed_of_runs hrun) hall

end Server

end LobsterServer
