import LobsterServer.Proofs.Server.Attendance
import LobsterServer.Proofs.Server.Numbering

set_option autoImplicit false

/-!
# The server comes to rest

While no message arrives, every step uses up some of the work that is left, and each task in work
can go on, if need be with the end of a run or with an answer of the editor.  So the server comes
to rest, and then every open document has a verdict that a pass on its present text has found.
-/

namespace LobsterServer

/-- The cell whose answer a task waits for. -/
def Task.cell? : Task → Option Nat
  | .validating (.resolving _ _ _ (.waiting cell _ _)) _ => some cell
  | _ => none

/-- Questions that the editor has not answered yet. -/
def Resolver.openQuestions (r : Resolver) : Nat :=
  r.cells.countP fun cell => cell.answer.isNone

/-- An answer closes one question. -/
theorem Resolver.openQuestions_answer {r r' : Resolver} {cell : Nat} {reply : Fetched}
    {executable : String} (h : r.answer cell reply = some (r', executable)) :
    r'.openQuestions < r.openQuestions := by
  unfold answer at h
  split at h
  · rename_i uri hcell
    simp only [Option.some.injEq, Prod.mk.injEq] at h
    obtain ⟨rfl, rfl⟩ := h
    obtain ⟨hlt, hget⟩ := List.getElem?_eq_some_iff.mp hcell
    simp only [openQuestions]
    rw [List.countP_set hlt, hget]
    have hpos : 0 < r.cells.countP fun cell => cell.answer.isNone := by
      rw [List.countP_pos_iff]
      exact ⟨_, List.getElem_mem hlt, by rw [hget]; rfl⟩
    simp only [Option.isNone_none, Option.isNone_some, if_true, Bool.false_eq_true, if_false]
    omega
  · cases h

theorem Resolver.cells_of_answer {r r' : Resolver} {cell : Nat} {reply : Fetched}
    {executable : String} (h : r.answer cell reply = some (r', executable)) :
    r'.cells.length = r.cells.length ∧ r'.cache = r.cache := by
  unfold answer at h
  split at h
  · simp only [Option.some.injEq, Prod.mk.injEq] at h
    obtain ⟨rfl, rfl⟩ := h
    exact ⟨List.length_set .., rfl⟩
  · cases h

/-- A call that cannot end waits for an answer that the editor may give. -/
theorem Resolver.answer_of_waiting {r : Resolver} {cell : Nat} {global : Settings}
    {directory : Option String} (hlt : cell < r.cells.length)
    (h : r.finish (.waiting cell global directory) = none) (reply : Fetched) :
    (r.answer cell reply).isSome := by
  simp only [finish, List.getElem?_eq_getElem hlt] at h
  simp only [answer, List.getElem?_eq_getElem hlt]
  rcases hcell : r.cells[cell] with ⟨uri, _ | given⟩
  · rfl
  · rw [hcell] at h
    cases h

theorem Resolver.get?_of_forget {r : Resolver} {uri other : String} {cell : Nat}
    (h : (r.forget uri).cache.get? other = some cell) : r.cache.get? other = some cell := by
  by_cases hother : other = uri
  · subst hother
    simp [forget] at h
  · rwa [forget, Table.get?_erase_of_ne _ hother] at h

namespace Server

variable {s t : Server} {e : Event} {effects : List Effect} {n : Nat} {task : Task}

/-! ## Every step uses up work -/

/-- A number for each task of a table, added up. -/
def total (f : Task → Nat) : List (Nat × Task) → Nat
  | [] => 0
  | entry :: rest => f entry.2 + total f rest

theorem total_append (f : Task → Nat) (before after : List (Nat × Task)) :
    total f (before ++ after) = total f before + total f after := by
  induction before with
  | nil => simp [total]
  | cons entry rest ih => rw [List.cons_append, total, total, ih, Nat.add_assoc]

theorem total_moved (f : Task → Nat) (hs : s.Numbered) (found : s.task? n = some task)
    {next : Option Task} (tasks : t.tasks = moved s.tasks n next) :
    total f t.tasks + f task = total f s.tasks + next.elim 0 f := by
  obtain ⟨before, after, hsplit, hbefore, hafter⟩ := hs.split found
  rw [moved_split hsplit hbefore hafter] at tasks
  have hnext : total f (next.map fun task => (n, task)).toList = next.elim 0 f := by
    cases next <;> rfl
  have hmoved : total f ((n, task) :: after) = f task + total f after := rfl
  rw [tasks, hsplit, total_append, total_append, total_append, hnext, hmoved]
  omega

/-- The stops that are still before the worker. -/
def workerEffort (s : Server) : Nat :=
  4 * s.requests.length +
    match s.worker with
    | .absent => 0
    | .idle => 0
    | .busy (.due _) => 3
    | .busy (.running _) => 2
    | .busy (.judged _) => 1

/-- The work that is left while no message arrives.  A later number may grow when an earlier one
falls: a task that sweeps the documents takes on many passes, a pass may ask a new question, and an
answer asks for a probe. -/
def effort (s : Server) : Nat × Nat × Nat × Nat :=
  (total Task.phase s.tasks, total Task.work s.tasks, s.resolver.openQuestions, s.workerEffort)

/-- Less work is left. -/
def LessEffort : Nat × Nat × Nat × Nat → Nat × Nat × Nat × Nat → Prop :=
  Prod.Lex (· < ·) (Prod.Lex (· < ·) (Prod.Lex (· < ·) (· < ·)))

theorem lessEffort_wellFounded : WellFounded LessEffort :=
  (inferInstance : WellFoundedRelation (Nat × Nat × Nat × Nat)).wf

theorem Turn.lessEffort (h : Turn s e t) (hs : s.Numbered) (hn : movedTask e = some n) :
    LessEffort t.effort s.effort := by
  cases h with
  | arrival message he =>
    subst he
    cases hn
  | elsewhere hnone =>
    rw [hnone] at hn
    cases hn
  | moved m task next _ found tasks _ onward =>
    have hphase := total_moved Task.phase hs found tasks
    have hwork := total_moved Task.work hs found tasks
    rcases onward with hlt | ⟨heq, hlt⟩
    · have hless : total Task.phase t.tasks < total Task.phase s.tasks := by omega
      exact .left _ _ hless
    · have hsame : total Task.phase t.tasks = total Task.phase s.tasks := by omega
      have hless : total Task.work t.tasks < total Task.work s.tasks := by omega
      unfold effort
      rw [hsame]
      exact .right _ (.left _ _ hless)

/-- A probe that starts runs its executable, or is judged at once. -/
theorem startProbe_probe (s : Server) (runner : Runner) (executable : String) :
    (s.startProbe runner executable).1 = .running executable ∨
      (s.startProbe runner executable).1 = .judged Verdict.unset := by
  unfold startProbe
  split
  · exact .inl rfl
  · exact .inr rfl

/-- A step without a message that arrives. -/
def Proceeds (s t : Server) : Prop :=
  ∃ e effects, (∀ message, e ≠ .arrive message) ∧ s.step e = some (t, effects)

theorem Stretch.lessEffort (h : Stretch s e t effects) (hs : s.Numbered)
    (quiet : ∀ message, e ≠ .arrive message) : LessEffort t.effort s.effort := by
  have hturn := turn_of_stretch h
  cases h with
  | arrived message => exact absurd rfl (quiet message)
  | @workerTook executable requests idle next =>
    refine .right _ (.right _ (.right _ ?_))
    simp only [workerEffort, idle, next, List.length_cons]
    omega
  | @workerProbed executable due =>
    refine .right _ (.right _ (.right _ ?_))
    rcases startProbe_probe s .worker executable with hrunning | hjudged
    · simp [workerEffort, due, hrunning]
    · simp [workerEffort, due, hjudged]
  | workerProbeEnded running =>
    refine .right _ (.right _ (.right _ ?_))
    simp [workerEffort, running]
  | workerJudged judged =>
    refine .right _ (.right _ (.right _ ?_))
    simp [workerEffort, judged, applyVerdict]
  | answered filled =>
    exact .right _ (.right _ (.left _ _ (Resolver.openQuestions_answer filled)))
  | _ => exact hturn.lessEffort hs rfl

/-- From a server whose tasks are numbered there is no way to go on for ever. -/
theorem acc_proceeds (hs : s.Numbered) : Acc (fun t s => Proceeds s t) s := by
  have hmeasure : WellFounded (InvImage LessEffort effort) := InvImage.wf _ lessEffort_wellFounded
  induction s using hmeasure.induction with
  | _ s ih =>
    refine .intro s fun t hproceeds => ?_
    obtain ⟨e, effects, quiet, hstep⟩ := hproceeds
    have hstretch := stretch_of_step hstep
    exact ih t (hstretch.lessEffort hs quiet) ((turn_of_stretch hstretch).numbered hs)

/-! ## Every task can go on -/

/-- Every cell that is kept for a document or that a task waits for has been made. -/
structure Grounded (s : Server) : Prop where
  cached_lt : ∀ {uri : String} {cell : Nat},
    s.resolver.cache.get? uri = some cell → cell < s.resolver.cells.length
  awaited_lt : s.AllTasks fun _ task => ∀ cell, task.cell? = some cell →
    cell < s.resolver.cells.length

theorem grounded_start (config : Config) (root : String) : (Server.start config root).Grounded :=
  ⟨fun h => by simp [start, Resolver.fresh] at h, fun _ hentry => absurd hentry List.not_mem_nil⟩

/-- Moving a task keeps what it holds if the task finds the cell that it waits for. -/
theorem Grounded.moveTask (hs : s.Grounded) {next : Option Task}
    (hnext : next.elim True fun task => ∀ cell, task.cell? = some cell →
      cell < s.resolver.cells.length) : (s.moveTask n next).Grounded :=
  ⟨hs.cached_lt, hs.awaited_lt.moveTask rfl hnext⟩

/-- A task that goes on to the next document, or ends, waits for no cell. -/
theorem Grounded.moveTask_next? (hs : s.Grounded) (rest : List String) :
    (s.moveTask n (Task.next? rest)).Grounded := by
  refine hs.moveTask (Task.elim_next? (fun uri rest cell hcell => ?_) rest)
  cases hcell

/-- Servers with the same tasks and cells, one of which keeps no cell that the other does not. -/
theorem Grounded.of_cells (hs : s.Grounded) (tasks : t.tasks = s.tasks)
    (cells : t.resolver.cells.length = s.resolver.cells.length)
    (cache : ∀ {uri : String} {cell : Nat}, t.resolver.cache.get? uri = some cell →
      s.resolver.cache.get? uri = some cell) : t.Grounded := by
  refine ⟨fun h => ?_, hs.awaited_lt.imp (fun _ _ hawaited cell hcell => ?_) tasks⟩
  · rw [cells]
    exact hs.cached_lt (cache h)
  · rw [cells]
    exact hawaited cell hcell

/-- A call for settings waits for a cell that is there. -/
theorem Grounded.start (hs : s.Grounded) {uri : String} {directory : Option String}
    {resolver : Resolver} {call : Call}
    (started : s.resolver.start uri directory = (resolver, call)) :
    ({ s with resolver := resolver } : Server).Grounded ∧
      ∀ cell global directory, call = .waiting cell global directory →
        cell < resolver.cells.length := by
  unfold Resolver.start at started
  split at started
  · split at started
    · rename_i old hcached
      cases started
      refine ⟨hs, fun cell global directory hcall => ?_⟩
      cases hcall
      exact hs.cached_lt hcached
    · cases started
      refine ⟨⟨fun {other cell} hcached => ?_, fun entry hentry cell hcell => ?_⟩,
        fun cell _ _ hcall => ?_⟩
      · rw [List.length_append]
        by_cases hother : other = uri
        · subst hother
          rw [Table.get?_insert_self] at hcached
          cases hcached
          exact Nat.lt_succ_self _
        · rw [Table.get?_insert_of_ne _ _ hother] at hcached
          exact Nat.lt_add_right _ (hs.cached_lt hcached)
      · rw [List.length_append]
        exact Nat.lt_add_right _ (hs.awaited_lt entry hentry cell hcell)
      · cases hcall
        rw [List.length_append]
        exact Nat.lt_succ_self _
  · cases started
    exact ⟨hs, fun cell global directory hcall => by cases hcall⟩

theorem Stretch.grounded (h : Stretch s e t effects) (hs : s.Grounded) : t.Grounded := by
  cases h with
  | arrived message =>
    exact ⟨hs.cached_lt, hs.awaited_lt.enqueue fun cell hcell => by cases hcell⟩
  | greeted | readied | parted | ignored | offered =>
    refine Grounded.moveTask (Grounded.of_cells hs ?_ ?_ ?_) trivial
    · rfl
    · rfl
    · exact fun h => h
  | closed =>
    refine Grounded.moveTask (Grounded.of_cells hs ?_ ?_ ?_) trivial
    · rfl
    · rfl
    · exact Resolver.get?_of_forget
  | opened | changed | began | unwritable | wrote | installed | recovered | judged | kept | asked
  | probed | probeEnded | gated | resolved | skipped | compiled | compileEnded =>
    refine Grounded.moveTask (Grounded.of_cells hs ?_ ?_ ?_) fun cell hcell => ?_
    · rfl
    · rfl
    · exact fun h => h
    · cases hcell
  | swept | lost | missed | settled | dropped =>
    refine Grounded.moveTask_next? (Grounded.of_cells hs ?_ ?_ ?_) _
    · rfl
    · rfl
    · exact fun h => h
  | @called n ticket snapshot state rest resolver call _ task started question =>
    obtain ⟨hground, hcall⟩ := hs.start started
    refine hground.moveTask fun cell hcell => ?_
    cases call with
    | resolved settings => cases hcell
    | waiting other global directory =>
      cases hcell
      exact hcall _ _ _ rfl
  | workerTook | workerProbed | workerProbeEnded | workerJudged =>
    exact hs.of_cells rfl rfl fun h => h
  | @answered cell reply resolver executable filled =>
    obtain ⟨hcells, hcache⟩ := Resolver.cells_of_answer filled
    exact hs.of_cells rfl hcells fun h => by rwa [← hcache]

theorem grounded_of_runs {config : Config} {root : String} {es : List Event}
    (run : Runs (Server.start config root) es t effects) : t.Grounded :=
  run.snoc_induction (grounded_start config root)
    fun _ hs hstep => (stretch_of_step hstep).grounded hs

/-- What a task can go on with. -/
inductive CanGoOn (s : Server) (n : Nat) (task : Task) : Prop
  /-- It goes on by itself. -/
  | itself (h : (s.step (.advance n)).isSome)
  /-- It turns to the open documents, whatever their order. -/
  | sweep (h : ∀ order, order.Perm s.store.uris → (s.step (.sweep n order)).isSome)
  /-- It waits for the scratch copy of a document, and goes on whichever way the writing ends; that
  it is refused is always one of the ways. -/
  | copy (snapshot : Document) (h : ∀ ending,
      (s.scratch.afterWrite? snapshot.uri snapshot.text ending).isSome →
        (s.step (.copied n ending)).isSome)
  /-- It waits for the end of a run, and goes on whatever the run ends with. -/
  | run (h : ∀ result, (s.step (.ran (.task n) result)).isSome)
  /-- It waits for the end of a question, and the editor may answer what it likes. -/
  | answer (cell : Nat) (waits : task.cell? = some cell)
      (h : ∀ reply, (s.step (.answered cell reply)).isSome)

theorem canGoOn_of_pass {pass : Pass} {rest : List String} (hs : s.Grounded)
    (found : s.task? n = some (.validating pass rest)) :
    s.CanGoOn n (.validating pass rest) := by
  have hstep : s.step (.advance n) = s.advancePass n rest pass := by
    simp [step, found, advanceTask]
  cases pass with
  | due uri =>
    refine .itself ?_
    simp only [hstep, advancePass]
    split <;> rfl
  | resolving ticket snapshot state call =>
    cases hfinish : s.resolver.finish call with
    | some settings =>
      refine .itself ?_
      simp [hstep, advancePass, hfinish]
    | none =>
      cases call with
      | resolved settings => cases hfinish
      | waiting cell global directory =>
        refine .answer cell rfl fun reply => ?_
        have hlt : cell < s.resolver.cells.length := hs.awaited_lt.of_task? found cell rfl
        have hanswer := Resolver.answer_of_waiting hlt hfinish reply
        simpa [step] using hanswer
  | resolved ticket snapshot state settings =>
    cases herrored : state.isErrored with
    | true =>
      refine .itself ?_
      simp [hstep, advancePass, herrored]
    | false =>
      refine .copy snapshot fun ending hending => ?_
      simpa [step, endCopy, found, herrored] using hending
  | compiling ticket snapshot content =>
    refine .run fun result => ?_
    simp [step, endRun, found]
  | found ticket findings =>
    refine .itself ?_
    simp only [hstep, advancePass]
    split <;> rfl
  | begun ticket snapshot => exact .itself (by rw [hstep]; rfl)
  | gated ticket snapshot state => exact .itself (by rw [hstep]; rfl)
  | written ticket snapshot invocation => exact .itself (by rw [hstep]; rfl)

/-- No task is stuck. -/
theorem canGoOn (hs : s.Grounded) (found : s.task? n = some task) :
    s.CanGoOn n task := by
  have hstep : s.step (.advance n) = s.advanceTask n task := by simp [step, found]
  cases task with
  | validating pass rest => exact canGoOn_of_pass hs found
  | sweeping =>
    refine .sweep fun order horder => ?_
    simp [step, Server.sweep, found, horder]
  | probing probe =>
    cases probe with
    | running executable =>
      refine .run fun result => ?_
      simp [step, endRun, found]
    | due executable => exact .itself (by rw [hstep]; rfl)
    | judged verdict => exact .itself (by rw [hstep]; rfl)
  | _ => exact .itself (by rw [hstep]; rfl)

/-- Validation never gets stuck.  Whatever has happened since the start, the server does not work
for ever while no message arrives, and each task in work can go on until it ends; and whenever no
task is left, each open document has found errors or none, and the last pass that settled it was
given its present text and version. -/
theorem validation_comes_to_rest {config : Config} {root : String} {es : List Event}
    (run : Runs (Server.start config root) es s effects) :
    (s.tasks = [] → ∀ uri d, s.store.get? uri = some d →
      HasVerdict (record begins? (Server.start config root) es)
        (record settles? (Server.start config root) es) uri d) ∧
    Acc (fun after before => Proceeds before after) s ∧
    ∀ n task, s.task? n = some task → s.CanGoOn n task := by
  refine ⟨?_, acc_proceeds (numbered_of_runs run), ?_⟩
  · intro hrest uri d hd
    exact ((attended_of_runs run).attended hd).hasVerdict hrest
  · intro n task found
    exact canGoOn (grounded_of_runs run) found

/-- A document is changed while the compiler runs on its first text. -/
def changedDuringRun : List Event :=
  [.arrive (.didOpen "a" ['x'] 1), .advance 0, .advance 0, .advance 0, .advance 0, .advance 0,
    .copied 0 .complete, .advance 0,
    .arrive (.didChange "a" [⟨none, ['y']⟩] 2), .advance 1,
    .ran (.task 0) (.ok ⟨0, [], []⟩), .advance 0,
    .advance 1, .advance 1, .advance 1, .advance 1, .copied 1 .complete, .advance 1,
    .ran (.task 1) (.error (.killed "lobster")), .advance 1]

/-- The first run is dropped, and at rest the document has the verdict of the second. -/
theorem validation_comes_to_rest_after_a_change :
    ∃ s effects d, Runs fresh changedDuringRun s effects ∧
      s.tasks = [] ∧ s.store.get? "a" = some d ∧ d.text = ['y'] ∧ d.status = .hasErrors ∧
      HasVerdict (record begins? fresh changedDuringRun)
        (record settles? fresh changedDuringRun) "a" d := by
  obtain ⟨s, effects, d, run, hrest, hd, htext, hstatus⟩ : ∃ s effects d,
      Runs fresh changedDuringRun s effects ∧
      s.tasks = [] ∧ s.store.get? "a" = some d ∧ d.text = ['y'] ∧ d.status = .hasErrors :=
    ⟨_, _, _, runs_iff.mpr rfl, rfl, rfl, rfl, rfl⟩
  exact ⟨s, effects, d, run, hrest, hd, htext, hstatus,
    (validation_comes_to_rest run).1 hrest "a" d hd⟩

end Server

end LobsterServer
