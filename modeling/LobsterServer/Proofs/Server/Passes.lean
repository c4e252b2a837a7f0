import LobsterServer.Proofs.Server.Attendance
import LobsterServer.Proofs.Settings.SingleFlight

set_option autoImplicit false

/-!
# What a pass reads on its way

Between the snapshot that it is given and the findings that it ends with, a pass reads two values
that other messages may write: first the error state, then the settings in force for all
documents.  The record of these readings tells, of every pass by its ticket, when it read what, and
a second record what each pass goes by once it has read both.  A pass that has settled a document
has gone by what it read, and no pass has read anything before its stamp was handed out.
-/

namespace LobsterServer

/-- A value that a pass reads and other messages write. -/
inductive Reading where
  /-- the error state -/
  | state (state : ErrorState)
  /-- the settings in force for all documents -/
  | global (settings : Settings)
  deriving DecidableEq, Repr

/-- What a pass goes by once its settings are known. -/
structure Use where
  ticket : Ticket
  snapshot : Document
  state : ErrorState
  settings : Settings
  deriving DecidableEq, Repr

/-! ## Calls -/

/-- The call has begun with these settings in force. -/
def Call.StartsFrom (global : Settings) (directory : Option String) : Call → Prop
  | .resolved settings => settings = global
  | .waiting _ started place => started = global ∧ place = directory

/-- A call begins with the settings in force, and does not change them. -/
theorem Resolver.startsFrom_start {r after : Resolver} {uri : String} {directory : Option String}
    {call : Call} (h : r.start uri directory = (after, call)) :
    call.StartsFrom r.global directory ∧ after.global = r.global := by
  rcases r.start_cases uri directory with ⟨-, hcase⟩ | ⟨-, cell, -, hcase⟩ | ⟨-, -, hcase⟩
  all_goals
    rw [hcase] at h
    cases h
  · exact ⟨rfl, rfl⟩
  · exact ⟨⟨rfl, rfl⟩, rfl⟩
  · exact ⟨⟨rfl, rfl⟩, rfl⟩

/-- A call ends with the settings that it began with and what the editor answered, if it did. -/
theorem Call.StartsFrom.settle {global settings : Settings} {directory : Option String}
    {call : Call} {r : Resolver} (h : call.StartsFrom global directory)
    (hfinish : r.finish call = some settings) :
    ∃ answer, settings = Resolver.settle global directory answer := by
  cases call with
  | resolved known =>
    cases hfinish
    exact ⟨none, h⟩
  | waiting cell started place =>
    obtain ⟨rfl, rfl⟩ := h
    simp only [Resolver.finish] at hfinish
    split at hfinish
    · cases hfinish
      exact ⟨_, rfl⟩
    · cases hfinish

/-! ## What is read and gone by -/

/-- The error state that a pass goes by is one that it has read, and its settings are those in force
that it has read, with an answer of the editor. -/
structure Use.IsRead (readings : List (Ticket × Reading)) (use : Use) : Prop where
  state : (use.ticket, .state use.state) ∈ readings
  settings : ∃ global answer, (use.ticket, .global global) ∈ readings ∧
    use.settings = Resolver.settle global use.snapshot.directory answer

/-- A pass has read what it must have read to be at its stop, and later has gone by it. -/
def Pass.HasRead (readings : List (Ticket × Reading)) (uses : List Use) : Pass → Prop
  | .due _ => True
  | .begun _ _ => True
  | .gated ticket _ state => (ticket, .state state) ∈ readings
  | .resolving ticket snapshot state call => (ticket, .state state) ∈ readings ∧
    ∃ global, (ticket, .global global) ∈ readings ∧ call.StartsFrom global snapshot.directory
  | .resolved ticket snapshot state settings =>
    Use.IsRead readings ⟨ticket, snapshot, state, settings⟩
  | .written ticket _ _ => ∃ use ∈ uses, use.ticket = ticket
  | .compiling ticket _ _ => ∃ use ∈ uses, use.ticket = ticket
  | .found ticket _ => ∃ use ∈ uses, use.ticket = ticket

/-- A task is at work on a pass whose stamp has been handed out and that has read what it must
have read to be at its stop. -/
def Task.HasRead (readings : List (Ticket × Reading)) (uses : List Use) (stamp : Nat) : Task → Prop
  | .validating pass _ =>
    pass.HasRead readings uses ∧ ∀ ticket, pass.ticket? = some ticket → ticket.generation ≤ stamp
  | _ => True

section Readings

variable {readings more : List (Ticket × Reading)} {uses used : List Use} {ticket : Ticket}

theorem Use.IsRead.append {use : Use} (h : use.IsRead readings) :
    use.IsRead (readings ++ more) := by
  obtain ⟨global, answer, hglobal, hsettings⟩ := h.settings
  exact ⟨List.mem_append_left _ h.state, global, answer, List.mem_append_left _ hglobal, hsettings⟩

theorem Pass.HasRead.append {pass : Pass} (h : pass.HasRead readings uses) :
    pass.HasRead (readings ++ more) (uses ++ used) := by
  cases pass with
  | due uri | begun ticket snapshot => trivial
  | gated ticket snapshot state => exact List.mem_append_left _ h
  | resolving ticket snapshot state call =>
    obtain ⟨hstate, global, hglobal, hcall⟩ := h
    exact ⟨List.mem_append_left _ hstate, global, List.mem_append_left _ hglobal, hcall⟩
  | resolved ticket snapshot state settings => exact Use.IsRead.append h
  | written ticket | compiling ticket | found ticket =>
    obtain ⟨use, huse, hticket⟩ := h
    exact ⟨use, List.mem_append_left _ huse, hticket⟩

theorem Task.HasRead.append {stamp later : Nat} {task : Task} (h : task.HasRead readings uses stamp)
    (hle : stamp ≤ later) : task.HasRead (readings ++ more) (uses ++ used) later := by
  cases task with
  | validating pass rest =>
    exact ⟨h.1.append, fun ticket hticket => Nat.le_trans (h.2 ticket hticket) hle⟩
  | _ => trivial

/-- A pass that goes on with its ticket bears a stamp that has been handed out. -/
theorem Task.HasRead.next {stamp : Nat} {pass next : Pass} {rest : List String}
    (h : Task.HasRead readings uses stamp (.validating pass rest))
    (hread : next.HasRead readings uses) (same : next.ticket? = pass.ticket?) :
    Task.HasRead readings uses stamp (.validating next rest) :=
  ⟨hread, fun ticket hticket => h.2 ticket (same ▸ hticket)⟩

theorem Task.hasRead_due (readings : List (Ticket × Reading)) (uses : List Use) (stamp : Nat)
    (uri : String) (rest : List String) :
    Task.HasRead readings uses stamp (.validating (.due uri) rest) :=
  ⟨trivial, fun ticket hticket => by cases hticket⟩

end Readings

namespace Server

/-- The reading that an event makes, with the ticket of the pass that makes it. -/
def reads? (s : Server) : Event → Option (Ticket × Reading)
  | .advance n =>
    match s.task? n with
    | some (.validating (.begun ticket _) _) => some (ticket, .state s.state)
    | some (.validating (.gated ticket _ _) _) => some (ticket, .global s.resolver.global)
    | _ => none
  | _ => none

/-- What a pass goes by that an event leads on from where its settings are known: it gives up in an
error state, or else it has its scratch copy written. -/
def uses? (s : Server) (e : Event) : Option Use :=
  match (movedTask e).bind s.task? with
  | some (.validating (.resolved ticket snapshot state settings) _) =>
    some ⟨ticket, snapshot, state, settings⟩
  | _ => none

variable {s t : Server} {e : Event} {effects : List Effect}

/-! ## The readings of passes at work and of passes that have settled -/

/-- Readings are made by passes whose stamps have been handed out; passes at work have made the
readings that lie behind them and go by what they have read, and passes that have settled a document
have done so. -/
structure Tracked (readings : List (Ticket × Reading)) (uses : List Use)
    (settled : List (Ticket × List Diagnostic)) (s : Server) : Prop where
  stamped : ∀ entry ∈ readings, entry.1.generation ≤ s.store.generation
  tasks : s.AllTasks fun _ => Task.HasRead readings uses s.store.generation
  used : ∀ use ∈ uses, use.IsRead readings
  settled : ∀ entry ∈ settled, ∃ use ∈ uses, use.ticket = entry.1

theorem tracked_start (config : Config) (root : String) :
    Tracked [] [] [] (Server.start config root) :=
  ⟨fun _ hentry => absurd hentry List.not_mem_nil, fun _ hentry => absurd hentry List.not_mem_nil,
    fun _ hentry => absurd hentry List.not_mem_nil, fun _ hentry => absurd hentry List.not_mem_nil⟩

variable {readings : List (Ticket × Reading)} {uses : List Use}
  {settled : List (Ticket × List Diagnostic)}

/-- Stamps are only ever handed out. -/
theorem generation_le_of_stretch (h : Stretch s e t effects) :
    s.store.generation ≤ t.store.generation := by
  rcases store_of_stretch h with hsame | ⟨op, hop⟩
  · exact Nat.le_of_eq (congrArg Store.generation hsame.symm)
  · rw [hop]
    exact Store.generation_le_perform s.store op

/-- It is enough to say what the stretch reads, goes by and settles, and that the task it moves has
made its readings. -/
theorem Tracked.next (h : Tracked readings uses settled s) (hstretch : Stretch s e t effects)
    (more : List (Ticket × Reading)) (used : List Use) (ended : List (Ticket × List Diagnostic))
    (hmore : ∀ entry ∈ more, entry.1.generation ≤ s.store.generation)
    (hused : ∀ use ∈ used, use.IsRead readings)
    (hended : ∀ entry ∈ ended, ∃ use ∈ uses, use.ticket = entry.1)
    (htasks : (s.AllTasks fun _ => Task.HasRead (readings ++ more) (uses ++ used)
        t.store.generation) →
      t.AllTasks fun _ => Task.HasRead (readings ++ more) (uses ++ used) t.store.generation) :
    Tracked (readings ++ more) (uses ++ used) (settled ++ ended) t := by
  have hle := generation_le_of_stretch hstretch
  refine ⟨?_, htasks (h.tasks.imp (fun _ _ htask => htask.append hle) rfl), ?_, ?_⟩
  · intro entry hentry
    rcases List.mem_append.mp hentry with hold | hnew
    · exact Nat.le_trans (h.stamped entry hold) hle
    · exact Nat.le_trans (hmore entry hnew) hle
  · intro use huse
    rcases List.mem_append.mp huse with hold | hnew
    · exact (h.used use hold).append
    · exact (hused use hnew).append
  · intro entry hentry
    have hbefore : ∃ use ∈ uses, use.ticket = entry.1 := by
      rcases List.mem_append.mp hentry with hold | hnew
      · exact h.settled entry hold
      · exact hended entry hnew
    obtain ⟨use, huse, hticket⟩ := hbefore
    exact ⟨use, List.mem_append_left _ huse, hticket⟩

/-- A stretch that reads nothing, goes by nothing and settles nothing. -/
theorem Tracked.aside (h : Tracked readings uses settled s) (hstretch : Stretch s e t effects)
    (htasks : (s.AllTasks fun _ => Task.HasRead readings uses t.store.generation) →
      t.AllTasks fun _ => Task.HasRead readings uses t.store.generation) :
    Tracked readings uses settled t := by
  have hnext := h.next hstretch [] [] []
    (fun _ hentry => absurd hentry List.not_mem_nil)
    (fun _ hentry => absurd hentry List.not_mem_nil)
    (fun _ hentry => absurd hentry List.not_mem_nil)
  simp only [List.append_nil] at hnext
  exact hnext htasks

/-- The stretch in which a pass reads a value. -/
theorem Tracked.reading (h : Tracked readings uses settled s) (reading : Reading) {n : Nat}
    {pass next : Pass} {rest : List String} {ticket : Ticket}
    (task : s.task? n = some (.validating pass rest)) (hticket : pass.ticket? = some ticket)
    (hstretch : Stretch s e t effects)
    (tasks : t.tasks = moved s.tasks n (some (.validating next rest)))
    (same : next.ticket? = pass.ticket?)
    (hread : pass.HasRead (readings ++ [(ticket, reading)]) uses →
      next.HasRead (readings ++ [(ticket, reading)]) uses) :
    Tracked (readings ++ [(ticket, reading)]) uses settled t := by
  have hnext := h.next hstretch [(ticket, reading)] [] [] (fun entry hentry => by
      rw [List.mem_singleton.mp hentry]
      exact (h.tasks.of_task? task).2 ticket hticket)
    (fun _ hentry => absurd hentry List.not_mem_nil)
    (fun _ hentry => absurd hentry List.not_mem_nil)
  simp only [List.append_nil] at hnext
  refine hnext fun hall => ?_
  have hold := hall.of_task? task
  have hmoved : (s.moveTask n (some (.validating next rest))).AllTasks _ :=
    hall.moveTask rfl (hold.next (hread hold.1) same)
  exact hmoved.imp (fun _ _ htask => htask) tasks

/-- The stretch in which a pass goes by what it has read. -/
theorem Tracked.using (h : Tracked readings uses settled s) {n : Nat} {ticket : Ticket}
    {snapshot : Document} {state : ErrorState} {settings : Settings} {rest : List String}
    {next : Pass}
    (task : s.task? n = some (.validating (.resolved ticket snapshot state settings) rest))
    (hstretch : Stretch s e t effects)
    (tasks : t.tasks = moved s.tasks n (some (.validating next rest)))
    (same : next.ticket? = some ticket)
    (hread : ∀ {readings uses}, (∃ use ∈ uses, use.ticket = ticket) → next.HasRead readings uses) :
    Tracked readings (uses ++ [⟨ticket, snapshot, state, settings⟩]) settled t := by
  have hnext := h.next hstretch [] [⟨ticket, snapshot, state, settings⟩] []
    (fun _ hentry => absurd hentry List.not_mem_nil)
    (fun use huse => by
      rw [List.mem_singleton.mp huse]
      exact (h.tasks.of_task? task).1)
    (fun _ hentry => absurd hentry List.not_mem_nil)
  simp only [List.append_nil] at hnext
  refine hnext fun hall => ?_
  have hused : next.HasRead readings (uses ++ [⟨ticket, snapshot, state, settings⟩]) :=
    hread ⟨_, List.mem_append_right _ List.mem_cons_self, rfl⟩
  have hmoved : (s.moveTask n (some (.validating next rest))).AllTasks _ :=
    hall.moveTask rfl ((hall.of_task? task).next hused same)
  exact hmoved.imp (fun _ _ htask => htask) tasks

/-- A pass that begins bears the stamp that has just been handed out. -/
theorem Tracked.began (h : Tracked readings uses settled s) {n : Nat} {uri : String}
    {rest : List String} {store : Store} {ticket : Ticket} {snapshot : Document}
    (task : s.task? n = some (.validating (.due uri) rest))
    (started : s.store.startPass uri = (store, .ok (ticket, snapshot))) :
    Tracked readings uses settled (({ s with store := store } : Server).setTask n
      (.validating (.begun ticket snapshot) rest)) := by
  refine h.aside (.began task started) fun hall => ?_
  refine hall.moveTask rfl ⟨trivial, fun given hgiven => ?_⟩
  cases hgiven
  obtain ⟨d, hd, rfl, -⟩ := Store.open_of_startPass (s := s.store) (by rw [started])
  rw [Store.startPass_of_open hd] at started
  cases started
  exact Nat.le_refl _

/-- A pass that settles a document has gone by what it has read. -/
theorem Tracked.finished (h : Tracked readings uses settled s) {n : Nat} {ticket : Ticket}
    {findings : List Diagnostic} {rest : List String} {store : Store} {status : Status}
    {publish : Bool} (task : s.task? n = some (.validating (.found ticket findings) rest))
    (finished : s.store.finishPass ticket findings = .ok (store, .settled status publish)) :
    Tracked readings uses (settled ++ [(ticket, findings)])
      (({ s with store := store } : Server).validateNext n rest) := by
  have hused : ∃ use ∈ uses, use.ticket = ticket := (h.tasks.of_task? task).1
  have hnext := h.next (.settled task finished) [] [] [(ticket, findings)]
    (fun _ hentry => absurd hentry List.not_mem_nil)
    (fun _ hentry => absurd hentry List.not_mem_nil)
    (fun entry hentry => by
      rw [List.mem_singleton.mp hentry]
      exact hused)
  simp only [List.append_nil] at hnext
  exact hnext fun hall => hall.moveTask rfl (Task.elim_next? (Task.hasRead_due _ _ _) rest)

theorem Tracked.step (h : Tracked readings uses settled s) (hstep : s.step e = some (t, effects)) :
    Tracked (readings ++ (reads? s e).toList) (uses ++ (uses? s e).toList)
      (settled ++ (settles? s e).toList) t := by
  have hstretch := stretch_of_step hstep
  cases stretch_of_step hstep with
  | arrived message =>
    simpa [reads?, uses?, movedTask, settles?] using
      h.aside hstretch fun hall => hall.enqueue trivial
  | greeted task | readied task | parted task | ignored task | closed task | offered task
  | installed task | kept task | asked task | recovered task | probed task | judged task
  | probeEnded task =>
    simpa [reads?, uses?, movedTask, settles?, task] using
      h.aside hstretch fun hall => hall.moveTask rfl trivial
  | opened task | changed task =>
    simpa [reads?, uses?, movedTask, settles?, task] using
      h.aside hstretch fun hall => hall.moveTask rfl (Task.hasRead_due _ _ _ _ [])
  | swept task | missed task refused =>
    simpa [reads?, uses?, movedTask, settles?, task] using h.aside hstretch fun hall =>
      hall.moveTask rfl (Task.elim_next? (Task.hasRead_due _ _ _) _)
  | began task started =>
    simpa [reads?, uses?, movedTask, settles?, task] using h.began task started
  | @gated n ticket snapshot rest task =>
    simpa [reads?, uses?, movedTask, settles?, task] using h.reading (.state s.state) task rfl
      hstretch rfl rfl fun _ => List.mem_append_right _ List.mem_cons_self
  | @called n ticket snapshot state rest resolver call asks task started question =>
    have hstarts := (Resolver.startsFrom_start started).1
    simpa [reads?, uses?, movedTask, settles?, task] using h.reading (.global s.resolver.global)
      task rfl hstretch rfl rfl fun hread => ⟨hread, s.resolver.global,
        List.mem_append_right _ List.mem_cons_self, hstarts⟩
  | @resolved n ticket snapshot state call rest settings task finished =>
    simpa [reads?, uses?, movedTask, settles?, task] using h.aside hstretch fun hall => by
      have hold := hall.of_task? task
      obtain ⟨hstate, global, hglobal, hcall⟩ := hold.1
      obtain ⟨answer, hsettings⟩ := hcall.settle finished
      exact hall.moveTask rfl (hold.next ⟨hstate, global, answer, hglobal, hsettings⟩ rfl)
  | skipped task | unwritable task | wrote task =>
    simpa [reads?, uses?, movedTask, settles?, task] using
      h.using task hstretch rfl rfl fun hused => hused
  | compiled task | compileEnded task =>
    simpa [reads?, uses?, movedTask, settles?, task] using h.aside hstretch fun hall =>
      hall.moveTask rfl ((hall.of_task? task).next (hall.of_task? task).1 rfl)
  | settled task finished =>
    simpa [reads?, uses?, movedTask, settles?, task, finished] using h.finished task finished
  | dropped task finished =>
    simpa [reads?, uses?, movedTask, settles?, task, finished] using h.aside hstretch fun hall =>
      hall.moveTask rfl (Task.elim_next? (Task.hasRead_due _ _ _) _)
  | lost task refused =>
    simpa [reads?, uses?, movedTask, settles?, task, refused] using h.aside hstretch fun hall =>
      hall.moveTask rfl (Task.elim_next? (Task.hasRead_due _ _ _) _)
  | workerTook | workerProbed | workerProbeEnded | workerJudged | answered =>
    simpa [reads?, uses?, movedTask, settles?] using h.aside hstretch fun hall => hall

/-- In every run from the start the passes are tracked by the records of what they read and go
by. -/
theorem tracked_of_runs {config : Config} {root : String} {es : List Event}
    (run : Runs (Server.start config root) es s effects) :
    Tracked (record reads? (Server.start config root) es)
      (record uses? (Server.start config root) es)
      (record settles? (Server.start config root) es) s := by
  refine run.snoc_induction (P := fun es t _ =>
    Tracked (record reads? (Server.start config root) es)
      (record uses? (Server.start config root) es)
      (record settles? (Server.start config root) es) t) (tracked_start config root) ?_
  intro es t u a b e hrun ih hstep
  rw [record_snoc hrun, record_snoc hrun, record_snoc hrun]
  exact ih.step hstep

end Server

end LobsterServer
