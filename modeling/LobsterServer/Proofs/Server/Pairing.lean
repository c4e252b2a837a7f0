import LobsterServer.Proofs.Server.Passes
import LobsterServer.Proofs.Server.ScratchCopy
import LobsterServer.Proofs.Settings.SingleFlight

set_option autoImplicit false

/-!
# A reset error state is not paired with older settings

A push writes two values, one after the other: it puts its settings in force, and then it resets the
error state.  A pass reads them in the other order, first the error state and then the settings in
force.  No lock spans both, so any number of pushes and passes may lie in between.  Still, a pass
that sees the error state after a reset sees settings at least as recent as those that were in force
when the reset was made.  The main statement says so of every pass that gets as far as the compiler,
in terms of the record of all that pushes wrote and passes read.
-/

namespace LobsterServer

/-- A step of a push or of a pass on the two values that pushes write and passes read. -/
inductive Access where
  /-- a well-formed push puts its settings in force for all documents -/
  | installs (settings : Settings)
  /-- a push resets the error state -/
  | resets
  /-- the task reads a value for the pass with the ticket -/
  | reads (task : Nat) (ticket : Ticket) (reading : Reading)
  deriving DecidableEq, Repr

namespace Access

/-- The task has read a value. -/
def IsBy (n : Nat) : Access → Prop
  | .reads task _ _ => task = n
  | _ => False

/-- The settings in force after the accesses, if `first` were in force before them. -/
def inForce (first : Settings) : List Access → Settings
  | [] => first
  | .installs settings :: rest => inForce settings rest
  | .resets :: rest => inForce first rest
  | .reads _ _ _ :: rest => inForce first rest

theorem inForce_append (first : Settings) (accesses more : List Access) :
    inForce first (accesses ++ more) = inForce (inForce first accesses) more := by
  induction accesses generalizing first with
  | nil => rfl
  | cons access rest ih =>
    cases access with
    | installs settings => exact ih settings
    | resets => exact ih first
    | reads task ticket reading => exact ih first

/-- Settings that are in force were so from the first, or some access has put them in force. -/
theorem inForce_eq_or_mem (first : Settings) (accesses : List Access) :
    inForce first accesses = first ∨ .installs (inForce first accesses) ∈ accesses := by
  induction accesses generalizing first with
  | nil => exact .inl rfl
  | cons access rest ih =>
    cases access with
    | installs settings =>
      rcases ih settings with hsame | hmem
      · exact .inr (List.mem_cons.mpr (.inl (congrArg installs hsame)))
      · exact .inr (List.mem_cons_of_mem _ hmem)
    | resets => exact (ih first).imp id (List.mem_cons_of_mem _)
    | reads task ticket reading => exact (ih first).imp id (List.mem_cons_of_mem _)

end Access

/-! ## What a pass has read last -/

section Readings

variable (config : Config) (accesses : List Access) (n : Nat) (ticket : Ticket)

/-- The value that the task has read last is this error state. -/
def ReadState (state : ErrorState) : Prop :=
  ∃ front between, accesses = front ++ .reads n ticket (.state state) :: between ∧
    ∀ access ∈ between, ¬ access.IsBy n

/-- The values that the task has read last are this error state and then these settings, and they
were in force when it read them. -/
def ReadPair (state : ErrorState) (global : Settings) : Prop :=
  ∃ front between back,
    accesses = front ++ .reads n ticket (.state state) :: between ++
      .reads n ticket (.global global) :: back ∧
    (∀ access ∈ between ++ back, ¬ access.IsBy n) ∧
    global = Access.inForce config.defaults (front ++ between)

variable {config accesses n ticket} {state : ErrorState} {global : Settings} {more : List Access}

theorem ReadState.append (h : ReadState accesses n ticket state)
    (hmore : ∀ access ∈ more, ¬ access.IsBy n) : ReadState (accesses ++ more) n ticket state := by
  obtain ⟨front, between, rfl, hbetween⟩ := h
  refine ⟨front, between ++ more, by simp, fun access haccess => ?_⟩
  exact (List.mem_append.mp haccess).elim (hbetween access) (hmore access)

theorem ReadPair.append (h : ReadPair config accesses n ticket state global)
    (hmore : ∀ access ∈ more, ¬ access.IsBy n) :
    ReadPair config (accesses ++ more) n ticket state global := by
  obtain ⟨front, between, back, rfl, hback, hglobal⟩ := h
  refine ⟨front, between, back ++ more, by simp, fun access haccess => ?_, hglobal⟩
  rw [← List.append_assoc] at haccess
  exact (List.mem_append.mp haccess).elim (hback access) (hmore access)

/-- A task that reads the error state has read it last. -/
theorem readState_snoc :
    ReadState (accesses ++ [.reads n ticket (.state state)]) n ticket state :=
  ⟨accesses, [], rfl, fun _ haccess => absurd haccess List.not_mem_nil⟩

/-- A task that has read the error state last and now reads the settings in force. -/
theorem ReadState.snoc (h : ReadState accesses n ticket state)
    (hglobal : global = Access.inForce config.defaults accesses) :
    ReadPair config (accesses ++ [.reads n ticket (.global global)]) n ticket state global := by
  obtain ⟨front, between, rfl, hbetween⟩ := h
  refine ⟨front, between, [], rfl, by simpa using hbetween, ?_⟩
  rw [hglobal, Access.inForce_append, Access.inForce_append]
  rfl

end Readings

/-! ## Passes at work -/

/-- An answer of the editor does not change the settings in force. -/
theorem Resolver.global_answer {r after : Resolver} {cell : Nat} {reply : Fetched}
    {executable : String} (h : r.answer cell reply = some (after, executable)) :
    after.global = r.global := by
  rcases r.answer_cases cell reply with ⟨uri, -, hcase⟩ | ⟨-, hcase⟩
  all_goals
    rw [hcase] at h
    cases h
  rfl

/-- The task has read last what the pass must have read to be at its stop, and the settings of the
pass are those that it has read, with an answer of the editor. -/
def Pass.IsPaired (config : Config) (accesses : List Access) (n : Nat) : Pass → Prop
  | .gated ticket _ state => ReadState accesses n ticket state
  | .resolving ticket snapshot state call =>
    ∃ global, ReadPair config accesses n ticket state global ∧
      call.StartsFrom global snapshot.directory
  | .resolved ticket snapshot state settings =>
    ∃ global answer, ReadPair config accesses n ticket state global ∧
      settings = Resolver.settle global snapshot.directory answer
  | .written ticket snapshot invocation =>
    ∃ global answer scratch, ReadPair config accesses n ticket .none global ∧
      invocation = .compile (Resolver.settle global snapshot.directory answer) scratch snapshot
        config.compileTimeout
  | _ => True

def Task.IsPaired (config : Config) (accesses : List Access) (n : Nat) : Task → Prop
  | .validating pass _ => pass.IsPaired config accesses n
  | _ => True

/-- What other tasks do does not matter. -/
theorem Task.IsPaired.append {config : Config} {accesses more : List Access} {n : Nat} {task : Task}
    (h : task.IsPaired config accesses n) (hmore : ∀ access ∈ more, ¬ access.IsBy n) :
    task.IsPaired config (accesses ++ more) n := by
  cases task with
  | validating pass rest =>
    cases pass with
    | gated ticket snapshot state => exact ReadState.append h hmore
    | resolving ticket snapshot state call =>
      obtain ⟨global, hread, hcall⟩ := h
      exact ⟨global, hread.append hmore, hcall⟩
    | resolved ticket snapshot state settings =>
      obtain ⟨global, answer, hread, hsettings⟩ := h
      exact ⟨global, answer, hread.append hmore, hsettings⟩
    | written ticket snapshot invocation =>
      obtain ⟨global, answer, scratch, hread, hinvocation⟩ := h
      exact ⟨global, answer, scratch, hread.append hmore, hinvocation⟩
    | _ => trivial
  | _ => trivial

namespace Server

variable {s t : Server} {e : Event} {effects : List Effect}

/-! ## The record of accesses -/

/-- The access that an event makes. -/
def accesses? (s : Server) : Event → Option Access
  | .advance n =>
    match s.task? n with
    | some (.arrived (.didConfigure configuration)) =>
      (Override.ofPush? configuration).map fun choice =>
        .installs (s.config.defaults.overriddenBy choice)
    | some .configured => some .resets
    | some (.validating (.begun ticket _) _) => some (.reads n ticket (.state s.state))
    | some (.validating (.gated ticket _ _) _) =>
      some (.reads n ticket (.global s.resolver.global))
    | _ => none
  | _ => none

/-- Only the task that an event moves reads in it. -/
theorem movedTask_of_isBy {access : Access} {n : Nat} (h : access ∈ (accesses? s e).toList)
    (hby : access.IsBy n) : movedTask e = some n := by
  cases e with
  | advance m =>
    unfold accesses? at h
    simp only at h
    split at h
    · obtain ⟨choice, -, rfl⟩ := Option.map_eq_some_iff.mp (Option.mem_toList.mp h)
      exact hby.elim
    · cases Option.mem_toList.mp h
      exact hby.elim
    · cases Option.mem_toList.mp h
      exact congrArg some hby
    · cases Option.mem_toList.mp h
      exact congrArg some hby
    · cases h
  | _ => cases h

theorem config_of_stretch (h : Stretch s e t effects) : t.config = s.config := by
  cases h <;> rfl

/-- Only a well-formed push changes the settings in force. -/
theorem global_of_stretch (h : Stretch s e t effects) :
    t.resolver.global = Access.inForce s.resolver.global (accesses? s e).toList := by
  cases h with
  | installed task pushed => simp [accesses?, task, pushed, Access.inForce, moveTask]
  | kept task malformed => simp [accesses?, task, malformed, Access.inForce, moveTask]
  | called task started =>
    simpa [accesses?, task, Access.inForce, moveTask] using (Resolver.startsFrom_start started).2
  | answered filled => exact Resolver.global_answer filled
  | closed task =>
    simp only [accesses?, task]
    rfl
  | judged task =>
    simp only [accesses?, task]
    rfl
  | greeted task | readied task | parted task | opened task | changed task | ignored task
  | asked task | offered task | recovered task | probed task | began task | missed task
  | gated task | resolved task | skipped task | compiled task | settled task | dropped task
  | lost task =>
    simp [accesses?, task, Access.inForce, moveTask]
  | arrived | probeEnded | swept | unwritable | wrote | compileEnded | workerTook | workerProbed
  | workerProbeEnded | workerJudged => rfl

/-! ## Passes in a run -/

/-- The record says which settings are in force, and what passes at work have read. -/
structure Paired (config : Config) (accesses : List Access) (s : Server) : Prop where
  config_eq : s.config = config
  global_eq : s.resolver.global = Access.inForce config.defaults accesses
  tasks : s.AllTasks (Task.IsPaired config accesses)

variable {config : Config} {accesses : List Access}

/-- Where a task is moved, the others stay paired with what they have read. -/
theorem Paired.others (h : Paired config accesses s) {n : Nat} (hn : movedTask e = some n) :
    s.AllTasks fun m task => m ≠ n →
      task.IsPaired config (accesses ++ (accesses? s e).toList) m :=
  fun entry hentry hne => (h.tasks entry hentry).append fun _ haccess hby =>
    hne (Option.some.inj ((movedTask_of_isBy haccess hby).symm.trans hn))

theorem Paired.step (h : Paired config accesses s) (hstep : s.step e = some (t, effects)) :
    Paired config (accesses ++ (accesses? s e).toList) t := by
  have hstretch := stretch_of_step hstep
  have others := fun {n : Nat} (hn : movedTask e = some n) => h.others hn
  refine ⟨(config_of_stretch hstretch).trans h.config_eq, ?_, ?_⟩
  · rw [global_of_stretch hstretch, h.global_eq, Access.inForce_append]
  cases hstretch with
  | arrived message => simpa [accesses?] using h.tasks.enqueue trivial
  | workerTook | workerProbed | workerProbeEnded | workerJudged | answered =>
    simp only [accesses?, Option.toList_none, List.append_nil]
    exact h.tasks
  | greeted | readied | parted | ignored | closed | offered | opened | changed | installed | kept
  | asked | recovered | probed | probeEnded | judged | began | skipped | unwritable | compiled
  | compileEnded =>
    exact (others rfl).moveTask_of_others rfl trivial
  | swept | missed | settled | dropped | lost =>
    exact (others rfl).moveTask_of_others rfl (Task.elim_next? (fun _ _ => trivial) _)
  | @gated n ticket snapshot rest task =>
    refine (others rfl).moveTask_of_others rfl ?_
    simp only [accesses?, task]
    exact readState_snoc
  | @called n ticket snapshot state rest resolver call asks task started question =>
    refine (others rfl).moveTask_of_others rfl ?_
    have hread : ReadState accesses n ticket state := h.tasks.of_task? task
    simp only [accesses?, task]
    exact ⟨_, hread.snoc h.global_eq, (Resolver.startsFrom_start started).1⟩
  | resolved task finished =>
    refine (others rfl).moveTask_of_others rfl ?_
    obtain ⟨global, hread, hcall⟩ := h.tasks.of_task? task
    obtain ⟨answer, hsettings⟩ := hcall.settle finished
    simp only [accesses?, task, Option.toList_none, List.append_nil]
    exact ⟨global, answer, hread, hsettings⟩
  | @wrote n ticket snapshot state settings rest scratch task sound ready =>
    refine (others rfl).moveTask_of_others rfl ?_
    obtain ⟨global, answer, hread, rfl⟩ := h.tasks.of_task? task
    obtain rfl := ErrorState.eq_none_of_sound sound
    simp only [accesses?, Option.toList_none, List.append_nil]
    exact ⟨global, answer, scratch, hread, by rw [h.config_eq]⟩

/-- In every run from the start, passes at work are paired with what they have read. -/
theorem paired_of_runs {root : String} {es : List Event}
    (run : Runs (Server.start config root) es s effects) :
    Paired config (record accesses? (Server.start config root) es) s := by
  refine run.snoc_induction (P := fun es t _ =>
    Paired config (record accesses? (Server.start config root) es) t) ?_ ?_
  · exact ⟨rfl, rfl, fun _ hentry => absurd hentry List.not_mem_nil⟩
  · intro es t u a b e hrun ih hstep
    rw [record_snoc hrun]
    exact ih.step hstep

/-! ## Passes that get as far as the compiler -/

/-- In the event a pass has written to its scratch copy, or has tried to, or it starts the
compiler. -/
def Compiles (s : Server) (e : Event) (effects : List Effect) : Prop :=
  (∃ n ending, e = .copied n ending) ∨
    ∃ n pass rest invocation content, s.task? n = some (.validating pass rest) ∧
      .run (.task n) invocation content ∈ effects

/-- In the event the pass of the task has written the scratch copy of the snapshot, or has tried to,
or it starts the compiler on that copy; the settings are those that it compiles with. -/
inductive CompilesWith (s : Server) (e : Event) (n : Nat) (ticket : Ticket) (snapshot : Document)
    (settings : Settings) (effects : List Effect) : Prop where
  | writes {rest : List String} {ending : WriteEnd} (event : e = .copied n ending)
      (task : s.task? n = some (.validating (.resolved ticket snapshot .none settings) rest))
  | starts {rest : List String} {scratch : Scratch} {invocation : Invocation}
      {content : Option Text} (event : e = .advance n)
      (task : s.task? n = some (.validating (.written ticket snapshot invocation) rest))
      (compile : invocation = .compile settings scratch snapshot s.config.compileTimeout)
      (runs : .run (.task n) invocation content ∈ effects)

/-- A scratch copy is written by a pass that knows its settings and has read no error state. -/
theorem resolved_of_copied {n : Nat} {ending : WriteEnd}
    (h : Stretch s (.copied n ending) t effects) :
    ∃ ticket snapshot settings rest,
      s.task? n = some (.validating (.resolved ticket snapshot .none settings) rest) := by
  cases h with
  | wrote task sound | unwritable task sound =>
    obtain rfl := ErrorState.eq_none_of_sound sound
    exact ⟨_, _, _, _, task⟩

/-- The compiler is started by a pass that has written the scratch copy. -/
theorem written_of_runs {n : Nat} {pass : Pass} {rest : List String} {invocation : Invocation}
    {content : Option Text} (h : Stretch s e t effects)
    (task : s.task? n = some (.validating pass rest))
    (hrun : .run (.task n) invocation content ∈ effects) :
    e = .advance n ∧ ∃ ticket snapshot, pass = .written ticket snapshot invocation := by
  cases h with
  | compiled here =>
    cases List.mem_singleton.mp hrun
    cases task?_unique task here
    exact ⟨rfl, _, _, rfl⟩
  | probed here =>
    -- the run of a probe is started by a task that probes
    unfold startProbe at hrun
    split at hrun
    · cases List.mem_singleton.mp hrun
      cases task?_unique task here
    · cases hrun
  | workerProbed =>
    unfold startProbe at hrun
    split at hrun
    · cases List.mem_singleton.mp hrun
    · cases hrun
  | judged | workerJudged =>
    obtain ⟨message, -, hshow⟩ := List.mem_map.mp hrun
    cases hshow
  | called _ _ question =>
    rw [question] at hrun
    split at hrun
    · cases hrun
    · cases List.mem_singleton.mp hrun
  | settled =>
    split at hrun
    · cases List.mem_singleton.mp hrun
    · cases hrun
  | greeted | readied | parted | closed | offered => cases List.mem_singleton.mp hrun
  | _ => cases hrun

/-- A pass compiles with settings that it has read after an error state that was none. -/
theorem compilesWith_of_compiles (h : Paired config accesses s)
    (hstep : s.step e = some (t, effects)) (compiles : Compiles s e effects) :
    ∃ n ticket snapshot global answer,
      s.CompilesWith e n ticket snapshot (Resolver.settle global snapshot.directory answer)
        effects ∧
      ReadPair config accesses n ticket .none global := by
  rcases compiles with ⟨n, ending, rfl⟩ | ⟨n, pass, rest, invocation, content, task, hrun⟩
  · obtain ⟨ticket, snapshot, settings, rest, task⟩ := resolved_of_copied (stretch_of_step hstep)
    obtain ⟨global, answer, hread, rfl⟩ := h.tasks.of_task? task
    exact ⟨n, ticket, snapshot, global, answer, .writes rfl task, hread⟩
  · obtain ⟨rfl, ticket, snapshot, rfl⟩ := written_of_runs (stretch_of_step hstep) task hrun
    obtain ⟨global, answer, scratch, hread, hinvocation⟩ := h.tasks.of_task? task
    rw [← h.config_eq] at hinvocation
    exact ⟨n, ticket, snapshot, global, answer, .starts rfl task hinvocation hrun, hread⟩

/-- A reset error state is never paired with older settings.  Whenever a pass writes a scratch copy
or tries to, or starts the compiler, the last values that its task has read are an error state that
was none and then the settings that it compiles with.  These settings were in force when it read
them.  So for each reset of the error state before the first of these readings, they were in force
at that reset or have been put in force by a push since then. -/
theorem compiles_with_settings_of_reset {root : String} {es : List Event} {earlier : List Effect}
    (run : Runs (Server.start config root) es s earlier) (hstep : s.step e = some (t, effects))
    (compiles : Compiles s e effects) :
    ∃ n ticket snapshot global answer front between back,
      s.CompilesWith e n ticket snapshot (Resolver.settle global snapshot.directory answer)
        effects ∧
      record accesses? (Server.start config root) es =
        front ++ .reads n ticket (.state .none) :: between ++
          .reads n ticket (.global global) :: back ∧
      (∀ access ∈ between ++ back, ¬ access.IsBy n) ∧
      global = Access.inForce config.defaults (front ++ between) ∧
      ∀ before since, front = before ++ .resets :: since →
        global = Access.inForce config.defaults before ∨ .installs global ∈ since ++ between := by
  obtain ⟨n, ticket, snapshot, global, answer, hcompiles, front, between, back, hrecord, hlast,
    hglobal⟩ := compilesWith_of_compiles (paired_of_runs run) hstep compiles
  refine ⟨n, ticket, snapshot, global, answer, front, between, back, hcompiles, hrecord, hlast,
    hglobal, ?_⟩
  rintro before since rfl
  have hsince : global =
      Access.inForce (Access.inForce config.defaults before) (since ++ between) := by
    rw [hglobal, List.append_assoc, Access.inForce_append]
    rfl
  rw [hsince]
  exact Access.inForce_eq_or_mem _ _

/-- Two pushes and the opening of a document. -/
def betweenPushes : List Event :=
  [.arrive (.didConfigure (.obj [("lobster", .obj [("executable", .str "old")])])), .advance 0,
    .arrive (.didOpen "a" ['x'] 1), .advance 1, .advance 1, .advance 0, .advance 1,
    .arrive (.didConfigure (.obj [("lobster", .obj [("executable", .str "new")])])), .advance 2,
    .advance 1, .advance 1, .copied 1 .complete]

/-- A pass reads the error state after the reset of one push, and the settings after another push
has put its own in force.  It compiles with the settings of the later push. -/
theorem compiles_with_settings_of_later_push :
    ∃ s earlier t effects, Runs fresh betweenPushes s earlier ∧
      s.step (.advance 1) = some (t, effects) ∧ Compiles s (.advance 1) effects ∧
      record accesses? fresh betweenPushes =
        [.installs ⟨"old", [], true⟩, .resets, .reads 1 ⟨"a", 1, 2⟩ (.state .none),
          .installs ⟨"new", [], true⟩, .reads 1 ⟨"a", 1, 2⟩ (.global ⟨"new", [], true⟩)] ∧
      ∃ n ticket snapshot global answer front between back,
        s.CompilesWith (.advance 1) n ticket snapshot
          (Resolver.settle global snapshot.directory answer) effects ∧
        record accesses? fresh betweenPushes =
          front ++ .reads n ticket (.state .none) :: between ++
            .reads n ticket (.global global) :: back := by
  obtain ⟨s, earlier, t, effects, run, hstep, hcompiles⟩ : ∃ s earlier t effects,
      Runs fresh betweenPushes s earlier ∧
      s.step (.advance 1) = some (t, effects) ∧ Compiles s (.advance 1) effects :=
    ⟨_, _, _, _, runs_iff.mpr rfl, rfl, .inr ⟨1, _, _, _, _, rfl, List.mem_cons_self⟩⟩
  obtain ⟨n, ticket, snapshot, global, answer, front, between, back, hwith, hsplit, -⟩ :=
    compiles_with_settings_of_reset run hstep hcompiles
  exact ⟨s, earlier, t, effects, run, hstep, hcompiles, by decide +kernel, n, ticket, snapshot,
    global, answer, front, between, back, hwith, hsplit⟩

end Server

end LobsterServer
