import LobsterServer.Proofs.Server.Record
import LobsterServer.Proofs.Settings.SingleFlight

set_option autoImplicit false

/-!
# What a verdict is about

A verdict bears no mark of when its probe was asked for.  Probes wait in the queue of the worker and
run for a while, and meanwhile the configuration may change; so a verdict may be about an executable
that nobody configures any more, and still put the server into the error state.  The main statements
show that this happens, and how far it can go: the executable was selected in the step that asked
for its probe.
-/

namespace LobsterServer

/-- The executable that a runner has started to probe last. -/
def lastProbed (runner : Runner) (probed : List (Runner × String)) : Option String :=
  ((probed.filter fun entry => entry.1 = runner).getLast?).map Prod.snd

theorem lastProbed_append_self (probed : List (Runner × String)) (runner : Runner)
    (executable : String) :
    lastProbed runner (probed ++ [(runner, executable)]) = some executable := by
  simp [lastProbed]

theorem lastProbed_append_of_ne (probed : List (Runner × String)) {runner other : Runner}
    (h : other ≠ runner) (executable : String) :
    lastProbed runner (probed ++ [(other, executable)]) = lastProbed runner probed := by
  simp [lastProbed, h]

/-- The probe is about an executable of a kind, and once it has started this is the one that its
runner has started to probe last. -/
def Probe.About (kind : String → Prop) (last : Option String) : Probe → Prop
  | .due executable => kind executable
  | .running executable =>
    kind executable ∧ last = some executable ∧ Verdict.needsRun executable = true
  | .judged verdict => ∃ executable result,
    kind executable ∧ last = some executable ∧ verdict = Verdict.probe executable result

/-- A task that probes is about an executable of a kind. -/
def Task.ProbesAbout (kind : String → Prop) (last : Option String) : Task → Prop
  | .probing probe => probe.About kind last
  | _ => True

theorem Probe.About.imp {kind other : String → Prop} {last : Option String} {probe : Probe}
    (h : probe.About kind last) (himp : ∀ executable, kind executable → other executable) :
    probe.About other last := by
  cases probe with
  | due executable => exact himp executable h
  | running executable => exact ⟨himp executable h.1, h.2⟩
  | judged verdict =>
    obtain ⟨executable, result, hkind, hlast⟩ := h
    exact ⟨executable, result, himp executable hkind, hlast⟩

theorem Task.ProbesAbout.imp {kind other : String → Prop} {last : Option String} {task : Task}
    (h : task.ProbesAbout kind last) (himp : ∀ executable, kind executable → other executable) :
    task.ProbesAbout other last := by
  cases task with
  | probing probe => exact Probe.About.imp h himp
  | _ => trivial

namespace Server

variable {s t : Server} {e : Event} {effects : List Effect} {n : Nat}

/-! ## Probes that are asked for, started and judged -/

/-- The executable that an event asks to have probed. -/
def wants? (s : Server) : Event → Option String
  | .advance n =>
    match s.task? n with
    | some (.arrived .ready) =>
      if s.resolver.capability then none else some s.resolver.global.executable
    | some .configured => some s.resolver.global.executable
    | _ => none
  | .answered cell reply => (s.resolver.answer cell reply).map Prod.snd
  | _ => none

/-- The probe that an event starts: who runs it, and the executable. -/
def probes? (s : Server) : Event → Option (Runner × String)
  | .advance n =>
    match s.task? n with
    | some (.probing (.due executable)) => some (.task n, executable)
    | _ => none
  | .advanceWorker =>
    match s.worker with
    | .busy (.due executable) => some (.worker, executable)
    | _ => none
  | _ => none

/-- The verdict that an event applies: whose it is, and what it says. -/
def judges? (s : Server) : Event → Option (Runner × Verdict)
  | .advance n =>
    match s.task? n with
    | some (.probing (.judged verdict)) => some (.task n, verdict)
    | _ => none
  | .advanceWorker =>
    match s.worker with
    | .busy (.judged verdict) => some (.worker, verdict)
    | _ => none
  | _ => none

/-- All probes that are still to come, run or have a verdict are about executables of a kind. -/
structure Probing (kind : String → Prop) (probed : List (Runner × String)) (s : Server) : Prop where
  requests : ∀ executable ∈ s.requests, kind executable
  worker : ∀ probe, s.worker = .busy probe → probe.About kind (lastProbed .worker probed)
  tasks : s.AllTasks fun n => Task.ProbesAbout kind (lastProbed (.task n) probed)

variable {kind : String → Prop} {probed : List (Runner × String)}

theorem Probing.imp {other : String → Prop} (h : Probing kind probed s)
    (himp : ∀ executable, kind executable → other executable) : Probing other probed s :=
  ⟨fun executable hmem => himp executable (h.requests executable hmem),
    fun probe hprobe => (h.worker probe hprobe).imp himp,
    h.tasks.imp (fun _ _ htask => htask.imp himp) rfl⟩

/-- Where no probe starts, the record of started probes stays. -/
theorem Probing.quiet (h : Probing kind probed t) (quiet : probes? s e = none) :
    Probing kind (probed ++ (probes? s e).toList) t := by
  rwa [quiet, Option.toList_none, List.append_nil]

/-- A stretch that leaves the worker alone. -/
theorem Probing.aside (h : Probing kind probed s) (worker : t.worker = s.worker)
    (requests : t.requests = s.requests)
    (tasks : t.AllTasks fun n => Task.ProbesAbout kind (lastProbed (.task n) probed)) :
    Probing kind probed t :=
  ⟨requests ▸ h.requests, worker ▸ h.worker, tasks⟩

/-- A probe that starts is about the executable that it was due for. -/
theorem about_startProbe (s : Server) (runner : Runner) {executable : String}
    (h : kind executable) :
    (s.startProbe runner executable).1.About kind (some executable) := by
  unfold startProbe
  split
  · rename_i hneeds
    exact ⟨h, rfl, hneeds⟩
  · rename_i hneeds
    exact ⟨executable, .error (.killed executable), h, rfl, by simp [Verdict.probe, hneeds]⟩

/-- A run that ends gives the verdict about the executable that ran. -/
theorem about_ofRun {last : Option String} {executable : String}
    (h : (Probe.running executable).About kind last) (result : RunResult) :
    (Probe.judged (Verdict.ofRun executable result)).About kind last :=
  ⟨executable, result, h.1, h.2.1, by simp [Verdict.probe, h.2.2]⟩

/-- One more executable of the kind is to be probed. -/
theorem Probing.request (h : Probing kind probed s) {executable : String}
    (hkind : kind executable) : Probing kind probed (s.requestProbe executable) := by
  refine ⟨fun other hmem => ?_, h.worker, h.tasks⟩
  rcases List.mem_append.mp hmem with hold | hlast
  · exact h.requests other hold
  · rwa [List.mem_singleton.mp hlast]

/-- The worker starts to work when the editor is ready. -/
theorem Probing.awake (h : Probing kind probed s) : Probing kind probed
    ({ s with worker := if s.worker = .absent then .idle else s.worker } : Server) := by
  refine ⟨h.requests, fun probe hprobe => ?_, h.tasks⟩
  simp only at hprobe
  split at hprobe
  · cases hprobe
  · exact h.worker probe hprobe

theorem Probing.readied (h : Probing kind probed s)
    (hnew : s.resolver.capability = false → kind s.resolver.global.executable) :
    Probing kind probed (({ s with
        worker := if s.worker = .absent then .idle else s.worker
        requests := if s.resolver.capability then s.requests
          else s.requests ++ [s.resolver.global.executable] } : Server).endTask n) := by
  cases hcapability : s.resolver.capability with
  | true => exact h.awake.aside rfl rfl (h.tasks.moveTask rfl trivial)
  | false =>
    exact (h.awake.request (hnew hcapability)).aside rfl rfl (h.tasks.moveTask rfl trivial)

theorem Probing.taskProbed (h : Probing kind probed s) {executable : String}
    (task : s.task? n = some (.probing (.due executable))) :
    Probing kind (probed ++ [(.task n, executable)])
      (s.setTask n (.probing (s.startProbe (.task n) executable).1)) := by
  have hdue : kind executable := h.tasks.of_task? task
  refine ⟨h.requests, fun probe hprobe => ?_, AllTasks.moveTask_of_others ?_ rfl ?_⟩
  · have hne : Runner.task n ≠ .worker := nofun
    rw [lastProbed_append_of_ne probed hne]
    exact h.worker probe hprobe
  · intro entry hentry hne
    rw [lastProbed_append_of_ne probed (by simpa using Ne.symm hne)]
    exact h.tasks entry hentry
  · simp only [Option.elim_some, Task.ProbesAbout, lastProbed_append_self]
    exact about_startProbe s _ hdue

theorem Probing.workerTook (h : Probing kind probed s) {executable : String}
    {requests : List String} (next : s.requests = executable :: requests) : Probing kind probed
      { s with worker := .busy (.due executable), requests := requests } := by
  have hall := h.requests
  rw [next] at hall
  refine ⟨fun other hmem => hall other (List.mem_cons_of_mem _ hmem), fun probe hprobe => ?_,
    h.tasks⟩
  cases hprobe
  exact hall executable List.mem_cons_self

theorem Probing.workerProbed (h : Probing kind probed s) {executable : String}
    (due : s.worker = .busy (.due executable)) :
    Probing kind (probed ++ [(.worker, executable)])
      { s with worker := .busy (s.startProbe .worker executable).1 } := by
  have hdue : kind executable := h.worker _ due
  refine ⟨h.requests, fun probe hprobe => ?_, h.tasks.imp (fun n task htask => ?_) rfl⟩
  · cases hprobe
    rw [lastProbed_append_self]
    exact about_startProbe s _ hdue
  · have hne : Runner.worker ≠ .task n := nofun
    rwa [lastProbed_append_of_ne probed hne]

theorem Probing.workerProbeEnded (h : Probing kind probed s) {executable : String}
    (running : s.worker = .busy (.running executable)) (result : RunResult) :
    Probing kind probed { s with worker := .busy (.judged (Verdict.ofRun executable result)) } := by
  refine ⟨h.requests, fun probe hprobe => ?_, h.tasks⟩
  cases hprobe
  exact about_ofRun (h.worker _ running) result

/-- Every stretch keeps the kind of the executables, if it holds of those that the stretch asks to
have probed. -/
theorem Probing.stretch (h : Probing kind probed s) (hstretch : Stretch s e t effects)
    (hnew : ∀ executable, wants? s e = some executable → kind executable) :
    Probing kind (probed ++ (probes? s e).toList) t := by
  cases hstretch with
  | arrived message => exact Probing.quiet (h.aside rfl rfl (h.tasks.enqueue trivial)) rfl
  | readied task =>
    have hwanted : s.resolver.capability = false → kind s.resolver.global.executable :=
      fun hoff => hnew _ (by simp [wants?, task, hoff])
    exact Probing.quiet (h.readied hwanted) (by simp [probes?, task])
  | greeted task | parted task | ignored task | closed task | offered task | opened task
  | changed task | installed task | kept task | asked task | began task | gated task | called task
  | resolved task | skipped task | compiled task | judged task =>
    exact Probing.quiet (h.aside rfl rfl (h.tasks.moveTask rfl trivial)) (by simp [probes?, task])
  | unwritable | wrote | compileEnded =>
    exact Probing.quiet (h.aside rfl rfl (h.tasks.moveTask rfl trivial)) rfl
  | recovered task =>
    have hwanted : kind s.resolver.global.executable := hnew _ (by simp [wants?, task])
    exact Probing.quiet (h.aside rfl rfl (h.tasks.moveTask rfl hwanted)) (by simp [probes?, task])
  | probed task => simpa [probes?, task] using h.taskProbed task
  | @probeEnded n executable result task =>
    have hverdict := about_ofRun (h.tasks.of_task? task) result
    exact Probing.quiet (h.aside rfl rfl (h.tasks.moveTask rfl hverdict)) rfl
  | swept =>
    exact Probing.quiet (h.aside rfl rfl
      (h.tasks.moveTask rfl (Task.elim_next? (fun _ _ => trivial) _))) rfl
  | missed task | settled task | dropped task | lost task =>
    exact Probing.quiet (h.aside rfl rfl
      (h.tasks.moveTask rfl (Task.elim_next? (fun _ _ => trivial) _))) (by simp [probes?, task])
  | workerTook idle next => exact Probing.quiet (h.workerTook next) (by simp [probes?, idle])
  | workerProbed due => simpa [probes?, due] using h.workerProbed due
  | @workerProbeEnded executable result running =>
    exact Probing.quiet (h.workerProbeEnded running result) rfl
  | workerJudged judged =>
    exact Probing.quiet ⟨h.requests, fun _ hprobe => (nomatch hprobe), h.tasks⟩
      (by simp [probes?, judged])
  | @answered cell reply resolver executable filled =>
    have hwanted : kind executable := hnew _ (by simp [wants?, filled])
    have hfilled : Probing kind probed ({ s with resolver := resolver } : Server) :=
      h.aside rfl rfl h.tasks
    exact Probing.quiet (hfilled.request hwanted) rfl

/-- Only a verdict puts the server into the error state: that about an executable which its runner
has started to probe last. -/
theorem Probing.verdict (h : Probing kind probed s) (hstretch : Stretch s e t effects)
    (quiet : s.state = .none) (errored : t.state.isErrored = true) :
    ∃ runner executable result, judges? s e = some (runner, Verdict.probe executable result) ∧
      lastProbed runner probed = some executable ∧ kind executable := by
  have hstays : t.state = s.state → False := fun hsame => by
    rw [hsame, quiet] at errored
    cases errored
  cases hstretch with
  | judged task =>
    obtain ⟨executable, result, hkind, hlast, rfl⟩ := h.tasks.of_task? task
    exact ⟨_, executable, result, by simp [judges?, task], hlast, hkind⟩
  | workerJudged judged =>
    obtain ⟨executable, result, hkind, hlast, rfl⟩ := h.worker _ judged
    exact ⟨_, executable, result, by simp [judges?, judged], hlast, hkind⟩
  | recovered => cases errored
  | _ => exact (hstays rfl).elim

/-! ## What is configured -/

/-- The settings of an open document are kept in the cell. -/
def Keeps (s : Server) (uri : String) (cell : Nat) : Prop :=
  (∃ d, s.store.get? uri = some d) ∧ s.resolver.cache.get? uri = some cell

/-- The answer in the cell selects the executable. -/
def Picks (s : Server) (cell : Nat) (executable : String) : Prop :=
  ∃ entry choice, s.resolver.cells[cell]? = some entry ∧ entry.answer = some (some choice) ∧
    executable = choice.executableOr s.resolver.global

/-- The executable is the one in force for all documents, or the answer for some open document
selects it. -/
def Configured (s : Server) (executable : String) : Prop :=
  executable = s.resolver.global.executable ∨
    ∃ uri cell, s.Keeps uri cell ∧ s.Picks cell executable

/-- The executable is the one in force for all documents, or some answer of the editor selects
it. -/
def Selects (s : Server) (executable : String) : Prop :=
  executable = s.resolver.global.executable ∨ ∃ cell, s.Picks cell executable

/-- What is selected is configured, but for the answers whose documents are closed. -/
theorem Selects.configured {executable : String} (h : s.Selects executable) :
    s.Configured executable ∨ ∃ cell, s.Picks cell executable ∧ ∀ uri, ¬ s.Keeps uri cell := by
  rcases h with hglobal | ⟨cell, hpicks⟩
  · exact .inl (.inl hglobal)
  · by_cases hkept : ∃ uri, s.Keeps uri cell
    · obtain ⟨uri, hkeeps⟩ := hkept
      exact .inl (.inr ⟨uri, cell, hkeeps, hpicks⟩)
    · exact .inr ⟨cell, hpicks, not_exists.mp hkept⟩

/-- An executable that an event asks to have probed is selected from then on. -/
theorem selects_of_wants {executable : String} (h : wants? s e = some executable)
    (hstep : s.step e = some (t, effects)) : t.Selects executable := by
  cases e with
  | advance n =>
    simp only [wants?] at h
    split at h
    · rename_i task
      cases stretch_of_step hstep with
      | readied =>
        split at h
        · cases h
        · cases h
          exact .inl rfl
      | _ => cases task?_unique task ‹_›
    · rename_i task
      cases h
      cases stretch_of_step hstep with
      | recovered => exact .inl rfl
      | _ => cases task?_unique task ‹_›
    · cases h
  | answered cell reply =>
    simp only [wants?, Option.map_eq_some_iff] at h
    obtain ⟨⟨resolver, _⟩, hfilled, rfl⟩ := h
    simp only [step, hfilled, Option.map_some, Option.some.injEq, Prod.mk.injEq] at hstep
    obtain ⟨rfl, -⟩ := hstep
    rcases s.resolver.answer_cases cell reply with ⟨uri, hcell, ha⟩ | ⟨_, ha⟩
    · rw [ha] at hfilled
      cases hfilled
      obtain ⟨hlt, -⟩ := List.getElem?_eq_some_iff.mp hcell
      cases hanswer : reply.answer with
      | none => exact .inl rfl
      | some choice =>
        refine .inr ⟨cell, ⟨uri, some (some choice)⟩, choice, ?_, rfl, ?_⟩
        · simp [requestProbe, hlt]
        · simp [requestProbe, Resolver.executableFor]
    · rw [ha] at hfilled
      cases hfilled
  | _ => cases h

/-! ## Where a verdict comes from -/

/-- A stretch does at most one operation on the settings. -/
theorem resolver_of_stretch (h : Stretch s e t effects) :
    t.resolver = s.resolver ∨ ∃ op : Resolver.Operation, t.resolver = s.resolver.perform op := by
  cases h with
  | @greeted n request answers task => exact .inr ⟨.setCapability answers, rfl⟩
  | @closed n uri task => exact .inr ⟨.forget uri, rfl⟩
  | @installed n configuration choice task pushed =>
    exact .inr ⟨.setGlobal (s.config.defaults.overriddenBy choice), rfl⟩
  | @called n ticket snapshot state rest resolver call asks task started question =>
    exact .inr ⟨.start ticket.uri snapshot.directory, (congrArg Prod.fst started).symm⟩
  | @answered cell reply resolver executable filled =>
    refine .inr ⟨.answer cell reply, ?_⟩
    simp only [requestProbe, Resolver.perform, filled]
  | _ => exact .inl rfl

/-- An answer that the editor has given stays. -/
theorem cell_of_runs {es : List Event} (run : Runs s es t effects) {cell : Nat} {entry : Cell}
    (h : s.resolver.cells[cell]? = some entry) (given : entry.answer ≠ none) :
    t.resolver.cells[cell]? = some entry := by
  induction run with
  | nil s => exact h
  | cons hstep _ ih =>
    refine ih ?_
    rcases resolver_of_stretch (stretch_of_step hstep) with hsame | ⟨op, hop⟩
    · rwa [hsame]
    · rw [hop]
      exact (Resolver.cell_perform h op).resolve_right fun hopen => given hopen.1

/-- What is selected stays selected until other settings are put in force for all documents. -/
theorem Selects.runs {executable : String} {es : List Event} (h : s.Selects executable)
    (run : Runs s es t effects) (same : t.resolver.global = s.resolver.global) :
    t.Selects executable := by
  rcases h with hglobal | ⟨cell, entry, choice, hcell, hanswer, hselects⟩
  · exact .inl (by rw [same, hglobal])
  · refine .inr ⟨cell, entry, choice, cell_of_runs run hcell ?_, hanswer, by rw [same, hselects]⟩
    rw [hanswer]
    exact nofun

/-- In the run from `first` to `s` a probe of the executable was asked for in the step that led
to `asked`. -/
def AskedFor (first : Server) (es : List Event) (executable : String) (asked s : Server) : Prop :=
  ∃ before e after u a b c, es = before ++ e :: after ∧ Runs first before u a ∧
    wants? u e = some executable ∧ u.step e = some (asked, b) ∧ Runs asked after s c

theorem AskedFor.snoc {first asked : Server} {es : List Event} {executable : String}
    (h : AskedFor first es executable asked s) (hstep : s.step e = some (t, effects)) :
    AskedFor first (es ++ [e]) executable asked t := by
  obtain ⟨before, e', after, u, a, b, c, rfl, hbefore, hwants, hasked, hafter⟩ := h
  exact ⟨before, e', after ++ [e], u, a, b, _, by simp, hbefore, hwants, hasked,
    hafter.snoc hstep⟩

theorem AskedFor.selects {first asked : Server} {es : List Event} {executable : String}
    (h : AskedFor first es executable asked s) : asked.Selects executable := by
  obtain ⟨_, _, _, _, _, _, _, _, _, hwants, hasked, _⟩ := h
  exact selects_of_wants hwants hasked

theorem AskedFor.runs {first asked : Server} {es : List Event} {executable : String}
    (h : AskedFor first es executable asked s) : ∃ after c, Runs asked after s c := by
  obtain ⟨_, _, after, _, _, _, c, _, _, _, _, hafter⟩ := h
  exact ⟨after, c, hafter⟩

/-- In every run from the start, all probes that are still to come, run or have a verdict have been
asked for. -/
theorem probing_of_runs {config : Config} {root : String} {es : List Event}
    (run : Runs (Server.start config root) es s effects) :
    Probing (fun executable => ∃ asked, AskedFor (Server.start config root) es executable asked s)
      (record probes? (Server.start config root) es) s := by
  refine run.snoc_induction (P := fun es t _ =>
    Probing (fun executable => ∃ asked, AskedFor (Server.start config root) es executable asked t)
      (record probes? (Server.start config root) es) t) ?_ ?_
  · exact ⟨fun _ hmem => absurd hmem List.not_mem_nil, fun _ hbusy => (nomatch hbusy),
      fun _ hentry => absurd hentry List.not_mem_nil⟩
  · intro es t u a b e hrun ih hstep
    rw [record_snoc hrun]
    have hkept : Probing (fun executable =>
        ∃ asked, AskedFor (Server.start config root) (es ++ [e]) executable asked u)
        (record probes? (Server.start config root) es) t :=
      ih.imp fun _ ⟨asked, hasked⟩ => ⟨asked, hasked.snoc hstep⟩
    exact hkept.stretch (stretch_of_step hstep) fun _ hwants =>
      ⟨u, es, e, [], t, a, b, [], rfl, hrun, hwants, hstep, .nil u⟩

/-- Whenever a verdict disables the server, it is about an executable that was selected, by the
settings in force for all documents or by an answer of the editor, when its probe was asked for.
While no other settings have been put in force since, the executable is still configured, or the
answer that selects it is kept for no open document any more. -/
theorem errored_by_a_selected_executable {config : Config} {root : String} {es : List Event}
    {more : List Effect} (run : Runs (Server.start config root) es s effects)
    (hstep : s.step e = some (t, more)) (quiet : s.state = .none)
    (errored : t.state.isErrored = true) :
    ∃ runner executable result asked,
      judges? s e = some (runner, Verdict.probe executable result) ∧
      lastProbed runner (record probes? (Server.start config root) es) = some executable ∧
      AskedFor (Server.start config root) es executable asked s ∧ asked.Selects executable ∧
      (s.resolver.global = asked.resolver.global → s.Configured executable ∨
        ∃ cell, s.Picks cell executable ∧ ∀ uri, ¬ s.Keeps uri cell) := by
  obtain ⟨runner, executable, result, hjudges, hprobed, asked, hasked⟩ :=
    (probing_of_runs run).verdict (stretch_of_step hstep) quiet errored
  refine ⟨runner, executable, result, asked, hjudges, hprobed, hasked, hasked.selects,
    fun hsame => ?_⟩
  obtain ⟨_, _, hafter⟩ := hasked.runs
  exact (hasked.selects.runs hafter hsame).configured

/-! ## A verdict that comes too late -/

/-- A document is opened before the editor is ready, and the editor has no settings of its own for
it, so a probe of the executable `lobster` waits for the worker.  The editor then pushes another
executable, which is a compiler.  When the editor is ready, the worker probes `lobster`. -/
def overtaken : List Event :=
  [.arrive (.hello 0 true), .advance 0,
    .arrive (.didOpen "file:///work/game.lobster" "x = 1\n".toList 1), .advance 1, .advance 1,
    .advance 1, .advance 1, .answered 0 (.ok none), .advance 1, .copied 1 .complete, .advance 1,
    .ran (.task 1) (.ok ⟨0, [], []⟩), .advance 1,
    .arrive (.didConfigure (.obj [("lobster", .obj [("executable", .str "/opt/lobster")])])),
    .advance 2, .advance 2, .advance 2,
    .ran (.task 2) (.ok ⟨1, Text.encode Verdict.banner.toList, []⟩), .advance 2,
    .arrive .ready, .advance 3, .advanceWorker, .advanceWorker,
    .ran .worker (.ok ⟨0, [], Text.encode "not found".toList⟩)]

/-- When the verdict about `lobster` comes there is no error, the pushed executable is in force, and
the only answer of the editor selects nothing. -/
theorem runs_overtaken :
    ∃ s effects t more, Runs fresh overtaken s effects ∧
      s.step .advanceWorker = some (t, more) ∧ s.state = .none ∧ t.state.isErrored = true ∧
      judges? s .advanceWorker = some (.worker, Verdict.probe "lobster"
        (.ok ⟨0, [], Text.encode "not found".toList⟩)) ∧
      s.resolver.global.executable = "/opt/lobster" ∧
      s.resolver.cells = [⟨"file:///work/game.lobster", some none⟩] :=
  ⟨_, _, _, _, runs_iff.mpr rfl, rfl, rfl, rfl, rfl, rfl, rfl⟩

/-- The verdict about an executable that is not configured any more disables the server. -/
theorem errored_by_a_former_executable :
    ∃ s effects t more, Runs fresh overtaken s effects ∧
      s.step .advanceWorker = some (t, more) ∧
      judges? s .advanceWorker = some (.worker, Verdict.probe "lobster"
        (.ok ⟨0, [], Text.encode "not found".toList⟩)) ∧
      lastProbed .worker (record probes? fresh overtaken) = some "lobster" ∧
      s.state = .none ∧ t.state.isErrored = true ∧ ¬ s.Configured "lobster" := by
  obtain ⟨s, effects, t, more, run, hstep, hquiet, herrored, hjudges, hglobal, hcells⟩ :=
    runs_overtaken
  refine ⟨s, effects, t, more, run, hstep, hjudges, rfl, hquiet, herrored, ?_⟩
  rintro (hforce | ⟨_, cell, _, entry, choice, hcell, hanswer, _⟩)
  · rw [hglobal] at hforce
    exact absurd hforce (by decide)
  · -- the only answer selects nothing
    rw [hcells] at hcell
    have hentry : entry = ⟨"file:///work/game.lobster", some none⟩ :=
      List.mem_singleton.mp (List.mem_of_getElem? hcell)
    rw [hentry] at hanswer
    cases hanswer

/-- The probe of `lobster` was asked for when that was the executable in force. -/
theorem errored_by_a_selected_executable_overtaken :
    ∃ s effects t more runner executable asked, Runs fresh overtaken s effects ∧
      s.step .advanceWorker = some (t, more) ∧ s.state = .none ∧ t.state.isErrored = true ∧
      lastProbed runner (record probes? fresh overtaken) = some executable ∧
      AskedFor fresh overtaken executable asked s ∧ asked.Selects executable := by
  obtain ⟨s, effects, t, more, run, hstep, hquiet, herrored, -⟩ := runs_overtaken
  obtain ⟨runner, executable, _, asked, -, hprobed, hasked, hselects, -⟩ :=
    errored_by_a_selected_executable run hstep hquiet herrored
  exact ⟨s, effects, t, more, runner, executable, asked, run, hstep, hquiet, herrored, hprobed,
    hasked, hselects⟩

end Server

end LobsterServer
