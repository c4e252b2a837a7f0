import LobsterServer.Proofs.Server.Record

set_option autoImplicit false

/-!
# The order of the tasks

Tasks are numbered in the order in which their messages arrive, and no number is used twice.  So a
step that moves a task changes one entry of the table and leaves those before and after it alone,
and every step is one of three turns of the table.
-/

namespace LobsterServer

namespace Task

/-! ## The way of a task

A message is first taken in, then the settings and the error state may be renewed, and then
documents are looked at.  Within each of these phases the stops that a task has still before it
can be counted.
-/

/-- The phases that are still before a task. -/
def phase : Task → Nat
  | .arrived _ => 2
  | .configured => 1
  | .probing _ => 1
  | .sweeping => 1
  | .validating _ _ => 0
  | .offering _ _ _ _ => 0

/-- The stops that are still before a pass. -/
def passWork : Pass → Nat
  | .due _ => 8
  | .begun _ _ => 7
  | .gated _ _ _ => 6
  | .resolving _ _ _ _ => 5
  | .resolved _ _ _ _ => 4
  | .written _ _ _ => 3
  | .compiling _ _ _ => 2
  | .found _ _ => 1

/-- The stops that are still before a task in its phase. -/
def work : Task → Nat
  | .arrived _ => 0
  | .configured => 4
  | .probing (.due _) => 3
  | .probing (.running _) => 2
  | .probing (.judged _) => 1
  | .sweeping => 0
  | .validating pass rest => 8 * rest.length + passWork pass
  | .offering _ _ _ _ => 1

/-- Where a task comes to, or its end, lies further on its way than where it was. -/
def Onward (next : Option Task) (task : Task) : Prop :=
  next.elim 0 phase < task.phase ∨
    next.elim 0 phase = task.phase ∧ next.elim 0 work < task.work

theorem phase_next? (rest : List String) : (next? rest).elim 0 phase = 0 := by
  cases rest <;> rfl

theorem work_next?_le (rest : List String) : (next? rest).elim 0 work ≤ 8 * rest.length := by
  cases rest with
  | nil => exact Nat.le_refl _
  | cons uri rest => simp [next?, work, passWork, Nat.mul_add]

theorem passWork_pos (pass : Pass) : 0 < passWork pass := by
  cases pass <;> simp [passWork]

/-- A task that has done with a document goes on to the next. -/
theorem onward_next? (pass : Pass) (rest : List String) :
    Onward (next? rest) (.validating pass rest) := by
  have hle := work_next?_le rest
  have hpos := passWork_pos pass
  refine .inr ⟨phase_next? rest, ?_⟩
  simp only [work]
  omega

/-- A pass goes on to a later stop. -/
theorem onward_pass {pass next : Pass} (h : passWork next < passWork pass) (rest : List String) :
    Onward (some (.validating next rest)) (.validating pass rest) :=
  .inr ⟨rfl, Nat.add_lt_add_left h _⟩

/-- No task comes to where messages arrive. -/
theorem not_onward_arrived (message : Message) (task : Task) :
    ¬ Onward (some (.arrived message)) task := by
  intro h
  cases task <;> simp [Onward, phase, work] at h

end Task

namespace Server

variable {s t : Server} {e : Event} {effects : List Effect} {n : Nat} {task : Task}

/-! ## Numbers -/

/-- The tasks bear different numbers, in the order of their arrival, and all numbers that are still
to come are greater. -/
structure Numbered (s : Server) : Prop where
  sorted : s.tasks.Pairwise fun entry later => entry.1 < later.1
  lt_next : ∀ entry ∈ s.tasks, entry.1 < s.nextTask

theorem numbered_start (config : Config) (root : String) : (Server.start config root).Numbered :=
  ⟨.nil, fun _ hentry => absurd hentry List.not_mem_nil⟩

/-- A task is one entry of the table, with earlier ones before it and later ones after it. -/
theorem Numbered.split (h : s.Numbered) (found : s.task? n = some task) :
    ∃ before after, s.tasks = before ++ (n, task) :: after ∧
      (∀ entry ∈ before, entry.1 < n) ∧ ∀ entry ∈ after, n < entry.1 := by
  simp only [task?, Option.map_eq_some_iff] at found
  obtain ⟨⟨m, other⟩, hfind, rfl⟩ := found
  obtain ⟨hm, before, after, htasks, -⟩ := List.find?_eq_some_iff_append.mp hfind
  have hsame : m = n := by simpa using hm
  subst hsame
  have hsorted := h.sorted
  rw [htasks, List.pairwise_append, List.pairwise_cons] at hsorted
  obtain ⟨-, ⟨hafter, -⟩, hbefore⟩ := hsorted
  exact ⟨before, after, htasks, fun entry hentry => hbefore entry hentry _ List.mem_cons_self,
    hafter⟩

theorem Numbered.task?_of_mem (h : s.Numbered) (hmem : (n, task) ∈ s.tasks) :
    s.task? n = some task := by
  obtain ⟨before, after, htasks⟩ := List.append_of_mem hmem
  have hsorted := h.sorted
  rw [htasks, List.pairwise_append] at hsorted
  obtain ⟨-, -, hbefore⟩ := hsorted
  have hnone : before.find? (fun entry => decide (entry.1 = n)) = none := by
    rw [List.find?_eq_none]
    intro entry hentry
    have hlt := hbefore entry hentry (n, task) List.mem_cons_self
    simpa using Nat.ne_of_lt hlt
  simp [task?, htasks, List.find?_append, hnone]

theorem moved_append (tasks more : List (Nat × Task)) (n : Nat) (next : Option Task) :
    moved (tasks ++ more) n next = moved tasks n next ++ moved more n next := by
  cases next <;> simp [moved]

theorem moved_of_ne {tasks : List (Nat × Task)} (h : ∀ entry ∈ tasks, entry.1 ≠ n)
    (next : Option Task) : moved tasks n next = tasks := by
  induction tasks with
  | nil => cases next <;> rfl
  | cons entry rest ih =>
    rw [moved_cons, if_neg (h entry List.mem_cons_self),
      ih fun other hother => h other (List.mem_cons_of_mem _ hother), List.singleton_append]

/-- The entry that is moved is put in the place of the old one, or taken out. -/
theorem moved_split {before after : List (Nat × Task)}
    (htasks : s.tasks = before ++ (n, task) :: after) (hbefore : ∀ entry ∈ before, entry.1 < n)
    (hafter : ∀ entry ∈ after, n < entry.1) (next : Option Task) :
    moved s.tasks n next = before ++ (next.map fun task => (n, task)).toList ++ after := by
  rw [htasks, moved_append, moved_cons, if_pos rfl,
    moved_of_ne (fun entry hentry => Nat.ne_of_lt (hbefore entry hentry)),
    moved_of_ne (fun entry hentry => Nat.ne_of_gt (hafter entry hentry)), List.append_assoc]

/-! ## The turns of the table -/

/-- What a step does to the table of tasks. -/
inductive Turn (s : Server) (e : Event) (t : Server) : Prop
  /-- A message joins the table. -/
  | arrival (message : Message) (h : e = .arrive message)
      (tasks : t.tasks = s.tasks ++ [(s.nextTask, .arrived message)])
      (nextTask : t.nextTask = s.nextTask + 1)
  /-- The worker or the editor moves, and no task. -/
  | elsewhere (h : movedTask e = none) (quiet : ∀ message, e ≠ .arrive message)
      (tasks : t.tasks = s.tasks) (nextTask : t.nextTask = s.nextTask)
  /-- A task moves on or ends. -/
  | moved (n : Nat) (task : Task) (next : Option Task) (h : movedTask e = some n)
      (found : s.task? n = some task) (tasks : t.tasks = moved s.tasks n next)
      (nextTask : t.nextTask = s.nextTask) (onward : Task.Onward next task)

/-- A task that is moved moves on. -/
theorem turn_moveTask {s' : Server} {next : Option Task} (same : s'.tasks = s.tasks)
    (sameNext : s'.nextTask = s.nextTask) (found : s.task? n = some task)
    (hn : movedTask e = some n) (onward : Task.Onward next task) : Turn s e (s'.moveTask n next) :=
  .moved n task next hn found (congrArg (Server.moved · n next) same) sameNext onward

/-- Every step is a turn of the table. -/
theorem turn_of_stretch (h : Stretch s e t effects) : Turn s e t := by
  cases h with
  | arrived message => exact .arrival message rfl rfl rfl
  | greeted task | readied task | parted task | ignored task | closed task | opened task
  | changed task | installed task | kept task | asked task =>
    refine turn_moveTask ?_ ?_ task rfl (.inl ?_) <;> first | rfl | simp [Task.phase]
  | offered task | recovered task | probeEnded task | judged task =>
    refine turn_moveTask ?_ ?_ task rfl (.inr ⟨?_, ?_⟩) <;> first | rfl | simp [Task.work]
  | @probed n executable task =>
    refine turn_moveTask rfl rfl task rfl (.inr ⟨rfl, ?_⟩)
    unfold startProbe
    split <;> simp [Task.work]
  | swept task =>
    refine turn_moveTask rfl rfl task rfl (.inl ?_)
    simp [Task.phase_next?, Task.phase]
  | began task | gated task | called task | resolved task | skipped task | unwritable task
  | wrote task | compiled task | compileEnded task =>
    refine turn_moveTask ?_ ?_ task rfl (Task.onward_pass ?_ _) <;>
      first | rfl | simp [Task.passWork]
  | missed task | settled task | dropped task | lost task =>
    refine turn_moveTask ?_ ?_ task rfl (Task.onward_next? _ _) <;> rfl
  | workerTook | workerProbed | workerProbeEnded | workerJudged | answered =>
    exact .elsewhere rfl (fun _ h => by cases h) rfl rfl

/-! ## The numbering is kept -/

theorem Turn.numbered (h : Turn s e t) (hs : s.Numbered) : t.Numbered := by
  cases h with
  | arrival message _ tasks nextTask =>
    refine ⟨?_, ?_⟩
    · rw [tasks, List.pairwise_append]
      refine ⟨hs.sorted, List.pairwise_singleton _ _, fun entry hentry later hlater => ?_⟩
      rw [List.mem_singleton.mp hlater]
      exact hs.lt_next entry hentry
    · intro entry hentry
      rw [tasks, List.mem_append] at hentry
      rw [nextTask]
      rcases hentry with hold | hnew
      · exact Nat.lt_succ_of_lt (hs.lt_next entry hold)
      · rw [List.mem_singleton.mp hnew]
        exact Nat.lt_succ_self _
  | elsewhere _ _ tasks nextTask =>
    refine ⟨?_, ?_⟩
    · rw [tasks]
      exact hs.sorted
    · rw [tasks, nextTask]
      exact hs.lt_next
  | moved n task next _ found tasks nextTask _ =>
    obtain ⟨before, after, hsplit, hbefore, hafter⟩ := hs.split found
    rw [moved_split hsplit hbefore hafter] at tasks
    -- no number is new
    have hnumbers : (t.tasks.map Prod.fst).Sublist (s.tasks.map Prod.fst) := by
      rw [tasks, hsplit]
      cases next with
      | none => simp
      | some next => simp
    refine ⟨?_, ?_⟩
    · exact List.pairwise_map.mp ((List.pairwise_map.mpr hs.sorted).sublist hnumbers)
    · intro entry hentry
      obtain ⟨old, hold, hsame⟩ :=
        List.mem_map.mp (hnumbers.subset (List.mem_map_of_mem (f := Prod.fst) hentry))
      rw [nextTask, ← hsame]
      exact hs.lt_next old hold

theorem numbered_of_runs {config : Config} {root : String} {es : List Event}
    (run : Runs (Server.start config root) es t effects) : t.Numbered :=
  run.snoc_induction (numbered_start config root)
    fun _ hs hstep => (turn_of_stretch (stretch_of_step hstep)).numbered hs

end Server

end LobsterServer
