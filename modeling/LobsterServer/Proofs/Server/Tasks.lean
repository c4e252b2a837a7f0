import LobsterServer.Server.Step

set_option autoImplicit false

/-!
# The table of tasks

The tasks of a server are known by `task?`, which finds the task with a number.  A step moves one
task to its next stop, ends it, or adds a new one; the lemmas below say what that does to `task?`.
Nothing else of the server changes with it, which its definition says.
-/

namespace LobsterServer

/-- A task that goes on to the next document has a pass that is due, if it does not end. -/
theorem Task.elim_next? {P : Task → Prop}
    (hdue : ∀ uri rest, P (.validating (.due uri) rest)) (rest : List String) :
    (Task.next? rest).elim True P := by
  cases rest with
  | nil => trivial
  | cons uri rest => exact hdue uri rest

namespace Server

/-! ## Looking up a task -/

/-- Servers with the same table have the same tasks. -/
theorem task?_congr {s t : Server} (h : t.tasks = s.tasks) (number : Nat) :
    t.task? number = s.task? number := by
  simp only [task?, h]

theorem moved_cons (entry : Nat × Task) (rest : List (Nat × Task)) (n : Nat) (next : Option Task) :
    moved (entry :: rest) n next =
      (if entry.1 = n then (next.map fun task => (n, task)).toList else [entry])
        ++ moved rest n next := by
  cases next <;> by_cases h : entry.1 = n <;> simp [moved, h]

theorem find?_moved (tasks : List (Nat × Task)) (n m : Nat) (next : Option Task) :
    ((moved tasks n next).find? fun entry => entry.1 = m).map Prod.snd =
      if m = n then ((tasks.find? fun entry => entry.1 = n).map Prod.snd).bind fun _ => next
      else (tasks.find? fun entry => entry.1 = m).map Prod.snd := by
  induction tasks with
  | nil => cases next <;> simp [moved]
  | cons entry rest ih =>
    rw [moved_cons]
    by_cases hk : entry.1 = n
    · by_cases hm : m = n
      · -- the entry that is moved; another of its number can only follow if it is taken out
        subst hm
        cases next with
        | some task => simp [hk]
        | none => simpa [hk] using ih
      · have hkm : entry.1 ≠ m := fun h => hm (h.symm.trans hk)
        have hnm : n ≠ m := fun h => hm h.symm
        simp only [hm, if_false] at ih ⊢
        cases next <;> simpa [hk, hnm, List.find?_cons] using ih
    · by_cases hm : entry.1 = m
      · subst hm
        simp [hk]
      · simpa [hk, hm, List.find?_cons] using ih

theorem task?_moveTask (s : Server) (n m : Nat) (next : Option Task) :
    (s.moveTask n next).task? m =
      if m = n then (s.task? n).bind fun _ => next else s.task? m :=
  find?_moved s.tasks n m next

/-- The server with a message that has just arrived. -/
def enqueue (s : Server) (message : Message) : Server :=
  { s with tasks := s.tasks ++ [(s.nextTask, .arrived message)], nextTask := s.nextTask + 1 }

theorem task?_enqueue_of_some {s : Server} {n : Nat} {task : Task} (h : s.task? n = some task)
    (message : Message) : (s.enqueue message).task? n = some task := by
  simp only [task?, Option.map_eq_some_iff] at h
  obtain ⟨entry, hfind, hentry⟩ := h
  simp [enqueue, task?, List.find?_append, hfind, hentry]

theorem mem_of_task? {s : Server} {n : Nat} {task : Task} (h : s.task? n = some task) :
    (n, task) ∈ s.tasks := by
  simp only [task?, Option.map_eq_some_iff] at h
  obtain ⟨⟨m, other⟩, hfind, rfl⟩ := h
  have hm : m = n := by simpa using List.find?_some hfind
  subst hm
  exact List.mem_of_find?_eq_some hfind

/-- A number belongs to one task. -/
theorem task?_unique {s : Server} {n : Nat} {task other : Task} (h : s.task? n = some task)
    (h' : s.task? n = some other) : task = other :=
  Option.some.inj (h.symm.trans h')

theorem task?_eq_none {s : Server} (h : s.tasks = []) (n : Nat) : s.task? n = none := by
  simp [task?, h]

section Moves

variable {s s' : Server} {n m : Nat} (same : s'.tasks = s.tasks)

include same

/-- The other tasks stay where they are. -/
theorem task?_moveTask_of_ne (next : Option Task) (hm : m ≠ n) :
    (s'.moveTask n next).task? m = s.task? m := by
  rw [task?_moveTask, if_neg hm, task?_congr same]

/-- The task that is moved is where it was moved to. -/
theorem task?_moveTask_self {task : Task} (found : s.task? n = some task) (next : Option Task) :
    (s'.moveTask n next).task? n = next := by
  rw [task?_moveTask, if_pos rfl, task?_congr same, found, Option.bind_some]

end Moves

/-! ## What holds of all tasks -/

/-- Something holds of every task and its number. -/
def AllTasks (P : Nat → Task → Prop) (s : Server) : Prop := ∀ entry ∈ s.tasks, P entry.1 entry.2

namespace AllTasks

variable {P Q : Nat → Task → Prop} {s t : Server} {n : Nat} {task : Task}

theorem of_task? (h : s.AllTasks P) (found : s.task? n = some task) : P n task :=
  h _ (mem_of_task? found)

theorem imp (h : s.AllTasks P) (himp : ∀ n task, P n task → Q n task) (same : t.tasks = s.tasks) :
    t.AllTasks Q := by
  intro entry hentry
  rw [same] at hentry
  exact himp entry.1 entry.2 (h entry hentry)

theorem enqueue (h : s.AllTasks P) {message : Message} (hnew : P s.nextTask (.arrived message)) :
    (s.enqueue message).AllTasks P := by
  intro entry hentry
  rcases List.mem_append.mp hentry with hold | hlast
  · exact h entry hold
  · rwa [List.mem_singleton.mp hlast]

/-- Only the other tasks matter where a task is moved or ends. -/
theorem moveTask_of_others (h : s.AllTasks fun m task => m ≠ n → P m task)
    (same : t.tasks = s.tasks) {next : Option Task} (hnext : next.elim True (P n)) :
    (t.moveTask n next).AllTasks P := by
  intro entry hentry
  cases next with
  | some next =>
    obtain ⟨old, hold, rfl⟩ := List.mem_map.mp hentry
    rw [same] at hold
    split
    · exact hnext
    · rename_i hne
      exact h old hold hne
  | none =>
    obtain ⟨hold, hne⟩ := List.mem_filter.mp hentry
    rw [same] at hold
    exact h entry hold (of_decide_eq_true hne)

theorem moveTask (h : s.AllTasks P) (same : t.tasks = s.tasks) {next : Option Task}
    (hnext : next.elim True (P n)) : (t.moveTask n next).AllTasks P :=
  moveTask_of_others (fun entry hentry _ => h entry hentry) same hnext

end AllTasks

end Server

end LobsterServer
