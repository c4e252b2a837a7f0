import LobsterServer.Proofs.Server.Documents
import LobsterServer.Proofs.Server.Numbering

set_option autoImplicit false

/-!
# Notifications in turn

The editor says by notifications that it opens, changes and closes a document.  Handlers overlap as
they like after their first stretch, but the first stretches of the notifications of one document
come in the order in which these arrived.  Then the notifications taken in so far are the first of
those that arrived, and they say whether the document is open.
-/

namespace LobsterServer

/-- The document that a notification is about. -/
def Message.about? : Message → Option String
  | .didOpen uri _ _ => some uri
  | .didChange uri _ _ => some uri
  | .didClose uri => some uri
  | _ => none

/-- The message as a notification of the document. -/
def Message.notice? (uri : String) (message : Message) : Option Message :=
  if message.about? = some uri then some message else none

/-- The notification of the document that a task has still to take in. -/
def Task.notice? (uri : String) : Task → Option Message
  | .arrived message => message.notice? uri
  | _ => none

/-- Whether a task has still its message to take in. -/
def Task.isArrived : Task → Bool
  | .arrived _ => true
  | _ => false

theorem Task.notice?_eq_some {uri : String} {task : Task} {message : Message} :
    task.notice? uri = some message ↔ task = .arrived message ∧ message.about? = some uri := by
  cases task with
  | arrived other =>
    simp only [notice?, Message.notice?, Option.ite_none_right_eq_some, Option.some.injEq,
      Task.arrived.injEq]
    constructor
    · rintro ⟨habout, rfl⟩
      exact ⟨rfl, habout⟩
    · rintro ⟨rfl, habout⟩
      exact ⟨habout, rfl⟩
  | _ => simp [notice?]

/-- No task comes to where notifications wait. -/
theorem Task.Onward.notice? {next : Option Task} {task : Task} (h : Task.Onward next task)
    (uri : String) : next.bind (Task.notice? uri) = none := by
  cases next with
  | none => rfl
  | some next =>
    cases hnext : next.notice? uri with
    | none => simpa using hnext
    | some message =>
      obtain ⟨rfl, -⟩ := notice?_eq_some.mp hnext
      exact absurd h (not_onward_arrived message task)

/-- The notifications of one document make sense: it is opened only when it is not open. -/
def Legal : Bool → List Message → Prop
  | _, [] => True
  | isOpen, .didOpen _ _ _ :: rest => isOpen = false ∧ Legal true rest
  | _, .didClose _ :: rest => Legal false rest
  | isOpen, _ :: rest => Legal isOpen rest

/-- Whether the document is open after its notifications. -/
def openAfter : Bool → List Message → Bool
  | isOpen, [] => isOpen
  | _, .didOpen _ _ _ :: rest => openAfter true rest
  | _, .didClose _ :: rest => openAfter false rest
  | isOpen, _ :: rest => openAfter isOpen rest

/-- What follows on notifications that make sense makes sense after them. -/
theorem Legal.rest {isOpen : Bool} {before rest : List Message}
    (h : Legal isOpen (before ++ rest)) : Legal (openAfter isOpen before) rest := by
  induction before generalizing isOpen with
  | nil => exact h
  | cons message before ih =>
    cases message with
    | didOpen uri text version => exact ih h.2
    | _ => exact ih h

theorem Legal.before {isOpen : Bool} {before rest : List Message}
    (h : Legal isOpen (before ++ rest)) : Legal isOpen before := by
  induction before generalizing isOpen with
  | nil => trivial
  | cons message before ih =>
    cases message with
    | didOpen uri text version => exact ⟨h.1, ih h.2⟩
    | _ => exact ih h

theorem openAfter_append (isOpen : Bool) (before rest : List Message) :
    openAfter isOpen (before ++ rest) = openAfter (openAfter isOpen before) rest := by
  induction before generalizing isOpen with
  | nil => rfl
  | cons message before ih => cases message <;> exact ih _

namespace Server

variable {s t : Server} {e : Event} {effects : List Effect} {uri : String}

/-! ## What arrives, what waits and what is taken in -/

/-- The notification of the document that an event brings. -/
def brings? (uri : String) : Event → Option Message
  | .arrive message => message.notice? uri
  | _ => none

/-- The notification of the document that an event takes in. -/
def takes? (uri : String) (s : Server) (e : Event) : Option Message :=
  ((movedTask e).bind s.task?).bind (Task.notice? uri)

/-- The notifications of the document that wait, in the order of their arrival. -/
def waiting (uri : String) (s : Server) : List Message :=
  s.tasks.filterMap fun entry => entry.2.notice? uri

/-- The event is in turn: no notification of a document is taken in before an earlier one. -/
def InTurn (s : Server) (e : Event) : Prop :=
  ∀ n m message other uri, movedTask e = some n →
    s.task? n = some (.arrived message) → message.about? = some uri →
    s.task? m = some (.arrived other) → other.about? = some uri → n ≤ m

/-- Something holds of each event of a run, with the server before it. -/
def Along (P : Server → Event → Prop) : Server → List Event → Prop
  | _, [] => True
  | s, e :: es => P s e ∧ ∀ t effects, s.step e = some (t, effects) → Along P t es

theorem Along.cons {P : Server → Event → Prop} {es : List Event} (h : P s e)
    (hstep : s.step e = some (t, effects)) (rest : Along P t es) : Along P s (e :: es) := by
  refine ⟨h, fun t' effects' hstep' => ?_⟩
  rw [hstep] at hstep'
  cases hstep'
  exact rest

theorem Along.append {P : Server → Event → Prop} {es more : List Event}
    (h : Along P s (es ++ more)) (run : Runs s es t effects) : Along P s es ∧ Along P t more := by
  induction run with
  | nil s => exact ⟨trivial, h⟩
  | @cons s t u e es a b hstep _ ih =>
    obtain ⟨hrest, hmore⟩ := ih (h.2 t a hstep)
    exact ⟨.cons h.1 hstep hrest, hmore⟩

/-- Where at most one message waits, every event is in turn. -/
theorem inTurn_of_few (h : (s.tasks.filter fun entry => entry.2.isArrived).length ≤ 1)
    (e : Event) : s.InTurn e := by
  intro n m message other uri _ htask _ hother _
  have hmem : ∀ {k : Nat} {x : Message}, s.task? k = some (.arrived x) →
      (k, Task.arrived x) ∈ s.tasks.filter fun entry => entry.2.isArrived :=
    fun hk => List.mem_filter.mpr ⟨mem_of_task? hk, rfl⟩
  have hn := hmem htask
  have hm := hmem hother
  cases hlist : s.tasks.filter fun entry => entry.2.isArrived with
  | nil =>
    rw [hlist] at hn
    cases hn
  | cons first rest =>
    rw [hlist] at h hn hm
    have hrest : rest = [] := List.eq_nil_of_length_eq_zero (by simpa using h)
    subst hrest
    have hsame := (List.mem_singleton.mp hn).trans (List.mem_singleton.mp hm).symm
    exact Nat.le_of_eq (congrArg Prod.fst hsame)

/-- The number of messages that wait before an event. -/
def crowd? (s : Server) (_ : Event) : Option Nat :=
  some (s.tasks.filter fun entry => entry.2.isArrived).length

/-- In a run where no two messages wait at the same time, every event is in turn. -/
theorem along_inTurn_of_few {es : List Event} (h : ∀ crowd ∈ record crowd? s es, crowd ≤ 1) :
    Along InTurn s es := by
  induction es generalizing s with
  | nil => trivial
  | cons e es ih =>
    refine ⟨inTurn_of_few (h _ (List.mem_append_left _ List.mem_cons_self)) e, ?_⟩
    intro t effects hstep
    refine ih fun crowd hcrowd => h crowd (List.mem_append_right _ ?_)
    simpa only [hstep] using hcrowd

/-- What waits and what is brought is what is taken in and what waits then. -/
theorem Turn.waiting (h : Turn s e t) (hs : s.Numbered) (turn : s.InTurn e) (uri : String) :
    s.waiting uri ++ (brings? uri e).toList = (takes? uri s e).toList ++ t.waiting uri := by
  cases h with
  | arrival message he tasks =>
    subst he
    have hwaits : [(s.nextTask, Task.arrived message)].filterMap
        (fun entry => entry.2.notice? uri) = (message.notice? uri).toList := by
      simp only [List.filterMap_cons, List.filterMap_nil, Task.notice?]
      cases message.notice? uri <;> rfl
    simp [Server.waiting, brings?, takes?, movedTask, tasks, List.filterMap_append, ← hwaits]
  | elsewhere he quiet tasks =>
    have hbrings : brings? uri e = none := by
      cases e with
      | arrive message => exact absurd rfl (quiet message)
      | _ => rfl
    simp [Server.waiting, hbrings, takes?, he, tasks]
  | moved n task next he found tasks nextTask onward =>
    obtain ⟨before, after, hsplit, hbefore, hafter⟩ := hs.split found
    rw [moved_split hsplit hbefore hafter] at tasks
    have hbrings : brings? uri e = none := by
      cases e with
      | arrive message => cases he
      | _ => rfl
    have htakes : takes? uri s e = task.notice? uri := by simp [takes?, he, found]
    have hnext : ((next.map fun task => (n, task)).toList.filterMap
        fun entry => entry.2.notice? uri) = [] := by
      have hnone := onward.notice? uri
      cases next with
      | none => rfl
      | some next => simpa using hnone
    have hfirst : task.notice? uri = none ∨
        (before.filterMap fun entry => entry.2.notice? uri) = [] := by
      cases hnotice : task.notice? uri with
      | none => exact .inl rfl
      | some message =>
        right
        obtain ⟨rfl, habout⟩ := Task.notice?_eq_some.mp hnotice
        rw [List.filterMap_eq_nil_iff]
        intro entry hentry
        cases hother : entry.2.notice? uri with
        | none => rfl
        | some other =>
          obtain ⟨htask, haboutOther⟩ := Task.notice?_eq_some.mp hother
          have hmem : (entry.1, Task.arrived other) ∈ s.tasks := by
            rw [hsplit, ← htask]
            exact List.mem_append_left _ hentry
          have hle : n ≤ entry.1 :=
            turn n entry.1 message other uri he found habout (hs.task?_of_mem hmem) haboutOther
          exact absurd (hbefore entry hentry) (Nat.not_lt.mpr hle)
    simp only [Server.waiting, hsplit, tasks, hbrings, htakes, List.filterMap_append, hnext,
      List.filterMap_cons]
    rcases hfirst with hnone | hnil
    · simp [hnone]
    · cases task.notice? uri <;> simp [hnil]

/-! ## Runs -/

/-- The notifications of the document that arrive in a run. -/
def notices (uri : String) (es : List Event) : List Message := es.filterMap (brings? uri)

theorem notices_snoc (uri : String) (es : List Event) (e : Event) :
    notices uri (es ++ [e]) = notices uri es ++ (brings? uri e).toList := by
  rw [notices, List.filterMap_append, notices]
  cases h : brings? uri e <;> simp [h]

/-- In a run where all events are in turn, the notifications that have been taken in are the first
of those that have arrived, and the others wait. -/
theorem notices_eq_taken_append_waiting {config : Config} {root : String} {es : List Event}
    (run : Runs (Server.start config root) es s effects)
    (inTurn : Along InTurn (Server.start config root) es) (uri : String) :
    notices uri es = record (takes? uri) (Server.start config root) es ++ s.waiting uri := by
  refine run.snoc_induction (P := fun es t _ => Along InTurn (Server.start config root) es →
    notices uri es = record (takes? uri) (Server.start config root) es ++ t.waiting uri)
    (fun _ => rfl) ?_ inTurn
  intro es t u a b e hrun ih hstep hturns
  obtain ⟨hbefore, hturn, -⟩ := hturns.append hrun
  have hkeeps := (turn_of_stretch (stretch_of_step hstep)).waiting (numbered_of_runs hrun) hturn uri
  rw [notices_snoc, record_snoc hrun, ih hbefore, List.append_assoc, List.append_assoc, hkeeps]

/-- An event that takes in a notification is followed by a server that waits for the rest. -/
theorem legal_takes {config : Config} {root : String} {es : List Event}
    (run : Runs (Server.start config root) es s effects)
    (inTurn : Along InTurn (Server.start config root) (es ++ [e])) {a : List Effect}
    (hstep : s.step e = some (t, a)) {message : Message} (takes : takes? uri s e = some message)
    (legal : Legal false (notices uri (es ++ [e]))) :
    Legal (openAfter false (record (takes? uri) (Server.start config root) es)) [message] := by
  rw [notices_eq_taken_append_waiting (run.snoc hstep) inTurn, record_snoc run, takes] at legal
  exact (Legal.before legal).rest

end Server

end LobsterServer
