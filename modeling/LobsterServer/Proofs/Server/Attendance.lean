import LobsterServer.Proofs.Server.Documents
import LobsterServer.Proofs.Server.Record

set_option autoImplicit false

/-!
# No document is left without a verdict

Each open document is attended to: a task is about to start a pass on it, or a task is at work on
the pass whose stamp it bears, with the text it has, or the last pass that settled it was given the
text it has.  Every stretch keeps this, so once no task is left only the last is possible.
-/

namespace LobsterServer

/-- The document that a task is about to start a pass on. -/
def Task.due? : Task → Option String
  | .validating (.due uri) _ => some uri
  | _ => none

/-- The ticket of a pass that has begun. -/
def Pass.ticket? : Pass → Option Ticket
  | .due _ => none
  | .begun ticket _ => some ticket
  | .gated ticket _ _ => some ticket
  | .resolving ticket _ _ _ => some ticket
  | .resolved ticket _ _ _ => some ticket
  | .written ticket _ _ => some ticket
  | .compiling ticket _ _ => some ticket
  | .found ticket _ => some ticket

/-- The ticket of the pass that a task is at work on. -/
def Task.ticket? : Task → Option Ticket
  | .validating pass _ => pass.ticket?
  | _ => none

namespace Server

open Store (Operation)

variable {s t : Server} {e : Event} {effects : List Effect}

/-! ## Work on a document -/

/-- A task is about to start a pass on the document. -/
def IsDue (s : Server) (uri : String) : Prop :=
  ∃ n task, s.task? n = some task ∧ task.due? = some uri

/-- A task is at work on the pass. -/
def InWork (s : Server) (ticket : Ticket) : Prop :=
  ∃ n task, s.task? n = some task ∧ task.ticket? = some ticket

theorem isDue_of_stretch (h : Stretch s e t effects) {uri : String} (hdue : s.IsDue uri) :
    t.IsDue uri ∨ ∃ n task, movedTask e = some n ∧ s.task? n = some task ∧
      task.due? = some uri := by
  obtain ⟨n, task, htask, htaskDue⟩ := hdue
  by_cases hn : movedTask e = some n
  · exact .inr ⟨n, task, hn, htask, htaskDue⟩
  · exact .inl ⟨n, task, task?_of_stretch h hn htask, htaskDue⟩

theorem inWork_of_stretch (h : Stretch s e t effects) {ticket : Ticket}
    (hwork : s.InWork ticket) :
    t.InWork ticket ∨ ∃ n task, movedTask e = some n ∧ s.task? n = some task ∧
      task.ticket? = some ticket := by
  obtain ⟨n, task, htask, hticket⟩ := hwork
  by_cases hn : movedTask e = some n
  · exact .inr ⟨n, task, hn, htask, hticket⟩
  · exact .inl ⟨n, task, task?_of_stretch h hn htask, hticket⟩

/-! ## Passes and snapshots -/

/-- The last of the settled passes that was a pass on the document, with its findings. -/
def lastSettled (uri : String) (settled : List (Ticket × List Diagnostic)) :
    Option (Ticket × List Diagnostic) :=
  (settled.filter fun entry => entry.1.uri = uri).getLast?

theorem lastSettled_append_self (settled : List (Ticket × List Diagnostic)) (ticket : Ticket)
    (findings : List Diagnostic) :
    lastSettled ticket.uri (settled ++ [(ticket, findings)]) = some (ticket, findings) := by
  simp [lastSettled]

theorem lastSettled_append_of_ne {uri : String} (settled : List (Ticket × List Diagnostic))
    {ticket : Ticket} (h : ticket.uri ≠ uri) (findings : List Diagnostic) :
    lastSettled uri (settled ++ [(ticket, findings)]) = lastSettled uri settled := by
  simp [lastSettled, h]

theorem mem_of_lastSettled {uri : String} {settled : List (Ticket × List Diagnostic)}
    {entry : Ticket × List Diagnostic} (h : lastSettled uri settled = some entry) :
    entry ∈ settled :=
  (List.mem_filter.mp (List.mem_of_getLast? h)).1

/-- The pass was given a snapshot with the text and the version that the document has. -/
def GivenCurrent (begun : List (Ticket × Document)) (ticket : Ticket) (d : Document) : Prop :=
  (∃ snapshot, (ticket, snapshot) ∈ begun) ∧
    ∀ snapshot, (ticket, snapshot) ∈ begun → snapshot.text = d.text ∧ snapshot.version = d.version

/-- Passes that began before are told apart from a new one by its stamp. -/
theorem GivenCurrent.append {begun : List (Ticket × Document)} {ticket new : Ticket}
    {d snapshot : Document} (h : GivenCurrent begun ticket d)
    (hbegun : ∀ entry ∈ begun, entry.1.generation < new.generation) :
    GivenCurrent (begun ++ [(new, snapshot)]) ticket d := by
  obtain ⟨⟨first, hfirst⟩, hall⟩ := h
  refine ⟨⟨first, List.mem_append_left _ hfirst⟩, fun other hother => ?_⟩
  rcases List.mem_append.mp hother with hold | hnew
  · exact hall other hold
  · have hsame : ticket = new := by
      simp only [List.mem_singleton, Prod.mk.injEq] at hnew
      exact hnew.1
    have hlt : ticket.generation < new.generation := hbegun _ hfirst
    rw [hsame] at hlt
    exact absurd hlt (Nat.lt_irrefl _)

/-- The pass of the ticket looks at the document as it is: it may settle it, and what it finds
holds of the document's text. -/
structure LooksAt (begun : List (Ticket × Document)) (ticket : Ticket) (uri : String)
    (d : Document) : Prop where
  uri_eq : ticket.uri = uri
  generation_eq : d.generation = ticket.generation
  version_eq : d.version = ticket.version
  given : GivenCurrent begun ticket d

/-- At most one pass looks at a document. -/
theorem LooksAt.unique {begun : List (Ticket × Document)} {ticket other : Ticket} {uri : String}
    {d : Document} (h : LooksAt begun ticket uri d) (huri : other.uri = uri)
    (hgeneration : d.generation = other.generation) (hversion : d.version = other.version) :
    ticket = other := by
  obtain ⟨u, v, g⟩ := ticket
  obtain ⟨u', v', g'⟩ := other
  have hu : u = u' := h.uri_eq.trans huri.symm
  have hv : v = v' := h.version_eq.symm.trans hversion
  have hg : g = g' := h.generation_eq.symm.trans hgeneration
  rw [hu, hv, hg]

/-- What attends to an open document. -/
inductive AttendedBy (begun : List (Ticket × Document))
    (settled : List (Ticket × List Diagnostic)) (s : Server) (uri : String) (d : Document) : Prop
  /-- A pass on it is due. -/
  | due (h : s.IsDue uri)
  /-- The pass that looks at it is in work. -/
  | work (ticket : Ticket) (h : s.InWork ticket) (looks : LooksAt begun ticket uri d)
  /-- The pass that looks at it has settled it. -/
  | verdict (ticket : Ticket) (last : lastSettled uri settled = some (ticket, d.diagnostics))
      (hstatus : d.status = Status.ofFindings d.diagnostics) (looks : LooksAt begun ticket uri d)

variable {begun : List (Ticket × Document)} {settled : List (Ticket × List Diagnostic)}
  {uri : String} {d : Document}

/-- The task that moves goes on with what it does for the document. -/
def HandsOver (s t : Server) (e : Event) (uri : String) (d : Document) : Prop :=
  ∀ n task, movedTask e = some n → s.task? n = some task →
    (task.due? = some uri → t.IsDue uri) ∧
    ∀ ticket, task.ticket? = some ticket → ticket.uri = uri → d.generation = ticket.generation →
      d.version = ticket.version → t.InWork ticket

theorem handsOver_of_none (h : movedTask e = none) : HandsOver s t e uri d := by
  intro n task hn
  rw [h] at hn
  cases hn

/-- It is enough to look at the task that is found under the number. -/
theorem handsOver_of_task {n : Nat} {task : Task} (found : s.task? n = some task)
    (hn : movedTask e = some n) (hdue : task.due? = some uri → t.IsDue uri)
    (hticket : ∀ ticket, task.ticket? = some ticket → ticket.uri = uri →
      d.generation = ticket.generation → d.version = ticket.version → t.InWork ticket) :
    HandsOver s t e uri d := by
  intro m other hm hother
  rw [hn] at hm
  cases hm
  rw [found] at hother
  cases hother
  exact ⟨hdue, hticket⟩

theorem handsOver_of_idle {n : Nat} {task : Task} (found : s.task? n = some task)
    (hn : movedTask e = some n) (hdue : task.due? = none) (hticket : task.ticket? = none) :
    HandsOver s t e uri d := by
  refine handsOver_of_task found hn (fun h => ?_) fun ticket h => ?_
  · rw [hdue] at h
    cases h
  · rw [hticket] at h
    cases h

theorem handsOver_of_moved {n : Nat} {task next : Task} (found : s.task? n = some task)
    (hn : movedTask e = some n) (now : t.task? n = some next) (hdue : next.due? = task.due?)
    (hticket : next.ticket? = task.ticket?) : HandsOver s t e uri d :=
  handsOver_of_task found hn (fun h => ⟨n, next, now, hdue.trans h⟩)
    fun _ h _ _ _ => ⟨n, next, now, hticket.trans h⟩

/-- A document that a stretch does not touch stays attended to if the task that moves hands it
over. -/
theorem AttendedBy.keep (h : AttendedBy begun settled s uri d) (hstretch : Stretch s e t effects)
    (hands : HandsOver s t e uri d) : AttendedBy begun settled t uri d := by
  cases h with
  | due hdue =>
    rcases isDue_of_stretch hstretch hdue with hstays | ⟨n, task, hn, htask, htaskDue⟩
    · exact .due hstays
    · exact .due ((hands n task hn htask).1 htaskDue)
  | work ticket hwork looks =>
    rcases inWork_of_stretch hstretch hwork with hstays | ⟨n, task, hn, htask, hticket⟩
    · exact .work ticket hstays looks
    · exact .work ticket ((hands n task hn htask).2 ticket hticket looks.uri_eq looks.generation_eq
        looks.version_eq) looks
  | verdict ticket last hstatus looks => exact .verdict ticket last hstatus looks

theorem LooksAt.append {ticket new : Ticket} {snapshot : Document}
    (h : LooksAt begun ticket uri d) (hnew : ∀ entry ∈ begun, entry.1.generation < new.generation) :
    LooksAt (begun ++ [(new, snapshot)]) ticket uri d :=
  ⟨h.uri_eq, h.generation_eq, h.version_eq, h.given.append hnew⟩

/-- Another pass begins. -/
theorem AttendedBy.append_begun {new : Ticket} {snapshot : Document}
    (h : AttendedBy begun settled s uri d)
    (hnew : ∀ entry ∈ begun, entry.1.generation < new.generation) :
    AttendedBy (begun ++ [(new, snapshot)]) settled s uri d := by
  cases h with
  | due hdue => exact .due hdue
  | work ticket hwork looks => exact .work ticket hwork (looks.append hnew)
  | verdict ticket last hstatus looks => exact .verdict ticket last hstatus (looks.append hnew)

/-- A pass on another document is settled. -/
theorem AttendedBy.append_settled {ticket : Ticket} (h : AttendedBy begun settled s uri d)
    (hne : ticket.uri ≠ uri) (findings : List Diagnostic) :
    AttendedBy begun (settled ++ [(ticket, findings)]) s uri d := by
  cases h with
  | due hdue => exact .due hdue
  | work ticket hwork looks => exact .work ticket hwork looks
  | verdict ticket last hstatus looks =>
    exact .verdict ticket (by rw [lastSettled_append_of_ne settled hne, last]) hstatus looks

/-! ## Every stretch keeps documents attended to -/

/-- Every open document is attended to. -/
structure Attended (begun : List (Ticket × Document)) (settled : List (Ticket × List Diagnostic))
    (s : Server) : Prop where
  wellFormed : s.store.WellFormed
  begun_le : ∀ entry ∈ begun, entry.1.generation ≤ s.store.generation
  attended : ∀ {uri : String} {d : Document}, s.store.get? uri = some d →
    AttendedBy begun settled s uri d

/-- A stretch that leaves the store alone, and whose task goes on with what it does. -/
theorem Attended.aside (h : Attended begun settled s) (hstretch : Stretch s e t effects)
    (hstore : t.store = s.store) (hands : ∀ {uri : String} {d : Document},
      s.store.get? uri = some d → HandsOver s t e uri d) :
    Attended begun settled t := by
  refine ⟨hstore ▸ h.wellFormed, hstore ▸ h.begun_le, ?_⟩
  intro uri d hd
  rw [hstore] at hd
  exact (h.attended hd).keep hstretch (hands hd)

/-- A stretch that does an operation on the store: the documents that the operation leaves alone
are handed over, and the others are attended to by what the stretch leads to. -/
theorem Attended.operate (h : Attended begun settled s) (hstretch : Stretch s e t effects)
    {op : Operation} (hstore : t.store = s.store.perform op)
    (hdocuments : ∀ {uri : String} {d : Document}, t.store.get? uri = some d →
      (s.store.get? uri = some d ∧ HandsOver s t e uri d) ∨ AttendedBy begun settled t uri d) :
    Attended begun settled t := by
  have hle := Store.generation_le_perform s.store op
  refine ⟨hstore ▸ h.wellFormed.perform op, ?_, ?_⟩
  · intro entry hentry
    rw [hstore]
    exact Nat.le_trans (h.begun_le entry hentry) hle
  · intro uri d hd
    rcases hdocuments hd with ⟨hbefore, hands⟩ | hnow
    · exact (h.attended hbefore).keep hstretch hands
    · exact hnow

theorem Attended.opened {n : Nat} {text : Text} {version : Int} (h : Attended begun settled s)
    (task : s.task? n = some (.arrived (.didOpen uri text version))) :
    Attended begun settled
      (({ s with store := s.store.openDocument (Document.fresh uri text version
          (s.config.pathOf uri)) } : Server).setTask n (.validating (.due uri) [])) := by
  have hstore : s.store.openDocument (Document.fresh uri text version (s.config.pathOf uri)) =
      s.store.perform (.openFresh uri text version (s.config.pathOf uri)) := rfl
  refine h.operate (.opened task) hstore ?_
  intro other d hd
  simp only [moveTask, Store.get?_openDocument, Document.fresh] at hd
  split at hd
  · rename_i hother
    subst hother
    exact .inr (.due ⟨n, _, task?_moveTask_self rfl task _, rfl⟩)
  · exact .inl ⟨hd, handsOver_of_idle task rfl rfl rfl⟩

theorem Attended.changed {n : Nat} {changes : List Change} {version : Int} {store : Store}
    (h : Attended begun settled s)
    (task : s.task? n = some (.arrived (.didChange uri changes version)))
    (accepted : s.store.change uri changes version = .ok store) :
    Attended begun settled
      (({ s with store := store } : Server).setTask n (.validating (.due uri) [])) := by
  have hstore : store = s.store.perform (.change uri changes version) := by
    simp only [Store.perform, accepted]
  refine h.operate (.changed task accepted) hstore ?_
  intro other d hd
  cases hopen : s.store.get? uri with
  | none =>
    rw [Store.change_of_closed hopen] at accepted
    cases accepted
  | some old =>
    rw [Store.change_of_open hopen] at accepted
    cases accepted
    have huri : (old.applyChanges changes version).uri = uri := by
      simpa using h.wellFormed.uri_eq hopen
    simp only [moveTask, Store.get?_put huri] at hd
    split at hd
    · rename_i hother
      subst hother
      exact .inr (.due ⟨n, _, task?_moveTask_self rfl task _, rfl⟩)
    · exact .inl ⟨hd, handsOver_of_idle task rfl rfl rfl⟩

theorem Attended.closed {n : Nat} (h : Attended begun settled s)
    (task : s.task? n = some (.arrived (.didClose uri))) :
    Attended begun settled
      (({ s with store := s.store.close uri, resolver := s.resolver.forget uri } :
        Server).endTask n) := by
  have hstore : s.store.close uri = s.store.perform (.close uri) := rfl
  refine h.operate (.closed task) hstore ?_
  intro other d hd
  simp only [moveTask, Store.get?_close] at hd
  split at hd
  · cases hd
  · exact .inl ⟨hd, handsOver_of_idle task rfl rfl rfl⟩

/-- A pass that is refused its start was due on a document that is not open. -/
theorem Attended.missed {n : Nat} {rest : List String} {store : Store} {reason : DocumentError}
    (h : Attended begun settled s) (task : s.task? n = some (.validating (.due uri) rest))
    (refused : s.store.startPass uri = (store, .error reason)) :
    Attended begun settled (({ s with store := store } : Server).validateNext n rest) := by
  have hstore : store = s.store.perform (.startPass uri) := by
    simp only [Store.perform, refused]
  refine h.operate (.missed task refused) hstore ?_
  intro other d hd
  cases hopen : s.store.get? uri with
  | some old =>
    rw [Store.startPass_of_open hopen] at refused
    cases refused
  | none =>
    rw [Store.startPass_of_closed hopen] at refused
    cases refused
    have hbefore : s.store.get? other = some d := hd
    refine .inl ⟨hbefore, handsOver_of_task task rfl (fun hdue => ?_) fun ticket hticket => ?_⟩
    · cases hdue
      rw [hopen] at hbefore
      cases hbefore
    · cases hticket

/-- The pass that begins looks at its document, and the other documents are handed over. -/
theorem Attended.began {n : Nat} {rest : List String} {store : Store} {ticket : Ticket}
    {snapshot : Document} (h : Attended begun settled s)
    (task : s.task? n = some (.validating (.due uri) rest))
    (started : s.store.startPass uri = (store, .ok (ticket, snapshot))) :
    Attended (begun ++ [(ticket, snapshot)]) settled
      (({ s with store := store } : Server).setTask n
        (.validating (.begun ticket snapshot) rest)) := by
  have hstretch := Stretch.began task started
  have hstore : store = s.store.perform (.startPass uri) := by
    simp only [Store.perform, started]
  obtain ⟨hopen, huri, hversion, hstamp, hlast⟩ :=
    Store.get?_startPass h.wellFormed (by rw [started])
  rw [started] at hopen hlast
  obtain ⟨old, hold, hticket, -⟩ := Store.open_of_startPass (s := s.store) (by rw [started])
  have hnew : ∀ entry ∈ begun, entry.1.generation < ticket.generation := by
    intro entry hentry
    rw [hticket]
    exact Nat.lt_succ_of_le (h.begun_le entry hentry)
  refine ⟨?_, ?_, ?_⟩
  · simp only [moveTask, hstore]
    exact h.wellFormed.perform _
  · intro entry hentry
    simp only [moveTask]
    rw [← hlast]
    rcases List.mem_append.mp hentry with hbefore | hthis
    · exact Nat.le_of_lt (hnew entry hbefore)
    · exact Nat.le_of_eq (congrArg (fun entry => entry.1.generation) (List.mem_singleton.mp hthis))
  · intro other d hd
    simp only [moveTask] at hd
    by_cases hother : other = uri
    · subst hother
      rw [hopen] at hd
      cases hd
      refine .work ticket ⟨n, _, task?_moveTask_self rfl task _, rfl⟩
        ⟨huri, hstamp.symm, hversion.symm, ⟨snapshot, List.mem_append_right _ List.mem_cons_self⟩,
          fun given hgiven => ?_⟩
      rcases List.mem_append.mp hgiven with hbefore | hthis
      · exact absurd (hnew _ hbefore) (Nat.lt_irrefl _)
      · simp only [List.mem_singleton, Prod.mk.injEq] at hthis
        exact ⟨by rw [hthis.2], by rw [hthis.2]⟩
    · have hbefore : s.store.get? other = some d := by
        have hmarked : (s.store.marked old).uri = uri := by
          simpa using h.wellFormed.uri_eq hold
        rw [hstore] at hd
        simp only [Store.perform, Store.startPass_of_open hold, Store.get?_put hmarked,
          if_neg hother] at hd
        exact hd
      refine ((h.attended hbefore).keep hstretch (handsOver_of_task task rfl (fun hdue => ?_)
        fun ticket hticket => ?_)).append_begun hnew
      · cases hdue
        exact absurd rfl hother
      · cases hticket

/-- A pass that is refused its end was at work on a document that is not open. -/
theorem Attended.lost {n : Nat} {ticket : Ticket} {findings : List Diagnostic}
    {rest : List String} {reason : DocumentError} (h : Attended begun settled s)
    (task : s.task? n = some (.validating (.found ticket findings) rest))
    (refused : s.store.finishPass ticket findings = .error reason) :
    Attended begun settled (s.validateNext n rest) := by
  refine h.aside (.lost task refused) rfl fun hd =>
    handsOver_of_task task rfl (fun hdue => ?_) fun given hticket huri hgeneration hversion => ?_
  · cases hdue
  · cases hticket
    rw [← huri] at hd
    rw [Store.finishPass_of_match hd hgeneration hversion] at refused
    cases refused

/-- A pass that is dropped does not look at its document any more. -/
theorem Attended.dropped {n : Nat} {ticket : Ticket} {findings : List Diagnostic}
    {rest : List String} {store : Store} (h : Attended begun settled s)
    (task : s.task? n = some (.validating (.found ticket findings) rest))
    (finished : s.store.finishPass ticket findings = .ok (store, .stale)) :
    Attended begun settled (({ s with store := store } : Server).validateNext n rest) := by
  obtain ⟨rfl, old, hopen, hne⟩ := Store.stale_of_finishPass finished
  refine h.aside (.dropped task finished) rfl fun hd =>
    handsOver_of_task task rfl (fun hdue => ?_) fun given hticket huri hgeneration hversion => ?_
  · cases hdue
  · cases hticket
    rw [← huri, hopen] at hd
    cases hd
    exact absurd ⟨hgeneration, hversion⟩ hne

/-- A pass that settles a document is the one that looks at it, or another is due on it. -/
theorem Attended.finished {n : Nat} {ticket : Ticket} {findings : List Diagnostic}
    {rest : List String} {store : Store} {status : Status} {publish : Bool}
    (h : Attended begun settled s)
    (task : s.task? n = some (.validating (.found ticket findings) rest))
    (finished : s.store.finishPass ticket findings = .ok (store, .settled status publish)) :
    Attended begun (settled ++ [(ticket, findings)])
      (({ s with store := store } : Server).validateNext n rest) := by
  have hstretch := Stretch.settled task finished
  obtain ⟨old, hopen, hgeneration, hversion, rfl, -⟩ := Store.settled_of_finishPass finished
  have huri : (Store.settledWith old findings).uri = ticket.uri := by
    simpa using h.wellFormed.uri_eq hopen
  refine ⟨?_, ?_, ?_⟩
  · have hle : old.generation ≤ s.store.generation := h.wellFormed.generation_le hopen
    exact h.wellFormed.put hle
  · exact h.begun_le
  · intro other d hd
    simp only [moveTask, Store.get?_put huri] at hd
    split at hd
    · rename_i hother
      subst hother
      cases hd
      have hverdict : ∀ looking, LooksAt begun looking ticket.uri old →
          AttendedBy begun (settled ++ [(ticket, findings)])
            (({ s with store := s.store.put (Store.settledWith old findings) } :
              Server).validateNext n rest) ticket.uri (Store.settledWith old findings) := by
        intro looking looks
        have hsame : looking = ticket := looks.unique rfl hgeneration hversion
        subst hsame
        exact .verdict looking (lastSettled_append_self settled looking findings) rfl
          ⟨looks.uri_eq, looks.generation_eq, looks.version_eq, looks.given⟩
      cases h.attended hopen with
      | due hdue =>
        rcases isDue_of_stretch hstretch hdue with hstays | ⟨m, found, hm, hfound, hfoundDue⟩
        · exact .due hstays
        · cases hm
          rw [task] at hfound
          cases hfound
          cases hfoundDue
      | work looking _ looks => exact hverdict looking looks
      | verdict looking _ _ looks => exact hverdict looking looks
    · rename_i hother
      have hne : ticket.uri ≠ other := fun hsame => hother hsame.symm
      refine ((h.attended hd).keep hstretch (handsOver_of_task task rfl (fun hdue => ?_)
        fun given hticket hsame => ?_)).append_settled hne _
      · cases hdue
      · cases hticket
        exact absurd hsame hne

/-! ## Runs -/

/-- A stretch of a task that is at work on no document. -/
theorem Attended.idle {n : Nat} {task : Task} (h : Attended begun settled s)
    (hstretch : Stretch s e t effects) (found : s.task? n = some task)
    (hn : movedTask e = some n) (hdue : task.due? = none) (hticket : task.ticket? = none)
    (hstore : t.store = s.store) : Attended begun settled t :=
  h.aside hstretch hstore fun _ => handsOver_of_idle found hn hdue hticket

theorem Attended.step (h : Attended begun settled s) (hstep : s.step e = some (t, effects)) :
    Attended (begun ++ (begins? s e).toList) (settled ++ (settles? s e).toList) t := by
  have hstretch := stretch_of_step hstep
  cases stretch_of_step hstep with
  | arrived message =>
    simpa [begins?, settles?] using h.aside hstretch rfl fun _ => handsOver_of_none rfl
  | greeted task | readied task | parted task | ignored task | installed task | kept task
  | asked task | offered task | recovered task | probed task | judged task =>
    simpa [begins?, settles?, task] using h.idle hstretch task rfl rfl rfl rfl
  | probeEnded task | swept task =>
    simpa [begins?, settles?] using h.idle hstretch task rfl rfl rfl rfl
  | opened task => simpa [begins?, settles?, task] using h.opened task
  | changed task accepted => simpa [begins?, settles?, task] using h.changed task accepted
  | closed task => simpa [begins?, settles?, task] using h.closed task
  | began task started =>
    simpa [begins?, settles?, task, started, Except.toOption] using h.began task started
  | missed task refused =>
    simpa [begins?, settles?, task, refused, Except.toOption] using h.missed task refused
  | gated task | called task | resolved task | skipped task | compiled task =>
    simpa [begins?, settles?, task] using h.aside hstretch rfl fun _ =>
      handsOver_of_moved task rfl (task?_moveTask_self rfl task _) rfl rfl
  | unwritable task | wrote task | compileEnded task =>
    simpa [begins?, settles?] using h.aside hstretch rfl fun _ =>
      handsOver_of_moved task rfl (task?_moveTask_self rfl task _) rfl rfl
  | settled task finished =>
    simpa [begins?, settles?, task, finished] using h.finished task finished
  | dropped task finished => simpa [begins?, settles?, task, finished] using h.dropped task finished
  | lost task refused => simpa [begins?, settles?, task, refused] using h.lost task refused
  | workerTook | workerProbed | workerProbeEnded | workerJudged | answered =>
    simpa [begins?, settles?] using h.aside hstretch rfl fun _ => handsOver_of_none rfl

theorem attended_start (config : Config) (root : String) :
    Attended [] [] (Server.start config root) :=
  ⟨Store.wellFormed_empty, fun _ hentry => absurd hentry List.not_mem_nil,
    fun hd => by simp [start, Store.empty, Store.get?] at hd⟩

/-- In every run from the start all open documents are attended to. -/
theorem attended_of_runs {config : Config} {root : String} {es : List Event}
    (run : Runs (Server.start config root) es s effects) :
    Attended (record begins? (Server.start config root) es)
      (record settles? (Server.start config root) es) s := by
  refine run.snoc_induction (P := fun es t _ =>
    Attended (record begins? (Server.start config root) es)
      (record settles? (Server.start config root) es) t) (attended_start config root) ?_
  intro es t u a b e hrun ih hstep
  rw [record_snoc hrun, record_snoc hrun]
  exact ih.step hstep

/-! ## Verdicts -/

/-- A document has a verdict that holds of it: the last pass that settled it is the one whose stamp
it bears, and was given its present text and version. -/
structure HasVerdict (begun : List (Ticket × Document))
    (settled : List (Ticket × List Diagnostic)) (uri : String) (d : Document) : Prop where
  status_eq : d.status = .hasErrors ∨ d.status = .noErrors
  hasErrors_iff : d.status = .hasErrors ↔ d.diagnostics ≠ []
  last : ∃ ticket, lastSettled uri settled = some (ticket, d.diagnostics) ∧
    d.generation = ticket.generation ∧ GivenCurrent begun ticket d

/-- Once no task is left, only a verdict can attend to a document. -/
theorem AttendedBy.hasVerdict (h : AttendedBy begun settled s uri d) (hrest : s.tasks = []) :
    HasVerdict begun settled uri d := by
  cases h with
  | due hdue =>
    obtain ⟨n, task, htask, -⟩ := hdue
    rw [task?_eq_none hrest] at htask
    cases htask
  | work ticket hwork =>
    obtain ⟨n, task, htask, -⟩ := hwork
    rw [task?_eq_none hrest] at htask
    cases htask
  | verdict ticket last hstatus looks =>
    refine ⟨?_, ?_, ticket, last, looks.generation_eq, looks.given⟩
    · rw [hstatus]
      cases d.diagnostics with
      | nil => exact .inr rfl
      | cons first rest => exact .inl rfl
    · rw [hstatus]
      cases d.diagnostics with
      | nil => simp [Status.ofFindings]
      | cons first rest => simp [Status.ofFindings]

end Server

end LobsterServer
