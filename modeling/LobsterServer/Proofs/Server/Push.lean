import LobsterServer.Proofs.Server.Numbering
import LobsterServer.Proofs.Server.Passes

set_option autoImplicit false

/-!
# A pushed configuration reaches every open document

A pushed configuration is first put in force and then resets the error state.  From there on its
task owes a pass to every open document that bears a stamp from before, until another pass gives
that document a later one.  So when no task is left, every open document bears a stamp from after
the reset, and the pass that settled it has read all that it read after the reset.
-/

namespace LobsterServer

/-- A task has still a pass to start on the document. -/
def Task.Owes (uri : String) : Task → Prop
  | .probing _ => True
  | .sweeping => True
  | .validating (.due first) rest => uri ∈ first :: rest
  | .validating _ rest => uri ∈ rest
  | _ => False

namespace Server

variable {s t : Server} {e : Event} {effects : List Effect} {n : Nat}

/-! ## The document after a stretch -/

/-- A document bears a stamp from after the stretch, or the one that it had before. -/
theorem generation_of_stretch (h : Stretch s e t effects) (hs : s.store.WellFormed) {uri : String}
    {d : Document} (hd : t.store.get? uri = some d) :
    s.store.generation < d.generation ∨
      ∃ old, s.store.get? uri = some old ∧ d.generation = old.generation := by
  rcases store_of_stretch h with hsame | ⟨op, hop⟩
  · rw [hsame] at hd
    exact .inr ⟨d, hd, rfl⟩
  · rw [hop] at hd
    by_cases hrenews : op.Renews uri s.store
    · rw [Store.generation_of_renews hs hrenews hd]
      exact .inl (Nat.lt_succ_self _)
    · exact .inr (Store.generation_of_not_renews hs hrenews hd)

/-! ## What a task owes -/

/-- A task that goes on to the documents that are left owes them their passes. -/
theorem owes_moveTask_next? {s' : Server} (same : s'.tasks = s.tasks) {task : Task}
    (found : s.task? n = some task) {uri : String} {rest : List String} (h : uri ∈ rest) :
    ∃ next, (s'.moveTask n (Task.next? rest)).task? n = some next ∧ next.Owes uri := by
  cases rest with
  | nil => cases h
  | cons first rest => exact ⟨_, task?_moveTask_self same found _, h⟩

/-- A task goes on to owe a pass to an open document until it starts one. -/
theorem owes_of_stretch (h : Stretch s e t effects) (hs : s.store.WellFormed) {task : Task}
    (found : s.task? n = some task) {uri : String} (owes : task.Owes uri) {old d : Document}
    (hold : s.store.get? uri = some old) (hd : t.store.get? uri = some d)
    (hgeneration : d.generation ≤ s.store.generation) :
    ∃ next, t.task? n = some next ∧ next.Owes uri := by
  by_cases hn : movedTask e = some n
  · cases h with
    | arrived | workerTook | workerProbed | workerProbeEnded | workerJudged | answered => cases hn
    | greeted here | readied here | parted here | opened here | changed here | ignored here
    | closed here | installed here | kept here | asked here | offered here | recovered here =>
      cases hn
      cases task?_unique found here
      exact owes.elim
    | probed here | probeEnded here | judged here =>
      cases hn
      exact ⟨_, task?_moveTask_self rfl here _, trivial⟩
    | swept here all =>
      -- whatever the order, an open document is among them
      cases hn
      exact owes_moveTask_next? rfl here (all.mem_iff.mpr (Table.mem_keys_of_get? hold))
    | @began _ first rest store ticket snapshot here started =>
      cases hn
      cases task?_unique found here
      refine ⟨_, task?_moveTask_self rfl here _, ?_⟩
      rcases List.mem_cons.mp owes with rfl | hrest
      · -- the pass that begins gives the document the next stamp
        have hrenews : (Store.Operation.startPass uri).Renews uri s.store := ⟨rfl, by simp [hold]⟩
        have hnew : d.generation = s.store.generation + 1 :=
          Store.generation_of_renews hs hrenews
            (by simpa only [Store.perform, started, moveTask] using hd)
        omega
      · exact hrest
    | @missed _ first rest store reason here refused =>
      cases hn
      cases task?_unique found here
      rcases List.mem_cons.mp owes with rfl | hrest
      · rw [Store.startPass_of_open hold] at refused
        cases refused
      · exact owes_moveTask_next? rfl here hrest
    | gated here | called here | resolved here | skipped here | unwritable here | wrote here
    | compiled here | compileEnded here =>
      cases hn
      cases task?_unique found here
      exact ⟨_, task?_moveTask_self rfl here _, owes⟩
    | settled here | dropped here | lost here =>
      cases hn
      cases task?_unique found here
      exact owes_moveTask_next? rfl here owes
  · exact ⟨task, task?_of_stretch h hn found, owes⟩

/-- The task owes a pass to every open document whose stamp is not later than `stamp`. -/
structure Renewing (n stamp : Nat) (s : Server) : Prop where
  stamp_le : stamp ≤ s.store.generation
  owes : ∀ {uri : String} {d : Document}, s.store.get? uri = some d → d.generation ≤ stamp →
    ∃ task, s.task? n = some task ∧ task.Owes uri

theorem Renewing.step {stamp : Nat} (h : Renewing n stamp s) (hs : s.store.WellFormed)
    (hstep : s.step e = some (t, effects)) : Renewing n stamp t := by
  have hstretch := stretch_of_step hstep
  refine ⟨Nat.le_trans h.stamp_le (generation_le_of_stretch hstretch), fun {uri d} hd hle => ?_⟩
  rcases generation_of_stretch hstretch hs hd with hnew | ⟨old, hold, hsame⟩
  · exact absurd (Nat.le_trans hle h.stamp_le) (Nat.not_le.mpr hnew)
  · obtain ⟨task, found, owes⟩ := h.owes hold (hsame ▸ hle)
    exact owes_of_stretch hstretch hs found owes hold hd (Nat.le_trans hle h.stamp_le)

/-- What a task owes from some point of a run on it owes to the end of the run. -/
theorem Renewing.runs {stamp : Nat} {es : List Event} (h : Renewing n stamp s)
    (hs : s.store.WellFormed) (run : Runs s es t effects) : Renewing n stamp t := by
  induction run with
  | nil s => exact h
  | cons hstep _ ih => exact ih (h.step hs hstep) (wellFormed_of_step hs hstep)

/-- Once no task is left, every open document bears a later stamp. -/
theorem Renewing.lt_generation {stamp : Nat} (h : Renewing n stamp s) (rest : s.tasks = [])
    {uri : String} {d : Document} (hd : s.store.get? uri = some d) : stamp < d.generation := by
  rw [← Nat.not_le]
  intro hle
  obtain ⟨task, found, -⟩ := h.owes hd hle
  rw [task?_eq_none rest] at found
  cases found

/-! ## The way of a push through a run -/

/-- A task that is not at a stop any more has moved on from it. -/
theorem Runs.leaves {es : List Event} {task : Task} (run : Runs s es t effects)
    (found : s.task? n = some task) (gone : t.task? n ≠ some task) :
    ∃ before e after u v a b c, es = before ++ e :: after ∧ Runs s before u a ∧
      u.task? n = some task ∧ movedTask e = some n ∧ u.step e = some (v, b) ∧ Runs v after t c := by
  induction run with
  | nil s => exact absurd found gone
  | @cons s v t e es a b hstep hrun ih =>
    by_cases hn : movedTask e = some n
    · exact ⟨[], e, es, s, v, [], a, b, rfl, .nil s, found, hn, hstep, hrun⟩
    · obtain ⟨before, e', after, u, w, a', b', c', rfl, hbefore, hfound, hmoved, hstep', hafter⟩ :=
        ih (task?_of_stretch (stretch_of_step hstep) hn found) gone
      exact ⟨e :: before, e', after, u, w, _, b', c', rfl, .cons hstep hbefore, hfound, hmoved,
        hstep', hafter⟩

/-- A push that is taken in puts its settings in force, and stops before it resets the error
state. -/
theorem configured_of_step {configuration : Json}
    (found : s.task? n = some (.arrived (.didConfigure configuration)))
    (hn : movedTask e = some n) (hstep : s.step e = some (t, effects)) :
    e = .advance n ∧ t.task? n = some .configured ∧
      ∀ choice, Override.ofPush? configuration = some choice →
        t.resolver.global = t.config.defaults.overriddenBy choice := by
  cases stretch_of_step hstep with
  | installed here pushed =>
    cases hn
    cases task?_unique found here
    refine ⟨rfl, task?_moveTask_self rfl here _, fun other hother => ?_⟩
    rw [pushed] at hother
    cases hother
    rfl
  | kept here malformed =>
    cases hn
    cases task?_unique found here
    refine ⟨rfl, task?_moveTask_self rfl here _, fun other hother => ?_⟩
    rw [malformed] at hother
    cases hother
  | arrived | workerTook | workerProbed | workerProbeEnded | workerJudged | answered => cases hn
  | _ =>
    cases hn
    cases task?_unique found ‹_›

/-- A push resets the error state, and then it owes a pass to every open document. -/
theorem renewing_of_step (found : s.task? n = some .configured) (hn : movedTask e = some n)
    (hstep : s.step e = some (t, effects)) :
    e = .advance n ∧ t.state = ErrorState.reset ∧ Renewing n t.store.generation t := by
  cases stretch_of_step hstep with
  | recovered here =>
    cases hn
    exact ⟨rfl, rfl, Nat.le_refl _, fun _ _ => ⟨_, task?_moveTask_self rfl here _, trivial⟩⟩
  | arrived | workerTook | workerProbed | workerProbeEnded | workerJudged | answered => cases hn
  | _ =>
    cases hn
    cases task?_unique found ‹_›

/-- The events lead to a server of which something holds. -/
def After (s : Server) (es : List Event) (P : Server → Prop) : Prop :=
  ∃ t effects, Runs s es t effects ∧ P t

/-- The push that arrives after the events `before`, as the message with the number `n`, has put its
settings in force within the events `reset`, and resets the error state in the next step. -/
structure ResetsAfter (s : Server) (n : Nat) (configuration : Json) (before reset : List Event) :
    Prop where
  arrives : After s before fun t => t.nextTask = n
  installs : ∃ taken, before ++ [.arrive (.didConfigure configuration)] <+: taken ∧
    taken ++ [.advance n] <+: reset ∧
    After s taken (fun t => t.task? n = some (.arrived (.didConfigure configuration))) ∧
    After s (taken ++ [.advance n]) fun t => ∀ choice,
      Override.ofPush? configuration = some choice →
        t.resolver.global = t.config.defaults.overriddenBy choice
  stops : After s reset fun t => t.task? n = some .configured
  resets : After s (reset ++ [.advance n]) fun t => t.state = ErrorState.reset

/-- In the run the pass has gone by an error state and by settings that it has read, the latter with
an answer of the editor, and it has read nothing within the events `earlier`. -/
structure ReadsAfter (s : Server) (es earlier : List Event) (ticket : Ticket) : Prop where
  used : ∃ use ∈ record uses? s es, use.ticket = ticket
  read : ∀ use ∈ record uses? s es, use.ticket = ticket →
    (ticket, .state use.state) ∈ record reads? s es ∧
    ∃ global answer, (ticket, .global global) ∈ record reads? s es ∧
      use.settings = Resolver.settle global use.snapshot.directory answer
  unread : ∀ reading, (ticket, reading) ∉ record reads? s earlier

/-- A push that arrives in a run at whose end no task is left has reset the error state, and from
there on has owed a pass to every open document. -/
theorem resets_of_runs {config : Config} {root : String} {before after : List Event}
    {configuration : Json}
    (run : Runs (Server.start config root)
      (before ++ .arrive (.didConfigure configuration) :: after) s effects)
    (rest : s.tasks = []) :
    ∃ n reset later t a b,
      before ++ .arrive (.didConfigure configuration) :: after = reset ++ .advance n :: later ∧
      ResetsAfter (Server.start config root) n configuration before reset ∧
      Runs (Server.start config root) (reset ++ [.advance n]) t a ∧ Runs t later s b ∧
      Renewing n t.store.generation t := by
  obtain ⟨u, a, b, hbefore, hafter⟩ := run.split
  cases hafter with
  | @cons _ v _ _ _ a' b' harrive hafter =>
    have harrived := hbefore.snoc harrive
    have hfound : v.task? u.nextTask = some (.arrived (.didConfigure configuration)) := by
      refine (numbered_of_runs harrived).task?_of_mem ?_
      cases harrive
      exact List.mem_append_right _ List.mem_cons_self
    -- the push is taken in
    obtain ⟨waiting, e, more, w, x, _, _, _, rfl, hwaiting, htaken, hmoved, htake, hmore⟩ :=
      hafter.leaves hfound (by rw [task?_eq_none rest]; exact nofun)
    obtain ⟨rfl, hconfigured, hforce⟩ := configured_of_step htaken hmoved htake
    have hrunTaken := harrived.append hwaiting
    have hrunConfigured := hrunTaken.snoc htake
    -- the error state is reset
    obtain ⟨between, e, later, y, z, _, _, _, rfl, hbetween, hstops, hmoved, hreset, hlater⟩ :=
      hmore.leaves hconfigured (by rw [task?_eq_none rest]; exact nofun)
    obtain ⟨rfl, hstate, hrenewing⟩ := renewing_of_step hstops hmoved hreset
    have hrunStops := hrunConfigured.append hbetween
    have hrunReset := hrunStops.snoc hreset
    refine ⟨_, _, later, z, _, _, by simp, ⟨⟨u, _, hbefore, rfl⟩, ⟨_, List.prefix_append _ _,
      List.prefix_append _ _, ⟨w, _, hrunTaken, htaken⟩, x, _, hrunConfigured, hforce⟩,
      ⟨y, _, hrunStops, hstops⟩, z, _, hrunReset, hstate⟩, hrunReset, hlater, hrenewing⟩

/-- A push of the configuration reaches every open document.  Whenever no message is in work, every
push that has arrived has put its settings in force, if they are well-formed, and then has reset the
error state; and of each open document the last pass that settled it, whose findings and stamp it
bears, has read the error state and the settings in force for all documents after that reset, and
has gone by what it read. -/
theorem push_reaches_every_document {config : Config} {root : String} {es : List Event}
    (run : Runs (Server.start config root) es s effects) (rest : s.tasks = [])
    {before after : List Event} {configuration : Json}
    (push : es = before ++ .arrive (.didConfigure configuration) :: after) :
    ∃ n reset later, es = reset ++ .advance n :: later ∧
      ResetsAfter (Server.start config root) n configuration before reset ∧
      ∀ uri d, s.store.get? uri = some d →
        ∃ ticket, lastSettled uri (record settles? (Server.start config root) es) =
            some (ticket, d.diagnostics) ∧
          d.generation = ticket.generation ∧
          ReadsAfter (Server.start config root) es (reset ++ [.advance n]) ticket := by
  subst push
  obtain ⟨n, reset, later, t, a, b, hes, hresets, hreset, hlater, hrenewing⟩ :=
    resets_of_runs run rest
  refine ⟨n, reset, later, hes, hresets, fun uri d hd => ?_⟩
  obtain ⟨ticket, hlast, hgeneration, -⟩ :=
    (((attended_of_runs run).attended hd).hasVerdict rest).last
  have htracked := tracked_of_runs run
  refine ⟨ticket, hlast, hgeneration, htracked.settled _ (mem_of_lastSettled hlast), ?_,
    fun reading hreading => ?_⟩
  · rintro use huse rfl
    have hread := htracked.used use huse
    exact ⟨hread.state, hread.settings⟩
  -- what has been read by then has been read under a stamp from before the reset
  have hold : ticket.generation ≤ t.store.generation := (tracked_of_runs hreset).stamped _ hreading
  have hnew : t.store.generation < d.generation :=
    (hrenewing.runs (wellFormed_of_runs hreset) hlater).lt_generation rest hd
  omega

/-- A push arrives while a pass is at work that has read the error state already. -/
def pushDuringPass : List Event :=
  [.arrive (.didOpen "a" ['x'] 1), .advance 0, .advance 0, .advance 0] ++
    .arrive (.didConfigure (.obj [("lobster", .obj [("executable", .str "new")])])) ::
    [.advance 0, .advance 1, .advance 1, .advance 1, .ran (.task 1) (.error (.killed "new")),
      .advance 1, .sweep 1 ["a"], .advance 0, .copied 0 .complete, .advance 1, .advance 0,
      .ran (.task 0) (.ok ⟨0, [], []⟩), .advance 0, .advance 1, .advance 1, .advance 1,
      .advance 1, .advance 1]

/-- That pass reads the settings from before the push, and is overtaken by the one that the push
starts. -/
theorem push_reaches_every_document_during_a_pass :
    ∃ s effects d, Runs fresh pushDuringPass s effects ∧
      s.tasks = [] ∧ s.resolver.global.executable = "new" ∧ s.store.get? "a" = some d ∧
      ∃ before configuration after n reset later ticket,
        pushDuringPass = before ++ .arrive (.didConfigure configuration) :: after ∧
        pushDuringPass = reset ++ .advance n :: later ∧
        ResetsAfter fresh n configuration before reset ∧
        d.generation = ticket.generation ∧
        ReadsAfter fresh pushDuringPass (reset ++ [.advance n]) ticket := by
  obtain ⟨s, effects, d, run, rest, hglobal, hd⟩ : ∃ s effects d,
      Runs fresh pushDuringPass s effects ∧ s.tasks = [] ∧
        s.resolver.global.executable = "new" ∧ s.store.get? "a" = some d :=
    ⟨_, _, _, runs_iff.mpr rfl, rfl, rfl, rfl⟩
  obtain ⟨n, reset, later, hes, hresets, hall⟩ := push_reaches_every_document run rest rfl
  obtain ⟨ticket, -, hgeneration, hreads⟩ := hall "a" d hd
  exact ⟨s, effects, d, run, rest, hglobal, hd, _, _, _, n, reset, later, ticket, rfl, hes, hresets,
    hgeneration, hreads⟩

end Server

end LobsterServer
