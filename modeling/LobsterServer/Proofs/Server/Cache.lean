import LobsterServer.Proofs.Server.EditorView
import LobsterServer.Proofs.Settings.SingleFlight

set_option autoImplicit false

/-!
# Settings of closed documents

Closing a document takes its settings out of the cache.  A pass calls for settings some time after
it has begun, and nothing stops it when its document is closed meanwhile.  The main statement says
that this is the only way in which the settings of a closed document can be in the cache; and there
is such a run, after which the next opening of the document finds the old answer.
-/

namespace LobsterServer.Server

variable {s t : Server} {e : Event} {effects : List Effect} {uri : String}

/-- The closed document that an event calls settings for. -/
def callsLate? (s : Server) : Event → Option String
  | .advance n =>
    match s.task? n with
    | some (.validating (.gated ticket _ _) _) =>
      if (s.store.get? ticket.uri).isNone then some ticket.uri else none
    | _ => none
  | _ => none

/-- Settings come into the cache by a call for them. -/
theorem cached_of_start {r : Resolver} {directory : Option String} {other : String}
    (h : (r.start other directory).1.cache.get? uri ≠ none) :
    r.cache.get? uri ≠ none ∨ uri = other := by
  rcases r.start_cases other directory with ⟨_, hr⟩ | ⟨_, _, _, hr⟩ | ⟨_, _, hr⟩
  · rw [hr] at h
    exact .inl h
  · rw [hr] at h
    exact .inl h
  · by_cases hsame : uri = other
    · exact .inr hsame
    · rw [hr] at h
      exact .inl (by simpa [Table.get?_insert_of_ne _ _ hsame] using h)

/-- What is in the cache after a stretch was there before, or it has just been called for. -/
theorem cached_of_stretch (h : Stretch s e t effects) (cached : t.resolver.cache.get? uri ≠ none) :
    s.resolver.cache.get? uri ≠ none ∨
      ∃ n ticket snapshot state rest, e = .advance n ∧ ticket.uri = uri ∧
        s.task? n = some (.validating (.gated ticket snapshot state) rest) := by
  cases h with
  | @closed n other task =>
    refine .inl fun hnone => cached ?_
    by_cases hsame : uri = other
    · subst hsame
      exact Table.get?_erase_self _ _
    · exact (Table.get?_erase_of_ne _ hsame).trans hnone
  | @called n ticket snapshot state rest resolver call asks task started question =>
    obtain rfl : resolver = (s.resolver.start ticket.uri snapshot.directory).1 := by rw [started]
    rcases cached_of_start cached with hold | rfl
    · exact .inl hold
    · exact .inr ⟨n, ticket, snapshot, state, rest, rfl, rfl, task⟩
  | @answered cell reply resolver executable filled =>
    rcases s.resolver.answer_cases cell reply with ⟨other, _, ha⟩ | ⟨_, ha⟩
    · rw [ha] at filled
      cases filled
      exact .inl cached
    · rw [ha] at filled
      cases filled
  | _ => exact .inl cached

/-- Taking in that a document is closed takes its settings out of the cache. -/
theorem not_cached_of_close (h : Stretch s e t effects)
    (closes : takes? uri s e = some (.didClose uri)) : t.resolver.cache.get? uri = none := by
  simp only [takes?, Option.bind_eq_some_iff, Task.notice?_eq_some] at closes
  obtain ⟨_, ⟨n, hn, found⟩, rfl, -⟩ := closes
  cases h with
  | closed here =>
    cases hn
    cases task?_unique found here
    exact Table.get?_erase_self _ _
  | arrived | workerTook | workerProbed | workerProbeEnded | workerJudged | answered => cases hn
  | _ =>
    cases hn
    cases task?_unique found ‹_›

/-- A document that is open stays open until it is taken in that it is closed. -/
theorem Shift.stays_open (h : Shift s e t effects) (isOpen : s.store.get? uri ≠ none)
    (stays : takes? uri s e ≠ some (.didClose uri)) : t.store.get? uri ≠ none := by
  have hopen := h.isOpen uri
  have hbefore : (s.store.findings? uri).isSome = true := by
    simpa [Store.findings?, Option.isSome_iff_ne_none] using isOpen
  suffices hafter : openAfter true (takes? uri s e).toList = true by
    rw [hbefore, hafter] at hopen
    simpa [Store.findings?, Option.isSome_iff_ne_none] using hopen
  cases htakes : takes? uri s e with
  | none => rfl
  | some message =>
    cases message with
    | didClose other =>
      obtain rfl : other = uri := by
        simp only [takes?, Option.bind_eq_some_iff, Task.notice?_eq_some] at htakes
        obtain ⟨_, _, _, habout⟩ := htakes
        exact Option.some.inj habout
      exact absurd htakes stays
    | _ => rfl

/-- In every run from the start, settings in the cache belong to an open document, or to one that a
pass has called them for while it was not open. -/
theorem open_or_called_late {config : Config} {root : String} {es : List Event}
    (run : Runs (Server.start config root) es t effects)
    (cached : t.resolver.cache.get? uri ≠ none) :
    t.store.get? uri ≠ none ∨ uri ∈ record callsLate? (Server.start config root) es := by
  refine run.snoc_induction (P := fun es t _ => t.resolver.cache.get? uri ≠ none →
    t.store.get? uri ≠ none ∨ uri ∈ record callsLate? (Server.start config root) es)
    (fun h => absurd rfl h) ?_ cached
  intro es t u a b e hrun ih hstep hcached
  have hstretch := stretch_of_step hstep
  have hshift := shift_of_runs hrun hstep
  have hstays : takes? uri t e ≠ some (.didClose uri) := fun hcloses =>
    hcached (not_cached_of_close hstretch hcloses)
  rw [record_snoc hrun, List.mem_append]
  rcases cached_of_stretch hstretch hcached with hold | ⟨n, ticket, _, _, _, rfl, rfl, task⟩
  · rcases ih hold with hopen | hlate
    · exact .inl (hshift.stays_open hopen hstays)
    · exact .inr (.inl hlate)
  · cases hopen : t.store.get? ticket.uri with
    | none => exact .inr (.inr (by simp [callsLate?, task, hopen]))
    | some d => exact .inl (hshift.stays_open (by simp [hopen]) hstays)

/-- A document is closed between the start of a pass and its call for settings. -/
def closedBeforeCall : List Event :=
  [.arrive (.hello 0 true), .advance 0, .arrive (.didOpen "a" ['x'] 1), .advance 1, .advance 1,
    .arrive (.didClose "a"), .advance 2, .advance 1, .advance 1,
    .answered 0 (.ok (some ⟨some "old", [], none⟩)), .advance 1, .copied 1 .complete, .advance 1,
    .ran (.task 1) (.ok ⟨0, [], []⟩), .advance 1]

/-- The document is opened again. -/
def reopened : List Event :=
  [.arrive (.didOpen "a" ['y'] 1), .advance 3, .advance 3, .advance 3, .advance 3, .advance 3]

/-- When all messages are done, the settings of the closed document are in the cache, and when it is
opened again a pass takes them from there without a question. -/
theorem cached_after_close :
    ∃ s effects t effects' ticket snapshot state settings,
      Runs fresh closedBeforeCall s effects ∧ s.tasks = [] ∧ s.resolver.capability = true ∧
      s.resolver.cache.get? "a" ≠ none ∧ s.store.get? "a" = none ∧
      Runs s reopened t effects' ∧
      t.task? 3 = some (.validating (.resolved ticket snapshot state settings) []) ∧
      settings.executable = "old" ∧ effects' = [] :=
  ⟨_, _, _, _, _, _, _, _, runs_iff.mpr rfl, rfl, rfl, nofun, rfl, runs_iff.mpr rfl, rfl, rfl, rfl⟩

end LobsterServer.Server
