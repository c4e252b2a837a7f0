import LobsterServer.Proofs.Server.Stretch

set_option autoImplicit false

/-!
# Runs and their records

What holds of every run is proved from what one step keeps.  Where a statement speaks of the past,
it speaks of a *record*: the list of what a reader takes from each step of the run, in order.
-/

namespace LobsterServer.Server

/-! ## Runs -/

/-- The runs are what `run?` computes. -/
theorem runs_iff {s t : Server} {es : List Event} {effects : List Effect} :
    Runs s es t effects ↔ s.run? es = some (t, effects) := by
  constructor
  · intro run
    induction run with
    | nil s => rfl
    | cons hstep _ ih => simp [run?, hstep, ih]
  · intro h
    induction es generalizing s effects with
    | nil =>
      cases h
      exact .nil _
    | cons e es ih =>
      cases hstep : s.step e with
      | none => simp [run?, hstep] at h
      | some next =>
        simp only [run?, hstep, Option.map_eq_some_iff, Prod.mk.injEq] at h
        obtain ⟨⟨u, more⟩, hrest, rfl, rfl⟩ := h
        exact .cons hstep (ih hrest)

/-- A server as it starts without any options, on a machine where no document lies. -/
abbrev fresh : Server := Server.start (Config.default fun _ => none) "scratch"

namespace Runs

variable {s t u : Server} {es more : List Event} {a b : List Effect}

theorem single {e : Event} (h : s.step e = some (t, a)) : Runs s [e] t a := by
  have hrun := Runs.cons h (Runs.nil t)
  rwa [List.append_nil] at hrun

theorem append (first : Runs s es t a) (second : Runs t more u b) :
    Runs s (es ++ more) u (a ++ b) := by
  induction first with
  | nil s => exact second
  | cons hstep _ ih =>
    rw [List.cons_append, List.append_assoc]
    exact .cons hstep (ih second)

theorem snoc {e : Event} (first : Runs s es t a) (h : t.step e = some (u, b)) :
    Runs s (es ++ [e]) u (a ++ b) :=
  first.append (single h)

/-- A run is a run of its first events and then of the others. -/
theorem split (run : Runs s (es ++ more) u b) :
    ∃ t a c, Runs s es t a ∧ Runs t more u c := by
  induction es generalizing s b with
  | nil => exact ⟨s, [], b, .nil s, run⟩
  | cons e es ih =>
    cases run with
    | cons hstep hrun =>
      obtain ⟨t, a, c, hfirst, hsecond⟩ := ih hrun
      exact ⟨t, _, c, .cons hstep hfirst, hsecond⟩

/-- What holds at the start, and is kept by each step that follows a run, holds of every run. -/
theorem snoc_induction {P : List Event → Server → List Effect → Prop} (start : P [] s [])
    (step : ∀ {es : List Event} {t u : Server} {a b : List Effect} {e : Event},
      Runs s es t a → P es t a → t.step e = some (u, b) → P (es ++ [e]) u (a ++ b))
    (run : Runs s es t a) : P es t a := by
  suffices hextend : ∀ {t u : Server} {more : List Event} {b : List Effect}, Runs t more u b →
      ∀ {es : List Event} {a : List Effect}, Runs s es t a → P es t a →
        P (es ++ more) u (a ++ b) by
    simpa using hextend run (.nil s) start
  intro t u more b hmore
  induction hmore with
  | nil t =>
    intro es a _ hP
    simpa using hP
  | @cons t v u e more b c hstep _ ih =>
    intro es a hrun hP
    have hnext := ih (hrun.snoc hstep) (step hrun hP hstep)
    simpa using hnext

end Runs

/-! ## Records -/

variable {α : Type}

/-- What `read` takes from each step of a run, given the server before it and the event. -/
def record (read : Server → Event → Option α) (s : Server) : List Event → List α
  | [] => []
  | e :: es =>
    (read s e).toList ++
      match s.step e with
      | some (t, _) => record read t es
      | none => []

/-- A run is recorded stretch by stretch. -/
theorem record_append {read : Server → Event → Option α} {s t : Server} {es more : List Event}
    {a : List Effect} (run : Runs s es t a) :
    record read s (es ++ more) = record read s es ++ record read t more := by
  induction run with
  | nil s => rfl
  | cons hstep _ ih => simp only [List.cons_append, record, hstep, ih, List.append_assoc]

theorem record_single (read : Server → Event → Option α) (s : Server) (e : Event) :
    record read s [e] = (read s e).toList := by
  unfold record
  cases s.step e <;> simp [record]

theorem record_snoc {read : Server → Event → Option α} {s t : Server} {es : List Event}
    {a : List Effect} (run : Runs s es t a) (e : Event) :
    record read s (es ++ [e]) = record read s es ++ (read t e).toList := by
  rw [record_append run, record_single]

/-- The pass that an event begins: its ticket and the snapshot it is given. -/
def begins? (s : Server) : Event → Option (Ticket × Document)
  | .advance n =>
    match s.task? n with
    | some (.validating (.due uri) _) => (s.store.startPass uri).2.toOption
    | _ => none
  | _ => none

/-- The pass that an event settles: its ticket and what it found. -/
def settles? (s : Server) : Event → Option (Ticket × List Diagnostic)
  | .advance n =>
    match s.task? n with
    | some (.validating (.found ticket findings) _) =>
      match s.store.finishPass ticket findings with
      | .ok (_, .settled _ _) => some (ticket, findings)
      | _ => none
    | _ => none
  | _ => none

end LobsterServer.Server
