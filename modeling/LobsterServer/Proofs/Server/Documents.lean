import LobsterServer.Proofs.Server.Record
import LobsterServer.Proofs.Store.Operation

set_option autoImplicit false

/-!
# The documents of a server

A stretch does at most one operation on the store.  So what every operation keeps holds of the
store of every server that a run leads to.
-/

namespace LobsterServer.Server

open Store (Operation)

variable {s t : Server} {e : Event} {effects : List Effect}

/-- A stretch does at most one operation on the store. -/
theorem store_of_stretch (h : Stretch s e t effects) :
    t.store = s.store ∨ ∃ op : Operation, t.store = s.store.perform op := by
  cases h with
  | @opened n uri text version task =>
    exact .inr ⟨.openFresh uri text version _, rfl⟩
  | @changed n uri changes version store task accepted =>
    refine .inr ⟨.change uri changes version, ?_⟩
    simp only [moveTask, Store.perform, accepted]
  | @closed n uri task => exact .inr ⟨.close uri, rfl⟩
  | @began n uri rest store ticket snapshot task started =>
    refine .inr ⟨.startPass uri, ?_⟩
    simp only [moveTask, Store.perform, started]
  | @missed n uri rest store reason task refused =>
    refine .inr ⟨.startPass uri, ?_⟩
    simp only [moveTask, Store.perform, refused]
  | @settled n ticket findings rest store status publish task finished =>
    refine .inr ⟨.finishPass ticket findings, ?_⟩
    simp only [moveTask, Store.perform, finished]
  | @dropped n ticket findings rest store task finished =>
    refine .inr ⟨.finishPass ticket findings, ?_⟩
    simp only [moveTask, Store.perform, finished]
  | _ => exact .inl rfl

theorem wellFormed_of_step (hs : s.store.WellFormed) (h : s.step e = some (t, effects)) :
    t.store.WellFormed := by
  rcases store_of_stretch (stretch_of_step h) with hsame | ⟨op, hop⟩
  · rwa [hsame]
  · rw [hop]
    exact hs.perform op

/-- In every run from the start the store is well-formed. -/
theorem wellFormed_of_runs {config : Config} {root : String} {es : List Event}
    (run : Runs (Server.start config root) es t effects) : t.store.WellFormed :=
  run.snoc_induction Store.wellFormed_empty
    fun _ hs hstep => wellFormed_of_step hs hstep

end LobsterServer.Server
