import LobsterServer.Rehearsal.Bench

set_option autoImplicit false

/-!
# How runs on the host end

Whatever program runs and whatever it does, an error of the host is about the executable that was
asked for and names the time limit that was given, and only a run with some time to it has an
output.  The same holds on the bench, whose stand-ins lie in front of the programs of the host.
-/

namespace LobsterServer

/-- An ending that an invocation can have where the runner itself reads and writes nothing. -/
def RunResult.Suits (i : Invocation) : RunResult → Prop
  | .ok _ => 0 < i.timeout
  | .error (.spawn executable _) => executable = i.executable
  | .error (.timeout executable millis) => executable = i.executable ∧ millis = i.timeout
  | .error (.killed executable) => executable = i.executable
  | .error (.io _) => False

namespace Host

/-- However a program has ended, the run ends in time or is given up. -/
theorem result_suits (i : Invocation) (s : Shell) : (result i s).Suits i := by
  obtain ⟨ends, hends⟩ : ∃ ends : Moment,
      ends = max s.now (max (s.world.ends outputChannel) (s.world.ends errorChannel)) := ⟨_, rfl⟩
  simp only [result, ← hends]
  by_cases hlate : s.course = .stuck ∨ deadline i ≤ ends
  · rw [if_pos hlate]
    exact ⟨rfl, rfl⟩
  · rw [if_neg hlate]
    cases s.course with
    | killed signal => rfl
    | _ =>
      -- what takes at least no time takes at least a limit of zero
      have htime : deadline i ≠ 0 := fun hzero => hlate (.inr (hzero ▸ Nat.zero_le ends))
      exact Nat.pos_of_ne_zero fun hzero => htime (by rw [deadline, hzero, Nat.zero_mul])

/-- Every run on the host ends in a way that suits its invocation. -/
theorem execute_suits (i : Invocation) : (execute i).Suits i := by
  unfold execute
  simp only
  split
  · rfl
  · split
    · rfl
    · exact result_suits i _

end Host

/-- Every run on the bench ends in a way that suits its invocation. -/
theorem Rehearsal.Bench.compiler_suits (i : Invocation) (content : Option Text) :
    (compiler i content).result.Suits i := by
  unfold compiler
  split
  · rfl
  · exact Host.execute_suits i
  · simp only
    split
    · exact ⟨rfl, rfl⟩
    · rename_i htime
      exact Nat.lt_of_le_of_lt (Nat.zero_le _) (Nat.lt_of_not_le htime)

end LobsterServer
