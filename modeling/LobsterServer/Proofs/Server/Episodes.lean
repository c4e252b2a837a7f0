import Mathlib.Data.List.DropRight
import LobsterServer.Proofs.Server.Record

set_option autoImplicit false

/-!
# Episodes of error

A history of the error state is a list of resets and verdicts, in the order in which they were
applied; whose verdicts they are, and when their probes began, leaves no trace in it.  The resets
cut it into episodes.  The main statement says that an episode is in error from its first invalid
verdict on, that the error keeps the message of this verdict, and that the user is shown this
message once and no other; and that a run of the server is such a history, however the probes of
the worker and of pushed configurations overlap in it.
-/

namespace LobsterServer

namespace ErrorState

/-! ## Histories -/

/-- What is done to the error state. -/
inductive Update where
  /-- the configuration has changed -/
  | reset
  /-- a probe has ended -/
  | verdict (verdict : Verdict)
  deriving DecidableEq, Repr

/-- The complaint of a verdict that is invalid. -/
def Update.complaint? : Update → Option String
  | .verdict (.invalid message) => some message
  | _ => Option.none

/-- The state after an update, and the message to show the user. -/
def update (state : ErrorState) : Update → ErrorState × Option String
  | .reset => (ErrorState.reset, Option.none)
  | .verdict verdict => state.afterProbe verdict

/-- The state after a history, and the messages to show the user, in order. -/
def follow (state : ErrorState) : List Update → ErrorState × List String
  | [] => (state, [])
  | u :: history =>
    (((state.update u).1.follow history).1,
      (state.update u).2.toList ++ ((state.update u).1.follow history).2)

/-- What has been done since the last reset. -/
def sinceReset (history : List Update) : List Update :=
  history.rtakeWhile (· ≠ .reset)

/-- The stretches between the resets of a history, before the first and after the last one too. -/
def episodes (history : List Update) : List (List Update) :=
  history.splitOn .reset

/-- The first complaint of an episode. -/
def firstComplaint (episode : List Update) : Option String :=
  episode.findSome? Update.complaint?

/-- The state of an episode with this first complaint. -/
def because : Option String → ErrorState
  | Option.none => .none
  | some message => .errored .invalidExecutable (some message)

theorem isErrored_because (complaint : Option String) :
    (because complaint).isErrored = complaint.isSome := by
  cases complaint <;> rfl

theorem message_because (complaint : Option String) :
    (because complaint).message = complaint := by
  cases complaint <;> rfl

theorem firstComplaint_isSome {episode : List Update} :
    (firstComplaint episode).isSome ↔ ∃ message, .verdict (.invalid message) ∈ episode := by
  rw [firstComplaint, List.findSome?_isSome_iff]
  constructor
  · rintro ⟨u, hmem, hcomplaint⟩
    obtain _ | _ | message := u
    · cases hcomplaint
    · cases hcomplaint
    · exact ⟨message, hmem⟩
  · rintro ⟨message, hmem⟩
    exact ⟨_, hmem, rfl⟩

theorem filterMap_firstComplaint_singleton (episode : List Update) :
    [episode].filterMap firstComplaint = (firstComplaint episode).toList := by
  cases h : firstComplaint episode <;> simp [h]

/-! ## Cutting a history at its resets -/

theorem notMem_sinceReset (history : List Update) : .reset ∉ sinceReset history := by
  intro hmem
  have hne := List.mem_rtakeWhile_imp hmem
  simp at hne

/-- A history is one episode, or there is a reset in front of its last one. -/
theorem eq_sinceReset_or (history : List Update) :
    history = sinceReset history ∨
      ∃ earlier, history = earlier ++ .reset :: sinceReset history := by
  have hparts : history.rdropWhile (· ≠ .reset) ++ sinceReset history = history :=
    List.rdropWhile_append_rtakeWhile
  have hlast := List.rdropWhile_last_not (· ≠ Update.reset) history
  rcases List.eq_nil_or_concat (history.rdropWhile (· ≠ .reset)) with hnil | ⟨earlier, u, hcut⟩
  · rw [hnil, List.nil_append] at hparts
    exact .inl hparts.symm
  · simp only [hcut, List.concat_eq_append] at hlast hparts
    have hu : u = .reset := by simpa using hlast
    rw [hu, List.append_assoc, List.singleton_append] at hparts
    exact .inr ⟨earlier, hparts.symm⟩

theorem follow_append (state : ErrorState) (history more : List Update) :
    state.follow (history ++ more) =
      (((state.follow history).1.follow more).1,
        (state.follow history).2 ++ ((state.follow history).1.follow more).2) := by
  induction history generalizing state with
  | nil => rfl
  | cons u history ih => simp only [List.cons_append, follow, ih, List.append_assoc]

/-! ## One episode -/

/-- In an error, nothing changes before the next reset, and nothing is shown. -/
theorem follow_errored {kind : ErrorKind} {message : Option String} {episode : List Update}
    (h : .reset ∉ episode) :
    (ErrorState.errored kind message).follow episode = (.errored kind message, []) := by
  induction episode with
  | nil => rfl
  | cons u episode ih =>
    cases u with
    | reset => exact absurd List.mem_cons_self h
    | verdict verdict => exact ih fun hmem => h (List.mem_cons_of_mem _ hmem)

/-- An episode ends in the error of its first complaint, which is all that is shown. -/
theorem follow_episode {episode : List Update} (h : .reset ∉ episode) :
    ErrorState.none.follow episode =
      (because (firstComplaint episode), (firstComplaint episode).toList) := by
  induction episode with
  | nil => rfl
  | cons u episode ih =>
    have hrest : .reset ∉ episode := fun hmem => h (List.mem_cons_of_mem u hmem)
    obtain _ | _ | message := u
    · exact absurd List.mem_cons_self h
    · exact ih hrest
    · have hfirst : firstComplaint (.verdict (.invalid message) :: episode) = some message := rfl
      simp only [follow, update, afterProbe, follow_errored hrest, hfirst]
      rfl

/-! ## A whole history -/

/-- A history ends in the error of the first complaint since the last reset, and what is shown are
the first complaints of the episodes. -/
theorem follow_history (history : List Update) :
    ErrorState.none.follow history =
      (because (firstComplaint (sinceReset history)),
        (episodes history).filterMap firstComplaint) := by
  -- from the last episode back to the first
  induction hlength : history.length using Nat.strong_induction_on generalizing history with
  | _ length ih =>
    have hsince := notMem_sinceReset history
    have hepisode := follow_episode hsince
    have hlast : episodes (sinceReset history) = [sinceReset history] :=
      List.splitOn_eq_singleton hsince
    rcases eq_sinceReset_or history with honly | ⟨earlier, hcut⟩
    · rw [← honly] at hepisode hlast ⊢
      rw [hepisode, hlast, filterMap_firstComplaint_singleton]
    · generalize sinceReset history = episode at *
      subst hcut
      have hpieces : episodes (earlier ++ .reset :: episode) = episodes earlier ++ [episode] := by
        rw [← hlast]
        exact List.splitOn_append_cons_self earlier episode
      have hshorter : earlier.length < length := by
        rw [← hlength, List.length_append, List.length_cons]
        omega
      have hearlier := ih earlier.length hshorter earlier rfl
      rw [follow_append, hearlier, hpieces, List.filterMap_append,
        filterMap_firstComplaint_singleton]
      simp only [follow, update, ErrorState.reset, hepisode, Option.toList_none, List.nil_append]

end ErrorState

namespace Server

/-! ## The history of a run -/

/-- What an event does to the error state. -/
def updates? (s : Server) : Event → Option ErrorState.Update
  | .advance n =>
    match s.task? n with
    | some .configured => some .reset
    | some (.probing (.judged verdict)) => some (.verdict verdict)
    | _ => none
  | .advanceWorker =>
    match s.worker with
    | .busy (.judged verdict) => some (.verdict verdict)
    | _ => none
  | _ => none

variable {s t : Server} {e : Event} {effects : List Effect}

/-- The message that an effect shows the user. -/
def shown? : Effect → Option String
  | .show message => some message
  | _ => none

theorem follow_verdict (s : Server) (verdict : Verdict) :
    s.state.follow [.verdict verdict] =
      ((s.applyVerdict verdict).1.state, (s.applyVerdict verdict).2.filterMap shown?) := by
  have hshown : ∀ notice : Option String,
      (notice.toList.map Effect.show).filterMap shown? = notice.toList := by
    intro notice
    cases notice <;> rfl
  simp only [ErrorState.follow, ErrorState.update, applyVerdict, hshown, List.append_nil]

/-- A probe that starts shows nothing. -/
theorem filterMap_shown_startProbe (s : Server) (runner : Runner) (executable : String) :
    (s.startProbe runner executable).2.filterMap shown? = [] := by
  unfold startProbe
  split <;> rfl

/-- Where an event does nothing to the error state, the state stays and nothing is shown. -/
theorem follow_quiet (quiet : updates? s e = none) (same : t.state = s.state)
    (silent : effects.filterMap shown? = []) :
    s.state.follow (updates? s e).toList = (t.state, effects.filterMap shown?) := by
  rw [quiet, same, silent]
  rfl

/-- A stretch does to the error state what is recorded of it, and shows the messages of that. -/
theorem follow_of_stretch (h : Stretch s e t effects) :
    s.state.follow (updates? s e).toList = (t.state, effects.filterMap shown?) := by
  cases h with
  | recovered task =>
    simp only [updates?, task]
    rfl
  | @judged n verdict task =>
    simp only [updates?, task]
    exact follow_verdict s verdict
  | @workerJudged verdict judged =>
    simp only [updates?, judged]
    exact follow_verdict s verdict
  | probed task =>
    exact follow_quiet (by simp [updates?, task]) rfl (filterMap_shown_startProbe ..)
  | workerProbed due =>
    exact follow_quiet (by simp [updates?, due]) rfl (filterMap_shown_startProbe ..)
  | workerTook idle => exact follow_quiet (by simp [updates?, idle]) rfl rfl
  | arrived | probeEnded | swept | unwritable | wrote | compileEnded | workerProbeEnded
  | answered =>
    exact follow_quiet rfl rfl rfl
  | called task started question =>
    refine follow_quiet (by simp [updates?, task]) rfl ?_
    rw [question]
    split <;> rfl
  | settled task finished =>
    refine follow_quiet (by simp [updates?, task]) rfl ?_
    split <;> rfl
  | greeted task | readied task | parted task | opened task | changed task | ignored task
  | closed task | installed task | kept task | asked task | offered task | began task | gated task
  | resolved task | skipped task | compiled task | missed task | dropped task | lost task =>
    exact follow_quiet (by simp [updates?, task]) rfl rfl

/-- A run does to the error state what is recorded of it, and shows the messages of that. -/
theorem follow_of_runs {es : List Event} (run : Runs s es t effects) :
    s.state.follow (record updates? s es) = (t.state, effects.filterMap shown?) := by
  induction run with
  | nil s => rfl
  | cons hstep _ ih =>
    simp only [record, hstep, ErrorState.follow_append, follow_of_stretch (stretch_of_step hstep),
      ih, List.filterMap_append]

/-! ## One message for each episode -/

/-- Whatever resets and verdicts follow each other: there is an error just if a verdict since the
last reset was invalid, the message of the error is that of the first of these, no valid verdict
changes anything, and the messages to show are those of the first invalid verdicts, one for each
stretch between resets that has one.  A run of the server ends in the state and has shown the
messages that its resets and verdicts lead to in the order in which they were applied. -/
theorem one_message_per_episode (history : List ErrorState.Update) :
    let outcome := ErrorState.none.follow history
    (outcome.1.isErrored = true ↔
        ∃ message, .verdict (.invalid message) ∈ ErrorState.sinceReset history) ∧
      outcome.1.message = ErrorState.firstComplaint (ErrorState.sinceReset history) ∧
      outcome.2 = (ErrorState.episodes history).filterMap ErrorState.firstComplaint ∧
      (∀ state : ErrorState, state.afterProbe .valid = (state, none)) ∧
      ∀ {config : Config} {root : String} {es : List Event} {s : Server} {effects : List Effect},
        Runs (Server.start config root) es s effects →
        record updates? (Server.start config root) es = history →
        (s.state, effects.filterMap shown?) = outcome := by
  refine ⟨?_, ?_, ?_, ?_, ?_⟩
  · rw [ErrorState.follow_history, ErrorState.isErrored_because, ErrorState.firstComplaint_isSome]
  · rw [ErrorState.follow_history, ErrorState.message_because]
  · rw [ErrorState.follow_history]
  · intro state
    cases state <;> rfl
  · rintro config root es s effects run rfl
    exact (follow_of_runs run).symm

/-- The worker and the handler of a pushed configuration probe at the same time; the probe that
began last is judged first.  Two more configurations are pushed. -/
def overlapping : List Event :=
  [.arrive .ready, .advance 0, .advanceWorker, .advanceWorker,
    .arrive (.didConfigure (.obj [("lobster", .obj [("executable", .str "/opt/lobster")])])),
    .advance 1, .advance 1, .advance 1,
    .ran .worker (.ok ⟨3, [], []⟩), .ran (.task 1) (.ok ⟨2, [], []⟩), .advance 1, .advanceWorker,
    .arrive (.didConfigure .null), .advance 2, .advance 2, .advance 2,
    .ran (.task 2) (.ok ⟨1, Text.encode Verdict.banner.toList, []⟩), .advance 2,
    .arrive (.didConfigure .null), .advance 3, .advance 3, .advance 3,
    .ran (.task 3) (.ok ⟨4, [], []⟩), .advance 3]

/-- The resets and verdicts of this run, in the order in which they are applied. -/
def overlappingUpdates : List ErrorState.Update :=
  [.reset, .verdict (.invalid "Lobster (/opt/lobster) failed to execute: exit code 2"),
    .verdict (.invalid "Lobster (lobster) failed to execute: exit code 3"),
    .reset, .verdict .valid,
    .reset, .verdict (.invalid "Lobster (/opt/lobster) failed to execute: exit code 4")]

theorem runs_overlapping :
    ∃ s effects, Runs fresh overlapping s effects ∧
      record updates? fresh overlapping = overlappingUpdates :=
  ⟨_, _, runs_iff.mpr rfl, rfl⟩

/-- The verdict of the worker comes second in its episode and is not shown. -/
theorem one_message_per_episode_overlapping :
    ∃ s effects, Runs fresh overlapping s effects ∧
      record updates? fresh overlapping = overlappingUpdates ∧
      s.state.isErrored = true ∧
      s.state.message = some "Lobster (/opt/lobster) failed to execute: exit code 4" ∧
      effects.filterMap shown? =
        ["Lobster (/opt/lobster) failed to execute: exit code 2",
          "Lobster (/opt/lobster) failed to execute: exit code 4"] := by
  obtain ⟨s, effects, run, hrecord⟩ := runs_overlapping
  obtain ⟨herrored, hmessage, hshown, -, hruns⟩ := one_message_per_episode overlappingUpdates
  rw [← hruns run hrecord] at herrored hmessage hshown
  have hinvalid : .verdict (.invalid "Lobster (/opt/lobster) failed to execute: exit code 4") ∈
      ErrorState.sinceReset overlappingUpdates := List.mem_singleton.mpr rfl
  exact ⟨s, effects, run, hrecord, herrored.mpr ⟨_, hinvalid⟩, hmessage, hshown⟩

end Server

end LobsterServer
