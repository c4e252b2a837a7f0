import LobsterServer.Proofs.Server.Record

set_option autoImplicit false

/-!
# The text that the compiler reads

All passes of a document write their text to the same file, and the compiler reads what lies there
when its run begins: the text that was written last, whichever pass wrote it.  A pass that nobody
disturbs reads its own text.  One that is overtaken between its writing and its run does not, and
nothing keeps it from settling its document then.
-/

namespace LobsterServer

namespace Scratch

/-- Writing touches one file of the directory, which then holds what the writing left there. -/
theorem content?_of_afterWrite {before after : Scratch} {uri : String} {content : Text}
    {ending : WriteEnd} (h : before.afterWrite? uri content ending = some after) (path : String) :
    after.content? path =
      (if path = before.filePath uri then ending.text? content else none).or
        (before.content? path) := by
  unfold afterWrite? at h
  split at h
  · rename_i hnone
    cases h
    rw [hnone, ite_self]
    rfl
  · rename_i text htext
    split at h
    · cases h
    · cases h
      simp only [put, content?, htext]
      by_cases hpath : path = before.filePath uri
      · rw [if_pos hpath, hpath, Table.get?_insert_self]
        rfl
      · rw [if_neg hpath, Table.get?_insert_of_ne _ _ hpath]
        rfl

end Scratch

namespace Server

variable {s t : Server} {e : Event} {effects : List Effect} {path : String}

/-- The text that an event leaves in a scratch file. -/
def writes? (path : String) (s : Server) : Event → Option Text
  | .copied n ending =>
    match s.task? n with
    | some (.validating (.resolved _ snapshot _ _) _) =>
      if path = s.scratch.filePath snapshot.uri then ending.text? snapshot.text else none
    | _ => none
  | _ => none

/-- A stretch writes to one scratch file at most. -/
theorem content?_of_stretch (h : Stretch s e t effects) (path : String) :
    t.scratch.content? path = (writes? path s e).or (s.scratch.content? path) := by
  cases h with
  | wrote task sound ready =>
    simpa only [moveTask, writes?, task] using Scratch.content?_of_afterWrite ready path
  | unwritable task sound refused =>
    simpa only [moveTask, writes?, task] using Scratch.content?_of_afterWrite refused path
  | _ => rfl

/-- After a run a scratch file holds the text that the run wrote to it last, or what it held
before. -/
theorem content?_of_runs {es : List Event} (run : Runs s es t effects) (path : String) :
    t.scratch.content? path =
      (record (writes? path) s es).getLast?.or (s.scratch.content? path) := by
  refine run.snoc_induction (P := fun es t _ => t.scratch.content? path =
    (record (writes? path) s es).getLast?.or (s.scratch.content? path)) rfl ?_
  intro es t u a b e hrun ih hstep
  rw [content?_of_stretch (stretch_of_step hstep), record_snoc hrun, List.getLast?_append, ih]
  cases writes? path t e <;> rfl

/-- The compiler reads the text that a pass has written exactly if the last text that was written
to the file since then, if any was, is the same. -/
theorem content?_iff_undisturbed {u : Server} {es : List Event} {later : List Effect} {text : Text}
    (hstep : s.step e = some (t, effects)) (wrote : writes? path s e = some text)
    (run : Runs t es u later) :
    u.scratch.content? path = some text ↔
      ∀ last, (record (writes? path) t es).getLast? = some last → last = text := by
  have hwritten : t.scratch.content? path = some text := by
    rw [content?_of_stretch (stretch_of_step hstep), wrote]
    rfl
  rw [content?_of_runs run, hwritten]
  cases (record (writes? path) t es).getLast? with
  | none => simp
  | some last => simp

/-- A pass that began before a change writes after the one that began after it. -/
def lateWrite : List Event :=
  [.arrive (.didOpen "a" ['x'] 1), .advance 0, .advance 0, .advance 0, .advance 0, .advance 0,
    .arrive (.didChange "a" [⟨none, ['y']⟩] 2), .advance 1, .advance 1, .advance 1, .advance 1,
    .advance 1, .copied 1 .complete, .copied 0 .complete, .advance 1,
    .ran (.task 1) (.ok ⟨0, [], []⟩)]

/-- The compiler then reads the old text for the new pass, and the new pass settles the
document. -/
theorem settled_after_late_write :
    ∃ s effects ticket invocation t out d, Runs fresh lateWrite s effects ∧
      .run (.task 1) invocation (some ['x']) ∈ effects ∧
      settles? s (.advance 1) = some (ticket, []) ∧
      s.step (.advance 1) = some (t, out) ∧
      t.store.get? "a" = some d ∧ d.text = ['y'] ∧ d.version = 2 ∧ d.status = .noErrors :=
  ⟨_, _, _, _, _, _, _, runs_iff.mpr rfl, List.mem_cons_self, rfl, rfl, rfl, rfl, rfl, rfl⟩

end Server

end LobsterServer
