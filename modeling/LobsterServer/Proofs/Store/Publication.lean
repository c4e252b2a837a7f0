import LobsterServer.Proofs.Store.History
import Mathlib.Data.List.Induction

set_option autoImplicit false

/-!
# What the editor shows of a document

A pass that settles a document says whether its findings are worth publishing, judged by the
findings of the document before.  The editor shows what was published last until the document is
closed, and it goes on showing that when the document is replaced by another opening.  The main
statement says when the judgement leaves an empty list unpublished: when the editor shows nothing,
and when it shows what was published for a document that has been replaced since.
-/

namespace LobsterServer.Store

/-! ## The editor's side -/

/-- What an operation lets the editor show for a document, if it publishes anything for it: the
findings of a pass that are worth publishing, and nothing once the document is closed. -/
def Operation.shows? (uri : String) (s : Store) : Operation → Option (List Diagnostic)
  | .close other => if other = uri then some [] else none
  | .finishPass ticket findings =>
    match s.finishPass ticket findings with
    | .ok (_, .settled _ true) => if ticket.uri = uri then some findings else none
    | _ => none
  | _ => none

/-- What the editor shows for a document after operations on `s`, if it showed `view` before. -/
def shownFrom (uri : String) : Store → List Diagnostic → List Operation → List Diagnostic
  | _, view, [] => view
  | s, view, op :: ops => shownFrom uri (s.perform op) ((op.shows? uri s).getD view) ops

/-- What the editor shows for a document after operations on a store without documents. -/
def shown (uri : String) (ops : List Operation) : List Diagnostic := shownFrom uri empty [] ops

/-- The operation opens a document of the URI. -/
def Operation.Opens (uri : String) : Operation → Prop
  | .openFresh other _ _ _ => other = uri
  | _ => False

/-- None of the operations, done from `s` on, lets the editor show anything else for a document. -/
def Silent (uri : String) : Store → List Operation → Prop
  | _, [] => True
  | s, op :: ops => op.shows? uri s = none ∧ Silent uri (s.perform op) ops

/-- The editor shows something for the document, and the open document that this was published for
has been replaced since. -/
def Orphaned (uri : String) (ops : List Operation) : Prop :=
  ∃ earlier opening later, ops = earlier ++ opening :: later ∧ opening.Opens uri ∧
    (after earlier).get? uri ≠ none ∧ shown uri earlier ≠ [] ∧
    Silent uri (after earlier) (opening :: later)

theorem shownFrom_snoc (uri : String) (ops : List Operation) (op : Operation) :
    ∀ (s : Store) (view : List Diagnostic), shownFrom uri s view (ops ++ [op]) =
      (op.shows? uri (s.performAll ops)).getD (shownFrom uri s view ops) := by
  induction ops with
  | nil => exact fun _ _ => rfl
  | cons first ops ih => exact fun s view => ih (s.perform first) _

theorem shown_snoc (uri : String) (ops : List Operation) (op : Operation) :
    shown uri (ops ++ [op]) = (op.shows? uri (after ops)).getD (shown uri ops) :=
  shownFrom_snoc uri ops op empty []

theorem silent_snoc (uri : String) (ops : List Operation) (op : Operation) : ∀ s : Store,
    Silent uri s (ops ++ [op]) ↔ Silent uri s ops ∧ op.shows? uri (s.performAll ops) = none := by
  induction ops with
  | nil => exact fun s => and_comm
  | cons first ops ih =>
    intro s
    exact (and_congr_right fun _ => ih (s.perform first)).trans and_assoc.symm

theorem after_snoc (ops : List Operation) (op : Operation) :
    after (ops ++ [op]) = (after ops).perform op := by
  rw [after, performAll_append]
  rfl

/-- What is shown is orphaned by an opening, and stays so while nothing else is shown. -/
theorem orphaned_snoc {uri : String} {ops : List Operation} {op : Operation} :
    Orphaned uri (ops ++ [op]) ↔ op.shows? uri (after ops) = none ∧
      (Orphaned uri ops ∨
        op.Opens uri ∧ (after ops).get? uri ≠ none ∧ shown uri ops ≠ []) := by
  constructor
  · rintro ⟨earlier, opening, later, hsplit, hopens, hopen, hshown, hsilent⟩
    rcases List.eq_nil_or_concat later with rfl | ⟨later, last, rfl⟩
    · obtain ⟨rfl, hlast⟩ := List.append_inj' hsplit rfl
      cases hlast
      exact ⟨hsilent.1, .inr ⟨hopens, hopen, hshown⟩⟩
    · rw [List.concat_eq_append, ← List.cons_append, ← List.append_assoc] at hsplit
      obtain ⟨rfl, hlast⟩ := List.append_inj' hsplit rfl
      cases hlast
      rw [List.concat_eq_append, ← List.cons_append, silent_snoc, after, ← performAll_append]
        at hsilent
      exact ⟨hsilent.2, .inl ⟨earlier, opening, later, rfl, hopens, hopen, hshown, hsilent.1⟩⟩
  · rintro ⟨hsilent, ⟨earlier, opening, later, rfl, hopens, hopen, hshown, hsince⟩ |
      ⟨hopens, hopen, hshown⟩⟩
    · refine ⟨earlier, opening, later ++ [op], by simp, hopens, hopen, hshown, ?_⟩
      rw [← List.cons_append, silent_snoc, after, ← performAll_append]
      exact ⟨hsince, hsilent⟩
    · exact ⟨ops, op, [], rfl, hopens, hopen, hshown, hsilent, trivial⟩

/-! ## What one operation does -/

/-- What an operation on a store can do to the findings of a document, beside what it lets the
editor show for it. -/
inductive Move (uri : String) (s : Store) (op : Operation) : Prop where
  /-- The document is opened, and the editor shows what it showed. -/
  | opened (opens : op.Opens uri) (silent : op.shows? uri s = none)
      (findings : (s.perform op).findings? uri = some [])
  /-- Neither side changes. -/
  | aside (other : ¬ op.Opens uri) (silent : op.shows? uri s = none)
      (same : (s.perform op).findings? uri = s.findings? uri)
  /-- The document is closed. -/
  | closed (shows : op.shows? uri s = some [])
      (findings : (s.perform op).findings? uri = none)
  /-- What is stored is published. -/
  | published (list : List Diagnostic) (shows : op.shows? uri s = some list)
      (findings : (s.perform op).findings? uri = some list)

/-- A pass that settles its document publishes its findings, unless there were and are none. -/
theorem move_finishPass {s : Store} (hs : s.WellFormed) (uri : String) (ticket : Ticket)
    (findings : List Diagnostic) : Move uri s (.finishPass ticket findings) := by
  rcases finishPass_cases s ticket findings with ⟨_, hrun⟩ | ⟨d, hd, _, _, hrun⟩ | ⟨_, _, _, hrun⟩
  · -- the document is not open
    refine .aside id ?_ ?_
    · simp only [Operation.shows?, hrun]
    · simp only [perform, hrun]
  · have hticket : (settledWith d findings).uri = ticket.uri := by simpa using hs.uri_eq hd
    cases hworth : !d.diagnostics.isEmpty || !findings.isEmpty with
    | false =>
      rw [hworth] at hrun
      have hempty : d.diagnostics = [] ∧ findings = [] := by simpa using hworth
      have hsame : (settledWith d findings).diagnostics = d.diagnostics :=
        hempty.2.trans hempty.1.symm
      refine .aside id ?_ ?_
      · simp only [Operation.shows?, hrun]
      · simp only [perform, hrun]
        exact findings?_put_of_same hd hticket hsame uri
    | true =>
      rw [hworth] at hrun
      by_cases huri : ticket.uri = uri
      · refine .published findings ?_ ?_
        · simp only [Operation.shows?, hrun, if_pos huri]
        · simp only [perform, hrun, findings?, get?_put hticket, if_pos huri.symm]
          rfl
      · refine .aside id ?_ ?_
        · simp only [Operation.shows?, hrun, if_neg huri]
        · simp only [perform, hrun, findings?, get?_put hticket, if_neg (Ne.symm huri)]
  · -- the pass is overtaken
    refine .aside id ?_ ?_
    · simp only [Operation.shows?, hrun]
    · simp only [perform, hrun]

theorem move_perform {s : Store} (hs : s.WellFormed) (uri : String) (op : Operation) :
    Move uri s op := by
  cases op with
  | openFresh other text version path =>
    let opened : Document :=
      { Document.fresh other text version path with generation := s.generation + 1 }
    have hget : (s.openDocument (Document.fresh other text version path)).get? uri =
        if uri = other then some opened else s.get? uri := get?_openDocument s _ uri
    by_cases huri : uri = other
    · rw [if_pos huri] at hget
      refine .opened huri.symm rfl ?_
      rw [findings?, perform, hget]
      rfl
    · rw [if_neg huri] at hget
      refine .aside (fun h => huri h.symm) rfl ?_
      rw [findings?, perform, hget, findings?]
  | change other changes version =>
    refine .aside id rfl ?_
    cases hchange : s.change other changes version with
    | ok t =>
      rw [perform, hchange]
      exact findings?_change hs hchange uri
    | error reason => rw [perform, hchange]
  | close other =>
    have hget := get?_close s other uri
    by_cases huri : uri = other
    · rw [if_pos huri] at hget
      refine .closed (if_pos huri.symm) ?_
      rw [findings?, perform, hget, Option.map_none]
    · rw [if_neg huri] at hget
      refine .aside id (if_neg fun h => huri h.symm) ?_
      rw [findings?, perform, hget, findings?]
  | startPass other => exact .aside id rfl (findings?_startPass hs other uri)
  | finishPass ticket findings => exact move_finishPass hs uri ticket findings

/-! ## What is shown and what is stored -/

/-- While what is shown is orphaned, it is not empty. -/
theorem shown_ne_nil_of_orphaned {uri : String} {ops : List Operation} (h : Orphaned uri ops) :
    shown uri ops ≠ [] := by
  induction ops using List.reverseRecOn with
  | nil =>
    obtain ⟨earlier, opening, later, hsplit, -⟩ := h
    simp at hsplit
  | append_singleton ops op ih =>
    obtain ⟨hsilent, hbefore⟩ := orphaned_snoc.mp h
    rw [shown_snoc, hsilent, Option.getD_none]
    rcases hbefore with hbefore | ⟨-, -, hshown⟩
    · exact ih hbefore
    · exact hshown

/-- What the editor shows for a document, beside the findings that are stored for it. -/
structure View (uri : String) (ops : List Operation) : Prop where
  /-- Nothing is shown for a document that is not open. -/
  closed : (after ops).findings? uri = none → shown uri ops = []
  /-- Where what is shown is orphaned, the document has no findings. -/
  orphaned : Orphaned uri ops → (after ops).findings? uri = some []
  /-- Otherwise the findings of the document are shown. -/
  current : ¬ Orphaned uri ops → ∀ findings, (after ops).findings? uri = some findings →
    shown uri ops = findings

/-- Opening a document leaves what is shown, and orphans it unless it is empty. -/
theorem View.opened {uri : String} {ops : List Operation} {op : Operation} (h : View uri ops)
    (opens : op.Opens uri) (silent : op.shows? uri (after ops) = none)
    (stored : (after (ops ++ [op])).findings? uri = some []) : View uri (ops ++ [op]) := by
  refine ⟨fun hnone => ?_, fun _ => stored, fun hfree findings hfindings => ?_⟩
  · rw [stored] at hnone
    cases hnone
  · rw [stored] at hfindings
    cases hfindings
    rw [shown_snoc, silent, Option.getD_none]
    by_contra hne
    refine hfree (orphaned_snoc.mpr ⟨silent, .inr ⟨opens, fun hclosed => hne ?_, hne⟩⟩)
    exact h.closed (by rw [findings?, hclosed, Option.map_none])

theorem View.aside {uri : String} {ops : List Operation} {op : Operation} (h : View uri ops)
    (other : ¬ op.Opens uri) (silent : op.shows? uri (after ops) = none)
    (same : (after (ops ++ [op])).findings? uri = (after ops).findings? uri) :
    View uri (ops ++ [op]) := by
  have hshown : shown uri (ops ++ [op]) = shown uri ops := by
    rw [shown_snoc, silent, Option.getD_none]
  have horphaned : Orphaned uri (ops ++ [op]) ↔ Orphaned uri ops := by
    rw [orphaned_snoc]
    exact ⟨fun hnow => hnow.2.resolve_right fun hopened => other hopened.1,
      fun hbefore => ⟨silent, .inl hbefore⟩⟩
  refine ⟨?_, ?_, ?_⟩
  · rw [hshown, same]
    exact h.closed
  · rw [horphaned, same]
    exact h.orphaned
  · rw [hshown, horphaned, same]
    exact h.current

/-- What is shown now is not orphaned. -/
theorem View.of_shows {uri : String} {ops : List Operation} {op : Operation}
    {view : List Diagnostic} (shows : op.shows? uri (after ops) = some view)
    (closed : (after (ops ++ [op])).findings? uri = none → view = [])
    (current : ∀ findings, (after (ops ++ [op])).findings? uri = some findings → view = findings) :
    View uri (ops ++ [op]) := by
  have hshown : shown uri (ops ++ [op]) = view := by
    rw [shown_snoc, shows, Option.getD_some]
  refine ⟨?_, fun horphaned => ?_, fun _ => ?_⟩
  · rw [hshown]
    exact closed
  · have hsilent := (orphaned_snoc.mp horphaned).1
    rw [shows] at hsilent
    cases hsilent
  · rw [hshown]
    exact current

theorem view_after (uri : String) (ops : List Operation) : View uri ops := by
  induction ops using List.reverseRecOn with
  | nil =>
    refine ⟨fun _ => rfl, fun h => absurd rfl (shown_ne_nil_of_orphaned h), fun _ findings h => ?_⟩
    cases h
  | append_singleton ops op ih =>
    have hafter := after_snoc ops op
    cases move_perform (wellFormed_after ops) uri op with
    | opened opens silent stored =>
      rw [← hafter] at stored
      exact ih.opened opens silent stored
    | aside other silent same =>
      rw [← hafter] at same
      exact ih.aside other silent same
    | closed shows stored =>
      rw [← hafter] at stored
      refine .of_shows shows (fun _ => rfl) fun findings h => ?_
      rw [stored] at h
      cases h
    | published list shows stored =>
      rw [← hafter] at stored
      refine .of_shows shows (fun h => ?_) fun findings h => ?_
      · rw [stored] at h
        cases h
      · rw [stored] at h
        exact Option.some.inj h

/-- A pass that settles leaves its findings unpublished exactly if there are none and the editor
shows nothing for the document, or only what was published for one that has been replaced since.
So a list that the editor ought to drop is published, except after such a replacement. -/
theorem unpublished_iff (ops : List Operation) {ticket : Ticket} {findings : List Diagnostic}
    {s : Store} {status : Status} {publish : Bool}
    (settles : (after ops).finishPass ticket findings = .ok (s, .settled status publish)) :
    publish = false ↔
      findings = [] ∧ (shown ticket.uri ops = [] ∨ Orphaned ticket.uri ops) := by
  obtain ⟨d, hd, -, -, -, rfl⟩ := settled_of_finishPass settles
  have hstored : (after ops).findings? ticket.uri = some d.diagnostics := by
    rw [findings?, hd, Option.map_some]
  have hview := view_after ticket.uri ops
  have hnone : d.diagnostics = [] ↔ shown ticket.uri ops = [] ∨ Orphaned ticket.uri ops := by
    by_cases horphaned : Orphaned ticket.uri ops
    · have hempty := hview.orphaned horphaned
      rw [hstored] at hempty
      exact iff_of_true (Option.some.inj hempty) (.inr horphaned)
    · rw [hview.current horphaned _ hstored]
      exact (or_iff_left horphaned).symm
  rw [← hnone, Bool.or_eq_false_iff, Bool.not_eq_false', Bool.not_eq_false', List.isEmpty_iff,
    List.isEmpty_iff]
  exact and_comm

/-- A document with a published error is opened again, and its next pass begins. -/
def replacement : List Operation :=
  [.openFresh "a" ['x'] 1 none, .startPass "a",
    .finishPass ⟨"a", 1, 2⟩ [.own default .error "unknown identifier: x"],
    .openFresh "a" ['y'] 1 none, .startPass "a"]

/-- If that pass finds nothing, the empty list is not published: what is shown is orphaned. -/
theorem unpublished_iff_after_replacement :
    ∃ s, (after replacement).finishPass ⟨"a", 1, 4⟩ [] = .ok (s, .settled .noErrors false) ∧
      Orphaned "a" replacement := by
  have hshown : shown "a" replacement ≠ [] := List.cons_ne_nil _ _
  obtain ⟨-, hview⟩ :=
    (@unpublished_iff replacement ⟨"a", 1, 4⟩ [] _ .noErrors false rfl).mp rfl
  exact ⟨_, rfl, hview.resolve_left hshown⟩

/-- So an empty list that the editor needs is not always published. -/
theorem clear_withheld_after_replacement :
    ∃ (ops : List Operation) (ticket : Ticket) (s : Store) (status : Status),
      (after ops).finishPass ticket [] = .ok (s, .settled status false) ∧
      shown ticket.uri ops = [.own default .error "unknown identifier: x"] :=
  ⟨replacement, ⟨"a", 1, 4⟩, _, .noErrors, rfl, rfl⟩

end LobsterServer.Store
