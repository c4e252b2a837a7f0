import LobsterServer.Proofs.Store.Operation

set_option autoImplicit false

/-!
# Two stamps stand for a history

A finished pass is judged by two numbers only, the stamp and the version on its ticket.  The main
statement says what these numbers stand for: a pass settles its document if and only if, since the
ticket was issued, the document has been neither opened nor marked by another pass, and its version
is the ticket's.  If the editor's changes always raise the version, the document then still has
the text that the pass looked at.
-/

namespace LobsterServer.Store

/-! ## Stretches of operations -/

/-- None of the operations, done from `s` on, opens a document of the URI or starts a pass on it. -/
def Untouched (uri : String) : Store → List Operation → Prop
  | _, [] => True
  | s, op :: ops => ¬ op.Renews uri s ∧ Untouched uri (s.perform op) ops

/-- A change leads an open document to a greater version. -/
def Operation.Raises (s : Store) : Operation → Prop
  | .change uri _ version => ∀ d, s.get? uri = some d → d.version < version
  | _ => True

/-- Every change among the operations, done from `s` on, raises the version of its document. -/
def Rising : Store → List Operation → Prop
  | _, [] => True
  | s, op :: ops => op.Raises s ∧ Rising (s.perform op) ops

theorem Rising.of_append {s : Store} {ops more : List Operation} (h : Rising s (ops ++ more)) :
    Rising (s.performAll ops) more := by
  induction ops generalizing s with
  | nil => exact h
  | cons op ops ih => exact ih h.2

/-! ## Stamps -/

/-- A stamp that no document of the URI bears any more never comes back. -/
theorem generation_ne_performAll {uri : String} {stamp : Nat} (ops : List Operation) :
    ∀ {s : Store}, s.WellFormed → stamp ≤ s.generation →
      (∀ d, s.get? uri = some d → d.generation ≠ stamp) →
      ∀ d, (s.performAll ops).get? uri = some d → d.generation ≠ stamp := by
  induction ops with
  | nil =>
    intro s _ _ hgone
    exact hgone
  | cons op ops ih =>
    intro s hs hstamp hgone
    refine ih (hs.perform op) (Nat.le_trans hstamp (generation_le_perform s op)) ?_
    intro e he
    by_cases hop : op.Renews uri s
    · have hnext := generation_of_renews hs hop he
      omega
    · obtain ⟨d, hd, hsame⟩ := generation_of_not_renews hs hop he
      rw [hsame]
      exact hgone d hd

/-- A document that bears a stamp goes on bearing it exactly as long as it is neither opened nor
marked again. -/
theorem generation_eq_iff_untouched {uri : String} {stamp : Nat} (ops : List Operation) :
    ∀ {s : Store}, s.WellFormed → stamp ≤ s.generation →
      (∀ d, s.get? uri = some d → d.generation = stamp) →
      ∀ d, (s.performAll ops).get? uri = some d →
        (d.generation = stamp ↔ Untouched uri s ops) := by
  induction ops with
  | nil =>
    intro s _ _ hbears d hd
    exact iff_of_true (hbears d hd) trivial
  | cons op ops ih =>
    intro s hs hstamp hbears d hd
    have hstamp' : stamp ≤ (s.perform op).generation :=
      Nat.le_trans hstamp (generation_le_perform s op)
    by_cases hop : op.Renews uri s
    · -- the document takes a newer stamp here, and the old one never comes back
      have hgone : ∀ e, (s.perform op).get? uri = some e → e.generation ≠ stamp := by
        intro e he
        have hnext := generation_of_renews hs hop he
        omega
      have hne := generation_ne_performAll ops (hs.perform op) hstamp' hgone d hd
      exact iff_of_false hne fun h => h.1 hop
    · have hkeeps : ∀ e, (s.perform op).get? uri = some e → e.generation = stamp := by
        intro e he
        obtain ⟨e', he', hsame⟩ := generation_of_not_renews hs hop he
        rw [hsame]
        exact hbears e' he'
      rw [ih (hs.perform op) hstamp' hkeeps d hd]
      exact ⟨fun h => ⟨hop, h⟩, fun h => h.2⟩

/-! ## Versions and texts -/

/-- A document as an earlier one may have become: its version has not gone back, and with the same
version goes the same text. -/
def Follows (d e : Document) : Prop :=
  d.version ≤ e.version ∧ (e.version = d.version → e.text = d.text)

theorem Follows.refl (d : Document) : Follows d d := ⟨Int.le_refl _, fun _ => rfl⟩

theorem Follows.trans {d e f : Document} (hde : Follows d e) (hef : Follows e f) :
    Follows d f := by
  refine ⟨Int.le_trans hde.1 hef.1, fun hv => ?_⟩
  have hle := hde.1
  have hle' := hef.1
  have hve : e.version = d.version := by omega
  rw [hef.2 (hv.trans hve.symm), hde.2 hve]

theorem follows_perform {s : Store} (hs : s.WellFormed) {op : Operation} {uri : String}
    (hop : ¬ op.Renews uri s) (hraises : op.Raises s) {e : Document}
    (he : (s.perform op).get? uri = some e) : ∃ d, s.get? uri = some d ∧ Follows d e := by
  obtain ⟨d, hd, hcases⟩ := document_of_not_renews hs hop he
  refine ⟨d, hd, ?_⟩
  rcases hcases with rfl | ⟨changes, version, rfl, rfl⟩ | ⟨findings, rfl⟩
  · exact Follows.refl e
  · have hlt : d.version < version := hraises d hd
    refine ⟨Int.le_of_lt hlt, fun hv => ?_⟩
    have hsame : version = d.version := hv
    omega
  · exact ⟨Int.le_refl _, fun _ => rfl⟩

/-- While a document is neither opened nor marked again and every change raises its version, the
text goes with the version. -/
theorem follows_performAll {uri : String} (ops : List Operation) :
    ∀ {s : Store}, s.WellFormed → Untouched uri s ops → Rising s ops →
      ∀ e, (s.performAll ops).get? uri = some e → ∃ d, s.get? uri = some d ∧ Follows d e := by
  induction ops with
  | nil =>
    intro s _ _ _ e he
    exact ⟨e, he, Follows.refl e⟩
  | cons op ops ih =>
    intro s hs huntouched hrising e he
    obtain ⟨d, hd, hde⟩ := ih (hs.perform op) huntouched.2 hrising.2 e he
    obtain ⟨c, hc, hcd⟩ := follows_perform hs huntouched.1 hrising.1 hd
    exact ⟨c, hc, hcd.trans hde⟩

/-! ## Tickets -/

/-- The store after operations on one without documents. -/
def after (ops : List Operation) : Store := empty.performAll ops

theorem wellFormed_after (ops : List Operation) : (after ops).WellFormed :=
  wellFormed_empty.performAll ops

/-- The store after a pass was started, and then `later`. -/
theorem after_started (earlier later : List Operation) (uri : String) :
    after (earlier ++ .startPass uri :: later) =
      ((after earlier).startPass uri).1.performAll later := by
  simp only [after, performAll_append, performAll_cons, perform]

/-- The document of the URI is open, since the ticket was issued it has been neither opened nor
marked again, and its version is `version`. -/
def Current (earlier later : List Operation) (uri : String) (version : Int) : Prop :=
  Untouched uri ((after earlier).startPass uri).1 later ∧
    ∃ d, (after (earlier ++ .startPass uri :: later)).get? uri = some d ∧ d.version = version

/-- The stamp and the version on a ticket tell whether it is current. -/
theorem current_iff {earlier later : List Operation} {uri : String} {ticket : Ticket}
    {snapshot : Document} (issued : ((after earlier).startPass uri).2 = .ok (ticket, snapshot))
    {d : Document} (hd : (after (earlier ++ .startPass uri :: later)).get? uri = some d) :
    Current earlier later uri ticket.version ↔
      d.generation = ticket.generation ∧ d.version = ticket.version := by
  have hs : ((after earlier).startPass uri).1.WellFormed :=
    (wellFormed_after earlier).perform (.startPass uri)
  obtain ⟨hsnapshot, -, -, hstamp, hlast⟩ := get?_startPass (wellFormed_after earlier) issued
  have hbears : ∀ e, ((after earlier).startPass uri).1.get? uri = some e →
      e.generation = ticket.generation := by
    intro e he
    rw [hsnapshot] at he
    cases he
    exact hstamp.symm
  have hgeneration : d.generation = ticket.generation ↔
      Untouched uri ((after earlier).startPass uri).1 later :=
    generation_eq_iff_untouched later hs (Nat.le_of_eq hlast) hbears d
      (by rw [← after_started]; exact hd)
  rw [hgeneration]
  constructor
  · rintro ⟨huntouched, e, he, hversion⟩
    rw [hd] at he
    cases he
    exact ⟨huntouched, hversion⟩
  · rintro ⟨huntouched, hversion⟩
    exact ⟨huntouched, d, hd, hversion⟩

/-- If every change raises the version, the document of a current ticket has the text that the
pass was given. -/
theorem text_eq_of_current {earlier later : List Operation} {uri : String} {ticket : Ticket}
    {snapshot : Document} (issued : ((after earlier).startPass uri).2 = .ok (ticket, snapshot))
    (hrising : Rising empty (earlier ++ .startPass uri :: later))
    (hcurrent : Current earlier later uri ticket.version) {d : Document}
    (hd : (after (earlier ++ .startPass uri :: later)).get? uri = some d) :
    d.text = snapshot.text := by
  have hs : ((after earlier).startPass uri).1.WellFormed :=
    (wellFormed_after earlier).perform (.startPass uri)
  obtain ⟨hsnapshot, -, hversion, -, -⟩ := get?_startPass (wellFormed_after earlier) issued
  have hlater : Rising ((after earlier).startPass uri).1 later := hrising.of_append.2
  obtain ⟨e, he, hfollows⟩ := follows_performAll later hs hcurrent.1 hlater d
    (by rw [← after_started]; exact hd)
  rw [hsnapshot] at he
  cases he
  have hsame : d.version = ticket.version := ((current_iff issued hd).mp hcurrent).2
  exact hfollows.2 (hsame.trans hversion)

/-- A pass finishes in one of three ways, and the history since its ticket was issued says in
which: it is refused if its document is not open, it settles its document if the ticket is current,
and it is dropped otherwise.  Only a pass that settles changes a document.  If every change raises
the version, the document that is settled has the text that the pass was given. -/
theorem finishPass_by_history (earlier later : List Operation) {uri : String} {ticket : Ticket}
    {snapshot : Document} (issued : ((after earlier).startPass uri).2 = .ok (ticket, snapshot))
    (findings : List Diagnostic) :
    let s := after (earlier ++ .startPass uri :: later)
    (s.finishPass ticket findings = .error (.notOpen uri) ↔ s.get? uri = none) ∧
    ((∃ t status publish, s.finishPass ticket findings = .ok (t, .settled status publish)) ↔
      Current earlier later uri ticket.version) ∧
    ((∃ t, s.finishPass ticket findings = .ok (t, .stale)) ↔
      s.get? uri ≠ none ∧ ¬ Current earlier later uri ticket.version) ∧
    (¬ Current earlier later uri ticket.version →
      s.perform (.finishPass ticket findings) = s) ∧
    (Rising empty (earlier ++ .startPass uri :: later) →
      ∀ t status publish, s.finishPass ticket findings = .ok (t, .settled status publish) →
        ∃ d, s.get? uri = some d ∧ d.text = snapshot.text ∧
          t.get? uri = some (settledWith d findings)) := by
  intro s
  have hs : s.WellFormed := wellFormed_after _
  have huri : ticket.uri = uri := (get?_startPass (wellFormed_after earlier) issued).2.1
  have hcurrent : ∀ {d : Document}, s.get? uri = some d →
      (Current earlier later uri ticket.version ↔
        d.generation = ticket.generation ∧ d.version = ticket.version) :=
    fun hd => current_iff issued hd
  have hopen : Current earlier later uri ticket.version → s.get? uri ≠ none := by
    rintro ⟨-, d, hd, -⟩ hnone
    rw [show s.get? uri = some d from hd] at hnone
    cases hnone
  have hends := finishPass_cases s ticket findings
  rw [huri] at hends
  rcases hends with ⟨hnone, hrun⟩ | ⟨d, hd, hg, hv, hrun⟩ | ⟨d, hd, hne, hrun⟩
  · -- the document is not open
    have hnot : ¬ Current earlier later uri ticket.version := fun h => hopen h hnone
    refine ⟨?_, ?_, ?_, ?_, ?_⟩
    · simp [hrun, hnone]
    · simp [hrun, hnot]
    · simp [hrun, hnone]
    · intro _
      simp only [perform, hrun]
    · intro _ t status publish hok
      rw [hrun] at hok
      cases hok
  · -- the stamps agree
    have hyes : Current earlier later uri ticket.version := (hcurrent hd).mpr ⟨hg, hv⟩
    refine ⟨?_, ?_, ?_, ?_, ?_⟩
    · simp [hrun, hd]
    · simp [hrun, hyes]
    · simp [hrun, hyes]
    · exact fun h => absurd hyes h
    · intro hrising t status publish hok
      rw [hrun] at hok
      cases hok
      refine ⟨d, hd, text_eq_of_current issued hrising hyes hd, ?_⟩
      have hdoc : (settledWith d findings).uri = uri := by simpa using hs.uri_eq hd
      rw [get?_put hdoc, if_pos rfl]
  · -- the stamps differ
    have hnot : ¬ Current earlier later uri ticket.version := fun h => hne ((hcurrent hd).mp h)
    refine ⟨?_, ?_, ?_, ?_, ?_⟩
    · simp [hrun, hd]
    · simp [hrun, hnot]
    · simp [hrun, hd, hnot]
    · intro _
      simp only [perform, hrun]
    · intro _ t status publish hok
      rw [hrun] at hok
      cases hok

/-- A pass of one document settles it although another document is opened and changed meanwhile,
and a pass fails to start. -/
theorem finishPass_by_history_beside_another :
    ((after [.openFresh "a" ['x'] 1 none]).startPass "a").2 =
      .ok (⟨"a", 1, 2⟩, ⟨"a", none, ['x'], 1, .validating, [], 2⟩) ∧
    ∃ t d, (after [.openFresh "a" ['x'] 1 none, .startPass "a", .openFresh "b" ['y'] 7 none,
        .change "b" [⟨none, ['z']⟩] 8, .startPass "c"]).finishPass ⟨"a", 1, 2⟩ [] =
          .ok (t, .settled .noErrors false) ∧
      t.get? "a" = some (settledWith d []) ∧ d.text = ['x'] := by
  have issued : ((after [.openFresh "a" ['x'] 1 none]).startPass "a").2 =
      .ok (⟨"a", 1, 2⟩, ⟨"a", none, ['x'], 1, .validating, [], 2⟩) := rfl
  have hrising : Rising empty [.openFresh "a" ['x'] 1 none, .startPass "a",
      .openFresh "b" ['y'] 7 none, .change "b" [⟨none, ['z']⟩] 8, .startPass "c"] := by
    refine ⟨trivial, trivial, trivial, fun d hd => ?_, trivial, trivial⟩
    cases hd
    decide
  obtain ⟨-, -, -, -, htext⟩ := finishPass_by_history [.openFresh "a" ['x'] 1 none]
    [.openFresh "b" ['y'] 7 none, .change "b" [⟨none, ['z']⟩] 8, .startPass "c"] issued []
  obtain ⟨d, -, hsame, hd⟩ := htext hrising _ _ _ rfl
  exact ⟨issued, _, d, rfl, hd, hsame⟩

end LobsterServer.Store
