import Mathlib.Logic.Basic
import LobsterServer.Store

set_option autoImplicit false

/-!
# Operations on the store

All that ever happens to a store is a sequence of five operations.  Each of them is known by what
it does to the document under a URI, and all of them keep two facts: a document lies under its own
URI, and it bears a stamp that has been handed out.  The main statements say what one operation can
do to a document: it goes on with its stamp, or it takes the stamp that comes next.
-/

namespace LobsterServer.Store

/-- An operation on the store.  A pass may be finished with any ticket. -/
inductive Operation where
  | openFresh (uri : String) (text : Text) (version : Int) (path : Option String)
  | change (uri : String) (changes : List Change) (version : Int)
  | close (uri : String)
  | startPass (uri : String)
  | finishPass (ticket : Ticket) (findings : List Diagnostic)

/-- The store after an operation.  One that is refused leaves the store as it is, except that the
start of a pass uses up a stamp. -/
def perform (s : Store) : Operation → Store
  | .openFresh uri text version path => s.openDocument (Document.fresh uri text version path)
  | .change uri changes version =>
    match s.change uri changes version with
    | .ok t => t
    | .error _ => s
  | .close uri => s.close uri
  | .startPass uri => (s.startPass uri).1
  | .finishPass ticket findings =>
    match s.finishPass ticket findings with
    | .ok (t, _) => t
    | .error _ => s

/-- The store after operations, one after another. -/
def performAll (s : Store) (ops : List Operation) : Store := ops.foldl perform s

@[simp] theorem performAll_cons (s : Store) (op : Operation) (ops : List Operation) :
    s.performAll (op :: ops) = (s.perform op).performAll ops := rfl

theorem performAll_append (s : Store) (ops more : List Operation) :
    s.performAll (ops ++ more) = (s.performAll ops).performAll more := by
  simp [performAll]

/-! ## The document under a URI -/

theorem get?_put_self (s : Store) (d : Document) : (s.put d).get? d.uri = some d := by
  simp [put, get?]

theorem get?_put_of_ne (s : Store) (d : Document) {uri : String} (h : uri ≠ d.uri) :
    (s.put d).get? uri = s.get? uri := by
  simp [put, get?, Table.get?_insert_of_ne _ _ h]

/-- A document that is put in place of another of its URI is the only one to change. -/
theorem get?_put {s : Store} {d : Document} {uri other : String} (h : d.uri = uri) :
    (s.put d).get? other = if other = uri then some d else s.get? other := by
  subst h
  by_cases ho : other = d.uri
  · rw [if_pos ho, ho, get?_put_self]
  · rw [if_neg ho, get?_put_of_ne s d ho]

theorem get?_openDocument (s : Store) (d : Document) (other : String) :
    (s.openDocument d).get? other =
      if other = d.uri then some { d with generation := s.generation + 1 } else s.get? other := by
  unfold openDocument
  exact get?_put rfl

theorem get?_close (s : Store) (uri other : String) :
    (s.close uri).get? other = if other = uri then none else s.get? other := by
  by_cases h : other = uri
  · subst h
    simp [close, get?]
  · simp [close, get?, Table.get?_erase_of_ne _ h, h]

theorem change_of_closed {s : Store} {uri : String} (h : s.get? uri = none) (changes : List Change)
    (version : Int) : s.change uri changes version = .error (.notOpen uri) := by
  simp [change, h]

theorem change_of_open {s : Store} {uri : String} {d : Document} (h : s.get? uri = some d)
    (changes : List Change) (version : Int) :
    s.change uri changes version = .ok (s.put (d.applyChanges changes version)) := by
  simp [change, h]

/-- The document that a pass is given to look at. -/
def marked (s : Store) (d : Document) : Document :=
  { d with status := .validating, generation := s.generation + 1 }

theorem startPass_of_closed {s : Store} {uri : String} (h : s.get? uri = none) :
    s.startPass uri = ({ s with generation := s.generation + 1 }, .error (.notOpen uri)) := by
  have hsame : ({ s with generation := s.generation + 1 } : Store).get? uri = none := h
  simp only [startPass, hsame]

theorem startPass_of_open {s : Store} {uri : String} {d : Document} (h : s.get? uri = some d) :
    s.startPass uri =
      (({ s with generation := s.generation + 1 } : Store).put (s.marked d),
        .ok (⟨uri, d.version, s.generation + 1⟩, s.marked d)) := by
  have hsame : ({ s with generation := s.generation + 1 } : Store).get? uri = some d := h
  simp only [startPass, hsame]
  rfl

/-- A pass that was started belongs to an open document. -/
theorem open_of_startPass {s : Store} {uri : String} {ticket : Ticket} {snapshot : Document}
    (h : (s.startPass uri).2 = .ok (ticket, snapshot)) :
    ∃ d, s.get? uri = some d ∧ ticket = ⟨uri, d.version, s.generation + 1⟩ ∧
      snapshot = s.marked d := by
  cases hd : s.get? uri with
  | none =>
    rw [startPass_of_closed hd] at h
    exact absurd h (by simp)
  | some d =>
    rw [startPass_of_open hd] at h
    simp only [Except.ok.injEq, Prod.mk.injEq] at h
    exact ⟨d, rfl, h.1.symm, h.2.symm⟩

/-- A document with the findings of a finished pass. -/
def settledWith (d : Document) (findings : List Diagnostic) : Document :=
  { d with status := Status.ofFindings findings, diagnostics := findings }

@[simp] theorem uri_applyChanges (d : Document) (changes : List Change) (version : Int) :
    (d.applyChanges changes version).uri = d.uri := rfl

@[simp] theorem uri_marked (s : Store) (d : Document) : (s.marked d).uri = d.uri := rfl

@[simp] theorem uri_settledWith (d : Document) (findings : List Diagnostic) :
    (settledWith d findings).uri = d.uri := rfl

theorem finishPass_of_closed {s : Store} {t : Ticket} (h : s.get? t.uri = none)
    (findings : List Diagnostic) : s.finishPass t findings = .error (.notOpen t.uri) := by
  simp [finishPass, h]

theorem finishPass_of_mismatch {s : Store} {t : Ticket} {d : Document}
    (h : s.get? t.uri = some d) (hne : ¬ (d.generation = t.generation ∧ d.version = t.version))
    (findings : List Diagnostic) : s.finishPass t findings = .ok (s, .stale) := by
  simp only [finishPass, h]
  rw [not_and_or] at hne
  exact if_pos hne

theorem finishPass_of_match {s : Store} {t : Ticket} {d : Document} (h : s.get? t.uri = some d)
    (hg : d.generation = t.generation) (hv : d.version = t.version) (findings : List Diagnostic) :
    s.finishPass t findings =
      .ok (s.put (settledWith d findings),
        .settled (Status.ofFindings findings) (!d.diagnostics.isEmpty || !findings.isEmpty)) := by
  simp [finishPass, h, hg, hv, settledWith]

/-! ## What all operations keep -/

/-- A document lies under its own URI and bears a stamp that was handed out. -/
structure WellFormed (s : Store) : Prop where
  uri_eq : ∀ {uri : String} {d : Document}, s.get? uri = some d → d.uri = uri
  generation_le : ∀ {uri : String} {d : Document},
    s.get? uri = some d → d.generation ≤ s.generation

theorem wellFormed_empty : empty.WellFormed :=
  ⟨fun h => by simp [empty, get?] at h, fun h => by simp [empty, get?] at h⟩

/-- Putting a document with a stamp that was handed out keeps a store well-formed. -/
theorem WellFormed.put {s : Store} (hs : s.WellFormed) {d : Document}
    (hd : d.generation ≤ s.generation) : (s.put d).WellFormed := by
  constructor
  · intro uri e he
    rw [get?_put rfl] at he
    split at he
    · rename_i huri
      cases he
      exact huri.symm
    · exact hs.uri_eq he
  · intro uri e he
    rw [get?_put rfl] at he
    split at he
    · cases he
      exact hd
    · exact hs.generation_le he

/-- Handing out a stamp keeps a store well-formed. -/
theorem WellFormed.handOut {s : Store} (hs : s.WellFormed) :
    ({ s with generation := s.generation + 1 } : Store).WellFormed :=
  ⟨fun h => hs.uri_eq h, fun h => Nat.le_succ_of_le (hs.generation_le h)⟩

theorem WellFormed.perform {s : Store} (hs : s.WellFormed) (op : Operation) :
    (s.perform op).WellFormed := by
  cases op with
  | openFresh uri text version path => exact hs.handOut.put (Nat.le_refl _)
  | change uri changes version =>
    cases hd : s.get? uri with
    | none => simpa [Store.perform, change_of_closed hd] using hs
    | some d =>
      have hle : d.generation ≤ s.generation := hs.generation_le hd
      simp only [Store.perform, change_of_open hd]
      exact hs.put hle
  | close uri =>
    constructor
    · intro other d hd
      simp only [Store.perform, get?_close] at hd
      split at hd
      · cases hd
      · exact hs.uri_eq hd
    · intro other d hd
      simp only [Store.perform, get?_close] at hd
      split at hd
      · cases hd
      · exact hs.generation_le hd
  | startPass uri =>
    cases hd : s.get? uri with
    | none =>
      simp only [Store.perform, startPass_of_closed hd]
      exact hs.handOut
    | some d =>
      simp only [Store.perform, startPass_of_open hd]
      exact hs.handOut.put (Nat.le_refl _)
  | finishPass ticket findings =>
    cases hd : s.get? ticket.uri with
    | none => simpa [Store.perform, finishPass_of_closed hd] using hs
    | some d =>
      by_cases hmatch : d.generation = ticket.generation ∧ d.version = ticket.version
      · have hle : d.generation ≤ s.generation := hs.generation_le hd
        simp only [Store.perform, finishPass_of_match hd hmatch.1 hmatch.2]
        exact hs.put hle
      · simpa only [Store.perform, finishPass_of_mismatch hd hmatch] using hs

theorem WellFormed.performAll {s : Store} (hs : s.WellFormed) (ops : List Operation) :
    (s.performAll ops).WellFormed := by
  induction ops generalizing s with
  | nil => exact hs
  | cons op ops ih => exact ih (hs.perform op)

/-! ## Findings -/

/-- The diagnostics that are stored for a document, if it is open. -/
def findings? (s : Store) (uri : String) : Option (List Diagnostic) :=
  (s.get? uri).map Document.diagnostics

/-- Putting a document in place of one with the same diagnostics changes no findings. -/
theorem findings?_put_of_same {s : Store} {uri : String} {d next : Document}
    (hd : s.get? uri = some d) (huri : next.uri = uri) (h : next.diagnostics = d.diagnostics)
    (other : String) : (s.put next).findings? other = s.findings? other := by
  unfold findings?
  rw [get?_put huri]
  split
  · rename_i hother
    rw [hother, hd, Option.map_some, Option.map_some, h]
  · rfl

theorem findings?_change {s t : Store} (hs : s.WellFormed) {uri : String} {changes : List Change}
    {version : Int} (h : s.change uri changes version = .ok t) (other : String) :
    t.findings? other = s.findings? other := by
  cases hd : s.get? uri with
  | none =>
    rw [change_of_closed hd] at h
    cases h
  | some d =>
    rw [change_of_open hd] at h
    cases h
    have huri : (d.applyChanges changes version).uri = uri := by simpa using hs.uri_eq hd
    exact findings?_put_of_same hd huri rfl other

theorem findings?_startPass {s : Store} (hs : s.WellFormed) (uri other : String) :
    (s.startPass uri).1.findings? other = s.findings? other := by
  cases hd : s.get? uri with
  | none =>
    rw [startPass_of_closed hd]
    rfl
  | some d =>
    have huri : (s.marked d).uri = uri := by simpa using hs.uri_eq hd
    have hsame : ({ s with generation := s.generation + 1 } : Store).get? uri = some d := hd
    have hdiagnostics : (s.marked d).diagnostics = d.diagnostics := rfl
    rw [startPass_of_open hd]
    exact findings?_put_of_same hsame huri hdiagnostics other

/-! ## Tickets -/

/-- When a ticket is issued, the document under its URI is the snapshot that goes with it. -/
theorem get?_startPass {s : Store} (hs : s.WellFormed) {uri : String} {ticket : Ticket}
    {snapshot : Document} (h : (s.startPass uri).2 = .ok (ticket, snapshot)) :
    (s.startPass uri).1.get? uri = some snapshot ∧ ticket.uri = uri ∧
      ticket.version = snapshot.version ∧ ticket.generation = snapshot.generation ∧
      ticket.generation = (s.startPass uri).1.generation := by
  obtain ⟨d, hd, rfl, rfl⟩ := open_of_startPass h
  have huri : (s.marked d).uri = uri := by simpa using hs.uri_eq hd
  rw [startPass_of_open hd]
  exact ⟨by rw [get?_put huri, if_pos rfl], rfl, rfl, rfl, rfl⟩

/-- The end of a pass, by the document under its URI. -/
theorem finishPass_cases (s : Store) (t : Ticket) (findings : List Diagnostic) :
    (s.get? t.uri = none ∧ s.finishPass t findings = .error (.notOpen t.uri)) ∨
    (∃ d, s.get? t.uri = some d ∧ d.generation = t.generation ∧ d.version = t.version ∧
      s.finishPass t findings = .ok (s.put (settledWith d findings),
        .settled (Status.ofFindings findings) (!d.diagnostics.isEmpty || !findings.isEmpty))) ∨
    (∃ d, s.get? t.uri = some d ∧ ¬ (d.generation = t.generation ∧ d.version = t.version) ∧
      s.finishPass t findings = .ok (s, .stale)) := by
  cases hd : s.get? t.uri with
  | none => exact .inl ⟨rfl, finishPass_of_closed hd findings⟩
  | some d =>
    by_cases hmatch : d.generation = t.generation ∧ d.version = t.version
    · exact .inr (.inl ⟨d, rfl, hmatch.1, hmatch.2,
        finishPass_of_match hd hmatch.1 hmatch.2 findings⟩)
    · exact .inr (.inr ⟨d, rfl, hmatch, finishPass_of_mismatch hd hmatch findings⟩)

/-- A pass that settles found its document with its stamp and version. -/
theorem settled_of_finishPass {s store : Store} {t : Ticket} {findings : List Diagnostic}
    {status : Status} {publish : Bool}
    (h : s.finishPass t findings = .ok (store, .settled status publish)) :
    ∃ d, s.get? t.uri = some d ∧ d.generation = t.generation ∧ d.version = t.version ∧
      store = s.put (settledWith d findings) ∧
      publish = (!d.diagnostics.isEmpty || !findings.isEmpty) := by
  have hends := finishPass_cases s t findings
  rw [h] at hends
  rcases hends with ⟨_, hno⟩ | ⟨d, hopen, hgeneration, hversion, heq⟩ | ⟨_, _, _, hno⟩
  · cases hno
  · cases heq
    exact ⟨d, hopen, hgeneration, hversion, rfl, rfl⟩
  · cases hno

/-- A pass that is dropped found its document with another stamp or version. -/
theorem stale_of_finishPass {s store : Store} {t : Ticket} {findings : List Diagnostic}
    (h : s.finishPass t findings = .ok (store, .stale)) :
    store = s ∧ ∃ d, s.get? t.uri = some d ∧
      ¬ (d.generation = t.generation ∧ d.version = t.version) := by
  have hends := finishPass_cases s t findings
  rw [h] at hends
  rcases hends with ⟨_, hno⟩ | ⟨_, _, _, _, hno⟩ | ⟨d, hopen, hne, heq⟩
  · cases hno
  · cases hno
  · cases heq
    exact ⟨rfl, d, hopen, hne⟩

/-! ## What one operation does to a document -/

/-- The operation opens a document of the URI, or starts a pass on an open one. -/
def Operation.Renews (uri : String) (s : Store) : Operation → Prop
  | .openFresh other _ _ _ => other = uri
  | .startPass other => other = uri ∧ s.get? uri ≠ none
  | _ => False

/-- Stamps are only ever handed out. -/
theorem generation_le_perform (s : Store) (op : Operation) :
    s.generation ≤ (s.perform op).generation := by
  cases op with
  | openFresh uri text version path => exact Nat.le_succ _
  | change uri changes version =>
    cases hd : s.get? uri with
    | none => simp [perform, change_of_closed hd]
    | some d => simp [perform, change_of_open hd, put]
  | close uri => exact Nat.le_refl _
  | startPass uri =>
    cases hd : s.get? uri with
    | none => simp [perform, startPass_of_closed hd]
    | some d => simp [perform, startPass_of_open hd, put]
  | finishPass ticket findings =>
    cases hd : s.get? ticket.uri with
    | none => simp [perform, finishPass_of_closed hd]
    | some d =>
      by_cases hmatch : d.generation = ticket.generation ∧ d.version = ticket.version
      · simp [perform, finishPass_of_match hd hmatch.1 hmatch.2, put]
      · simp [perform, finishPass_of_mismatch hd hmatch]

/-- A document that is opened or marked takes the next stamp. -/
theorem generation_of_renews {s : Store} (hs : s.WellFormed) {op : Operation} {uri : String}
    (hop : op.Renews uri s) {d : Document} (hd : (s.perform op).get? uri = some d) :
    d.generation = s.generation + 1 := by
  cases op with
  | openFresh other text version path =>
    have hother : other = uri := hop
    simp only [perform, get?_openDocument, Document.fresh, hother, if_true] at hd
    cases hd
    rfl
  | startPass other =>
    obtain ⟨hother, hopen⟩ := hop
    subst hother
    obtain ⟨e, he⟩ := Option.ne_none_iff_exists'.mp hopen
    have huri : (s.marked e).uri = other := by simpa using hs.uri_eq he
    simp only [perform, startPass_of_open he, get?_put huri, if_true] at hd
    cases hd
    rfl
  | change => exact hop.elim
  | close => exact hop.elim
  | finishPass => exact hop.elim

/-- What an operation does to a document that it neither opens nor marks: nothing, or the
editor's changes, or the findings of a pass.  The stamp stays. -/
theorem document_of_not_renews {s : Store} (hs : s.WellFormed) {op : Operation} {uri : String}
    (hop : ¬ op.Renews uri s) {d : Document} (hd : (s.perform op).get? uri = some d) :
    ∃ e, s.get? uri = some e ∧
      (d = e ∨ (∃ changes version, op = .change uri changes version ∧
          d = e.applyChanges changes version) ∨
        ∃ findings, d = settledWith e findings) := by
  cases op with
  | openFresh other text version path =>
    have hother : uri ≠ other := fun h => hop h.symm
    simp only [perform, get?_openDocument, Document.fresh, hother, if_false] at hd
    exact ⟨d, hd, .inl rfl⟩
  | change other changes version =>
    cases he : s.get? other with
    | none =>
      simp only [perform, change_of_closed he] at hd
      exact ⟨d, hd, .inl rfl⟩
    | some e =>
      have huri : (e.applyChanges changes version).uri = other := by simpa using hs.uri_eq he
      simp only [perform, change_of_open he, get?_put huri] at hd
      split at hd
      · rename_i hsame
        subst hsame
        cases hd
        exact ⟨e, he, .inr (.inl ⟨changes, version, rfl, rfl⟩)⟩
      · exact ⟨d, hd, .inl rfl⟩
  | close other =>
    simp only [perform, get?_close] at hd
    split at hd
    · cases hd
    · exact ⟨d, hd, .inl rfl⟩
  | startPass other =>
    cases he : s.get? other with
    | none =>
      simp only [perform, startPass_of_closed he] at hd
      exact ⟨d, hd, .inl rfl⟩
    | some e =>
      have huri : (s.marked e).uri = other := by simpa using hs.uri_eq he
      simp only [perform, startPass_of_open he, get?_put huri] at hd
      split at hd
      · rename_i hsame
        exact absurd ⟨hsame.symm, by simp [hsame, he]⟩ hop
      · exact ⟨d, hd, .inl rfl⟩
  | finishPass ticket findings =>
    cases he : s.get? ticket.uri with
    | none =>
      simp only [perform, finishPass_of_closed he] at hd
      exact ⟨d, hd, .inl rfl⟩
    | some e =>
      by_cases hmatch : e.generation = ticket.generation ∧ e.version = ticket.version
      · have huri : (settledWith e findings).uri = ticket.uri := by
          simpa using hs.uri_eq he
        simp only [perform, finishPass_of_match he hmatch.1 hmatch.2, get?_put huri] at hd
        split at hd
        · rename_i hsame
          subst hsame
          cases hd
          exact ⟨e, he, .inr (.inr ⟨findings, rfl⟩)⟩
        · exact ⟨d, hd, .inl rfl⟩
      · simp only [perform, finishPass_of_mismatch he hmatch] at hd
        exact ⟨d, hd, .inl rfl⟩

theorem generation_of_not_renews {s : Store} (hs : s.WellFormed) {op : Operation} {uri : String}
    (hop : ¬ op.Renews uri s) {d : Document} (hd : (s.perform op).get? uri = some d) :
    ∃ e, s.get? uri = some e ∧ d.generation = e.generation := by
  obtain ⟨e, he, hcases⟩ := document_of_not_renews hs hop hd
  refine ⟨e, he, ?_⟩
  rcases hcases with rfl | ⟨changes, version, _, rfl⟩ | ⟨findings, rfl⟩
  · rfl
  · rfl
  · rfl

end LobsterServer.Store
