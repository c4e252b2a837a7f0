import LobsterServer.Proofs.Store.Operation
import Mathlib.Data.List.Forall2

set_option autoImplicit false

/-!
# Documents do not influence each other

All documents take their stamps from one counter, and an attempt to start a pass on a closed
document uses one up as well.  So what happens to one document shifts the stamps of all others.
The main statement says that nobody can tell: the replies to the requests about a document, and
the document itself but for its stamp, are those of a store that serves no other requests.  The
two runs are held together by what a pass is judged by: in both, the same tickets of the document
bear its stamp.
-/

namespace LobsterServer

/-- A document without its stamp, as others see it. -/
def Document.visible (d : Document) : Document := { d with generation := 0 }

/-- A request to a store, about one document.  A pass is finished with one of the tickets that were
issued for the document, named by its place among them. -/
inductive Request where
  | openDocument (document : Document)
  | change (uri : String) (changes : List Change) (version : Int)
  | close (uri : String)
  | get (uri : String)
  | require (uri : String)
  | startPass (uri : String)
  | finishPass (uri : String) (place : Nat) (findings : List Diagnostic)

/-- The document that a request is about. -/
def Request.uri : Request → String
  | .openDocument document => document.uri
  | .change uri _ _ => uri
  | .close uri => uri
  | .get uri => uri
  | .require uri => uri
  | .startPass uri => uri
  | .finishPass uri _ _ => uri

/-- What a request is answered with, but for stamps. -/
inductive Reply where
  | opened
  /-- the document that was asked for or closed, if it was open -/
  | found (document : Option Document)
  /-- the document that was required or changed -/
  | required (document : Except DocumentError Document)
  /-- the version on the ticket of a pass, and its snapshot -/
  | started (pass : Except DocumentError (Int × Document))
  | finished (completion : Except DocumentError Completion)
  /-- no ticket with that place was issued -/
  | unissued

/-- A store in use, with the tickets that it has issued. -/
structure Ledger where
  store : Store
  tickets : List Ticket

namespace Ledger

open Store (settledWith)

/-- An empty store that has issued no tickets. -/
def empty : Ledger := ⟨Store.empty, []⟩

/-- The tickets that were issued for a document. -/
def ticketsOf (l : Ledger) (uri : String) : List Ticket :=
  l.tickets.filter fun ticket => ticket.uri = uri

/-- The open document of a URI, as others see it. -/
def visible? (l : Ledger) (uri : String) : Option Document :=
  (l.store.get? uri).map Document.visible

/-- The stamp that the open document of a URI bears. -/
def stamp? (l : Ledger) (uri : String) : Option Nat :=
  (l.store.get? uri).map Document.generation

/-- Serves a request. -/
def serve (l : Ledger) : Request → Ledger × Reply
  | .openDocument document => ({ l with store := l.store.openDocument document }, .opened)
  | .change uri changes version =>
    match l.store.change uri changes version with
    | .ok store => ({ l with store }, .required ((store.require uri).map Document.visible))
    | .error reason => (l, .required (.error reason))
  | .close uri => ({ l with store := l.store.close uri }, .found (l.visible? uri))
  | .get uri => (l, .found (l.visible? uri))
  | .require uri => (l, .required ((l.store.require uri).map Document.visible))
  | .startPass uri =>
    match l.store.startPass uri with
    | (store, .ok (ticket, snapshot)) =>
      (⟨store, l.tickets ++ [ticket]⟩, .started (.ok (ticket.version, snapshot.visible)))
    | (store, .error reason) => ({ l with store }, .started (.error reason))
  | .finishPass uri place findings =>
    match (l.ticketsOf uri)[place]? with
    | none => (l, .unissued)
    | some ticket =>
      match l.store.finishPass ticket findings with
      | .ok (store, completion) => ({ l with store }, .finished (.ok completion))
      | .error reason => (l, .finished (.error reason))

/-- Serves requests, one after another. -/
def serveAll (l : Ledger) (requests : List Request) : Ledger :=
  requests.foldl (fun l request => (l.serve request).1) l

/-- The replies to the requests about a document. -/
def repliesOn (uri : String) : Ledger → List Request → List Reply
  | _, [] => []
  | l, request :: requests =>
    (if request.uri = uri then [(l.serve request).2] else []) ++
      repliesOn uri (l.serve request).1 requests

/-! ## What one request does -/

variable {l m l' m' : Ledger} {uri : String}

theorem visible?_of_get? {d : Document} (h : l.store.get? uri = some d) :
    l.visible? uri = some d.visible := by
  rw [visible?, h]
  rfl

theorem stamp?_of_get? {d : Document} (h : l.store.get? uri = some d) :
    l.stamp? uri = some d.generation := by
  rw [stamp?, h]
  rfl

theorem get?_put_own {s : Store} {d : Document} (h : d.uri = uri) :
    (s.put d).get? uri = some d := by
  rw [← h]
  exact s.get?_put_self d

/-- Every document lies under its own URI, and the stamps of documents and tickets have been handed
out. -/
structure Sound (l : Ledger) : Prop where
  wellFormed : l.store.WellFormed
  issued : ∀ ticket ∈ l.tickets, ticket.generation ≤ l.store.generation

theorem sound_empty : Ledger.empty.Sound :=
  ⟨Store.wellFormed_empty, fun _ hticket => absurd hticket List.not_mem_nil⟩

/-! ## Requests that are refused, and requests that are served -/

section Equations

variable {d : Document} (closed : l.store.get? uri = none) (found : l.store.get? uri = some d)

include closed in
theorem serve_change_of_closed (changes : List Change) (version : Int) :
    l.serve (.change uri changes version) = (l, .required (.error (.notOpen uri))) := by
  simp only [serve, Store.change_of_closed closed changes version]

include found in
theorem serve_change_of_open (hs : l.Sound) (changes : List Change) (version : Int) :
    l.serve (.change uri changes version) =
      ({ l with store := l.store.put (d.applyChanges changes version) },
        .required (.ok (d.visible.applyChanges changes version))) := by
  have huri : (d.applyChanges changes version).uri = uri := by
    simpa using hs.wellFormed.uri_eq found
  have hnow : (l.store.put (d.applyChanges changes version)).get? uri = _ := get?_put_own huri
  simp only [serve, Store.change_of_open found changes version, Store.require, hnow]
  rfl

include closed in
theorem serve_require_of_closed :
    l.serve (.require uri) = (l, .required (.error (.notOpen uri))) := by
  simp only [serve, Store.require, closed]
  rfl

include found in
theorem serve_require_of_open : l.serve (.require uri) = (l, .required (.ok d.visible)) := by
  simp only [serve, Store.require, found]
  rfl

include closed in
theorem serve_startPass_of_closed :
    l.serve (.startPass uri) = ({ l with store.generation := l.store.generation + 1 },
      .started (.error (.notOpen uri))) := by
  simp only [serve, Store.startPass_of_closed closed]

include found in
theorem serve_startPass_of_open :
    l.serve (.startPass uri) =
      (⟨({ l.store with generation := l.store.generation + 1 } : Store).put (l.store.marked d),
          l.tickets ++ [⟨uri, d.version, l.store.generation + 1⟩]⟩,
        .started (.ok (d.visible.version, { d.visible with status := .validating }))) := by
  simp only [serve, Store.startPass_of_open found]
  rfl

theorem uri_of_mem_ticketsOf {ticket : Ticket} (h : ticket ∈ l.ticketsOf uri) :
    ticket.uri = uri := by
  simpa using (List.mem_filter.mp h).2

section Finish

variable {ticket : Ticket} {place : Nat} (issued : (l.ticketsOf uri)[place]? = some ticket)
  (findings : List Diagnostic)

include issued

theorem serve_finishPass_of_closed (closed : l.store.get? uri = none) :
    l.serve (.finishPass uri place findings) = (l, .finished (.error (.notOpen uri))) := by
  have huri := uri_of_mem_ticketsOf (List.mem_of_getElem? issued)
  subst huri
  simp only [serve, issued, Store.finishPass_of_closed closed findings]

theorem serve_finishPass_of_mismatch {d : Document} (found : l.store.get? uri = some d)
    (hne : ¬ (d.generation = ticket.generation ∧ d.version = ticket.version)) :
    l.serve (.finishPass uri place findings) = (l, .finished (.ok .stale)) := by
  have huri := uri_of_mem_ticketsOf (List.mem_of_getElem? issued)
  subst huri
  simp only [serve, issued, Store.finishPass_of_mismatch found hne findings]

theorem serve_finishPass_of_match {d : Document} (found : l.store.get? uri = some d)
    (hgeneration : d.generation = ticket.generation) (hversion : d.version = ticket.version) :
    l.serve (.finishPass uri place findings) =
      ({ l with store := l.store.put (settledWith d findings) },
        .finished (.ok (.settled (Status.ofFindings findings)
          (!d.visible.diagnostics.isEmpty || !findings.isEmpty)))) := by
  have huri := uri_of_mem_ticketsOf (List.mem_of_getElem? issued)
  subst huri
  simp only [serve, issued, Store.finishPass_of_match found hgeneration hversion findings]
  rfl

end Finish

theorem serve_finishPass_of_unissued {place : Nat} (h : (l.ticketsOf uri)[place]? = none)
    (findings : List Diagnostic) :
    l.serve (.finishPass uri place findings) = (l, .unissued) := by
  simp only [serve, h]

end Equations

/-! ## Requests about other documents -/

theorem Sound.put (hs : l.Sound) {d : Document} (hd : d.generation ≤ l.store.generation) :
    ({ l with store := l.store.put d } : Ledger).Sound :=
  ⟨hs.wellFormed.put hd, hs.issued⟩

theorem Sound.serve (hs : l.Sound) (request : Request) : (l.serve request).1.Sound := by
  cases request with
  | openDocument document =>
    exact ⟨hs.wellFormed.handOut.put (Nat.le_refl _),
      fun ticket hticket => Nat.le_succ_of_le (hs.issued ticket hticket)⟩
  | change uri changes version =>
    cases hd : l.store.get? uri with
    | none => rwa [serve_change_of_closed hd]
    | some d =>
      have hle : d.generation ≤ l.store.generation := hs.wellFormed.generation_le hd
      rw [serve_change_of_open hd hs]
      exact hs.put hle
  | close uri => exact ⟨hs.wellFormed.perform (.close uri), hs.issued⟩
  | get uri => exact hs
  | require uri => exact hs
  | startPass uri =>
    cases hd : l.store.get? uri with
    | none =>
      rw [serve_startPass_of_closed hd]
      exact ⟨hs.wellFormed.handOut,
        fun ticket hticket => Nat.le_succ_of_le (hs.issued ticket hticket)⟩
    | some d =>
      rw [serve_startPass_of_open hd]
      refine ⟨hs.wellFormed.handOut.put (Nat.le_refl _), fun ticket hticket => ?_⟩
      rcases List.mem_append.mp hticket with hold | hnew
      · exact Nat.le_succ_of_le (hs.issued ticket hold)
      · rw [List.mem_singleton.mp hnew]
        exact Nat.le_refl _
  | finishPass uri place findings =>
    cases hplace : (l.ticketsOf uri)[place]? with
    | none => rwa [serve_finishPass_of_unissued hplace]
    | some ticket =>
      cases hd : l.store.get? uri with
      | none => rwa [serve_finishPass_of_closed hplace findings hd]
      | some d =>
        by_cases hmatch : d.generation = ticket.generation ∧ d.version = ticket.version
        · have hle : d.generation ≤ l.store.generation := hs.wellFormed.generation_le hd
          rw [serve_finishPass_of_match hplace findings hd hmatch.1 hmatch.2]
          exact hs.put hle
        · rwa [serve_finishPass_of_mismatch hplace findings hd hmatch]

/-- The documents and tickets of one URI are the same in two ledgers. -/
structure SameFor (uri : String) (l l' : Ledger) : Prop where
  document : l'.store.get? uri = l.store.get? uri
  tickets : l'.ticketsOf uri = l.ticketsOf uri

theorem SameFor.refl (uri : String) (l : Ledger) : SameFor uri l l := ⟨rfl, rfl⟩

/-- Putting a document in place changes nothing for other documents. -/
theorem sameFor_put {d : Document} (h : uri ≠ d.uri) :
    SameFor uri l { l with store := l.store.put d } :=
  ⟨Store.get?_put_of_ne l.store d h, rfl⟩

/-- A request about another document leaves a document and its tickets alone. -/
theorem sameFor_serve (hs : l.Sound) {request : Request} (h : uri ≠ request.uri) :
    SameFor uri l (l.serve request).1 := by
  cases request with
  | openDocument document =>
    exact ⟨(Store.get?_openDocument l.store document uri).trans (if_neg h), rfl⟩
  | change other changes version =>
    cases hd : l.store.get? other with
    | none =>
      rw [serve_change_of_closed hd]
      exact .refl uri l
    | some d =>
      rw [serve_change_of_open hd hs]
      have huri : d.uri = other := hs.wellFormed.uri_eq hd
      exact sameFor_put (by simpa [huri, Request.uri] using h)
  | close other => exact ⟨(Store.get?_close l.store other uri).trans (if_neg h), rfl⟩
  | get other => exact .refl uri l
  | require other => exact .refl uri l
  | startPass other =>
    cases hd : l.store.get? other with
    | none =>
      rw [serve_startPass_of_closed hd]
      exact ⟨rfl, rfl⟩
    | some d =>
      rw [serve_startPass_of_open hd]
      have huri : d.uri = other := hs.wellFormed.uri_eq hd
      have hother : other ≠ uri := fun hsame => h hsame.symm
      refine ⟨Store.get?_put_of_ne _ _ (by simpa [huri, Request.uri] using h), ?_⟩
      simp [ticketsOf, hother]
  | finishPass other place findings =>
    cases hplace : (l.ticketsOf other)[place]? with
    | none =>
      rw [serve_finishPass_of_unissued hplace]
      exact .refl uri l
    | some ticket =>
      cases hd : l.store.get? other with
      | none =>
        rw [serve_finishPass_of_closed hplace findings hd]
        exact .refl uri l
      | some d =>
        by_cases hmatch : d.generation = ticket.generation ∧ d.version = ticket.version
        · rw [serve_finishPass_of_match hplace findings hd hmatch.1 hmatch.2]
          have huri : d.uri = other := hs.wellFormed.uri_eq hd
          exact sameFor_put (by simpa [huri, Request.uri] using h)
        · rw [serve_finishPass_of_mismatch hplace findings hd hmatch]
          exact .refl uri l

/-! ## Two runs that nobody can tell apart -/

/-- Two ledgers show the same document under a URI and have issued as many tickets for it, with the
same versions; and where the document bears the stamp of a ticket in one, it does in the other. -/
structure Twins (uri : String) (l m : Ledger) : Prop where
  visible : l.visible? uri = m.visible? uri
  tickets : List.Forall₂ (fun ticket twin => ticket.version = twin.version ∧
      (l.stamp? uri = some ticket.generation ↔ m.stamp? uri = some twin.generation))
    (l.ticketsOf uri) (m.ticketsOf uri)

theorem twins_empty (uri : String) : Twins uri .empty .empty := ⟨rfl, .nil⟩

/-- Twins have both no document, or documents that look the same. -/
theorem Twins.open_or_closed (h : Twins uri l m) :
    (l.store.get? uri = none ∧ m.store.get? uri = none) ∨
      ∃ d e, l.store.get? uri = some d ∧ m.store.get? uri = some e ∧ d.visible = e.visible := by
  have hvisible := h.visible
  unfold visible? at hvisible
  cases hd : l.store.get? uri with
  | none =>
    rw [hd, Option.map_none, eq_comm, Option.map_eq_none_iff] at hvisible
    exact .inl ⟨rfl, hvisible⟩
  | some d =>
    rw [hd, Option.map_some, eq_comm, Option.map_eq_some_iff] at hvisible
    obtain ⟨e, he, hsame⟩ := hvisible
    exact .inr ⟨d, e, rfl, he, hsame.symm⟩

/-- Twins stay twins where both documents keep their stamps. -/
theorem Twins.keep (h : Twins uri l m) (stampLeft : l'.stamp? uri = l.stamp? uri)
    (stampRight : m'.stamp? uri = m.stamp? uri) (ticketsLeft : l'.ticketsOf uri = l.ticketsOf uri)
    (ticketsRight : m'.ticketsOf uri = m.ticketsOf uri)
    (visible : l'.visible? uri = m'.visible? uri) : Twins uri l' m' := by
  refine ⟨visible, ?_⟩
  rw [ticketsLeft, ticketsRight, stampLeft, stampRight]
  exact h.tickets

/-- The tickets of twins go on matching where neither document bears the stamp of one of them. -/
theorem Twins.tickets_of_fresh (h : Twins uri l m) {stampLeft stampRight : Option Nat}
    (freshLeft : ∀ ticket ∈ l.ticketsOf uri, stampLeft ≠ some ticket.generation)
    (freshRight : ∀ ticket ∈ m.ticketsOf uri, stampRight ≠ some ticket.generation) :
    List.Forall₂ (fun ticket twin => ticket.version = twin.version ∧
        (stampLeft = some ticket.generation ↔ stampRight = some twin.generation))
      (l.ticketsOf uri) (m.ticketsOf uri) := by
  have hpairs := h.tickets
  rw [List.forall₂_iff_get] at hpairs ⊢
  refine ⟨hpairs.1, fun place hl hm => ⟨(hpairs.2 place hl hm).1, ?_⟩⟩
  exact iff_of_false (freshLeft _ (List.get_mem ..)) (freshRight _ (List.get_mem ..))

/-- No ticket bears a stamp that is yet to be handed out. -/
theorem Sound.next_fresh (hs : l.Sound) :
    ∀ ticket ∈ l.ticketsOf uri, some (l.store.generation + 1) ≠ some ticket.generation := by
  intro ticket hticket hsame
  have hissued := hs.issued ticket (List.mem_filter.mp hticket).1
  have hnext := Option.some.inj hsame
  omega

/-- Twins have issued tickets with the same places. -/
theorem Twins.ticket_at (h : Twins uri l m) (place : Nat) :
    ((l.ticketsOf uri)[place]? = none ∧ (m.ticketsOf uri)[place]? = none) ∨
      ∃ ticket twin, (l.ticketsOf uri)[place]? = some ticket ∧
        (m.ticketsOf uri)[place]? = some twin ∧ ticket.version = twin.version ∧
        (l.stamp? uri = some ticket.generation ↔ m.stamp? uri = some twin.generation) := by
  have hpairs := List.forall₂_iff_get.mp h.tickets
  by_cases hplace : place < (l.ticketsOf uri).length
  · have hplace' : place < (m.ticketsOf uri).length := hpairs.1 ▸ hplace
    exact .inr ⟨_, _, List.getElem?_eq_getElem hplace, List.getElem?_eq_getElem hplace',
      hpairs.2 place hplace hplace'⟩
  · rw [Nat.not_lt] at hplace
    exact .inl ⟨List.getElem?_eq_none hplace, List.getElem?_eq_none (hpairs.1 ▸ hplace)⟩

/-! ## Requests about the document itself -/

section Own

variable {d e d' e' : Document}

theorem version_eq_of_visible (h : d.visible = e.visible) : d.version = e.version := by
  have hversion : d.visible.version = e.visible.version := by rw [h]
  exact hversion

/-- Twins stay twins when both put a document in place that bears the stamp of the one before. -/
theorem Twins.put (h : Twins uri l m) (hd : l.store.get? uri = some d)
    (he : m.store.get? uri = some e) (huri : d'.uri = uri) (huri' : e'.uri = uri)
    (hstamp : d'.generation = d.generation) (hstamp' : e'.generation = e.generation)
    (hvisible : d'.visible = e'.visible) :
    Twins uri { l with store := l.store.put d' } { m with store := m.store.put e' } := by
  refine h.keep ?_ ?_ rfl rfl ?_
  · rw [stamp?_of_get? (get?_put_own huri), stamp?_of_get? hd, hstamp]
  · rw [stamp?_of_get? (get?_put_own huri'), stamp?_of_get? he, hstamp']
  · rw [visible?_of_get? (get?_put_own huri), visible?_of_get? (get?_put_own huri'), hvisible]

/-- Twins answer a request about their document alike, and stay twins. -/
theorem Twins.serve_own (h : Twins uri l m) (hl : l.Sound) (hm : m.Sound) {request : Request}
    (hown : request.uri = uri) :
    (l.serve request).2 = (m.serve request).2 ∧
      Twins uri (l.serve request).1 (m.serve request).1 := by
  cases request with
  | openDocument document =>
    have hnow : ∀ n : Ledger, (n.serve (.openDocument document)).1.store.get? uri =
        some { document with generation := n.store.generation + 1 } :=
      fun n => (Store.get?_openDocument n.store document uri).trans (if_pos hown.symm)
    refine ⟨rfl, ?_, ?_⟩
    · rw [visible?_of_get? (hnow l), visible?_of_get? (hnow m)]
      rfl
    · rw [stamp?_of_get? (hnow l), stamp?_of_get? (hnow m)]
      exact h.tickets_of_fresh hl.next_fresh hm.next_fresh
  | change other changes version =>
    obtain rfl : other = uri := hown
    rcases h.open_or_closed with ⟨hd, he⟩ | ⟨d, e, hd, he, hsame⟩
    · rw [serve_change_of_closed hd, serve_change_of_closed he]
      exact ⟨rfl, h⟩
    · have huri : d.uri = other := hl.wellFormed.uri_eq hd
      have huri' : e.uri = other := hm.wellFormed.uri_eq he
      rw [serve_change_of_open hd hl, serve_change_of_open he hm, hsame]
      refine ⟨rfl, h.put hd he huri huri' rfl rfl ?_⟩
      exact congrArg (·.applyChanges changes version) hsame
  | close other =>
    obtain rfl : other = uri := hown
    have hnow : ∀ n : Ledger, (n.serve (.close other)).1.store.get? other = none :=
      fun n => (Store.get?_close n.store other other).trans (if_pos rfl)
    refine ⟨congrArg Reply.found h.visible, ?_, ?_⟩
    · rw [visible?, visible?, hnow l, hnow m]
    · rw [stamp?, stamp?, hnow l, hnow m]
      exact h.tickets_of_fresh (by simp) (by simp)
  | get other =>
    obtain rfl : other = uri := hown
    exact ⟨congrArg Reply.found h.visible, h⟩
  | require other =>
    obtain rfl : other = uri := hown
    rcases h.open_or_closed with ⟨hd, he⟩ | ⟨d, e, hd, he, hsame⟩
    · rw [serve_require_of_closed hd, serve_require_of_closed he]
      exact ⟨rfl, h⟩
    · rw [serve_require_of_open hd, serve_require_of_open he, hsame]
      exact ⟨rfl, h⟩
  | startPass other =>
    obtain rfl : other = uri := hown
    rcases h.open_or_closed with ⟨hd, he⟩ | ⟨d, e, hd, he, hsame⟩
    · rw [serve_startPass_of_closed hd, serve_startPass_of_closed he]
      exact ⟨rfl, h.keep rfl rfl rfl rfl h.visible⟩
    · have huri : d.uri = other := hl.wellFormed.uri_eq hd
      have huri' : e.uri = other := hm.wellFormed.uri_eq he
      have hversion := version_eq_of_visible hsame
      have hnow : ∀ (n : Ledger) {c : Document}, n.store.get? other = some c → c.uri = other →
          (n.serve (.startPass other)).1.store.get? other = some (n.store.marked c) := by
        intro n c hc hcuri
        rw [serve_startPass_of_open hc]
        exact (Store.get?_put (d := n.store.marked c) hcuri).trans (if_pos rfl)
      refine ⟨?_, ?_, ?_⟩
      · rw [serve_startPass_of_open hd, serve_startPass_of_open he, hsame]
      · rw [visible?_of_get? (hnow l hd huri), visible?_of_get? (hnow m he huri')]
        exact congrArg (fun seen : Document => some { seen with status := .validating }) hsame
      · rw [stamp?_of_get? (hnow l hd huri), stamp?_of_get? (hnow m he huri'),
          serve_startPass_of_open hd, serve_startPass_of_open he]
        -- the old tickets are outdated on both sides, and the new ones are current on both
        simp only [ticketsOf, List.filter_append, List.filter_singleton, decide_true]
        refine List.rel_append (h.tickets_of_fresh hl.next_fresh hm.next_fresh) ?_
        exact .cons ⟨hversion, iff_of_true rfl rfl⟩ .nil
  | finishPass other place findings =>
    obtain rfl : other = uri := hown
    rcases h.ticket_at place with ⟨hnone, hnone'⟩ | ⟨ticket, twin, hticket, htwin, hversion, hstamp⟩
    · rw [serve_finishPass_of_unissued hnone, serve_finishPass_of_unissued hnone']
      exact ⟨rfl, h⟩
    rcases h.open_or_closed with ⟨hd, he⟩ | ⟨d, e, hd, he, hsame⟩
    · rw [serve_finishPass_of_closed hticket findings hd,
        serve_finishPass_of_closed htwin findings he]
      exact ⟨rfl, h⟩
    have huri : d.uri = other := hl.wellFormed.uri_eq hd
    have huri' : e.uri = other := hm.wellFormed.uri_eq he
    have hnumber := version_eq_of_visible hsame
    rw [stamp?_of_get? hd, stamp?_of_get? he, Option.some.injEq, Option.some.injEq] at hstamp
    have hmatches : (d.generation = ticket.generation ∧ d.version = ticket.version) ↔
        (e.generation = twin.generation ∧ e.version = twin.version) := by
      rw [hstamp, hnumber, hversion]
    by_cases hmatch : d.generation = ticket.generation ∧ d.version = ticket.version
    · have hmatch' := hmatches.mp hmatch
      rw [serve_finishPass_of_match hticket findings hd hmatch.1 hmatch.2,
        serve_finishPass_of_match htwin findings he hmatch'.1 hmatch'.2, hsame]
      refine ⟨rfl, h.put hd he huri huri' rfl rfl ?_⟩
      exact congrArg (settledWith · findings) hsame
    · rw [serve_finishPass_of_mismatch hticket findings hd hmatch,
        serve_finishPass_of_mismatch htwin findings he (mt hmatches.mpr hmatch)]
      exact ⟨rfl, h⟩

end Own

/-- Twins stay twins when one of them serves a request about another document. -/
theorem Twins.serve_foreign (h : Twins uri l m) (hl : l.Sound) {request : Request}
    (hforeign : uri ≠ request.uri) : Twins uri (l.serve request).1 m := by
  have hsame := sameFor_serve hl hforeign
  refine h.keep ?_ rfl hsame.tickets rfl ?_
  · rw [stamp?, hsame.document, stamp?]
  · rw [← h.visible, visible?, hsame.document, visible?]

/-! ## Whole runs -/

/-- What one ledger answers about a document, its twin answers when it serves the requests about
that document only; and they end as twins. -/
theorem Twins.serveAll (requests : List Request) : ∀ {l m : Ledger}, Twins uri l m → l.Sound →
    m.Sound → l.repliesOn uri requests =
        m.repliesOn uri (requests.filter fun request => request.uri = uri) ∧
      Twins uri (l.serveAll requests)
        (m.serveAll (requests.filter fun request => request.uri = uri)) := by
  induction requests with
  | nil =>
    intro l m h _ _
    exact ⟨rfl, h⟩
  | cons request requests ih =>
    intro l m h hl hm
    by_cases hown : request.uri = uri
    · obtain ⟨hreply, hnext⟩ := h.serve_own hl hm hown
      obtain ⟨hreplies, hend⟩ := ih hnext (hl.serve request) (hm.serve request)
      rw [List.filter_cons_of_pos (by simpa using hown)]
      refine ⟨?_, hend⟩
      simp only [repliesOn, if_pos hown, hreply, hreplies]
    · obtain ⟨hreplies, hend⟩ :=
        ih (h.serve_foreign hl fun hsame => hown hsame.symm) (hl.serve request) hm
      rw [List.filter_cons_of_neg (by simpa using hown)]
      refine ⟨?_, hend⟩
      simpa only [repliesOn, if_neg hown, List.nil_append] using hreplies

/-- The replies about a document and what is left of it are those of a store that serves the
requests about that document only. -/
theorem alone (requests : List Request) (uri : String) :
    empty.repliesOn uri requests =
        empty.repliesOn uri (requests.filter fun request => request.uri = uri) ∧
      (empty.serveAll requests).visible? uri =
        (empty.serveAll (requests.filter fun request => request.uri = uri)).visible? uri := by
  obtain ⟨hreplies, hend⟩ := (twins_empty uri).serveAll requests sound_empty sound_empty
  exact ⟨hreplies, hend.visible⟩

/-- The requests about one document are in one order, whichever of two neighbouring requests about
different documents comes first. -/
theorem filter_swap (before after : List Request) {first second : Request}
    (hne : first.uri ≠ second.uri) (uri : String) :
    (before ++ first :: second :: after).filter (fun request => request.uri = uri) =
      (before ++ second :: first :: after).filter fun request => request.uri = uri := by
  rw [List.filter_append, List.filter_append]
  congr 1
  by_cases hfirst : first.uri = uri
  · have hsecond : second.uri ≠ uri := fun h => hne (hfirst.trans h.symm)
    simp [hfirst, hsecond]
  · simp [List.filter_cons, hfirst]

/-- Documents do not influence each other.  For every sequence of requests and every document, the
replies to the requests about the document, and the document in the end, are the same but for
stamps as when an empty store serves those requests only.  Hence two neighbouring requests about
different documents may be served in either order. -/
theorem served_as_if_alone :
    (∀ (requests : List Request) (uri : String),
      empty.repliesOn uri requests =
          empty.repliesOn uri (requests.filter fun request => request.uri = uri) ∧
        (empty.serveAll requests).visible? uri =
          (empty.serveAll (requests.filter fun request => request.uri = uri)).visible? uri) ∧
    ∀ (before after : List Request) (first second : Request), first.uri ≠ second.uri →
      ∀ uri : String,
        empty.repliesOn uri (before ++ first :: second :: after) =
            empty.repliesOn uri (before ++ second :: first :: after) ∧
          (empty.serveAll (before ++ first :: second :: after)).visible? uri =
            (empty.serveAll (before ++ second :: first :: after)).visible? uri := by
  refine ⟨alone, fun before after first second hne uri => ?_⟩
  obtain ⟨hreplies, hend⟩ := alone (before ++ first :: second :: after) uri
  obtain ⟨hreplies', hend'⟩ := alone (before ++ second :: first :: after) uri
  rw [hreplies, hreplies', hend, hend', filter_swap before after hne uri]
  exact ⟨rfl, rfl⟩

/-- A pass of an open document settles it, whether an attempt to start a pass on a closed document
took a stamp before that or takes it afterwards. -/
theorem served_as_if_alone_beside_a_failed_pass :
    Request.uri (.startPass "b") ≠ Request.uri (.finishPass "a" 0 []) ∧
    empty.repliesOn "a" ([.openDocument (.fresh "a" ['x'] 1 none), .startPass "a"] ++
        .startPass "b" :: .finishPass "a" 0 [] :: [.startPass "a"]) =
      empty.repliesOn "a" ([.openDocument (.fresh "a" ['x'] 1 none), .startPass "a"] ++
        .finishPass "a" 0 [] :: .startPass "b" :: [.startPass "a"]) ∧
    empty.repliesOn "a" ([.openDocument (.fresh "a" ['x'] 1 none), .startPass "a"] ++
        .startPass "b" :: .finishPass "a" 0 [] :: [.startPass "a"]) =
      [.opened, .started (.ok (1, ⟨"a", none, ['x'], 1, .validating, [], 0⟩)),
        .finished (.ok (.settled .noErrors false)),
        .started (.ok (1, ⟨"a", none, ['x'], 1, .validating, [], 0⟩))] := by
  have hne : Request.uri (.startPass "b") ≠ Request.uri (.finishPass "a" 0 []) := by decide
  exact ⟨hne, (served_as_if_alone.2 _ _ _ _ hne "a").1, rfl⟩

end Ledger

end LobsterServer
