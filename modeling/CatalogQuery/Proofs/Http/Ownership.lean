import CatalogQuery.Http.Client
import CatalogQuery.Proofs.ClientRun
import CatalogQuery.Proofs.Http.Session

/-!
# Who closes which session

A transport is entered, closed and sent documents through in any order, and its caller may close a
session that was supplied at any time. `HttpTransport.Event.apply_induction` is the step: what
making a session, closing and the caller keep, every event keeps; `HttpTransport.run_induction` is
the run. What a transport owes to its caller in every state of a run is `HttpTransport.Owning`.

A client that made its transport does to it what is asked of the client; a client that was supplied
with one sends documents through it and does nothing else (`ShopClient.run_made`,
`ShopClient.run_supplied`). So the runs of a client are runs of a transport, and
`HttpTransport.run_owning` speaks of both.

A close leaves a supplied session in use as long as that is open, so a document that is sent after a
close need not be sent through a new session (`HttpTransport.close_keeps_supplied`).

## Three invariants

What is owed is not kept by the events in the form in which it is stated, so there are three
invariants behind it. `Orderly` adds to the accounting of the session in use that there are no
orphans; it gives all that is owed in one state. `SentThrough` relates the states before and after a
sending, and composes (`SentThrough.trans`), which makes the statement about documents in a row.
`RenewedSince` remembers how many sessions there were at a close, and says that what is in use later
came after them or was supplied.

All three are taken along runs by the same induction. Its step lets an event be replaced by what it
does to the sessions, since sending a document does to them what entering does.
-/

namespace CatalogQuery

namespace HttpTransport

variable {t : HttpTransport} {i j : Nat} {s : HttpSession}

/-! ### Runs of a transport -/

/-- What happens to a transport. -/
inductive Event where
  /-- It is entered. -/
  | enter
  /-- A document is sent. -/
  | send (document : String)
  /-- It is closed. -/
  | close
  /-- The caller closes the session that was supplied. -/
  | supplierCloses
  /-- The caller changes the settings of authentication. -/
  | change (c : CredentialSettings.Change)
  deriving Repr

/-- The transport and the network after an event. -/
def Event.apply (state : HttpTransport × Network) : Event → HttpTransport × Network
  | .enter => (state.1.enter.1, state.2)
  | .send document => (state.1.send state.2 document).2
  | .close => (state.1.close, state.2)
  | .supplierCloses => (state.1.closeSupplied, state.2)
  | .change c => ({ state.1 with credentials := state.1.credentials.change c }, state.2)

/-- The transport and the network after events. -/
def run (state : HttpTransport × Network) (events : List Event) : HttpTransport × Network :=
  events.foldl Event.apply state

/-- A transport as it is made, with or without credentials and a session of the caller. -/
def start (settings : ShopSettings) (credentials : Option Credentials)
    (supplied : Option HttpSession) : HttpTransport :=
  supplied.elim (.ofSettings settings credentials) (.withSession (.ofSettings settings credentials))

theorem run_append (state : HttpTransport × Network) (es es' : List Event) :
    run state (es ++ es') = run (run state es) es' :=
  List.foldl_append

/-- What a sending does to the transport and the network: a session is there, the credentials were
asked for, and at most one request was posted, in that session. -/
theorem send_state (t : HttpTransport) (n : Network) (document : String) :
    ∃ credentials new, (t.send n document).2.1 = { t.ensureSession.2.1 with credentials } ∧
      (t.send n document).2.2.requests = new ++ n.requests ∧
      ∀ r ∈ new, r.session = t.ensureSession.1 := by
  obtain ⟨credentials, ht⟩ := t.openRequest_transport document
  rw [send_eq]
  rcases hopened : t.openRequest document with ⟨opened, t', log⟩
  rw [hopened] at ht
  cases opened with
  -- The credentials were refused: the session is there, but nothing is posted.
  | error failure => exact ⟨credentials, [], ht, rfl, nofun⟩
  | ok r =>
    -- The request names the session that was in use when it was opened, and that is the one that
    -- was given.
    have hsession : t'.current = some r.session := by
      have := t.session_of_openRequest (congrArg Prod.fst hopened)
      rwa [hopened] at this
    refine ⟨credentials, [r], ht, ?_, fun r' hr' ↦ ?_⟩
    · exact n.requests_post r
    · obtain rfl := List.mem_singleton.1 hr'
      have ht' : t' = { t.ensureSession.2.1 with credentials } := ht
      have hcurrent : t'.current = some t.ensureSession.1 := by
        rw [ht']
        exact t.current_ensureSession
      exact Option.some.inj (hsession.symm.trans hcurrent)

section Induction

variable {P : HttpTransport → Prop}

/-- **What every event keeps**: it is enough that making a session, closing, the caller's closing of
a session and other credentials keep it. -/
theorem Event.apply_induction (hensure : ∀ t, P t → P t.ensureSession.2.1)
    (hclose : ∀ t, P t → P t.close) (hsupplied : ∀ t, P t → P t.closeSupplied)
    (hcredentials : ∀ t (c : Credentials), P t → P { t with credentials := c }) (e : Event)
    (state : HttpTransport × Network) (h : P state.1) : P (e.apply state).1 := by
  cases e with
  | enter => exact hensure _ h
  | send document =>
    obtain ⟨credentials, -, ht, -⟩ := state.1.send_state state.2 document
    rw [apply, ht]
    exact hcredentials _ _ (hensure _ h)
  | close => exact hclose _ h
  | supplierCloses => exact hsupplied _ h
  | change c => exact hcredentials _ _ h

/-- What every event keeps, a run keeps. -/
theorem run_induction
    (hstep : ∀ (e : Event) (state : HttpTransport × Network), P state.1 → P (e.apply state).1)
    (es : List Event) (state : HttpTransport × Network) (h : P state.1) : P (run state es).1 := by
  induction es generalizing state with
  | nil => exact h
  | cons e es ih => exact ih (e.apply state) (hstep e state h)

end Induction

/-! ### What every state of a run keeps -/

/-- The session in use is accounted for, and every live session is in use. -/
structure Orderly (t : HttpTransport) : Prop extends t.WellHeld where
  /-- No session of the transport is open and out of use. -/
  noOrphan : ∀ i, ¬ t.IsOrphan i

/-- A transport as it is made has no session of its own. -/
theorem orderly_start (settings : ShopSettings) (credentials : Option Credentials)
    (supplied : Option HttpSession) : (start settings credentials supplied).Orderly := by
  cases supplied with
  | none =>
    refine ⟨⟨nofun, fun _ ↦ rfl⟩, fun i horphan ↦ ?_⟩
    obtain ⟨⟨s, hs, -⟩, -⟩ := horphan
    cases hs
  | some session =>
    refine ⟨⟨fun i hi ↦ ?_, nofun⟩, fun i horphan ↦ ?_⟩
    · obtain rfl : 0 = i := Option.some.inj hi
      exact ⟨{ session with isSupplied := true }, rfl, rfl⟩
    · obtain ⟨⟨s, hs, hmade, -⟩, -⟩ := horphan
      cases i with
      | zero =>
        cases hs
        cases hmade
      | succ i => cases hs

/-- Every event keeps to order. -/
theorem Orderly.apply (e : Event) (state : HttpTransport × Network) (h : state.1.Orderly) :
    (e.apply state).1.Orderly := by
  refine e.apply_induction ?_ ?_ ?_ ?_ state h
  · intro t h
    exact ⟨h.ensureSession, fun i horphan ↦ h.noOrphan i (isOrphan_ensureSession.1 horphan)⟩
  · intro t h
    exact ⟨h.close, fun i horphan ↦ h.noOrphan i ((isOrphan_close h.toWellHeld).1 horphan)⟩
  · intro t h
    exact ⟨h.closeSupplied, fun i horphan ↦ h.noOrphan i (isOrphan_closeSupplied.1 horphan)⟩
  · intro t c h
    exact ⟨⟨h.current, h.none⟩, h.noOrphan⟩

/-- Every state of a run accounts for the session in use, and every live session is in use. -/
theorem orderly_run (es : List Event) (state : HttpTransport × Network) (h : state.1.Orderly) :
    (run state es).1.Orderly :=
  run_induction Orderly.apply es state h

/-- No event but the caller's own closing changes a supplied session. -/
theorem Orderly.getElem?_apply {e : Event} {state : HttpTransport × Network} (h : state.1.Orderly)
    (he : e ≠ .supplierCloses) (hs : state.1.sessions[i]? = some s)
    (hsupplied : s.isSupplied = true) :
    (e.apply state).1.sessions[i]? = some s := by
  cases e with
  | enter => exact getElem?_ensureSession hs
  | send document =>
    obtain ⟨credentials, -, ht, -⟩ := state.1.send_state state.2 document
    rw [Event.apply, ht]
    exact getElem?_ensureSession hs
  | close => exact h.getElem?_close hs hsupplied
  | supplierCloses => exact absurd rfl he
  | change c => exact hs

/-! ### Sending again -/

/-- Documents were sent through one session, which is in use and open afterwards; it is the one that
was in use before if that was open. -/
structure SentThrough (i : Nat) (before after : HttpTransport × Network) : Prop where
  /-- The session is in use. -/
  current : after.1.current = some i
  /-- It is open. -/
  isOpen : after.1.isOpen = true
  /-- The documents were posted through it, after all earlier requests. -/
  requests : ∃ new, after.2.requests = new ++ before.2.requests ∧ ∀ r ∈ new, r.session = i
  /-- A session that was open is used again, and none is made. -/
  reused : before.1.isOpen = true → before.1.current = some i ∧ after.1.sessions = before.1.sessions

/-- A document is sent through the session that is given for it. -/
theorem sentThrough_send (state : HttpTransport × Network) (document : String) :
    SentThrough state.1.ensureSession.1 state (Event.apply state (.send document)) := by
  obtain ⟨t, n⟩ := state
  obtain ⟨credentials, new, ht, hnew, hsession⟩ := t.send_state n document
  have happly : Event.apply (t, n) (.send document) =
      ({ t.ensureSession.2.1 with credentials }, (t.send n document).2.2) :=
    Prod.ext ht rfl
  rw [happly]
  refine ⟨t.current_ensureSession, t.isOpen_ensureSession, ⟨new, hnew, hsession⟩, fun hopen ↦ ?_⟩
  rcases t.ensureSession_cases with ⟨i, -, hcurrent, hi, hsame⟩ | ⟨hclosed, -⟩
  · refine ⟨hi.symm ▸ hcurrent, ?_⟩
    show t.ensureSession.2.1.sessions = t.sessions
    rw [hsame]
  · rw [hclosed] at hopen
    cases hopen

/-- Documents that are sent one after the other go through the same session, because it is open in
between. -/
theorem SentThrough.trans {a b c : HttpTransport × Network} (h : SentThrough i a b)
    (h' : SentThrough j b c) : SentThrough i a c := by
  obtain ⟨hcurrent, hsessions⟩ := h'.reused h.isOpen
  obtain rfl : i = j := Option.some.inj (h.current.symm.trans hcurrent)
  obtain ⟨new, hnew, hall⟩ := h.requests
  obtain ⟨new', hnew', hall'⟩ := h'.requests
  refine ⟨h'.current, h'.isOpen, ⟨new' ++ new, ?_, fun r hr ↦ ?_⟩, fun hopen ↦ ?_⟩
  · rw [hnew', hnew, List.append_assoc]
  · rcases List.mem_append.1 hr with hr | hr
    · exact hall' r hr
    · exact hall r hr
  · obtain ⟨hbefore, hsame⟩ := h.reused hopen
    exact ⟨hbefore, hsessions.trans hsame⟩

/-- **Documents that are sent in a row go through one session**, whatever comes of each. -/
theorem sentThrough_run_send (state : HttpTransport × Network) (document : String)
    (more : List String) :
    SentThrough state.1.ensureSession.1 state (run state ((document :: more).map .send)) := by
  induction more generalizing state document with
  | nil => exact sentThrough_send state document
  | cons next more ih => exact (sentThrough_send state document).trans (ih _ next)

/-! ### Sending after a close -/

/-- The session in use is one of those after the first `length`, or it was supplied. -/
structure RenewedSince (length : Nat) (t : HttpTransport) : Prop extends t.WellHeld where
  /-- No session was taken away. -/
  length_le : length ≤ t.sessions.length
  /-- The session in use is a later one or the supplied one. -/
  current_cases : ∀ i s, t.current = some i → t.sessions[i]? = some s →
    length ≤ i ∨ s.isSupplied = true

/-- After a close, what is in use was supplied. -/
theorem WellHeld.renewedSince_close (h : t.WellHeld) : RenewedSince t.sessions.length t.close := by
  have hlength : t.close.sessions.length = t.sessions.length := by
    rw [HttpTransport.close, sessions_finishClose, length_sessions_beginClose]
  refine ⟨h.close, Nat.le_of_eq hlength.symm, fun i s hcurrent hs ↦ .inr ?_⟩
  -- What a close leaves in use is not owned, hence supplied.
  obtain ⟨s', hs', hsupplied⟩ := h.close.current i hcurrent
  obtain rfl : s = s' := Option.some.inj (hs.symm.trans hs')
  rw [HttpTransport.close, current_finishClose] at hcurrent
  rw [HttpTransport.close, owned_finishClose] at hsupplied
  split at hcurrent
  · cases hcurrent
  · rw [hsupplied]
    simpa using ‹¬ t.beginClose.owned = true›

/-- A session that is made came later. -/
theorem RenewedSince.ensureSession {length : Nat} (h : RenewedSince length t) :
    RenewedSince length t.ensureSession.2.1 := by
  rcases t.ensureSession_cases with ⟨i, -, -, -, ht⟩ | ⟨-, -, ht⟩
  · rwa [ht]
  · refine ⟨h.toWellHeld.ensureSession, ?_, fun i s hcurrent _ ↦ .inl ?_⟩
    · rw [ht]
      exact Nat.le_trans h.length_le (by simp [renewed])
    · rw [ht] at hcurrent
      obtain rfl : t.sessions.length = i := Option.some.inj hcurrent
      exact h.length_le

/-- Whatever happens, what is in use came later or was supplied. -/
theorem RenewedSince.apply {length : Nat} (e : Event) (state : HttpTransport × Network)
    (h : RenewedSince length state.1) : RenewedSince length (e.apply state).1 := by
  refine e.apply_induction ?_ ?_ ?_ ?_ state h
  · exact fun t h ↦ h.ensureSession
  · intro t h
    have hclose := h.toWellHeld.renewedSince_close
    refine ⟨h.close, Nat.le_trans h.length_le hclose.length_le, fun i s hcurrent hs ↦ ?_⟩
    exact (hclose.current_cases i s hcurrent hs).imp_left (Nat.le_trans h.length_le)
  · intro t h
    refine ⟨h.closeSupplied, ?_, fun i s hcurrent hs ↦ ?_⟩
    · exact Nat.le_trans h.length_le (by simp [closeSupplied])
    · rw [getElem?_closeSupplied] at hs
      obtain ⟨s', hs', rfl⟩ := Option.map_eq_some_iff.1 hs
      refine (h.current_cases i s' hcurrent hs').imp_right fun hsupplied ↦ ?_
      rw [if_pos hsupplied]
      exact hsupplied
  · exact fun t c h ↦ ⟨⟨h.current, h.none⟩, h.length_le, h.current_cases⟩

/-! ### What a transport owes to its caller -/

/-- What a transport owes to its caller in a state: no event but the caller's own closing changes a
supplied session; at most one session of its own is open; documents sent in a row go through one
session, which is the one in use if that is open; a close leaves no session of its own open; and
whatever happens after a close, a document is then sent through an open session that was made since,
or that was supplied. -/
structure Owning (state : HttpTransport × Network) : Prop where
  /-- Only the caller closes what the caller has supplied. -/
  supplied : ∀ (e : Event) (i : Nat) (s : HttpSession), e ≠ .supplierCloses →
    state.1.sessions[i]? = some s → s.isSupplied = true → (e.apply state).1.sessions[i]? = some s
  /-- No two sessions of the transport's own are open at once. -/
  atMostOne : ∀ i j, state.1.IsLive i → state.1.IsLive j → i = j
  /-- Documents that are sent in a row share a session. -/
  reuse : ∀ document more, ∃ i, SentThrough i state (run state ((document :: more).map .send))
  /-- A close leaves nothing of the transport's own open. -/
  closed : ∀ i, ¬ (Event.apply state .close).1.IsLive i
  /-- After a close, documents go through a session made since then or supplied. -/
  afterClose : ∀ later document,
    let before := run (Event.apply state .close) later
    ∃ i s, SentThrough i before (Event.apply before (.send document)) ∧
      (Event.apply before (.send document)).1.sessions[i]? = some s ∧ s.isOpen = true ∧
      (state.1.sessions.length ≤ i ∨ s.isSupplied = true)

/-- In an orderly state, everything is owed. -/
theorem Orderly.owning {state : HttpTransport × Network} (h : state.1.Orderly) : Owning state where
  supplied _ _ _ he hs hsupplied := h.getElem?_apply he hs hsupplied
  atMostOne _ _ hi hj := eq_of_isLive h.noOrphan hi hj
  reuse document more := ⟨_, sentThrough_run_send state document more⟩
  closed i hlive := h.noOrphan i (h.isLive_close_iff.1 hlive)
  afterClose later document := by
    have hrenewed : RenewedSince state.1.sessions.length (run (Event.apply state .close) later).1 :=
      run_induction RenewedSince.apply later _ h.renewedSince_close
    have hsent := sentThrough_send (run (Event.apply state .close) later) document
    obtain ⟨i, s, hcurrent, hs, hopen⟩ := isOpen_iff.1 hsent.isOpen
    obtain rfl := Option.some.inj (hsent.current.symm.trans hcurrent)
    exact ⟨_, s, hsent, hs, hopen, (hrenewed.apply (.send document)).current_cases _ s hcurrent hs⟩

end HttpTransport

/-! ### Runs of a client -/

namespace ShopClient

variable {σ : Type}

/-- What is asked of a client. -/
inductive Event where
  /-- It is entered. -/
  | enter
  /-- A call is made. -/
  | call (c : Client.Call)
  /-- It is closed. -/
  | close

/-- Sending through the transport of a client, where `T` is how a supplied transport sends. -/
def sending (T : Transport σ) : Transport (ShopClient σ × Network) where
  send state document :=
    match state.1.transport with
    | .made t =>
      let (delivery, t, n) := HttpTransport.transport.send (t, state.2) document
      (delivery, { state.1 with transport := .made t }, n)
    | .supplied x =>
      let (delivery, x) := T.send x document
      (delivery, { state.1 with transport := .supplied x }, state.2)

/-- The client and the network after an event. -/
def Event.apply (T : Transport σ) (state : ShopClient σ × Network) : Event → ShopClient σ × Network
  | .enter => (state.1.enter.1, state.2)
  | .call c => (c.make (sending T) state).2
  | .close => (state.1.close, state.2)

/-- The client and the network after events. -/
def run (T : Transport σ) (state : ShopClient σ × Network) (events : List Event) :
    ShopClient σ × Network :=
  events.foldl (Event.apply T) state

/-- The documents that an event sends: that of a call, if it has one. -/
def Event.documents : Event → List String
  | .call c => c.document.toOption.toList
  | .enter | .close => []

/-- What an event is to a transport that the client made. -/
def Event.onMade : Event → List HttpTransport.Event
  | .enter => [.enter]
  | .close => [.close]
  | .call c => (Event.call c).documents.map .send

/-- A call sends its document, if it has one. -/
theorem call_state (T : Transport σ) (state : ShopClient σ × Network) (c : Client.Call) :
    (Event.call c).apply T state =
      (Event.call c).documents.foldl (fun state d ↦ ((sending T).send state d).2) state := by
  rw [Event.apply, Event.documents]
  cases hdocument : c.document with
  | error failure => rw [Client.Call.make_of_error hdocument]; rfl
  | ok document => rw [Client.Call.make_of_ok hdocument]; rfl

/-- **A client does to the transport that it made what is asked of it.** -/
theorem run_made (T : Transport σ) (given : Option ShopSettings) (t : HttpTransport) (n : Network)
    (es : List Event) :
    run T (⟨given, .made t⟩, n) es =
      (⟨given, .made (HttpTransport.run (t, n) (es.flatMap Event.onMade)).1⟩,
        (HttpTransport.run (t, n) (es.flatMap Event.onMade)).2) := by
  induction es generalizing t n with
  | nil => rfl
  | cons e es ih =>
    -- One event first, and then the run from there.
    have hstep : e.apply T (⟨given, .made t⟩, n) =
        (⟨given, .made (HttpTransport.run (t, n) e.onMade).1⟩,
          (HttpTransport.run (t, n) e.onMade).2) := by
      cases e with
      | enter => rfl
      | close => rfl
      | call c =>
        rw [call_state, Event.onMade, Event.documents]
        cases c.document <;> rfl
    rw [List.flatMap_cons, HttpTransport.run_append]
    show run T (e.apply T (⟨given, .made t⟩, n)) es = _
    rw [hstep, ih]

/-- **A client sends documents through the transport that was supplied, and does nothing else to
it.** -/
theorem run_supplied (T : Transport σ) (given : Option ShopSettings) (x : σ) (n : Network)
    (es : List Event) :
    run T (⟨given, .supplied x⟩, n) es =
      (⟨given, .supplied ((es.flatMap Event.documents).foldl (fun x d ↦ (T.send x d).2) x)⟩,
        n) := by
  induction es generalizing x with
  | nil => rfl
  | cons e es ih =>
    have hstep : e.apply T (⟨given, .supplied x⟩, n) =
        (⟨given, .supplied (e.documents.foldl (fun x d ↦ (T.send x d).2) x)⟩, n) := by
      cases e with
      | enter => rfl
      | close => rfl
      | call c =>
        rw [call_state, Event.documents]
        cases c.document <;> rfl
    rw [List.flatMap_cons, List.foldl_append]
    show run T (e.apply T (⟨given, .supplied x⟩, n)) es = _
    rw [hstep, ih]

end ShopClient

/-! ### Public contract -/

namespace HttpTransport

theorem foldl_send (state : HttpTransport × Network) (documents : List String) :
    documents.foldl (fun state d ↦ (HttpTransport.transport.send state d).2) state =
      run state (documents.map .send) := by
  rw [run, List.foldl_map]
  rfl

/-- **Sessions are closed by those who own them.** A transport owes what it owes (`Owning`) in every
state of every run. A client that made its transport does to it what is asked of the client, so that
its runs are such runs. A client that was supplied with a transport, of whatever kind, sends
documents through it and neither enters nor closes it; if it is a transport over HTTP, that too is
such a run. -/
theorem run_owning (settings : ShopSettings) (n : Network) :
    (∀ credentials supplied es, Owning (run (start settings credentials supplied, n) es)) ∧
      (∀ (σ : Type) (T : Transport σ) (es : List ShopClient.Event),
        (∀ c, ShopClient.make (some settings) none = .ok c →
          ∃ t n', ShopClient.run T (c, n) es = (⟨some settings, .made t⟩, n') ∧
            (t, n') = run (start settings none none, n) (es.flatMap ShopClient.Event.onMade) ∧
            Owning (t, n')) ∧
        ∀ given x c, ShopClient.make given (some x) = .ok c →
          ShopClient.run T (c, n) es = (⟨given, .supplied
            ((es.flatMap ShopClient.Event.documents).foldl (fun x d ↦ (T.send x d).2) x)⟩, n)) ∧
      ∀ credentials supplied before given c (es : List ShopClient.Event),
        ShopClient.make given (some (run (start settings credentials supplied, n) before)) = .ok c →
          ∃ x, ShopClient.run HttpTransport.transport (c, n) es = (⟨given, .supplied x⟩, n) ∧
            x = run (start settings credentials supplied, n)
              (before ++ (es.flatMap ShopClient.Event.documents).map .send) ∧
            Owning x := by
  have howning :
      ∀ credentials supplied es, Owning (run (start settings credentials supplied, n) es) := by
    intro credentials supplied es
    exact (orderly_run es (_, n) (orderly_start settings credentials supplied)).owning
  refine ⟨howning, fun σ T es ↦ ⟨fun c hc ↦ ?_, fun given x c hc ↦ ?_⟩,
    fun credentials supplied before given c es hc ↦ ?_⟩
  · cases hc
    exact ⟨_, _, ShopClient.run_made T _ _ n es, rfl, howning none none _⟩
  · cases hc
    exact ShopClient.run_supplied T given x n es
  · cases hc
    refine ⟨_, ShopClient.run_supplied HttpTransport.transport given _ n es, ?_, ?_⟩
    · rw [foldl_send, run_append]
    · rw [foldl_send, ← run_append]
      exact howning credentials supplied _

/-- **Not every document after a close is sent through a new session**: one that the caller
supplied, and that is open, stays in use. -/
theorem close_keeps_supplied :
    ¬ ∀ settings credentials supplied n es document,
      let closed := run (start settings credentials supplied, n) (es ++ [.close])
      ∃ i, SentThrough i closed (Event.apply closed (.send document)) ∧
        closed.1.sessions.length ≤ i := by
  intro hnew
  obtain ⟨i, hsent, hle⟩ := hnew
    { url := ⟨.https, "", "", .domain "shop.example", none, ["graphql.json"], none, none⟩,
      token := .str "t" } none
    (some
      { isSupplied := true, timeout := ShopSettings.defaultTimeout, userAgent := .str "caller" })
    { replies := [.reply 200 (.octets [])] } [] "query"
  obtain rfl : 0 = i := Option.some.inj hsent.current
  exact absurd hle (by decide)

end HttpTransport

end CatalogQuery
