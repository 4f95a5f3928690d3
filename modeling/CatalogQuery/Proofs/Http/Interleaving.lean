import CatalogQuery.Proofs.Http.Ownership

/-!
# Calls of a transport that go on side by side

A transport is used by several calls at once. A call runs until it waits: a sending for the reply to
its request and then for the body, a close for its session to be closed. Meanwhile other calls run.
`Traffic.step` is one such turn, `Traffic.run` an interleaving of any number of them; calls that run
one at a time are those of the sequential transport (`Traffic.run_send`, `Traffic.run_close`).

A close lets go of the session in use when it goes on, without looking again at which session that
is. If a sending has made a new one meanwhile, that one is let go of while it is open, and becomes
an orphan (`Traffic.run_orphans_session`). `Traffic.Change.isOrphan_iff` is the step: this is the
only turn that orphans a session. `Traffic.isOrphan_run_iff` is the run: the orphans of an
interleaving are exactly the sessions that were let go of in this way.

## Turns

A call is cut at the places where it waits, and nowhere else, since nothing interrupts it in
between. What is left of a call that waits is `Waiting`, and its position in the list is its name. A
turn that names a call which does not wait for it changes nothing, so that every list of turns is an
interleaving and none has to be excluded. Calls may be given up while they wait; a sending that is
given up leaves its session in use, and a close that is given up has closed its session but keeps
it.

## From the step to the run

`Change` lists what a turn can do to the transport, with the session that it lets go of. A turn is
one of these changes (`Traffic.change_step`), and each change was described where sessions are.
`Traffic.lettingGo` collects what is let go of along a run, which makes the invariant an
equivalence: nothing else is an orphan, and every session that was let go of stays one.
-/

namespace CatalogQuery

namespace HttpTransport

/-! ### Turns -/

/-- What a call waits for. -/
inductive Waiting where
  /-- A sending waits for the reply to its request. -/
  | reply (r : HttpRequest) (log : List LogLine)
  /-- A sending waits for the body of a reply. -/
  | body (r : HttpRequest) (log : List LogLine) (status : Nat)
  /-- A close waits for its session to be closed. -/
  | closing

/-- A transport and the calls that go on. -/
structure Traffic where
  /-- The transport. -/
  transport : HttpTransport
  /-- The calls that wait. -/
  waiting : List Waiting := []
  /-- What the sendings that ended came to, the latest first. -/
  ended : List Sending := []

/-- A turn: one call runs until it waits or ends. Waiting calls are named by their position. -/
inductive Turn where
  /-- The transport is entered. -/
  | enter
  /-- A sending begins. -/
  | send (document : String)
  /-- A close begins. -/
  | close
  /-- A reply arrives. -/
  | replied (k : Nat) (status : Nat)
  /-- The body of a reply arrives. -/
  | read (k : Nat) (body : HttpBody)
  /-- The network fails. -/
  | troubled (k : Nat) (kind : Trouble) (text : String)
  /-- The session of a close is closed. -/
  | closed (k : Nat)
  /-- A call is given up. -/
  | abandoned (k : Nat)
  /-- The caller closes the session that was supplied. -/
  | supplierCloses

namespace Traffic

/-- The traffic after a waiting sending has ended. -/
def finish (w : Traffic) (k : Nat) (r : HttpRequest) (log : List LogLine) (reply : HttpReply) :
    Traffic :=
  let received := w.transport.receive r.url (some reply)
  { w with
    waiting := w.waiting.eraseIdx k
    ended := ⟨received.outcome, log ++ received.log⟩ :: w.ended }

/-- The traffic after a turn. A turn of a call that does not wait for it changes nothing. -/
def step (w : Traffic) : Turn → Traffic
  | .enter => { w with transport := w.transport.ensureSession.2.1 }
  | .send document =>
    match w.transport.openRequest document with
    | (.error failure, t, log) =>
      { w with transport := t, ended := ⟨.error failure, log⟩ :: w.ended }
    | (.ok r, t, log) => { w with transport := t, waiting := w.waiting ++ [.reply r log] }
  | .close =>
    -- Only a session that is owned and open has to be closed, and waited for.
    if w.transport.owned && w.transport.isOpen then
      { w with transport := w.transport.beginClose, waiting := w.waiting ++ [.closing] }
    else { w with transport := w.transport.finishClose }
  | .replied k status =>
    match w.waiting[k]? with
    | some (.reply r log) => { w with waiting := w.waiting.set k (.body r log status) }
    | _ => w
  | .read k body =>
    match w.waiting[k]? with
    | some (.body r log status) => w.finish k r log (.reply status body)
    | _ => w
  | .troubled k kind text =>
    match w.waiting[k]? with
    | some (.reply r log) => w.finish k r log (.trouble kind text)
    | some (.body r log _) => w.finish k r log (.trouble kind text)
    | _ => w
  | .closed k =>
    match w.waiting[k]? with
    | some .closing =>
      { w with transport := w.transport.finishClose, waiting := w.waiting.eraseIdx k }
    | _ => w
  | .abandoned k => { w with waiting := w.waiting.eraseIdx k }
  | .supplierCloses => { w with transport := w.transport.closeSupplied }

/-- The traffic after an interleaving of turns. -/
def run (w : Traffic) (turns : List Turn) : Traffic :=
  turns.foldl step w

/-- The session that a turn lets go of while it is open: a close goes on and finds a session in use
that is owned and open, which is not the one that it closed. -/
def letGo? (w : Traffic) : Turn → Option Nat
  | .closed k =>
    match w.waiting[k]? with
    | some .closing => if w.transport.owned && w.transport.isOpen then w.transport.current else none
    | _ => none
  | _ => none

/-- The sessions that an interleaving lets go of while they are open. -/
def lettingGo : Traffic → List Turn → List Nat
  | _, [] => []
  | w, turn :: turns => (w.letGo? turn).toList ++ lettingGo (w.step turn) turns

/-! ### Calls that run one at a time -/

/-- A sending that runs alone is the sending of the sequential transport. -/
theorem run_send (t : HttpTransport) (n : Network) (document : String) (status : Nat)
    (body : HttpBody) (rest : List HttpReply) (hreplies : n.replies = .reply status body :: rest) :
    run { transport := t } [.send document, .replied 0 status, .read 0 body] =
      { transport := (t.send n document).2.1, ended := [(t.send n document).1] } := by
  rw [send_eq, run, List.foldl_cons, step]
  obtain ⟨opened, t', log⟩ := t.openRequest document
  cases opened with
  | error failure => rfl
  | ok r =>
    simp only [Network.post, hreplies]
    rfl

/-- Closing a session that is not open changes nothing. -/
theorem closeCurrent_of_isOpen_eq_false {t : HttpTransport} (hclosed : t.isOpen = false) :
    t.closeCurrent = t := by
  cases hcurrent : t.current with
  | none => rw [closeCurrent, hcurrent]
  | some i =>
    have hsame : t.sessions.modify i HttpSession.closed = t.sessions := by
      refine List.ext_getElem? fun j ↦ ?_
      rw [List.getElem?_modify]
      cases hs : t.sessions[j]? with
      | none => rfl
      | some s =>
        by_cases hij : i = j
        · have hopen : s.isOpen = false := by
            by_contra hopen
            rw [Bool.not_eq_false] at hopen
            rw [isOpen_iff.2 ⟨i, s, hcurrent, hij ▸ hs, hopen⟩] at hclosed
            cases hclosed
          simp [hij, HttpSession.closed, ← hopen]
        · simp [hij]
    calc t.closeCurrent
        = { t with sessions := t.sessions.modify i HttpSession.closed } := by
          rw [closeCurrent, hcurrent]; rfl
      _ = t := by rw [hsame]

/-- A close that runs alone is the close of the sequential transport. -/
theorem run_close (t : HttpTransport) :
    run { transport := t } [.close, .closed 0] = { transport := t.close } := by
  rw [run, List.foldl_cons, step]
  split
  · rfl
  · have hsame : t.beginClose = t := by
      rw [beginClose]
      split
      · rename_i hwaits howned
        exact closeCurrent_of_isOpen_eq_false (by simpa [howned] using hwaits)
      · rfl
    rw [close, hsame]
    rfl

/-! ### Which turns orphan a session -/

variable {w : Traffic} {i : Nat}

/-- Opening a request does to the sessions what making one does. -/
theorem isOrphan_openRequest {t : HttpTransport} {document : String} :
    (t.openRequest document).2.1.IsOrphan i ↔ t.IsOrphan i := by
  obtain ⟨credentials, ht⟩ := t.openRequest_transport document
  rw [ht]
  exact isOrphan_ensureSession

/-- Opening a request keeps the invariant. -/
theorem wellHeld_openRequest {t : HttpTransport} {document : String} (h : t.WellHeld) :
    (t.openRequest document).2.1.WellHeld := by
  obtain ⟨credentials, ht⟩ := t.openRequest_transport document
  rw [ht]
  exact ⟨h.ensureSession.current, h.ensureSession.none⟩

/-- What a turn does to the transport, and the session that it lets go of while that is open. -/
inductive Change (t : HttpTransport) : HttpTransport → Option Nat → Prop where
  /-- Nothing is done. -/
  | same : Change t t none
  /-- A session is asked for, and made if there is none open. -/
  | ensureSession : Change t t.ensureSession.2.1 none
  /-- A request is opened through the session in use. -/
  | openRequest (document : String) : Change t (t.openRequest document).2.1 none
  /-- The session in use is closed if it is the transport's own. -/
  | beginClose : Change t t.beginClose none
  /-- The session in use is let go of if it is the transport's own, open or not. -/
  | finishClose : Change t t.finishClose (if t.owned && t.isOpen then t.current else none)
  /-- The caller closes the supplied session. -/
  | closeSupplied : Change t t.closeSupplied none

/-- What a turn does is one of the changes. -/
theorem change_step (w : Traffic) (turn : Turn) :
    Change w.transport (w.step turn).transport (w.letGo? turn) := by
  cases turn with
  | enter => exact .ensureSession
  | send document =>
    have hchange := Change.openRequest (t := w.transport) document
    rw [step]
    rcases hopened : w.transport.openRequest document with ⟨opened, t, log⟩
    rw [hopened] at hchange
    cases opened <;> exact hchange
  | close =>
    rw [step]
    split
    · exact .beginClose
    · -- There is nothing to wait for, so the close goes on at once and lets go of nothing that is
      -- open.
      rename_i hwaits
      have hchange := Change.finishClose (t := w.transport)
      rw [if_neg hwaits] at hchange
      exact hchange
  | replied k status =>
    rw [step]
    split <;> exact .same
  | read k body =>
    rw [step]
    split <;> exact .same
  | troubled k kind text =>
    rw [step]
    split <;> exact .same
  | closed k =>
    rw [step, letGo?]
    split
    · exact .finishClose
    · exact .same
  | abandoned k => exact .same
  | supplierCloses => exact .closeSupplied

/-- Every change keeps the invariant. -/
theorem Change.wellHeld {t t' : HttpTransport} {lost : Option Nat} (h : Change t t' lost)
    (ht : t.WellHeld) : t'.WellHeld := by
  cases h with
  | same => exact ht
  | ensureSession => exact ht.ensureSession
  | openRequest document => exact wellHeld_openRequest ht
  | beginClose => exact ht.beginClose
  | finishClose => exact ht.finishClose
  | closeSupplied => exact ht.closeSupplied

/-- **Only what is let go of while it is open becomes an orphan**, and no orphan is ever taken up
again. -/
theorem Change.isOrphan_iff {t t' : HttpTransport} {lost : Option Nat} (h : Change t t' lost)
    (ht : t.WellHeld) : t'.IsOrphan i ↔ t.IsOrphan i ∨ lost = some i := by
  cases h with
  | same => simp
  | ensureSession => simp [isOrphan_ensureSession]
  | openRequest document => simp [isOrphan_openRequest]
  | beginClose => simp [isOrphan_beginClose]
  | finishClose =>
    rw [isOrphan_finishClose ht]
    by_cases hopen : t.owned = true ∧ t.isOpen = true
    · simp [hopen]
    · have hnot : ¬ (t.owned = true ∧ t.isOpen = true ∧ t.current = some i) :=
        fun h ↦ hopen ⟨h.1, h.2.1⟩
      rw [if_neg (by simpa using hopen), or_iff_left hnot, or_iff_left nofun]
  | closeSupplied => simp [isOrphan_closeSupplied]

/-! ### Interleavings -/

/-- Every interleaving keeps the invariant. -/
theorem wellHeld_run (turns : List Turn) (w : Traffic) (h : w.transport.WellHeld) :
    (w.run turns).transport.WellHeld := by
  induction turns generalizing w with
  | nil => exact h
  | cons turn turns ih => exact ih (w.step turn) ((w.change_step turn).wellHeld h)

/-- The orphans after an interleaving are those before it, and the sessions that it let go of while
they were open. -/
theorem isOrphan_run (turns : List Turn) (w : Traffic) (h : w.transport.WellHeld) :
    (w.run turns).transport.IsOrphan i ↔ w.transport.IsOrphan i ∨ i ∈ lettingGo w turns := by
  induction turns generalizing w with
  | nil => simp [run, lettingGo]
  | cons turn turns ih =>
    -- One turn first: its orphans are those before it and what it let go of.
    have hchange := w.change_step turn
    show ((w.step turn).run turns).transport.IsOrphan i ↔ _
    rw [ih (w.step turn) (hchange.wellHeld h), hchange.isOrphan_iff h, lettingGo, List.mem_append,
      Option.mem_toList, or_assoc]

/-! ### Public contract -/

/-- **A session is orphaned exactly by a close that goes on after another one was made.** From a
transport as it is made, in every interleaving of calls, the live sessions that are not in use are
those that a close let go of while they were open. If there is none of these, every live session is
the one in use, and a close that nothing interrupts leaves none. -/
theorem isOrphan_run_iff (settings : ShopSettings) (credentials : Option Credentials)
    (supplied : Option HttpSession) (turns : List Turn) :
    let w : Traffic := { transport := start settings credentials supplied }
    let t := (w.run turns).transport
    (∀ i, t.IsOrphan i ↔ i ∈ lettingGo w turns) ∧
      (lettingGo w turns = [] → (∀ i, t.IsLive i → t.current = some i) ∧
        ∀ i, ¬ t.close.IsLive i) := by
  intro w t
  have hstart := orderly_start settings credentials supplied
  have horphan : ∀ i, t.IsOrphan i ↔ i ∈ lettingGo w turns := by
    intro i
    rw [isOrphan_run turns w hstart.toWellHeld, or_iff_right (hstart.noOrphan i)]
  refine ⟨horphan, fun hnone ↦ ?_⟩
  have hno : ∀ i, ¬ t.IsOrphan i := by
    intro i hi
    rw [horphan, hnone] at hi
    cases hi
  refine ⟨fun i hlive ↦ ?_, fun i hlive ↦ ?_⟩
  · by_contra hcurrent
    exact hno i ⟨hlive, hcurrent⟩
  · exact hno i ((wellHeld_run turns w hstart.toWellHeld).isLive_close_iff.1 hlive)

/-- **Calls side by side can orphan a session.** A close waits for the first session, a sending
makes a second one meanwhile, and then the close goes on: the second session is open and not in use,
and a later close leaves it open. -/
theorem run_orphans_session :
    ∃ settings turns, let t := (run { transport := start settings none none } turns).transport
      t.IsLive 1 ∧ t.current = none ∧ t.close.IsLive 1 := by
  refine ⟨{ url := ⟨.https, "", "", .domain "shop.example", none, ["graphql.json"], none, none⟩
            token := .str "t" },
    [.enter, .close, .send "query", .closed 0], ?_⟩
  have hsession : ∀ t : HttpTransport, t.sessions[1]? = some
      { isSupplied := false, timeout := ShopSettings.defaultTimeout,
        userAgent := ShopSettings.defaultUserAgent } → t.IsLive 1 :=
    fun t hs ↦ ⟨_, hs, rfl, rfl⟩
  exact ⟨hsession _ rfl, rfl, hsession _ rfl⟩

end Traffic

end HttpTransport

end CatalogQuery
