import CatalogQuery.Http.Transport
import CatalogQuery.Proofs.Attempt
import Mathlib.Data.List.Basic

/-!
# The sessions of a transport

What the operations of a transport do to its sessions, said once for each operation. Everything
rests on two notions. A session is *live* if the transport made it and it is open
(`HttpTransport.IsLive`); a live session that is not the one in use is an *orphan*
(`HttpTransport.IsOrphan`), since the transport has no way left to close it.

An open session in use is never replaced, so making a session orphans none
(`isOrphan_ensureSession`), and neither does the beginning of a close. Only letting go of the
session in use can orphan it, and it does so exactly if that session is still open
(`isOrphan_finishClose`). `HttpTransport.WellHeld` is the invariant that these rest on: what is in
use exists, and it is owned unless it was supplied.

## The layout

Sessions are numbered in the order in which they came to the transport, and they are never taken
out, so a number names a session for good. An operation changes at most one of them. For each of
`ensureSession`, `beginClose`, `finishClose` and `closeSupplied` there are the same lemmas: what it
does to the sessions, to the one in use and to ownership, that it keeps the invariant, and what
becomes of the live sessions and of the orphans.

## Two halves of a close

A close waits for its session to be closed, so other calls may run in the middle of it. Each half is
an operation of its own here (`beginClose`, `finishClose`), and `close` is the two together. The
first half closes the session but goes on using it; the second half lets go of whatever is in use by
then. Nothing is lost when the two follow one another at once (`isOrphan_close`).
-/

open CatalogQuery.Attempt

namespace CatalogQuery

/-- The session closed. -/
def HttpSession.closed (s : HttpSession) : HttpSession :=
  { s with isOpen := false }

theorem Network.requests_post (n : Network) (r : HttpRequest) :
    (n.post r).2.requests = r :: n.requests := by
  rw [post]
  split <;> rfl

namespace HttpTransport

variable {t : HttpTransport} {i j : Nat} {s : HttpSession}

/-! ### Live sessions and orphans

Both notions are about a session by its number. A session that a transport was supplied with is
never live in this sense, open or not, because closing it is not the business of the transport.
-/

/-- A session that the transport made and that is open. -/
def IsLive (t : HttpTransport) (i : Nat) : Prop :=
  ∃ s, t.sessions[i]? = some s ∧ s.isSupplied = false ∧ s.isOpen = true

/-- A live session that is not in use. -/
def IsOrphan (t : HttpTransport) (i : Nat) : Prop :=
  t.IsLive i ∧ t.current ≠ some i

/-- The session in use exists, and it is owned unless it was supplied; without one, the next will be
owned. -/
structure WellHeld (t : HttpTransport) : Prop where
  /-- The session in use is one of those that are known, supplied or owned as the transport says. -/
  current : ∀ i, t.current = some i → ∃ s, t.sessions[i]? = some s ∧ s.isSupplied = !t.owned
  /-- Without a session in use there is none supplied. -/
  none : t.current = none → t.owned = true

/-- There is an open session exactly if the one in use is open. -/
theorem isOpen_iff :
    t.isOpen = true ↔ ∃ i s, t.current = some i ∧ t.sessions[i]? = some s ∧ s.isOpen = true := by
  rw [isOpen, session?]
  cases hcurrent : t.current with
  | none => simp
  | some i => cases hs : t.sessions[i]? <;> simp [hs]

/-- Without orphans, at most one session is live. -/
theorem eq_of_isLive (h : ∀ i, ¬ t.IsOrphan i) (hi : t.IsLive i) (hj : t.IsLive j) : i = j := by
  have hcurrent : ∀ k, t.IsLive k → t.current = some k := by
    intro k hk
    by_contra hne
    exact h k ⟨hk, hne⟩
  exact Option.some.inj ((hcurrent i hi).symm.trans (hcurrent j hj))

/-- An open session that is owned and in use is live. -/
theorem WellHeld.isLive (h : t.WellHeld) (howned : t.owned = true) (hopen : t.isOpen = true)
    (hcurrent : t.current = some i) : t.IsLive i := by
  obtain ⟨s, hs, hsupplied⟩ := h.current i hcurrent
  obtain ⟨j, s', hj, hs', hopen⟩ := isOpen_iff.1 hopen
  obtain rfl : i = j := Option.some.inj (hcurrent.symm.trans hj)
  obtain rfl : s = s' := Option.some.inj (hs.symm.trans hs')
  exact ⟨s, hs, by rw [hsupplied, howned]; rfl, hopen⟩

/-! ### Making a session

A new session goes to the end of the list, so the numbers of all others stay what they are.
-/

/-- The session that a transport makes. -/
def newSession (t : HttpTransport) : HttpSession where
  isSupplied := false
  timeout := t.settings.timeout
  userAgent := t.settings.userAgent

/-- The transport with a new session in use. -/
def renewed (t : HttpTransport) : HttpTransport :=
  { t with
    sessions := t.sessions ++ [t.newSession]
    current := some t.sessions.length
    owned := true }

/-- A transport keeps to the session in use as long as that is open, and makes a new one
otherwise. -/
theorem ensureSession_cases (t : HttpTransport) :
    (∃ i, t.isOpen = true ∧ t.current = some i ∧ t.ensureSession.1 = i ∧ t.ensureSession.2.1 = t) ∨
      t.isOpen = false ∧ t.ensureSession.1 = t.sessions.length ∧
        t.ensureSession.2.1 = t.renewed := by
  cases hopen : t.isOpen with
  | true =>
    obtain ⟨i, s, hcurrent, -, -⟩ := isOpen_iff.1 hopen
    refine .inl ⟨i, rfl, hcurrent, ?_⟩
    rw [ensureSession, hopen, if_pos rfl, hcurrent]
    exact ⟨rfl, rfl⟩
  | false =>
    refine .inr ⟨rfl, ?_⟩
    rw [ensureSession, hopen, if_neg Bool.false_ne_true]
    exact ⟨rfl, rfl⟩

theorem getElem?_renewed (hs : t.sessions[i]? = some s) : t.renewed.sessions[i]? = some s := by
  have hlt : i < t.sessions.length := (List.getElem?_eq_some_iff.1 hs).1
  rw [renewed, List.getElem?_append_left hlt, hs]

theorem renewed_getElem?_length : t.renewed.sessions[t.sessions.length]? = some t.newSession := by
  rw [renewed, List.getElem?_append_right (Nat.le_refl _), Nat.sub_self]
  rfl

/-- Of the live sessions, only the new one is new. -/
theorem isLive_renewed : t.renewed.IsLive i ↔ t.IsLive i ∨ i = t.sessions.length := by
  constructor
  · rintro ⟨s, hs, hmade, hopen⟩
    rcases Nat.lt_or_ge i t.sessions.length with hlt | hge
    · rw [renewed, List.getElem?_append_left hlt] at hs
      exact .inl ⟨s, hs, hmade, hopen⟩
    · have hlt : i < (t.sessions ++ [t.newSession]).length := (List.getElem?_eq_some_iff.1 hs).1
      rw [List.length_append, List.length_singleton] at hlt
      exact .inr (by omega)
  · rintro (⟨s, hs, hmade, hopen⟩ | rfl)
    · exact ⟨s, getElem?_renewed hs, hmade, hopen⟩
    · exact ⟨t.newSession, renewed_getElem?_length, rfl, rfl⟩

/-- There is an open session once one was asked for. -/
theorem isOpen_ensureSession (t : HttpTransport) : t.ensureSession.2.1.isOpen = true := by
  rcases t.ensureSession_cases with ⟨i, hopen, -, -, ht⟩ | ⟨-, -, ht⟩
  · rw [ht, hopen]
  · rw [ht]
    exact isOpen_iff.2 ⟨t.sessions.length, t.newSession, rfl, renewed_getElem?_length, rfl⟩

/-- The session that is given is the one in use. -/
theorem current_ensureSession (t : HttpTransport) :
    t.ensureSession.2.1.current = some t.ensureSession.1 := by
  rcases t.ensureSession_cases with ⟨i, -, hcurrent, hi, ht⟩ | ⟨-, hi, ht⟩
  · rw [ht, hi, hcurrent]
  · rw [ht, hi]
    rfl

/-- Making a session keeps the invariant. -/
theorem WellHeld.ensureSession (h : t.WellHeld) : t.ensureSession.2.1.WellHeld := by
  rcases t.ensureSession_cases with ⟨i, -, -, -, ht⟩ | ⟨-, -, ht⟩
  · rwa [ht]
  · rw [ht]
    refine ⟨fun i hi ↦ ?_, nofun⟩
    obtain rfl : t.sessions.length = i := Option.some.inj hi
    exact ⟨t.newSession, renewed_getElem?_length, rfl⟩

/-- **Making a session orphans none**: one is made only where none is open. -/
theorem isOrphan_ensureSession : t.ensureSession.2.1.IsOrphan i ↔ t.IsOrphan i := by
  rcases t.ensureSession_cases with ⟨j, -, -, -, ht⟩ | ⟨hclosed, -, ht⟩
  · rw [ht]
  · rw [ht]
    constructor
    · rintro ⟨hlive, hne⟩
      -- What was in use is not open, since a new one was made; so a live session was not in use
      -- before.
      rcases isLive_renewed.1 hlive with hlive | rfl
      · refine ⟨hlive, fun hcurrent ↦ ?_⟩
        obtain ⟨s, hs, -, hopen⟩ := hlive
        have : t.isOpen = true := isOpen_iff.2 ⟨i, s, hcurrent, hs, hopen⟩
        rw [hclosed] at this
        cases this
      · exact absurd rfl hne
    · rintro ⟨hlive, -⟩
      have hlt : i < t.sessions.length := by
        obtain ⟨s, hs, -⟩ := hlive
        exact (List.getElem?_eq_some_iff.1 hs).1
      refine ⟨isLive_renewed.2 (.inl hlive), fun hcurrent ↦ ?_⟩
      have : t.sessions.length = i := Option.some.inj hcurrent
      omega

/-- No session is changed where one is made. -/
theorem getElem?_ensureSession (hs : t.sessions[i]? = some s) :
    t.ensureSession.2.1.sessions[i]? = some s := by
  rcases t.ensureSession_cases with ⟨j, -, -, -, ht⟩ | ⟨-, -, ht⟩
  · rwa [ht]
  · rw [ht, getElem?_renewed hs]

/-! ### Closing

The first half of a close changes a session and nothing else of the transport, the second half
changes what is in use and no session. So each half leaves one of the two conditions of being an
orphan as it is.
-/

/-- A close that has begun has closed the session in use, if that is owned. -/
theorem sessions_beginClose (t : HttpTransport) (i : Nat) :
    t.beginClose.sessions[i]? =
      if t.owned = true ∧ t.current = some i then t.sessions[i]?.map HttpSession.closed
      else t.sessions[i]? := by
  rw [beginClose]
  cases howned : t.owned with
  | false => simp
  | true =>
    rw [if_pos rfl, closeCurrent]
    cases hcurrent : t.current with
    | none => simp
    | some j =>
      rw [List.getElem?_modify]
      by_cases hji : j = i
      · rw [if_pos ⟨rfl, congrArg some hji⟩]
        simp only [if_pos hji]
        rfl
      · rw [if_neg (fun h ↦ hji (Option.some.inj h.2))]
        simp [hji]

/-- The beginning of a close keeps to the session in use. -/
theorem current_beginClose (t : HttpTransport) : t.beginClose.current = t.current := by
  rw [beginClose, closeCurrent]
  split
  · split <;> rfl
  · rfl

theorem owned_beginClose (t : HttpTransport) : t.beginClose.owned = t.owned := by
  rw [beginClose, closeCurrent]
  split
  · split <;> rfl
  · rfl

/-- The beginning of a close makes no session. -/
theorem length_sessions_beginClose (t : HttpTransport) :
    t.beginClose.sessions.length = t.sessions.length := by
  rw [beginClose, closeCurrent]
  split
  · split
    · exact List.length_modify ..
    · rfl
  · rfl

/-- The beginning of a close keeps the invariant. -/
theorem WellHeld.beginClose (h : t.WellHeld) : t.beginClose.WellHeld := by
  refine ⟨fun i hi ↦ ?_, fun hnone ↦ ?_⟩
  · rw [current_beginClose] at hi
    obtain ⟨s, hs, hsupplied⟩ := h.current i hi
    rw [owned_beginClose, sessions_beginClose, hs]
    split
    · exact ⟨s.closed, rfl, hsupplied⟩
    · exact ⟨s, rfl, hsupplied⟩
  · rw [owned_beginClose]
    exact h.none (t.current_beginClose.symm.trans hnone)

/-- What is owned and in use is no longer open once a close has begun. -/
theorem isLive_beginClose :
    t.beginClose.IsLive i ↔ t.IsLive i ∧ ¬ (t.owned = true ∧ t.current = some i) := by
  rw [IsLive, IsLive, sessions_beginClose]
  by_cases hused : t.owned = true ∧ t.current = some i
  · rw [if_pos hused]
    constructor
    · rintro ⟨s, hs, -, hopen⟩
      obtain ⟨s', -, rfl⟩ := Option.map_eq_some_iff.1 hs
      cases hopen
    · exact fun h ↦ absurd hused h.2
  · rw [if_neg hused]
    exact ⟨fun h ↦ ⟨h, hused⟩, fun h ↦ h.1⟩

/-- The beginning of a close orphans no session. -/
theorem isOrphan_beginClose : t.beginClose.IsOrphan i ↔ t.IsOrphan i := by
  rw [IsOrphan, IsOrphan, isLive_beginClose, current_beginClose]
  exact ⟨fun h ↦ ⟨h.1.1, h.2⟩, fun h ↦ ⟨⟨h.1, fun hused ↦ h.2 hused.2⟩, h.2⟩⟩

/-- The beginning of a close leaves supplied sessions as they are. -/
theorem WellHeld.getElem?_beginClose (h : t.WellHeld) (hs : t.sessions[i]? = some s)
    (hsupplied : s.isSupplied = true) : t.beginClose.sessions[i]? = some s := by
  rw [sessions_beginClose, if_neg, hs]
  -- Only a session that is owned is closed, and that one was not supplied.
  rintro ⟨howned, hcurrent⟩
  obtain ⟨s', hs', hmade⟩ := h.current i hcurrent
  obtain rfl : s = s' := Option.some.inj (hs.symm.trans hs')
  rw [hsupplied, howned] at hmade
  cases hmade

theorem sessions_finishClose (t : HttpTransport) : t.finishClose.sessions = t.sessions := by
  rw [finishClose]
  split <;> rfl

theorem owned_finishClose (t : HttpTransport) : t.finishClose.owned = t.owned := by
  rw [finishClose]
  split <;> rfl

theorem current_finishClose (t : HttpTransport) :
    t.finishClose.current = if t.owned = true then none else t.current := by
  rw [finishClose]
  split <;> rfl

/-- Letting go keeps the invariant. -/
theorem WellHeld.finishClose (h : t.WellHeld) : t.finishClose.WellHeld := by
  refine ⟨fun i hi ↦ ?_, fun hnone ↦ ?_⟩
  · rw [current_finishClose] at hi
    rw [sessions_finishClose, owned_finishClose]
    split at hi
    · cases hi
    · exact h.current i hi
  · rw [current_finishClose] at hnone
    rw [owned_finishClose]
    split at hnone
    · assumption
    · exact h.none hnone

/-- **Letting go of an open session that is owned orphans it**, and no other. -/
theorem isOrphan_finishClose (h : t.WellHeld) :
    t.finishClose.IsOrphan i ↔
      t.IsOrphan i ∨ t.owned = true ∧ t.isOpen = true ∧ t.current = some i := by
  have hsame : t.finishClose.IsLive i ↔ t.IsLive i := by
    rw [IsLive, IsLive, sessions_finishClose]
  rw [IsOrphan, hsame, current_finishClose]
  cases howned : t.owned with
  | false => simp [IsOrphan]
  | true =>
    rw [if_pos rfl]
    constructor
    · rintro ⟨hlive, -⟩
      by_cases hcurrent : t.current = some i
      · obtain ⟨s, hs, -, hopen⟩ := hlive
        exact .inr ⟨rfl, isOpen_iff.2 ⟨i, s, hcurrent, hs, hopen⟩, hcurrent⟩
      · exact .inl ⟨hlive, hcurrent⟩
    · rintro (horphan | ⟨-, hopen, hcurrent⟩)
      · exact ⟨horphan.1, nofun⟩
      · exact ⟨h.isLive howned hopen hcurrent, nofun⟩

/-- What is owned and in use is not open once a close has begun. -/
theorem WellHeld.isOpen_beginClose (h : t.WellHeld) (howned : t.owned = true) :
    t.beginClose.isOpen = false := by
  by_contra hopen
  rw [Bool.not_eq_false] at hopen
  obtain ⟨i, -, hcurrent, -, -⟩ := isOpen_iff.1 hopen
  have hlive := h.beginClose.isLive (t.owned_beginClose.trans howned) hopen hcurrent
  exact (isLive_beginClose.1 hlive).2 ⟨howned, t.current_beginClose.symm.trans hcurrent⟩

/-- A close that nothing interrupts orphans no session. -/
theorem isOrphan_close (h : t.WellHeld) : t.close.IsOrphan i ↔ t.IsOrphan i := by
  rw [close, isOrphan_finishClose h.beginClose, isOrphan_beginClose, or_iff_left]
  -- Nothing comes between the two halves, so what is let go of is what was closed.
  rintro ⟨howned, hopen, -⟩
  rw [h.isOpen_beginClose (t.owned_beginClose.symm.trans howned)] at hopen
  cases hopen

/-- A close keeps the invariant. -/
theorem WellHeld.close (h : t.WellHeld) : t.close.WellHeld :=
  h.beginClose.finishClose

/-- After a close, the session in use is no live one. -/
theorem WellHeld.current_close_ne (h : t.WellHeld) (hlive : t.close.IsLive i) :
    t.close.current ≠ some i := by
  intro hcurrent
  obtain ⟨s, hs, hsupplied⟩ := h.close.current i hcurrent
  obtain ⟨s', hs', hmade, -⟩ := hlive
  obtain rfl : s = s' := Option.some.inj (hs.symm.trans hs')
  -- A session of its own is owned, and a close lets go of what is owned.
  rw [hmade, HttpTransport.close, owned_finishClose] at hsupplied
  rw [HttpTransport.close, current_finishClose, if_pos (by simpa using hsupplied.symm)] at hcurrent
  cases hcurrent

/-- **After a close, every live session is an orphan**: of what the transport can reach, nothing is
open. -/
theorem WellHeld.isLive_close_iff (h : t.WellHeld) : t.close.IsLive i ↔ t.IsOrphan i := by
  rw [← isOrphan_close h]
  exact ⟨fun hlive ↦ ⟨hlive, h.current_close_ne hlive⟩, fun horphan ↦ horphan.1⟩

/-- A close leaves supplied sessions as they are. -/
theorem WellHeld.getElem?_close (h : t.WellHeld) (hs : t.sessions[i]? = some s)
    (hsupplied : s.isSupplied = true) : t.close.sessions[i]? = some s := by
  rw [HttpTransport.close, sessions_finishClose, h.getElem?_beginClose hs hsupplied]

/-! ### Sessions that the caller closes

A caller may close what it supplied at any time. No live session is closed in this way, and so no
orphan appears or disappears.
-/

/-- The transport after the caller closed what it supplied. -/
def closeSupplied (t : HttpTransport) : HttpTransport :=
  { t with sessions := t.sessions.map fun s ↦ if s.isSupplied then s.closed else s }

/-- The caller closes the supplied session and no other. -/
theorem getElem?_closeSupplied (t : HttpTransport) (i : Nat) :
    t.closeSupplied.sessions[i]? =
      t.sessions[i]?.map fun s ↦ if s.isSupplied then s.closed else s :=
  List.getElem?_map

/-- The caller's closing keeps the invariant. -/
theorem WellHeld.closeSupplied (h : t.WellHeld) : t.closeSupplied.WellHeld := by
  refine ⟨fun i hi ↦ ?_, h.none⟩
  obtain ⟨s, hs, hsupplied⟩ := h.current i hi
  rw [getElem?_closeSupplied, hs]
  refine ⟨_, rfl, ?_⟩
  show (if s.isSupplied then s.closed else s).isSupplied = !t.owned
  split <;> exact hsupplied

/-- The caller's closing leaves live sessions alone, as those are not supplied. -/
theorem isLive_closeSupplied : t.closeSupplied.IsLive i ↔ t.IsLive i := by
  rw [IsLive, IsLive, getElem?_closeSupplied]
  constructor
  · rintro ⟨s, hs, hmade, hopen⟩
    obtain ⟨s', hs', rfl⟩ := Option.map_eq_some_iff.1 hs
    split at hopen
    · cases hopen
    · exact ⟨s', hs', by simpa using ‹¬ s'.isSupplied = true›, hopen⟩
  · rintro ⟨s, hs, hmade, hopen⟩
    exact ⟨s, by simp [hs, hmade], hmade, hopen⟩

/-- The caller's closing orphans no session. -/
theorem isOrphan_closeSupplied : t.closeSupplied.IsOrphan i ↔ t.IsOrphan i := by
  rw [IsOrphan, IsOrphan, isLive_closeSupplied]
  rfl

/-! ### Requests

A sending first opens its request: it asks for a session and then for credentials, and nothing is
posted if these are refused. The session stays in use even then.
-/

/-- A request opened: the session is there and the credentials were asked for, but nothing is posted
yet. -/
def openRequest (t : HttpTransport) (document : String) :
    Outcome HttpRequest × HttpTransport × List LogLine :=
  let (number, t, log) := t.ensureSession
  let (granted, credentials) := t.credentials.get false
  let t := { t with credentials }
  (granted.map fun grant ↦ t.request number grant document, t, log)

/-- A sending is the opening of a request, and then what comes of the request. -/
theorem send_eq (t : HttpTransport) (n : Network) (document : String) :
    t.send n document =
      match t.openRequest document with
      | (.error failure, t, log) => (⟨.error failure, log⟩, t, n)
      | (.ok r, t, log) =>
        let (reply, n) := n.post r
        let received := t.receive r.url reply
        (⟨received.outcome, log ++ received.log⟩, t, n) := by
  rw [send, openRequest]
  obtain ⟨number, t, log⟩ := t.ensureSession
  dsimp only
  obtain ⟨granted, credentials⟩ := t.credentials.get false
  cases granted <;> rfl

/-- Opening a request asks for a session and for credentials. -/
theorem openRequest_transport (t : HttpTransport) (document : String) :
    ∃ credentials, (t.openRequest document).2.1 = { t.ensureSession.2.1 with credentials } :=
  ⟨_, rfl⟩

/-- A request is opened in the session that is in use then. -/
theorem session_of_openRequest {document : String} {r : HttpRequest}
    (h : (t.openRequest document).1 = .ok r) :
    (t.openRequest document).2.1.current = some r.session := by
  have hgranted : (t.ensureSession.2.1.credentials.get false).1.map (fun grant ↦
      (t.openRequest document).2.1.request t.ensureSession.1 grant document) = .ok r := h
  obtain ⟨grant, -, rfl⟩ := map_eq_ok_iff.1 hgranted
  exact t.current_ensureSession

end HttpTransport

end CatalogQuery
