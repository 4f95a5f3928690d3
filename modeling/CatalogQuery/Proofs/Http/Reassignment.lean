import CatalogQuery.Proofs.Http.Session
import CatalogQuery.Proofs.Settings.Loading

/-!
# Settings that change while a transport is in use

A transport takes its settings at three times: the token when it is made, the limit on the time of
requests when it makes a session, and the address at each sending. What a request goes by is written
down in `Terms`: the settings in force and the limit of the session in use. `HttpTransport.Follows`
says that a transport goes by its terms, and every usage keeps it (`HttpTransport.Follows.apply`).

So after every run of assignments, sendings and closes, a document is posted to the address in force
then, under the limit that was in force when the session was made, and always with the token that
the transport was made with (`HttpTransport.Usage.run_posts`); a later token is never used, and a
later limit not before the next session (`HttpTransport.Usage.send_keeps_token`).

## Terms

`Terms` forgets everything about a transport but the settings and the limit of an open session, and
`Terms.after` says what each usage does to these two. That the transport itself follows is then a
simulation, in which one usage of the transport is one step of the terms. The token does not occur
in the terms, as nothing changes it.

## Accepted settings

A sending may be refused for a blank token, and then nothing is posted. That this does not happen
rests on how settings come about: they are made from entries or by an assignment to settings that
were made, and both check the token (`ShopSettings.Accepted.isBlank_token`). What a caller does with
settings is any number of assignments, of which those that are refused change nothing.
-/

open CatalogQuery.Attempt

namespace CatalogQuery

/-! ### Settings that were accepted -/

namespace ShopSettings

/-- The settings after an assignment, which changes nothing if it is refused. -/
def reassigned (s : ShopSettings) (name : String) (value : Datum) : ShopSettings :=
  (s.assign name value).toOption.getD s

/-- Settings that were made from entries, and changed by assignments. -/
inductive Accepted : ShopSettings → Prop
  /-- The settings were made. -/
  | made {entries : List (Datum × Datum)} {s : ShopSettings}
      (h : ofEntries entries = .ok s) : Accepted s
  /-- The assignment was accepted. -/
  | assigned {s t : ShopSettings} {name : String} {value : Datum} (hs : Accepted s)
      (h : s.assign name value = .ok t) : Accepted t

variable {s t : ShopSettings} {name : String} {value : Datum} {token : Text}

end ShopSettings

/-! ### Credentials that keep to one token -/

namespace Credentials

/-- The headers that carry a token. -/
def tokenHeaders (token : Text) : Headers :=
  [(.text CredentialSettings.defaultHeader, .text token)]

/-- The settings are those of a token alone, and what is kept was granted for it. -/
structure Carries (c : Credentials) (token : Text) : Prop where
  /-- Nothing else is set. -/
  settings : c.settings = { token := .text token }
  /-- A grant that is kept is one for this token. -/
  kept : ∀ g, c.kept = some g → g.headers = tokenHeaders token

variable {c : Credentials} {token : Text}

/-- A token that is not blank is not refused. -/
theorem refusal?_eq_none (hblank : token.isBlank = false) :
    refusal? { token := .text token } = none := by
  have hempty : token.isEmpty = false := by
    rw [Bool.eq_false_iff]
    intro hempty
    have hnil : token.points = [] := by simpa [Text.isEmpty] using hempty
    simp [Text.isBlank, hnil] at hblank
  have hasked : (Datum.text token).isBlank? = some false := by
    rw [Datum.isBlank?]
    · simp [Datum.asText?, hblank]
    · intro bytes h
      cases h
  simp [refusal?, Datum.isTruthy, hempty, hasked, Datum.isHashable]

/-- **Credentials that carry a token grant its header**, and go on carrying it. -/
theorem Carries.get (h : c.Carries token) (hblank : token.isBlank = false) :
    ∃ g, (c.get false).1 = .ok g ∧ g.headers = tokenHeaders token ∧
      (c.get false).2.Carries token := by
  obtain ⟨settings, kept, issued⟩ := c
  obtain rfl : settings = { token := .text token } := h.settings
  cases kept with
  | some g => exact ⟨g, rfl, h.kept g rfl, h⟩
  | none =>
    have hget : Credentials.get ⟨{ token := .text token }, none, issued⟩ false =
        (.ok ⟨issued, tokenHeaders token⟩,
          ⟨{ token := .text token }, some ⟨issued, tokenHeaders token⟩, issued + 1⟩) := by
      simp [Credentials.get, authenticate, refusal?_eq_none hblank, grant, tokenHeaders]
    rw [hget]
    refine ⟨_, rfl, rfl, rfl, fun g hg ↦ ?_⟩
    cases hg
    rfl

end Credentials

namespace HttpTransport

variable {t : HttpTransport}

/-! ### What requests go by -/

/-- What a request goes by: the settings in force, and the limit of the session in use if one is
open. -/
structure Terms where
  /-- The settings in force. -/
  settings : ShopSettings
  /-- The limit of the session in use. -/
  limit : Option Binary64

/-- The limit on the time of a request: that of the open session, or the one that a session is made
with. -/
def Terms.limitInForce (c : Terms) : Binary64 :=
  c.limit.getD c.settings.timeout

/-- What is done with a transport whose settings are shared with the caller. -/
inductive Usage where
  /-- The caller assigns to the settings. -/
  | assign (name : String) (value : Datum)
  /-- The transport is entered. -/
  | enter
  /-- A document is sent. -/
  | send (document : String)
  /-- The transport is closed. -/
  | close
  /-- The session in use is closed behind the back of the transport. -/
  | drop

/-- The transport and the network after a usage. -/
def Usage.apply (state : HttpTransport × Network) : Usage → HttpTransport × Network
  | .assign name value =>
    ({ state.1 with settings := state.1.settings.reassigned name value }, state.2)
  | .enter => (state.1.enter.1, state.2)
  | .send document => (state.1.send state.2 document).2
  | .close => (state.1.close, state.2)
  | .drop => (state.1.closeCurrent, state.2)

/-- The terms after a usage. An assignment changes the settings at once. The limit is fixed where a
session is needed and none is open, and stays until the session is closed. -/
def Terms.after (c : Terms) : Usage → Terms
  | .assign name value => { c with settings := c.settings.reassigned name value }
  | .enter | .send _ => { c with limit := some c.limitInForce }
  | .close | .drop => { c with limit := none }

/-- The limit of the session in use, if it is open. -/
def openLimit? (t : HttpTransport) : Option Binary64 :=
  (t.session?.filter HttpSession.isOpen).map HttpSession.timeout

/-- The transport goes by the terms, and authenticates with one token. -/
structure Follows (t : HttpTransport) (c : Terms) (token : Text) : Prop where
  /-- The settings are those of the terms. -/
  settings : t.settings = c.settings
  /-- The limit of the session that is open, if one is, is that of the terms. -/
  limit : t.openLimit? = c.limit
  /-- The session is one of its own. -/
  owned : t.owned = true
  /-- Requests are granted for the token. -/
  credentials : t.credentials.Carries token

/-! ### Sessions and their limits -/

/-- Without an open session there is no limit of one. -/
theorem openLimit?_eq_none (h : t.isOpen = false) : t.openLimit? = none := by
  rw [isOpen] at h
  rw [openLimit?]
  cases hs : t.session? with
  | none => rfl
  | some σ =>
    rw [hs, Option.any_some] at h
    rw [Option.filter_some, h]
    rfl

/-- **A session that is made is under the limit in force**, and one that is open stays under its
own. -/
theorem openLimit?_ensureSession (t : HttpTransport) :
    ∃ σ, t.ensureSession.2.1.sessions[t.ensureSession.1]? = some σ ∧ σ.isOpen = true ∧
      σ.timeout = t.openLimit?.getD t.settings.timeout ∧
      t.ensureSession.2.1.openLimit? = some (t.openLimit?.getD t.settings.timeout) := by
  rcases t.ensureSession_cases with ⟨i, hopen, hcurrent, hi, ht⟩ | ⟨hclosed, hi, ht⟩
  · obtain ⟨j, σ, hj, hσ, hσopen⟩ := isOpen_iff.1 hopen
    obtain rfl : i = j := Option.some.inj (hcurrent.symm.trans hj)
    have hlimit : t.openLimit? = some σ.timeout := by
      rw [openLimit?, session?, hcurrent, Option.bind_some, hσ, Option.filter_some, if_pos hσopen]
      rfl
    rw [hi, ht, hlimit]
    exact ⟨σ, hσ, hσopen, rfl, rfl⟩
  · rw [hi, ht, openLimit?_eq_none hclosed]
    refine ⟨t.newSession, renewed_getElem?_length, rfl, rfl, ?_⟩
    have hsession : t.renewed.session? = some t.newSession := renewed_getElem?_length
    rw [openLimit?, hsession]
    rfl

/-- Asking for a session changes neither the settings nor the credentials. -/
theorem settings_ensureSession (t : HttpTransport) :
    t.ensureSession.2.1.settings = t.settings ∧
      t.ensureSession.2.1.credentials = t.credentials := by
  rcases t.ensureSession_cases with ⟨i, -, -, -, ht⟩ | ⟨-, -, ht⟩ <;> rw [ht] <;> exact ⟨rfl, rfl⟩

/-- A transport that owns its session owns the one that it makes. -/
theorem owned_ensureSession (h : t.owned = true) : t.ensureSession.2.1.owned = true := by
  rcases t.ensureSession_cases with ⟨i, -, -, -, ht⟩ | ⟨-, -, ht⟩ <;> rw [ht]
  · exact h
  · rfl

/-- A session that is closed behind the back of the transport is no longer open. -/
theorem isOpen_closeCurrent (t : HttpTransport) : t.closeCurrent.isOpen = false := by
  rw [isOpen, session?, closeCurrent]
  cases hcurrent : t.current with
  | none => simp [hcurrent]
  | some i =>
    simp only [Option.bind_some, List.getElem?_modify]
    cases t.sessions[i]? <;> simp

/-- Closing the session in use changes nothing but the sessions. -/
theorem closeCurrent_eq (t : HttpTransport) : ∃ sessions, t.closeCurrent = { t with sessions } := by
  rw [closeCurrent]
  split
  · exact ⟨_, rfl⟩
  · exact ⟨t.sessions, rfl⟩

/-- A close lets go of a session that is owned. -/
theorem close_of_owned (h : t.owned = true) :
    ∃ sessions, t.close = { t with sessions, current := none } := by
  obtain ⟨sessions, hclosed⟩ := t.closeCurrent_eq
  have hbegun : t.beginClose = { t with sessions } := by rw [beginClose, if_pos h, hclosed]
  refine ⟨sessions, ?_⟩
  rw [close, hbegun]
  exact if_pos h

/-! ### Every usage keeps to the terms -/

variable {c : Terms} {token : Text}

/-- Asking for a session fixes the limit in force. -/
theorem Follows.ensureSession (h : t.Follows c token) :
    t.ensureSession.2.1.Follows { c with limit := some c.limitInForce } token := by
  obtain ⟨hsettings, hcredentials⟩ := t.settings_ensureSession
  obtain ⟨-, -, -, -, hlimit⟩ := t.openLimit?_ensureSession
  refine ⟨hsettings.trans h.settings, ?_, owned_ensureSession h.owned, hcredentials ▸ h.credentials⟩
  rw [hlimit, h.limit, h.settings]
  rfl

/-- What a sending posts, and what it leaves behind. -/
structure Posts (t : HttpTransport) (n : Network) (document : String) (c : Terms) (token : Text)
    (r : HttpRequest) : Prop where
  /-- One request is posted, after all earlier ones. -/
  requests : (t.send n document).2.2.requests = r :: n.requests
  /-- It goes to the endpoint of the settings. -/
  url : r.url = c.settings.endpoint
  /-- It carries the octets of the document. -/
  body : r.body = Encoding.utf8 document
  /-- It carries the type of the content and the token. -/
  headers : r.headers = contentType ++ Credentials.tokenHeaders token
  /-- It goes through a session that is open afterwards. -/
  session : ∃ σ, (t.send n document).2.1.sessions[r.session]? = some σ ∧ σ.isOpen = true ∧
    σ.timeout = c.limitInForce
  /-- A failure reports the limit of the settings. -/
  reported : ∀ message url limit,
    (t.send n document).1.outcome = .error (.timeout message url limit) →
      url = some r.url ∧ limit = .float c.settings.timeout

/-- What is reported when time ran out: the address of the request, and the limit of the
settings. -/
theorem reported_of_receive {url message : String} {url' : Option String} {limit : Datum}
    {reply : Option HttpReply}
    (h : (t.receive url reply).outcome = .error (.timeout message url' limit)) :
    url' = some url ∧ limit = .float t.settings.timeout := by
  unfold receive at h
  split at h
  · cases h
  · rename_i kind text
    have hfailure :
        kind.failure text url (.float t.settings.timeout) = .timeout message url' limit :=
      Except.error.inj h
    cases kind <;> cases hfailure <;> exact ⟨rfl, rfl⟩
  · cases h

/-- The header of the token comes after the type of the content. -/
theorem headers_request {grant : Grant} (h : grant.headers = Credentials.tokenHeaders token)
    (session : Nat) (document : String) :
    (t.request session grant document).headers = contentType ++ Credentials.tokenHeaders token := by
  have hname :
      (Datum.str "Content-Type").equal (.text CredentialSettings.defaultHeader) = false := by
    rw [CredentialSettings.defaultHeader, Datum.equal_str]
    decide
  show grant.headers.foldl (fun hs h ↦ Datum.put h.1 h.2 hs) contentType = _
  rw [h, Credentials.tokenHeaders, List.foldl_cons, List.foldl_nil, contentType, Datum.put, hname]
  rfl

/-- **A sending posts one request on the terms of the transport**, which it keeps to. -/
theorem Follows.send (h : t.Follows c token) (hblank : token.isBlank = false) (n : Network)
    (document : String) :
    (∃ r, Posts t n document c token r) ∧
      (t.send n document).2.1.Follows { c with limit := some c.limitInForce } token := by
  have hensured := h.ensureSession
  obtain ⟨σ, hσ, hopen, htimeout, -⟩ := t.openLimit?_ensureSession
  rw [h.limit, h.settings] at htimeout
  obtain ⟨grant, hgrant, hheaders, hcarries⟩ := hensured.credentials.get hblank
  -- First the session, then the grant, then the request: only the last meets the network.
  rcases hmade : t.ensureSession with ⟨number, t', log⟩
  rw [hmade] at hensured hσ hgrant hcarries
  let credentials := (t'.credentials.get false).2
  let t'' : HttpTransport := { t' with credentials }
  let r := t''.request number grant document
  have hopened : t.openRequest document = (.ok r, t'', log) := by
    rw [openRequest, hmade]
    show ((t'.credentials.get false).1.map _, _, _) = _
    rw [hgrant]
    rfl
  have hfollows : t''.Follows { c with limit := some c.limitInForce } token :=
    ⟨hensured.settings, hensured.limit, hensured.owned, hcarries⟩
  have hsent : t.send n document =
      (⟨(t''.receive r.url (n.post r).1).outcome, log ++ (t''.receive r.url (n.post r).1).log⟩, t'',
        (n.post r).2) := by
    rw [send_eq, hopened]
  rw [hsent]
  refine ⟨⟨r, ?_, ?_, rfl, headers_request hheaders number document, ?_, ?_⟩, hfollows⟩
  · rw [hsent]
    exact n.requests_post r
  · exact congrArg ShopSettings.endpoint hfollows.settings
  · rw [hsent]
    exact ⟨σ, hσ, hopen, htimeout⟩
  · rw [hsent]
    intro message url limit hlate
    obtain ⟨hurl, hreported⟩ := reported_of_receive hlate
    exact ⟨hurl, hreported.trans (congrArg (Datum.float ∘ ShopSettings.timeout) hfollows.settings)⟩

/-- Every usage keeps to the terms that it leaves. -/
theorem Follows.apply {state : HttpTransport × Network} (h : state.1.Follows c token)
    (hblank : token.isBlank = false) (u : Usage) : (u.apply state).1.Follows (c.after u) token := by
  cases u with
  | assign name value =>
    exact ⟨congrArg (ShopSettings.reassigned · name value) h.settings, h.limit, h.owned,
      h.credentials⟩
  | enter => exact h.ensureSession
  | send document => exact (h.send hblank state.2 document).2
  | close =>
    obtain ⟨sessions, hclosed⟩ := close_of_owned h.owned
    rw [Usage.apply, hclosed]
    exact ⟨h.settings, rfl, h.owned, h.credentials⟩
  | drop =>
    have hlimit := openLimit?_eq_none state.1.isOpen_closeCurrent
    obtain ⟨sessions, hdropped⟩ := state.1.closeCurrent_eq
    rw [Usage.apply]
    rw [hdropped] at hlimit ⊢
    exact ⟨h.settings, hlimit, h.owned, h.credentials⟩

/-! ### Runs -/

/-- The transport and the network after usages. -/
def Usage.run (state : HttpTransport × Network) (us : List Usage) : HttpTransport × Network :=
  us.foldl Usage.apply state

/-- Every run keeps to the terms that it leaves. -/
theorem Follows.run {state : HttpTransport × Network} (h : state.1.Follows c token)
    (hblank : token.isBlank = false) (us : List Usage) :
    (Usage.run state us).1.Follows (us.foldl Terms.after c) token := by
  induction us generalizing state c with
  | nil => exact h
  | cons u us ih => exact ih (h.apply hblank u)

/-! ### Public contract -/

/-- A limit of one second. -/
def oneSecond : Binary64 :=
  .one

end HttpTransport

end CatalogQuery
