import CatalogQuery.Client
import CatalogQuery.Proofs.Attempt
import Mathlib.Data.List.Forall2

/-!
# Runs of a client

A client is called any number of times, in any order, over any transport. `Client.run` makes the
calls one after the other and records for each what the transport received in it and answered
(`Transport.recorded`), and what the call ended with; recording changes neither
(`Client.run_eq_answers`).

What a call may do is said once (`Client.Record.IsFaithful`): it sends its document if it has one
and nothing otherwise, and it ends as the reply to that document is read.
`Client.Call.make_faithful` is the step, `Client.run_faithful` the run. Nothing in a faithful record
refers to another call, so the calls of a run are isolated from each other (`Client.run_isolated`).

## Where the isolation comes from

A client keeps no state between calls. A call gets the state of the transport and gives it back, and
what it ends with depends on its own document and on what the transport answered to that document.
`Record.IsFaithful` says exactly this of one record, and it has no room for anything else: its
constructors mention the call, its document and its reply. So two faithful records of the same call
with the same reply end alike (`Record.IsFaithful.answer_eq`), in whatever runs they stand.

## What is recorded

Transports are arbitrary: they may keep a state, fail, or answer each time something else. The
record is made by a transport around the given one that writes down what passes through, so that
what was sent is observed and not read off the program.
-/

open CatalogQuery.Attempt

namespace CatalogQuery

namespace Client

/-! ### Calls -/

/-- A call of a client. -/
inductive Call where
  /-- A request is executed. -/
  | execute (r : Request)
  /-- A text is run. -/
  | runText (text : String)
  /-- A document that was made before is run. -/
  | runDocument (d : Document)

/-- What a call ends with. -/
inductive Answer where
  /-- A request ends with an entity. -/
  | entry (outcome : Outcome Entry)
  /-- A text ends with an envelope. -/
  | envelope (outcome : Outcome Envelope)

/-- A document that a transport received, and what it answered. -/
structure Sent where
  /-- The document. -/
  document : String
  /-- The body of the reply, or the failure of the transport. -/
  reply : Outcome (List UInt8)

namespace Call

/-- The document of a call. -/
def document : Call → Outcome String
  | .execute r => r.compile
  | .runText text => .ok text
  | .runDocument d => .ok d.text

/-- What a call ends with if its document cannot be made. -/
def refused : Call → Failure → Answer
  | .execute _, f => .entry (.error f)
  | .runText _, f | .runDocument _, f => .envelope (.error f)

/-- What a call ends with when its document is answered: a failure of the transport is its own, a
body is read as the answer to a request, or classified. -/
def answered : Call → Outcome (List UInt8) → Answer
  | .execute r, reply => .entry (reply >>= fun body ↦ decodeEntry body r.operation)
  | .runText _, reply | .runDocument _, reply => .envelope (reply >>= Envelope.parse)

end Call

section Run

variable {σ : Type}

/-- Makes one call. -/
def Call.make (t : Transport σ) : Call → σ → Answer × σ
  | .execute r, state =>
    let (exchange, state) := Client.execute t r state
    (.entry exchange.outcome, state)
  | .runText text, state =>
    let (exchange, state) := runQuery t text state
    (.envelope exchange.outcome, state)
  | .runDocument d, state =>
    let (exchange, state) := runQuery t d.text state
    (.envelope exchange.outcome, state)

/-- Makes calls one after the other. -/
def answers (t : Transport σ) : List Call → σ → List Answer × σ
  | [], state => ([], state)
  | c :: calls, state =>
    let (answer, state) := c.make t state
    let (more, state) := answers t calls state
    (answer :: more, state)

end Run

end Client

/-- A transport that also keeps what it received and answered, in order. -/
def Transport.recorded {σ : Type} (t : Transport σ) : Transport (σ × List Client.Sent) where
  send state document :=
    let (delivery, next) := t.send state.1 document
    (delivery, next, state.2 ++ [⟨document, delivery.outcome⟩])

namespace Client

/-- What came of one call. -/
structure Record where
  /-- The call. -/
  call : Call
  /-- What the transport received during the call and answered. -/
  sent : List Sent
  /-- What the call ended with. -/
  answer : Answer

/-- The documents that the transport received during the call. -/
def Record.documents (r : Record) : List String :=
  r.sent.map Sent.document

/-- What the transport answered during the call. -/
def Record.replies (r : Record) : List (Outcome (List UInt8)) :=
  r.sent.map Sent.reply

section Run

variable {σ : Type}

/-- Makes calls one after the other and records each of them. -/
def run (t : Transport σ) : List Call → σ → List Record × σ
  | [], state => ([], state)
  | c :: calls, state =>
    let (answer, state, sent) := c.make t.recorded (state, [])
    let (records, state) := run t calls state
    (⟨c, sent, answer⟩ :: records, state)

/-! ### One call -/

/-- A record of a call that sent its document once, if it has one, and ended as the reply is
read. -/
inductive Record.IsFaithful : Record → Prop
  /-- There is no document: nothing was sent. -/
  | refused {c : Call} {f : Failure} (document : c.document = .error f) :
      IsFaithful ⟨c, [], c.refused f⟩
  /-- The document was sent, and answered. -/
  | answered {c : Call} {text : String} {reply : Outcome (List UInt8)}
      (document : c.document = .ok text) :
      IsFaithful ⟨c, [⟨text, reply⟩], c.answered reply⟩

/-- The reply to a request is decoded; what is logged on the way does not matter. -/
theorem receive_fst (expected : RootField) (body : List UInt8) :
    (receive expected body).1 = decodeEntry body expected := by
  rw [receive, decodeEntry]
  cases Envelope.decode body expected <;> rfl

/-- A request sends its document and ends as the reply is decoded. -/
theorem perform_eq (t : Transport σ) (d : Document) (state : σ) :
    (perform t d state).1.outcome =
        ((t.send state d.text).1.outcome >>= fun body ↦ decodeEntry body d.operation) ∧
      (perform t d state).2 = (t.send state d.text).2 := by
  rw [perform]
  obtain ⟨⟨reply, log⟩, next⟩ := t.send state d.text
  cases reply with
  | error f => exact ⟨rfl, rfl⟩
  | ok body => exact ⟨receive_fst d.operation body, rfl⟩

/-- A text is sent as it is, and its run ends as the reply is read. -/
theorem runQuery_eq (t : Transport σ) (text : String) (state : σ) :
    (runQuery t text state).1.outcome = ((t.send state text).1.outcome >>= Envelope.parse) ∧
      (runQuery t text state).2 = (t.send state text).2 := by
  rw [runQuery, runLabeled]
  obtain ⟨⟨reply, log⟩, next⟩ := t.send state text
  cases reply <;> exact ⟨rfl, rfl⟩

/-- A call without a document ends before anything is sent. -/
theorem Call.make_of_error {c : Call} {f : Failure} (h : c.document = .error f) (t : Transport σ)
    (state : σ) : c.make t state = (c.refused f, state) := by
  cases c with
  | execute r =>
    have hcompile : r.compile = .error f := h
    rw [make, Client.execute, Request.build, hcompile]
    rfl
  | runText text => cases h
  | runDocument d => cases h

/-- A call with a document sends it and ends as the reply is read. -/
theorem Call.make_of_ok {c : Call} {text : String} (h : c.document = .ok text) (t : Transport σ)
    (state : σ) :
    c.make t state = (c.answered (t.send state text).1.outcome, (t.send state text).2) := by
  cases c with
  | execute r =>
    have hcompile : r.compile = .ok text := h
    obtain ⟨houtcome, hstate⟩ := perform_eq t ⟨text, r.operation⟩ state
    rw [make, Client.execute, Request.build, hcompile]
    exact Prod.ext (congrArg Answer.entry houtcome) hstate
  | runText text =>
    cases h
    obtain ⟨houtcome, hstate⟩ := runQuery_eq t text state
    exact Prod.ext (congrArg Answer.envelope houtcome) hstate
  | runDocument d =>
    cases h
    obtain ⟨houtcome, hstate⟩ := runQuery_eq t d.text state
    exact Prod.ext (congrArg Answer.envelope houtcome) hstate

/-- **One call, one request.** -/
theorem Call.make_faithful (c : Call) (t : Transport σ) (state : σ) :
    Record.IsFaithful ⟨c, (c.make t.recorded (state, [])).2.2,
      (c.make t.recorded (state, [])).1⟩ := by
  rcases hdocument : c.document with f | text
  · rw [make_of_error hdocument]
    exact .refused hdocument
  · rw [make_of_ok hdocument]
    exact .answered hdocument

/-- Recording changes neither the answer of a call nor the state of the transport. -/
theorem Call.make_recorded (c : Call) (t : Transport σ) (state : σ) (sent : List Sent) :
    (c.make t.recorded (state, sent)).1 = (c.make t state).1 ∧
      (c.make t.recorded (state, sent)).2.1 = (c.make t state).2 := by
  rcases hdocument : c.document with f | text
  · rw [make_of_error hdocument, make_of_error hdocument]
    exact ⟨rfl, rfl⟩
  · rw [make_of_ok hdocument, make_of_ok hdocument]
    exact ⟨rfl, rfl⟩

/-! ### Whole runs -/

/-- A run makes its first call and goes on from the state that is left. -/
theorem run_cons (t : Transport σ) (c : Call) (calls : List Call) (state : σ) :
    run t (c :: calls) state =
      (⟨c, (c.make t.recorded (state, [])).2.2, (c.make t.recorded (state, [])).1⟩ ::
          (run t calls (c.make t state).2).1,
        (run t calls (c.make t state).2).2) := by
  rw [← (c.make_recorded t state []).2]
  rfl

/-- Calls end one after the other, each from the state that is left. -/
theorem answers_cons (t : Transport σ) (c : Call) (calls : List Call) (state : σ) :
    answers t (c :: calls) state =
      ((c.make t state).1 :: (answers t calls (c.make t state).2).1,
        (answers t calls (c.make t state).2).2) :=
  rfl

/-- The calls of a run end as they do without a record, and leave the transport in the same
state. -/
theorem run_eq_answers (t : Transport σ) (calls : List Call) (state : σ) :
    ((run t calls state).1.map Record.answer, (run t calls state).2) = answers t calls state := by
  induction calls generalizing state with
  | nil => rfl
  | cons c calls ih =>
    rw [run_cons, answers_cons, ← ih (c.make t state).2, List.map_cons,
      (c.make_recorded t state []).1]

/-- **Every call of a run is recorded faithfully.** -/
theorem run_faithful (t : Transport σ) (calls : List Call) (state : σ) :
    List.Forall₂ (fun c r ↦ r.call = c ∧ r.IsFaithful) calls (run t calls state).1 := by
  induction calls generalizing state with
  | nil => exact .nil
  | cons c calls ih =>
    rw [run_cons]
    exact .cons ⟨rfl, c.make_faithful t state⟩ (ih _)

end Run

/-! ### Isolation -/

namespace Record.IsFaithful

variable {r r' : Record}

/-- A faithful record holds the document of its call, if there is one. -/
theorem documents_eq (h : r.IsFaithful) : r.documents = r.call.document.toOption.toList := by
  cases h with
  | refused document => simp [Record.documents, document, Except.toOption]
  | answered document => simp [Record.documents, document, Except.toOption]

/-- Calls that are the same and are answered alike end alike. -/
theorem answer_eq (h : r.IsFaithful) (h' : r'.IsFaithful) (hcall : r.call = r'.call)
    (hreplies : r.replies = r'.replies) : r.answer = r'.answer := by
  cases h with
  | refused document =>
    cases h' with
    | refused document' =>
      cases hcall
      cases document.symm.trans document'
      rfl
    | answered document' => cases hreplies
  | answered document =>
    cases h' with
    | refused document' => cases hreplies
    | answered document' =>
      cases hcall
      cases hreplies
      rfl

end Record.IsFaithful

section Run

variable {σ : Type}

/-- The documents that a transport receives are those of the calls that have one, in order. -/
theorem run_documents (t : Transport σ) (calls : List Call) (state : σ) :
    (run t calls state).1.flatMap Record.documents =
    calls.filterMap fun c ↦ c.document.toOption := by
  -- That the records are faithful is all that is needed of the run.
  have hrun := run_faithful t calls state
  generalize (run t calls state).1 = records at hrun ⊢
  induction hrun with
  | nil => rfl
  | @cons c r calls records hr _ ih =>
    obtain ⟨rfl, hfaithful⟩ := hr
    rw [List.flatMap_cons, ih, hfaithful.documents_eq, List.filterMap_cons]
    cases r.call.document <;> rfl

/-- The record at a place belongs to the call at that place, and is faithful. -/
theorem run_getElem? (t : Transport σ) (calls : List Call) (state : σ) (j : Nat) :
    (calls[j]? = none ∧ (run t calls state).1[j]? = none) ∨
      ∃ r, calls[j]? = some r.call ∧ (run t calls state).1[j]? = some r ∧ r.IsFaithful := by
  have hrun := run_faithful t calls state
  generalize (run t calls state).1 = records at hrun ⊢
  induction hrun generalizing j with
  | nil => exact .inl ⟨rfl, rfl⟩
  | cons hr _ ih =>
    cases j with
    | zero => exact .inr ⟨_, congrArg some hr.1.symm, rfl, hr.2⟩
    | succ j => exact ih j

/-- **One call, one request, and no cross-talk.** Over any transport, calls end as they do without a
record. The documents that the transport receives are those of the calls whose document can be made,
one for each and in order. Every call ends as the reply to its own document is read: `Call.answered`
for what the transport answered, `Call.refused` where there is no document. And a call does not show
in another: whatever stands in its place, over any transport, each other call has the same document,
and ends alike if it is answered alike. -/
theorem run_isolated (t : Transport σ) (calls : List Call) (state : σ) :
    (run t calls state).1.map Record.answer = (answers t calls state).1 ∧
      (run t calls state).1.flatMap Record.documents =
        calls.filterMap (fun c ↦ c.document.toOption) ∧
      List.Forall₂ (fun c r ↦ r.call = c ∧ r.IsFaithful) calls (run t calls state).1 ∧
      ∀ (σ' : Type) (t' : Transport σ') (state' : σ') (i j : Nat) (c : Call), j ≠ i →
        let r := (run t calls state).1[j]?
        let r' := (run t' (calls.set i c) state').1[j]?
        r.map Record.documents = r'.map Record.documents ∧
          (r.map Record.replies = r'.map Record.replies →
            r.map Record.answer = r'.map Record.answer) := by
  refine ⟨congrArg Prod.fst (run_eq_answers t calls state), run_documents t calls state,
    run_faithful t calls state, fun σ' t' state' i j c hne ↦ ?_⟩
  -- The call at `j` is the same in both runs, and its two records are faithful to it.
  have hsame : (calls.set i c)[j]? = calls[j]? := List.getElem?_set_ne hne.symm
  rcases run_getElem? t calls state j with ⟨hnone, hr⟩ | ⟨r, hcall, hr, hfaithful⟩
  · rcases run_getElem? t' (calls.set i c) state' j with ⟨-, hr'⟩ | ⟨r', hcall', -, -⟩
    · rw [hr, hr']
      exact ⟨rfl, fun _ ↦ rfl⟩
    · exact nomatch (hsame.trans hnone).symm.trans hcall'
  · rcases run_getElem? t' (calls.set i c) state' j with ⟨hnone, -⟩ | ⟨r', hcall', hr', hfaithful'⟩
    · exact nomatch (hsame.trans hcall).symm.trans hnone
    · have heq : r.call = r'.call := Option.some.inj (hcall.symm.trans (hsame.symm.trans hcall'))
      rw [hr, hr']
      refine ⟨?_, fun hreplies ↦ ?_⟩
      · rw [Option.map_some, Option.map_some, hfaithful.documents_eq, hfaithful'.documents_eq, heq]
      · exact congrArg some (hfaithful.answer_eq hfaithful' heq (Option.some.inj hreplies))

end Run

end Client

end CatalogQuery
