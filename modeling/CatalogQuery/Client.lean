import CatalogQuery.Document
import CatalogQuery.Entities

/-!
# Clients

A client makes the document of a request, sends it once, classifies the reply and builds its entity.
Nothing is sent when the document cannot be made, nothing is sent twice, and a failure of any stage
is the outcome of the call.

A transport is anything that takes a document and answers a body or a failure, with a state of its
own. `Client.execute` and `Client.runQuery` pass that state through; they keep none themselves.
-/

namespace CatalogQuery

/-- What came of sending a document. -/
structure Delivery where
  /-- The body of the reply, or the failure of the network. -/
  outcome : Outcome (List UInt8)
  /-- What the transport reported. -/
  log : List LogLine := []

/-- A way to send documents, with a state of type `σ`. -/
structure Transport (σ : Type) where
  /-- Sends one document. -/
  send : σ → String → Delivery × σ

/-- What came of one call of a client. -/
structure Exchange (α : Type) where
  /-- The documents that were sent. -/
  sent : List String
  /-- The outcome of the call. -/
  outcome : Outcome α
  /-- What was reported. -/
  log : List LogLine

/-- What is reported of a document that was made. -/
def Document.compileLog (d : Document) : List LogLine :=
  [⟨LogLine.compiler, .debug,
    "Compiled " ++ Vocabulary.wire d.operation ++ " document (" ++ Nat.repr d.text.length ++
      " chars)"⟩]

namespace Client

variable {σ : Type}

/-- Classifies and builds what was delivered for a document that expects `expected`. -/
def receive (expected : RootField) (body : List UInt8) : Outcome Entry × List LogLine :=
  let parsed := Envelope.parse body
  let log := Envelope.decodeLog expected parsed
  match Envelope.decode body expected with
  | .error failure => (.error failure, log)
  | .ok s => (s.materialize, log ++ s.materializeLog)

/-- Sends a document that was made, and answers it. -/
def perform (t : Transport σ) (d : Document) (state : σ) : Exchange Entry × σ :=
  let executing : LogLine :=
    ⟨LogLine.client, .debug, "Executing " ++ Vocabulary.wire d.operation ++ ": " ++ d.text⟩
  let (delivery, state) := t.send state d.text
  let sent := d.compileLog ++ [executing] ++ delivery.log
  match delivery.outcome with
  | .error failure => (⟨[d.text], .error failure, sent⟩, state)
  | .ok body =>
    let (outcome, received) := receive d.operation body
    (⟨[d.text], outcome, sent ++ received⟩, state)

/-- Sends the document that was made, if one was, and answers it. -/
def performMade (t : Transport σ) (made : Outcome Document) (state : σ) : Exchange Entry × σ :=
  match made with
  | .error failure => (⟨[], .error failure, []⟩, state)
  | .ok d => perform t d state

/-- Makes, sends and answers one request. -/
def execute (t : Transport σ) (r : Request) (state : σ) : Exchange Entry × σ :=
  performMade t r.build state

/-- Sends a given document and classifies the reply, whatever its shape; `label` is what is reported
as the document. -/
def runLabeled (t : Transport σ) (label text : String) (state : σ) : Exchange Envelope × σ :=
  let running : LogLine := ⟨LogLine.client, .debug, "Running query: " ++ label⟩
  let (delivery, state) := t.send state text
  let sent := [running] ++ delivery.log
  match delivery.outcome with
  | .error failure => (⟨[text], .error failure, sent⟩, state)
  | .ok body =>
    let parsed := Envelope.parse body
    (⟨[text], parsed, sent ++ Envelope.parseLog parsed⟩, state)

/-- Sends a given document and classifies the reply, whatever its shape. -/
def runQuery (t : Transport σ) (text : String) (state : σ) : Exchange Envelope × σ :=
  runLabeled t text text state

end Client

/-- A transport that answers each document with the next of the given deliveries, and fails once
none is left. -/
def Transport.scripted : Transport (List Delivery) where
  send
    | [], _ => (⟨Outcome.fault .outOfRange, []⟩, [])
    | d :: rest, _ => (d, rest)

end CatalogQuery
