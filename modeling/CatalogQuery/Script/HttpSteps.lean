import CatalogQuery.Http.Transport

/-!
# Steps on a transport over HTTP

A script that enters and leaves a transport, or a client that made one, sends documents through it,
and closes its session behind its back. Each step reports what it came to, the requests it posted
and the sessions it made.
-/

namespace CatalogQuery.Script

/-- A step on a transport. -/
inductive HttpStep where
  /-- Enters the transport. -/
  | enter
  /-- Leaves the transport or closes it. -/
  | close
  /-- Closes the session in use without the knowledge of the transport. -/
  | drop
  /-- Sends a document. -/
  | send (document : String)
  /-- Sends a document and classifies the reply. -/
  | runQuery (document : String)

/-- What a step on a transport gives. -/
inductive HttpResult where
  | nothing
  | entered
  | body (b : HttpBody)
  | envelope (e : Envelope)

/-- What a step on a transport reports. -/
structure HttpReport where
  /-- The outcome. -/
  outcome : Outcome HttpResult
  /-- The lines that were logged. -/
  log : List LogLine
  /-- The transport after the step. -/
  transport : HttpTransport
  /-- The sessions that the step made. -/
  created : List HttpSession
  /-- The requests that the step posted. -/
  requests : List HttpRequest

/-- Runs a step on a transport; only a client, which owns one, classifies replies. -/
def HttpStep.run (byClient : Bool) (step : HttpStep) (t : HttpTransport) (n : Network) :
    Outcome HttpResult × List LogLine × HttpTransport × Network :=
  match step with
  | .enter =>
    let (t, log) := t.enter
    (.ok .entered, log, t, n)
  | .close => (.ok .nothing, [], t.close, n)
  | .drop =>
    match t.current with
    | some _ => (.ok .nothing, [], t.closeCurrent, n)
    | none => (Outcome.fault .noSuchAttribute, [], t, n)
  | .send document =>
    let (s, t, n) := t.send n document
    (s.outcome.map .body, s.log, t, n)
  | .runQuery document =>
    if byClient then
      let (exchange, t, n) := Client.runQuery HttpTransport.transport document (t, n)
      (exchange.outcome.map .envelope, exchange.log, t, n)
    else (Outcome.fault .noSuchAttribute, [], t, n)

/-- Runs steps on a transport in order; a failure does not stop the others. -/
def runHttp (byClient : Bool) : List HttpStep → HttpTransport → Network → List HttpReport
  | [], _, _ => []
  | step :: steps, t, n =>
    let (outcome, log, after, m) := step.run byClient t { n with requests := [] }
    { outcome, log, transport := after
      created := after.sessions.drop t.sessions.length
      requests := m.requests.reverse } :: runHttp byClient steps after m

end CatalogQuery.Script
