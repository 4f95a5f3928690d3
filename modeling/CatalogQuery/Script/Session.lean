import CatalogQuery.Client
import CatalogQuery.Script.Embedding
import CatalogQuery.Script.Step

/-!
# Scripts that talk to a shop

A session is a script with a client: besides the steps of a script it can execute a stored request,
send a document as it stands, and enter the client. Each step reports the documents that it sent and
the lines that it logged. The transport is a parameter; its state goes from step to step.
-/

namespace CatalogQuery.Script

/-- What a step of a session does. -/
inductive SessionAction where
  /-- A step of a script. -/
  | script (action : Action)
  /-- Executes the stored request of this name; a request may also be asked to execute itself. -/
  | execute (request : String) (itself : Bool)
  /-- Sends a document, given as text or by the name of a stored result. -/
  | runQuery (document : Argument)
  /-- Enters the client and leaves it. -/
  | enter

/-- A step of a session with the name that its result is stored under. -/
structure SessionStep where
  /-- What the step does. -/
  action : SessionAction
  /-- The name of the result. -/
  storeAs : Option String := none

/-- What the action of a step comes to. -/
structure Report (α : Type) where
  /-- The outcome. -/
  result : StepResult α
  /-- The documents that were sent. -/
  sent : List String := []
  /-- The lines that were logged. -/
  log : List LogLine := []

/-! ### Documents of a session -/

/-- The value that a step of a script asks for its document, if it does. -/
def Action.source (action : Action) (s : Store) : StepResult (Option Value) :=
  match action.deed with
  | .method target name =>
    if name = "compile" || name = "build" then do return some (← resolveTarget s target).1
    else return none
  | .make "compile_document" => do
    let (a, _) ← resolveAll s action.positional action.named
    return (a.one "builder").toOption
  | _ => return none

/-- What a successful step of a script reports: the document that it made, if it made one. -/
def Action.log (action : Action) (s : Store) : List LogLine :=
  match action.source s with
  | .ok (some v) =>
    match v.document with
    | .ok d => d.compileLog
    | .error _ => []
  | _ => []

namespace Value

/-- The text of the document that a value is, or the value itself. -/
def documentPart : Value → Value
  | .object _ .document (text :: _) => text
  | v => v

/-- The text that is reported as a document. -/
def documentLabel (v : Value) : String :=
  v.documentPart.toDatum.plain.toString

/-- The text that is sent for a document; for a word it is the wire form. -/
def documentText (v : Value) : String :=
  match v.documentPart.word? with
  | some w => w.wire
  | none => v.documentLabel

/-- A value that can be asked to execute itself. -/
def executesItself (v : Value) : Bool :=
  match v.class? with
  | some (.query _) | some .bulk => true
  | _ => false

end Value

/-! ### Running steps -/

/-- What an exchange comes to, with its outcome as a value. -/
def Report.ofExchange {α : Type} (wrap : α → Value) (s : Store) (e : Exchange α) :
    Report (Value × Store) :=
  ⟨ofOutcome (e.outcome.map fun a ↦ (wrap a, s)), e.sent, e.log⟩

section Session

variable {σ : Type} (t : Transport σ)

/-- Executes a value. -/
def executeValue (itself : Bool) (v : Value) (s : Store) (state : σ) :
    Report (Value × Store) × σ :=
  if itself && !v.executesItself then ({ result := ofOutcome noSuchAttribute }, state)
  else
    let (exchange, state) := Client.performMade t v.document state
    (Report.ofExchange .ofEntry s exchange, state)

/-- Runs the action of a session. -/
def SessionAction.run (action : SessionAction) (s : Store) (state : σ) :
    Report (Value × Store) × σ :=
  match action with
  | .script a =>
    match a.perform s with
    | .error e => ({ result := .error e }, state)
    | .ok r => ({ result := .ok r, log := a.log s }, state)
  | .enter => ({ result := .ok (.bool true, s) }, state)
  | .execute name itself =>
    match s.get name with
    | .error e => ({ result := .error e }, state)
    | .ok v => executeValue t itself v s state
  | .runQuery document =>
    match resolve s document with
    | .error e => ({ result := .error e }, state)
    | .ok v =>
      let (exchange, state) := Client.runLabeled t v.documentLabel v.documentText state
      (Report.ofExchange .ofEnvelope s exchange, state)

/-- Runs one step of a session. -/
def SessionStep.run (step : SessionStep) (s : Store) (state : σ) : Report Shown × Store × σ :=
  let (report, state) := step.action.run t s state
  let (result, s) := s.settle do
    let (v, s) ← report.result
    s.keep step.storeAs v
  ({ report with result }, s, state)

/-- Runs the steps of a session in order; a failure does not stop the others. -/
def runSession : List SessionStep → Store → σ → List (Report Shown)
  | [], _, _ => []
  | step :: steps, s, state =>
    let (report, s, state) := step.run t s state
    report :: runSession steps s state

end Session

end CatalogQuery.Script
