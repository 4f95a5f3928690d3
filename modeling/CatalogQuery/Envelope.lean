import CatalogQuery.Failure
import CatalogQuery.LogLine
import CatalogQuery.Payload

/-!
# Envelopes

A reply is one JSON object. If its `errors` entry is neither absent nor empty it reports errors,
whatever else it holds. Otherwise its `data` entry is an object with exactly one root field, and the
payload there has the shape of that field; the payload may be null for the root fields of single
entities that need not exist. Any other body is undecodable, with the reason.

`Envelope.parse` classifies a body. `Envelope.decode` also compares its shape with the one that was
asked for.
-/

namespace CatalogQuery

/-- A reply that answers a document. -/
structure Success where
  /-- The root field of the reply. -/
  operation : RootField
  /-- What the root field holds; nothing when it is null. -/
  payload : Option Payload
  /-- The `extensions` entry. -/
  extensions : Datum

/-- A reply. -/
inductive Envelope where
  /-- The reply answers a document. -/
  | success (s : Success)
  /-- The reply reports errors. -/
  | errors (errors data : Datum)

/-- The root fields that are null when nothing matches. -/
def RootField.isNullable : RootField → Bool
  | .product | .productVariant | .currentBulkOperation => true
  | _ => false

namespace Envelope

/-- An entry of an object; null when it is absent. -/
def entry (key : String) (entries : List (Datum × Datum)) : Datum :=
  (Datum.field? key entries).getD .null

/-- The root field and the payload under `data`, if there is exactly one. -/
def root? : Datum → Option (Text × Datum)
  | .dict [(.text key, payload)] => some (key, payload)
  | _ => none

/-- Reads the payload of a known root field. -/
def readPayload (field : RootField) (payload : Datum) : Except DecodeReason (Option Payload) :=
  match payload with
  | .null => if field.isNullable then .ok none else .error (.nullPayload field)
  | d =>
    match Payload.check field d with
    | .ok p => .ok (some p)
    | .error issues => .error (.invalidPayload field issues)

/-- Classifies the object of a body. -/
def ofEntries (entries : List (Datum × Datum)) : Except DecodeReason Envelope :=
  let errors := entry "errors" entries
  if errors.isTruthy then .ok (.errors errors (entry "data" entries))
  else
    match root? (entry "data" entries) with
    | none => .error .notOneRoot
    | some (key, payload) =>
      match key.toString?.bind Vocabulary.ofWire? with
      | none => .error (.unknownRoot key)
      | some field =>
        match readPayload field payload with
        | .ok p =>
          .ok (.success
            { operation := field, payload := p, extensions := entry "extensions" entries })
        | .error reason => .error reason

/-- Classifies the value of a body. -/
def ofDatum : Datum → Except DecodeReason Envelope
  | .dict entries => ofEntries entries
  | _ => .error .notAnObject

/-- Classifies a body. -/
def classify (body : List UInt8) : Except DecodeReason Envelope :=
  match Json.read body with
  | .error e => .error (.invalidJson e)
  | .ok d => ofDatum d

/-- Classifies a body; a body of no known shape is a failure that carries the body. -/
def parse (body : List UInt8) : Outcome Envelope :=
  match classify body with
  | .ok e => .ok e
  | .error reason => .error (.undecodable body reason)

/-- Compares a reply with the shape that was asked for. -/
def answering (expected : RootField) : Envelope → Outcome Success
  | .errors reported _ => .error (.remote reported)
  | .success s =>
    if s.operation = expected then .ok s
    else .error (.shapeMismatch (Vocabulary.wire expected) (Vocabulary.wire s.operation))

/-- Classifies a body and compares it with the shape that was asked for. -/
def decode (body : List UInt8) (expected : RootField) : Outcome Success :=
  match parse body with
  | .error failure => .error failure
  | .ok e => e.answering expected

/-! ### Log lines -/

/-- What is reported about a classified body. -/
def parseLog : Outcome Envelope → List LogLine
  | .error _ => []
  | .ok (.errors _ _) => [⟨LogLine.envelope, .debug, "Reply matched the error shape"⟩]
  | .ok (.success s) =>
    let shape := "Reply matched the " ++ Vocabulary.wire s.operation ++ " shape"
    [⟨LogLine.envelope, .debug,
      if s.payload.isNone then shape ++ " with a null payload" else shape⟩]

/-- What is reported about a classified body when `expected` was asked for. -/
def decodeLog (expected : RootField) (parsed : Outcome Envelope) : List LogLine :=
  parseLog parsed ++
    match parsed with
    | .ok (.success s) =>
      if s.operation = expected then []
      else [⟨LogLine.envelope, .warning,
        "Expected a " ++ Vocabulary.wire expected ++ " reply, got " ++ Vocabulary.wire s.operation⟩]
    | _ => []

end Envelope

end CatalogQuery
