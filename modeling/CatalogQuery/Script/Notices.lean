import CatalogQuery.Failure.Notice
import CatalogQuery.Script.Arguments
import CatalogQuery.Script.Observation

/-!
# Notices made by name

A notice of each kind of failure from the arguments of a call. The general kinds take a message and
any details by name.
-/

namespace CatalogQuery.Script

namespace Arguments

/-- The values of parameters as data, in order. -/
def bindData (a : Arguments) (parameters : List Parameter) : Outcome (List Datum) :=
  (a.bind parameters).map (List.map Value.toDatum)

/-- The values of parameters as data, and the data given under other names. -/
def bindOpen (a : Arguments) (parameters : List Parameter) :
    Outcome (List Datum × List (String × Datum)) := do
  let isParameter (n : String × Value) : Bool := parameters.any fun p ↦ p.name == n.1
  let bound ← { a with named := a.named.filter isParameter }.bindData parameters
  let others := (a.named.filter fun n ↦ !isParameter n).map fun n ↦ (n.1, n.2.toDatum)
  return (bound, others)

end Arguments

/-- A notice of a kind that adds nothing to its message and details. -/
def plainNotice (kinds : List String) (a : Arguments) : Outcome Notice := do
  match ← a.bindOpen [.required "message"] with
  | ([message], details) => return .plain kinds message details
  | _ => Outcome.fault .wrongClass

/-- The notice of a kind of failure. -/
def notice (kind : String) (a : Arguments) : Outcome Notice := do
  match kind with
  | "ShopifyGQLError" => plainNotice [] a
  | "DecodeError" => plainNotice ["DecodeError"] a
  | "ConfigurationError" => plainNotice ["ConfigurationError"] a
  | "AuthenticationError" => plainNotice ["AuthenticationError"] a
  | "InvalidIdentifier" =>
    match ← a.bindData [.required "raw"] with
    | [raw] => Notice.checked [raw] (.invalidIdentifier raw)
    | _ => Outcome.fault .wrongClass
  | "BuilderMisuse" =>
    match ← a.bindData [.required "operation", .required "attempted_call",
      .optional "reason" .null] with
    | [operation, attempted, reason] =>
      Notice.checked [operation, attempted, reason] (.misuse operation attempted reason)
    | _ => Outcome.fault .wrongClass
  | "InvalidConnection" =>
    match ← a.bindData [.required "first", .required "last"] with
    | [first, last] => Notice.checked [first, last] (.invalidConnection first last)
    | _ => Outcome.fault .wrongClass
  | "CycleRejected" =>
    match ← a.bindData [.required "entity_kind"] with
    | [kind] => Notice.checked [kind] (.cycle kind)
    | _ => Outcome.fault .wrongClass
  | "InvalidScalar" =>
    match ← a.bindData [.required "raw", .optional "scalar_type" .null] with
    | [raw, scalarType] => Notice.checked [raw, scalarType] (.invalidScalar raw scalarType)
    | _ => Outcome.fault .wrongClass
  | "ResponseShapeMismatch" =>
    match ← a.bindData [.required "expected", .required "actual"] with
    | [expected, actual] => Notice.checked [expected, actual] (.shapeMismatch expected actual)
    | _ => Outcome.fault .wrongClass
  | "TransportDecodeError" =>
    match ← a.bindData [.required "raw_body", .optional "reason" .null] with
    | [body, reason] => Notice.checked [reason] (.undecodable body reason)
    | _ => Outcome.fault .wrongClass
  | "RemoteError" =>
    match ← a.bindData [.required "errors"] with
    | [errors] => Notice.checked [errors] (.remote errors)
    | _ => Outcome.fault .wrongClass
  | "TransportError" =>
    match ← a.bindOpen [.required "message", .optional "url" .null] with
    | ([message, url], details) => return .transport message url details
    | _ => Outcome.fault .wrongClass
  | "TransportTimeoutError" =>
    match ← a.bindData [.required "message", .optional "url" .null,
      .optional "timeout_value" .null] with
    | [message, url, limit] => return .timeout message url limit
    | _ => Outcome.fault .wrongClass
  | _ => Outcome.fault .noSuchAttribute

end CatalogQuery.Script
