import CatalogQuery.Query

/-!
# Bulk operations

A bulk operation runs a list query over the whole list, so the bound of that query is dropped.
`BulkQuery.run` wraps a list query; `BulkQuery.current` asks for the bulk operation in progress. A
request is whatever a document can be made from: a query or a bulk operation.
-/

namespace CatalogQuery

/-- A query for some entity. -/
abbrev SomeQuery := (e : Entity) × Query e

/-- The fields of a bulk operation. -/
def bulkFields : List String :=
  ["id", "status", "errorCode", "objectCount", "url"]

/-- A document about bulk operations. -/
structure BulkQuery where
  /-- The root field of the document. -/
  operation : RootField
  /-- The list query that is run in bulk. -/
  inner : Option SomeQuery := none
  /-- The selected fields of the bulk operation. -/
  fields : FieldSet := .ofNames bulkFields
  deriving Repr

namespace BulkQuery

/-- The operation kind: running a query changes the shop, all else reads. -/
def kind (b : BulkQuery) : OperationKind :=
  if b.operation = .bulkOperationRunQuery then .update else .read

/-- The bulk operation that runs a list query; `label` names the operation kind of anything else. -/
def runOrRefuse (q : Option SomeQuery) (label : String) : Outcome BulkQuery :=
  let refused : Outcome BulkQuery :=
    .error (.misuse label "run_query" (some "a connection builder is required"))
  match q with
  | some ⟨e, q⟩ =>
    if q.kind = .connection then
      .ok { operation := .bulkOperationRunQuery, inner := some ⟨e, q⟩ }
    else refused
  | none => refused

/-- The bulk operation that runs a list query. -/
def run (q : SomeQuery) : Outcome BulkQuery :=
  runOrRefuse (some q) q.2.kindName

/-- The document that asks for the bulk operation in progress. -/
def current : BulkQuery :=
  { operation := .currentBulkOperation }

end BulkQuery

/-- What a document can be made from. -/
inductive Request where
  | query (q : SomeQuery)
  | bulk (b : BulkQuery)
  deriving Repr

namespace Request

/-- The kind of the selected entity. -/
def entityKind : Request → EntityKind
  | .query q => q.1.kind
  | .bulk _ => .bulkOperation

/-- The operation kind. -/
def kind : Request → OperationKind
  | .query q => q.2.kind
  | .bulk b => b.kind

/-- The root field of the document. -/
def operation : Request → RootField
  | .query q => q.2.operation
  | .bulk b => b.operation

/-- The selected fields. -/
def fields : Request → FieldSet
  | .query q => q.2.fields
  | .bulk b => b.fields

/-- The identifier of the entity; a bulk operation has none. -/
def identifier : Request → Option Id
  | .query q => q.2.identifier
  | .bulk _ => none

/-- The bound of a list; a bulk operation has none. -/
def connection : Request → Option Connection
  | .query q => q.2.connection
  | .bulk _ => none

/-- The assignments of an update; a bulk operation has none. -/
def inputs : Request → Option Inputs
  | .query q => q.2.inputs
  | .bulk _ => none

/-- The list query that is run in bulk. -/
def inner : Request → Option SomeQuery
  | .query _ => none
  | .bulk b => b.inner

end Request

end CatalogQuery
