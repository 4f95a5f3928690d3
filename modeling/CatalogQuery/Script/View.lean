import CatalogQuery.Document
import CatalogQuery.Script.Observation

/-!
# Values that the library works with

An object whose parts are what its class is meant to hold is a bound, a selection, a request or a
document of the library. Each reading here answers that, and `none` for an object with any other
part: such an object exists, but the library has no value for it.
-/

namespace CatalogQuery.Script.Value

/-- The text of characters that a value is. -/
def string? : Value → Option String
  | .atom _ (.str s) => some s
  | _ => none

/-- A value that may be absent; the outer layer tells whether the reading succeeds. -/
def absentOr {α : Type} (read : Value → Option α) (v : Value) : Option (Option α) :=
  if v.isNull then some none else (read v).map some

/-- The identifier that a value is. -/
def id? (v : Value) : Option Id :=
  match v.data? with
  | some (.id i) => some i
  | _ => none

/-- The bound that a value is. -/
def connection? : Value → Option Connection
  | .object _ .connection [first, last] => (Connection.make first.toDatum last.toDatum).toOption
  | _ => none

/-- The entity kind that a value is. -/
def entityKind? : Value → Option EntityKind
  | .atom _ (.word (.entityKind k)) => some k
  | _ => none

/-- The operation kind that a value is. -/
def operationKind? : Value → Option OperationKind
  | .atom _ (.word (.operationKind k)) => some k
  | _ => none

/-- The root field that a value is. -/
def rootField? : Value → Option RootField
  | .atom _ (.word (.rootField f)) => some f
  | _ => none

mutual

/-- The field of a selection that a value is. -/
def token? : Value → Option FieldToken
  | .object _ .leaf [name] => (string? name).map .leaf
  | .object _ .node [name, kind, .object _ .fields [.tuple _ xs], connection] => do
    let n ← string? name
    let k ← entityKind? kind
    let ts ← tokens? xs
    let c ← absentOr connection? connection
    return .node n k ts c
  | _ => none

/-- The fields that values are. -/
def tokens? : List Value → Option (List FieldToken)
  | [] => some []
  | x :: xs => do
    let t ← token? x
    let ts ← tokens? xs
    return t :: ts

end

/-- The selection that a value is. -/
def fields? : Value → Option FieldSet
  | .object _ .fields [.tuple _ xs] => (tokens? xs).map FieldSet.mk
  | _ => none

/-- The assignment that a value is. -/
def assignment? : Value → Option (String × Datum)
  | .tuple _ [key, value] => do
    let k ← string? key
    let d ← value.data?
    return (k, d)
  | _ => none

/-- The assignments that a value is. -/
def inputs? : Value → Option Inputs
  | .object _ .inputs [.tuple _ xs] => (xs.mapM assignment?).map Inputs.mk
  | _ => none

/-- The selection of a product that a value is. -/
def productSelection? : Value → Option ProductSelection
  | .object _ (.selection .product) [fields] => (fields? fields).map ProductSelection.mk
  | _ => none

/-- The selection of variants that a value is. -/
def variantSelection? : Value → Option VariantSelection
  | .object _ (.selection .variant) [fields, connection] => do
    let s ← fields? fields
    let c ← connection? connection
    return ⟨s, c⟩
  | _ => none

/-- The query for an entity that a value is. -/
def queryOf? (e : Entity) : Value → Option (Query e)
  | .object _ (.query f) [fields, kind, identifier, connection, inputs] =>
    if f = e then do
      let s ← fields? fields
      let k ← operationKind? kind
      let i ← absentOr id? identifier
      let c ← absentOr connection? connection
      let a ← absentOr inputs? inputs
      return { fields := s, kind := k, identifier := i, connection := c, inputs := a }
    else none
  | _ => none

/-- The query that a value is. -/
def query? (v : Value) : Option SomeQuery :=
  match queryOf? .product v with
  | some q => some ⟨.product, q⟩
  | none => (queryOf? .variant v).map fun q ↦ ⟨.variant, q⟩

/-- The bulk operation that a value is. -/
def bulk? : Value → Option BulkQuery
  | .object _ .bulk [operation, inner, fields] => do
    let f ← rootField? operation
    let q ← absentOr query? inner
    let s ← fields? fields
    return ⟨f, q, s⟩
  | _ => none

/-- The request that a value is. -/
def request? (v : Value) : Option Request :=
  match v.query? with
  | some q => some (.query q)
  | none => v.bulk?.map .bulk

/-- The document that a value is. -/
def document? : Value → Option Document
  | .object _ .document [text, operation] => do
    let t ← string? text
    let f ← rootField? operation
    return ⟨t, f⟩
  | _ => none

end CatalogQuery.Script.Value
