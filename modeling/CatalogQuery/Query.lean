import CatalogQuery.Scalar
import CatalogQuery.Selection

/-!
# Queries

A query says what to read or change: one product or one variant by identifier, a change of one, or a
bounded list. `Query e` is a query for entities of kind `e`; it is a value, and every operation
answers a new one.

Products and variants refer to each other. A product query takes variants as a bounded selection, a
variant query takes its product as a plain one (`Query.withVariants`, `Query.withProduct`). A
selection that selects back into the kind that embeds it, at any depth, is refused, so no chain of
calls builds a selection without end. Changes are accepted by update queries only, and that is
checked before the value is converted (`Query.assign`).
-/

namespace CatalogQuery

/-! ### What can be queried -/

/-- The entities that queries are made for. -/
inductive Entity where
  | product | variant
  deriving DecidableEq, Repr, Inhabited

namespace Entity

/-- The kind of the selected entity. -/
def kind : Entity → EntityKind
  | .product => .product
  | .variant => .productVariant

/-- The type of the identifiers of the entity. -/
def idType : Entity → EntityType
  | .product => .product
  | .variant => .productVariant

/-- The root field of a document about the entity. -/
def rootField : Entity → OperationKind → RootField
  | .product, .read => .product
  | .product, .update => .productUpdate
  | .product, .connection => .products
  | .variant, .read => .productVariant
  | .variant, .update => .productVariantUpdate
  | .variant, .connection => .productVariants

end Entity

/-- The leaf fields of a product. -/
inductive ProductField where
  | title | status | vendor | handle | productType | tags
  deriving DecidableEq, Repr

/-- The leaf fields of a variant. -/
inductive VariantField where
  | compareAtPrice | inventoryQuantity | price | sku | title | barcode | weight | weightUnit
  deriving DecidableEq, Repr

/-- The name of a field in documents. -/
def ProductField.name : ProductField → String
  | .title => "title"
  | .status => "status"
  | .vendor => "vendor"
  | .handle => "handle"
  | .productType => "productType"
  | .tags => "tags"

/-- The name of a field in documents. -/
def VariantField.name : VariantField → String
  | .compareAtPrice => "compareAtPrice"
  | .inventoryQuantity => "inventoryQuantity"
  | .price => "price"
  | .sku => "sku"
  | .title => "title"
  | .barcode => "barcode"
  | .weight => "weight"
  | .weightUnit => "weightUnit"

/-- The leaf fields of an entity. -/
def Entity.Field : Entity → Type
  | .product => ProductField
  | .variant => VariantField

/-- The name of a leaf field of an entity. -/
def Entity.fieldName : (e : Entity) → e.Field → String
  | .product, f => ProductField.name f
  | .variant, f => VariantField.name f

/-! ### Selections below an entity -/

/-- The product fields to fetch below a variant. -/
structure ProductSelection where
  /-- The selected fields. -/
  fields : FieldSet := .idOnly
  deriving Repr, Inhabited

/-- The variant fields to fetch below a product, with the bound of the list. -/
structure VariantSelection where
  /-- The selected fields. -/
  fields : FieldSet := .idOnly
  /-- The bound of the list. -/
  connection : Connection
  deriving Repr

/-- Selects a leaf field. -/
def ProductSelection.select (s : ProductSelection) (f : ProductField) : ProductSelection :=
  { s with fields := s.fields.add (.leaf f.name) }

/-- Selects a leaf field. -/
def VariantSelection.select (s : VariantSelection) (f : VariantField) : VariantSelection :=
  { s with fields := s.fields.add (.leaf f.name) }

/-- The selection of the identifiers of a number of variants from the start. -/
def VariantSelection.ofFirst (count : Datum) : Outcome VariantSelection :=
  (Connection.ofFirst count).map fun c ↦ { connection := c }

/-- The selection of the identifiers of a number of variants from the end. -/
def VariantSelection.ofLast (count : Datum) : Outcome VariantSelection :=
  (Connection.ofLast count).map fun c ↦ { connection := c }

/-! ### Queries -/

/-- A query for entities of kind `e`. -/
structure Query (e : Entity) where
  /-- The selected fields. -/
  fields : FieldSet := .idOnly
  /-- Whether the query reads, updates or lists. -/
  kind : OperationKind := .read
  /-- The identifier of the entity to read or update. -/
  identifier : Option Id := none
  /-- The bound of a list. -/
  connection : Option Connection := none
  /-- The assignments of an update. -/
  inputs : Option Inputs := none
  deriving Repr, Inhabited

namespace Query

variable {e : Entity}

/-- The root field of the document of a query, which is also the shape of the reply. -/
def operation (q : Query e) : RootField :=
  e.rootField q.kind

/-- The name of the operation kind of a query. -/
def kindName (q : Query e) : String :=
  Vocabulary.wire q.kind

/-! #### Making queries -/

/-- The identifier that a value is, if its type is the one that the entity needs. -/
def checkIdentifier (e : Entity) (kind : OperationKind) (call : String) (identifier : Datum) :
    Outcome Id :=
  let refused := Failure.showing [identifier] <| .misuse (Vocabulary.wire kind) call <| some <|
    "expected a " ++ Vocabulary.wire e.idType ++ " identifier, got " ++ identifier.plain.toString
  match identifier with
  | .id i => if i.entityType = e.idType then .ok i else .error refused
  | _ => .error refused

/-- A query that reads one entity. -/
def forRead (e : Entity) (identifier : Datum) : Outcome (Query e) :=
  (checkIdentifier e .read "for_read" identifier).map fun i ↦
    { kind := .read, identifier := some i }

/-- A query that updates one entity; the first assignment is its identifier. -/
def forUpdate (e : Entity) (identifier : Datum) : Outcome (Query e) :=
  (checkIdentifier e .update "for_update" identifier).map fun i ↦
    { kind := .update, identifier := some i, inputs := some (Inputs.empty.assign "id" (.id i)) }

/-- A query that lists entities within a given bound, or within the bound that two counts make. -/
def forConnection (e : Entity) (connection : Option Connection) (first last : Datum) :
    Outcome (Query e) :=
  let within (c : Connection) : Query e := { kind := .connection, connection := some c }
  match connection, first, last with
  | none, _, _ => (Connection.make first last).map within
  | some c, .null, .null => .ok (within c)
  | some _, _, _ => .error (Failure.bounds first last)

/-! #### Selecting -/

/-- Selects a leaf field. -/
def select (q : Query e) (f : e.Field) : Query e :=
  { q with fields := q.fields.add (.leaf (e.fieldName f)) }

/-- Adds a nested field, unless a different field of its name is there. -/
def embed (q : Query e) (call : String) (token : FieldToken) : Outcome (Query e) :=
  let embedded : Query e := { q with fields := q.fields.add token }
  match q.fields.find? token.name with
  | none => .ok embedded
  | some existing =>
    if existing == token then .ok embedded
    else
      .error (.misuse q.kindName call
        (some (token.name ++ " is already selected with a different sub-selection")))

/-- What a product query takes as its variants. -/
inductive Variants where
  /-- A bounded selection. -/
  | selection (s : VariantSelection)
  /-- A query, of which the fields and the bound are taken. -/
  | query (q : Query .variant)
  deriving Repr

/-- What a variant query takes as its product. -/
inductive Owner where
  /-- A selection. -/
  | selection (s : ProductSelection)
  /-- A query, of which the fields are taken. -/
  | query (q : Query .product)
  deriving Repr

/-- The fields and the bound of variants; a query has to be one of a list. -/
def Variants.parts : Variants → Outcome (FieldSet × Option Connection)
  | .selection s => .ok (s.fields, some s.connection)
  | .query q =>
    if q.kind = .connection then .ok (q.fields, q.connection)
    else
      .error (.misuse q.kindName "with_variants"
        (some "only a connection selection can be embedded"))

/-- The fields of a product; a query has to be one that reads. -/
def Owner.parts : Owner → Outcome FieldSet
  | .selection s => .ok s.fields
  | .query q =>
    if q.kind = .read then .ok q.fields
    else .error (.misuse q.kindName "with_product" (some "only a read selection can be embedded"))

/-- Selects the variants of a product. -/
def withVariants (q : Query .product) (v : Variants) : Outcome (Query .product) :=
  match v.parts with
  | .error failure => .error failure
  | .ok (fields, connection) =>
    if fields.reaches .product then .error (.cycle (.entityKind .product))
    else q.embed "with_variants" (.node "variants" .productVariant fields.tokens connection)

/-- Selects the product of a variant. -/
def withProduct (q : Query .variant) (p : Owner) : Outcome (Query .variant) :=
  match p.parts with
  | .error failure => .error failure
  | .ok fields =>
    if fields.reaches .productVariant then .error (.cycle (.entityKind .productVariant))
    else q.embed "with_product" (.node "product" .product fields.tokens none)

/-! #### Assigning -/

/-- Assigns a converted value to a key of the input of an update; on any other query the call is a
misuse, whatever became of the conversion. -/
def assign (q : Query e) (call key : String) (converted : Outcome Datum) : Outcome (Query e) :=
  match q.kind, q.inputs with
  | .update, some inputs => converted.map fun v ↦ { q with inputs := some (inputs.assign key v) }
  | _, _ => .error (.misuse q.kindName call none)

end Query

end CatalogQuery
