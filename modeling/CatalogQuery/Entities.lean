import CatalogQuery.Scalar
import CatalogQuery.Envelope

/-!
# Entities

What a reply stands for: products, variants and bulk operations with typed fields. Every field but
the identifier may be absent, which is told apart from an empty or zero value.

`Success.materialize` builds the entity of a reply. Each payload node becomes one entity, field by
field in the order of declaration; the first scalar that cannot be read stops the whole. An
identifier has to name an entity of the type that stands at its place.
-/

namespace CatalogQuery

/-! ### Types -/

/-- The leaf fields of a product. -/
structure ProductAttributes where
  id : Id
  title : Option Text := none
  status : Option ProductStatus := none
  vendor : Option Text := none
  handle : Option Text := none
  productType : Option Text := none
  tags : Option (List Text) := none
  deriving DecidableEq, Repr

/-- The leaf fields of a variant. -/
structure VariantAttributes where
  id : Id
  compareAtPrice : Option Money := none
  inventoryQuantity : Option Int := none
  price : Option Money := none
  sku : Option Text := none
  title : Option Text := none
  barcode : Option Text := none
  weight : Option Binary64 := none
  weightUnit : Option WeightUnit := none
  deriving DecidableEq, Repr

mutual

/-- A product of the shop. -/
inductive Product where
  /-- The attributes and the variants. -/
  | mk (attributes : ProductAttributes) (variants : Option (List ProductVariant))

/-- A variant of a product. -/
inductive ProductVariant where
  /-- The attributes and the product. -/
  | mk (attributes : VariantAttributes) (product : Option Product)

end

/-- A bulk operation of the shop. -/
structure BulkOperation where
  id : Id
  status : BulkStatus
  errorCode : Option Text := none
  objectCount : Option Int := none
  url : Option Text := none
  deriving DecidableEq, Repr

/-- The bulk operation will not change any more. -/
def BulkOperation.isFinished (b : BulkOperation) : Bool :=
  match b.status with
  | .completed | .canceled | .expired | .failed => true
  | _ => false

/-- The entity that a reply stands for. -/
inductive Entry where
  /-- A single entity was asked for and none was found. -/
  | nothing
  | product (p : Product)
  | variant (v : ProductVariant)
  | bulk (b : BulkOperation)
  | products (ps : List Product)
  | variants (vs : List ProductVariant)

/-! ### Building entities -/

/-- Reads the identifier of an entity of a given type. -/
def readEntityId (entityType : EntityType) (raw : Text) : Outcome Id := do
  let i ← Id.parse (.text raw)
  if i.entityType = entityType then return i
  else
    .error (.shapeMismatch (Vocabulary.wire entityType) (Vocabulary.wire i.entityType))

/-- Reads a value that may be absent. -/
def readOptional {α β : Type} (read : α → Outcome β) : Option α → Outcome (Option β)
  | none => .ok none
  | some a => (read a).map some

/-- Reads a price. -/
def Price.money : Price → Outcome Money
  | .text t => Money.parse (.text t)
  | .number x => Money.parse (.float x)

/-- Reads a word of a vocabulary. -/
def readWord (α : Type) [Vocabulary α] (t : Text) : Outcome α :=
  Vocabulary.read α (.text t)

/-- Reads a count of objects. -/
def ObjectCount.count : ObjectCount → Outcome Int
  | .number n => .ok n
  | .text t =>
    match Numeral.integer? t.points with
    | some n => .ok n
    | none => .error (Failure.scalar (.text t) "UnsignedInt64")

mutual

/-- Builds a product. -/
def ProductNode.entity : ProductNode → Outcome Product
  | .mk leaves variants => do
    let id ← readEntityId .product leaves.id
    let status ← readOptional (readWord ProductStatus) leaves.status
    let vs ← ProductNode.variantEntities variants
    return .mk
      { id, status, title := leaves.title, vendor := leaves.vendor, handle := leaves.handle,
        productType := leaves.productType, tags := leaves.tags } vs

/-- Builds the variants of a product. -/
def ProductNode.variantEntities : Option (List VariantNode) → Outcome (Option (List ProductVariant))
  | none => .ok none
  | some vs => (VariantNode.entities vs).map some

/-- Builds a variant. -/
def VariantNode.entity : VariantNode → Outcome ProductVariant
  | .mk leaves product => do
    let id ← readEntityId .productVariant leaves.id
    let compareAtPrice ← readOptional Price.money leaves.compareAtPrice
    let price ← readOptional Price.money leaves.price
    let p ← VariantNode.ownerEntity product
    let weightUnit ← readOptional (readWord WeightUnit) leaves.weightUnit
    return .mk
      { id, compareAtPrice, price, weightUnit, inventoryQuantity := leaves.inventoryQuantity,
        sku := leaves.sku, title := leaves.title, barcode := leaves.barcode,
        weight := leaves.weight } p

/-- Builds the product of a variant. -/
def VariantNode.ownerEntity : Option ProductNode → Outcome (Option Product)
  | none => .ok none
  | some p => (ProductNode.entity p).map some

/-- Builds variants in order. -/
def VariantNode.entities : List VariantNode → Outcome (List ProductVariant)
  | [] => .ok []
  | v :: vs =>
    match VariantNode.entity v with
    | .error failure => .error failure
    | .ok e => (VariantNode.entities vs).map (e :: ·)

end

/-- Builds a bulk operation. -/
def BulkNode.entity (node : BulkNode) : Outcome BulkOperation := do
  let objectCount ← readOptional ObjectCount.count node.objectCount
  let id ← readEntityId .bulkOperation node.id
  let status ← readWord BulkStatus node.status
  return { id, status, objectCount, errorCode := node.errorCode, url := node.url }

/-- The entity of a node that may be absent. -/
def entryOf {α β : Type} (build : α → Outcome β) (wrap : β → Entry) : Option α → Outcome Entry
  | none => .ok .nothing
  | some node => (build node).map wrap

/-- Builds the entity of a payload. -/
def Payload.entry : Payload → Outcome Entry
  | .product node => node.entity.map .product
  | .variant node => node.entity.map .variant
  | .productUpdate node => entryOf ProductNode.entity .product node
  | .variantUpdate node => entryOf VariantNode.entity .variant node
  | .products nodes => (nodes.mapM ProductNode.entity).map .products
  | .variants nodes => (VariantNode.entities nodes).map .variants
  | .bulkRun node => entryOf BulkNode.entity .bulk node
  | .bulk node => node.entity.map .bulk

/-- Builds the entity of a reply. -/
def Success.materialize (s : Success) : Outcome Entry :=
  match s.payload with
  | none => .ok .nothing
  | some p => p.entry

/-- What is reported when the entity of a reply is built. -/
def Success.materializeLog (s : Success) : List LogLine :=
  [⟨LogLine.materializer, .debug, "Materializing " ++ Vocabulary.wire s.operation ++ " payload"⟩]

/-- Classifies a body, compares it with the shape that was asked for and builds its entity. -/
def decodeEntry (body : List UInt8) (expected : RootField) : Outcome Entry := do
  let s ← Envelope.decode body expected
  s.materialize

/-! ### Fields that carry a value -/

/-- The names that are paired with a value, in order. -/
def namesOf (fields : List (String × Bool)) : List String :=
  (fields.filter Prod.snd).map Prod.fst

/-- The fields of a product that carry a value. -/
def Product.fetched : Product → List String
  | .mk a variants => namesOf
    [("id", true), ("title", a.title.isSome), ("status", a.status.isSome),
      ("vendor", a.vendor.isSome), ("handle", a.handle.isSome),
      ("product_type", a.productType.isSome), ("tags", a.tags.isSome),
      ("variants", variants.isSome)]

/-- The fields of a variant that carry a value. -/
def ProductVariant.fetched : ProductVariant → List String
  | .mk a product => namesOf
    [("id", true), ("compare_at_price", a.compareAtPrice.isSome),
      ("inventory_quantity", a.inventoryQuantity.isSome), ("price", a.price.isSome),
      ("product", product.isSome), ("sku", a.sku.isSome), ("title", a.title.isSome),
      ("barcode", a.barcode.isSome), ("weight", a.weight.isSome),
      ("weight_unit", a.weightUnit.isSome)]

/-- The fields of a bulk operation that carry a value. -/
def BulkOperation.fetched (b : BulkOperation) : List String :=
  namesOf [("id", true), ("status", true), ("error_code", b.errorCode.isSome),
    ("object_count", b.objectCount.isSome), ("url", b.url.isSome)]

/-- An element of a list; a negative index counts from the end. -/
def elementAt {α : Type} (xs : List α) (index : Int) : Outcome α :=
  let i := if index < 0 then index + xs.length else index
  match i with
  | .ofNat n =>
    match xs[n]? with
    | some x => .ok x
    | none => Outcome.fault .outOfRange
  | .negSucc _ => Outcome.fault .outOfRange

end CatalogQuery
