import CatalogQuery.Proofs.Answer
import CatalogQuery.Proofs.WireValue

/-!
# What a shop holds

The products, variants and bulk operations of a shop, with well-typed values in all fields; every
field but the identifier, and the status of a bulk operation, may be null. Products and variants
hold each other, to any depth.

There are four views of a record. `holding` is the object that selections are answered from, with
the field names of the schema. `restrict` drops what a selection does not ask for. `node` is the
record as a reply that is read but not interpreted, `entity` the record as the caller gets it. That
interpreting never fails on what a shop holds, and gives that record, is shown here
(`ShopProduct.entity_node`).

## Why four views

Each view is what one stage of the library deals with, so the statement that compiling, answering
and decoding agree is a square of these four: the selection goes into `holding` and comes out as an
answer, the answer is read as the `node` of what `restrict` leaves, and the node is interpreted as
its `entity`. The views are defined on the records and know nothing of each other.

A record restricted to a selection is again a record of the same kind, with null in the place of
everything that is not asked for. That is what makes `restrict` usable below a nested field: the
variants of a restricted product are restricted variants.

## How deep records go

A product holds its variants and a variant its product, which is a tree that may be of any depth but
is finite. Selections of reached queries look at two levels of it. The recursion below follows the
tree all the way down, since interpreting does.
-/

namespace CatalogQuery

open Grammar

/-! ### Records -/

/-- The attributes of a product. -/
structure ShopProductLeaves where
  /-- The identifier, which every product has. -/
  id : GlobalId .product
  /-- The title. -/
  title : Option Text := none
  /-- The status, one of the known ones. -/
  status : Option ProductStatus := none
  /-- The vendor. -/
  vendor : Option Text := none
  /-- The handle. -/
  handle : Option Text := none
  /-- The type of the product. -/
  productType : Option Text := none
  /-- The tags, in order. -/
  tags : Option (List Text) := none

/-- The attributes of a variant. -/
structure ShopVariantLeaves where
  /-- The identifier, which every variant has. -/
  id : GlobalId .productVariant
  /-- The compared price, an amount of money. -/
  compareAtPrice : Option Amount := none
  /-- The quantity, which may be negative. -/
  inventoryQuantity : Option Int := none
  /-- The price, an amount of money. -/
  price : Option Amount := none
  /-- The stock keeping unit. -/
  sku : Option Text := none
  /-- The title. -/
  title : Option Text := none
  /-- The barcode. -/
  barcode : Option Text := none
  /-- The weight. -/
  weight : Option Weight := none
  /-- The unit of the weight, one of the known ones. -/
  weightUnit : Option WeightUnit := none

mutual

/-- A product of a shop. -/
inductive ShopProduct where
  /-- The attributes and the variants. -/
  | mk (leaves : ShopProductLeaves) (variants : Option (List ShopVariant))

/-- A variant of a shop. -/
inductive ShopVariant where
  /-- The attributes and the product. -/
  | mk (leaves : ShopVariantLeaves) (product : Option ShopProduct)

end

/-- A bulk operation of a shop. -/
structure ShopBulk where
  /-- The identifier, which every bulk operation has. -/
  id : GlobalId .bulkOperation
  /-- The status, one of the known ones. -/
  status : BulkStatus
  /-- The code of the error. -/
  errorCode : Option Text := none
  /-- The count of objects, which is written in digits. -/
  objectCount : Option Digits := none
  /-- The address of the result. -/
  url : Option Text := none

/-- What a shop answers under each root field. -/
structure Shop where
  /-- The product that is asked for. -/
  product : Option ShopProduct := none
  /-- The product that was updated. -/
  productUpdate : Option ShopProduct := none
  /-- The variant that is asked for. -/
  productVariant : Option ShopVariant := none
  /-- The variant that was updated. -/
  productVariantUpdate : Option ShopVariant := none
  /-- The products that are listed. -/
  products : List ShopProduct := []
  /-- The variants that are listed. -/
  productVariants : List ShopVariant := []
  /-- The bulk operation that was started. -/
  bulkOperationRunQuery : Option ShopBulk := none
  /-- The bulk operation in progress. -/
  currentBulkOperation : Option ShopBulk := none

/-! ### Holdings -/

section Wire

variable {type : EntityType} {α : Type} [Vocabulary α]

/-- An identifier as it stands in a reply. -/
def GlobalId.wire (i : GlobalId type) : Datum :=
  .str i.id.gid

/-- An amount as it stands in a reply. -/
def Amount.wire (a : Amount) : Datum :=
  .text a.text

/-- A word as it stands in a reply. -/
def wordWire (w : α) : Datum :=
  .str (Vocabulary.wire w)

/-- Tags as they stand in a reply. -/
def tagsWire (ts : List Text) : Datum :=
  .list (ts.map .text)

/-- A count as it stands in a reply. -/
def Digits.wire (d : Digits) : Datum :=
  .text d.text

end Wire

open Holding (nullable connection)

/-- The attributes of a product as fields, with its variants. -/
def ShopProductLeaves.fields (l : ShopProductLeaves) (variants : Holding) :
    List (String × Holding) :=
  [("id", .scalar l.id.wire),
    ("title", nullable .text l.title),
    ("status", nullable wordWire l.status),
    ("vendor", nullable .text l.vendor),
    ("handle", nullable .text l.handle),
    ("productType", nullable .text l.productType),
    ("tags", nullable tagsWire l.tags),
    ("variants", variants)]

/-- The attributes of a variant as fields, with its product. -/
def ShopVariantLeaves.fields (l : ShopVariantLeaves) (product : Holding) :
    List (String × Holding) :=
  [("id", .scalar l.id.wire),
    ("compareAtPrice", nullable Amount.wire l.compareAtPrice),
    ("inventoryQuantity", nullable .int l.inventoryQuantity),
    ("price", nullable Amount.wire l.price),
    ("sku", nullable .text l.sku),
    ("title", nullable .text l.title),
    ("barcode", nullable .text l.barcode),
    ("weight", nullable Weight.datum l.weight),
    ("weightUnit", nullable wordWire l.weightUnit),
    ("product", product)]

mutual

/-- A product as an object. -/
def ShopProduct.holding : ShopProduct → Holding
  | .mk leaves variants => .object (leaves.fields (ShopProduct.variantsHolding variants))

/-- The variants of a product as a list, or null. -/
def ShopProduct.variantsHolding : Option (List ShopVariant) → Holding
  | none => .scalar .null
  | some vs => connection (ShopVariant.holdings vs)

/-- A variant as an object. -/
def ShopVariant.holding : ShopVariant → Holding
  | .mk leaves product => .object (leaves.fields (ShopVariant.ownerHolding product))

/-- The product of a variant as an object, or null. -/
def ShopVariant.ownerHolding : Option ShopProduct → Holding
  | none => .scalar .null
  | some p => p.holding

/-- Variants as objects. -/
def ShopVariant.holdings : List ShopVariant → List Holding
  | [] => []
  | v :: vs => v.holding :: ShopVariant.holdings vs

end

/-- The fields of a bulk operation. -/
def ShopBulk.fields (b : ShopBulk) : List (String × Holding) :=
  [("id", .scalar b.id.wire),
    ("status", .scalar (wordWire b.status)),
    ("errorCode", nullable .text b.errorCode),
    ("objectCount", nullable Digits.wire b.objectCount),
    ("url", nullable .text b.url)]

/-- A bulk operation as an object. -/
def ShopBulk.holding (b : ShopBulk) : Holding :=
  .object b.fields

/-- An entity as an object, or null. -/
def optionalHolding {α : Type} (holding : α → Holding) (o : Option α) : Holding :=
  o.elim (.scalar .null) holding

/-- The root object of a shop: lists have edges, and the root fields of changes hold what they
changed in a field of their own. -/
def Shop.holding (s : Shop) : Holding :=
  .object [("product", optionalHolding ShopProduct.holding s.product),
    ("productUpdate", .object [("product", optionalHolding ShopProduct.holding s.productUpdate)]),
    ("productVariant", optionalHolding ShopVariant.holding s.productVariant),
    ("productVariantUpdate",
      .object [("productVariant", optionalHolding ShopVariant.holding s.productVariantUpdate)]),
    ("products", connection (s.products.map ShopProduct.holding)),
    ("productVariants", connection (s.productVariants.map ShopVariant.holding)),
    ("bulkOperationRunQuery",
      .object [("bulkOperation", optionalHolding ShopBulk.holding s.bulkOperationRunQuery)]),
    ("currentBulkOperation", optionalHolding ShopBulk.holding s.currentBulkOperation)]

/-! ### Restriction to a selection -/

namespace FieldToken

/-- A value that may be null, if a field of that name is selected. -/
def keep {α : Type} (ts : List FieldToken) (n : String) (o : Option α) : Option α :=
  if n ∈ ts.map name then o else none

/-- The selection below a field. -/
def nested : FieldToken → List FieldToken
  | .leaf _ => []
  | .node _ _ xs _ => xs

/-- The selection below the first field of a name, if there is one. -/
def below? (ts : List FieldToken) (n : String) : Option (List FieldToken) :=
  (ts.find? fun t ↦ t.name == n).map nested

end FieldToken

open FieldToken (keep below?)

/-- The selected attributes of a product. -/
def ShopProductLeaves.restrict (ts : List FieldToken) (l : ShopProductLeaves) :
    ShopProductLeaves where
  id := l.id
  title := keep ts (ProductField.name .title) l.title
  status := keep ts (ProductField.name .status) l.status
  vendor := keep ts (ProductField.name .vendor) l.vendor
  handle := keep ts (ProductField.name .handle) l.handle
  productType := keep ts (ProductField.name .productType) l.productType
  tags := keep ts (ProductField.name .tags) l.tags

/-- The selected attributes of a variant. -/
def ShopVariantLeaves.restrict (ts : List FieldToken) (l : ShopVariantLeaves) :
    ShopVariantLeaves where
  id := l.id
  compareAtPrice := keep ts (VariantField.name .compareAtPrice) l.compareAtPrice
  inventoryQuantity := keep ts (VariantField.name .inventoryQuantity) l.inventoryQuantity
  price := keep ts (VariantField.name .price) l.price
  sku := keep ts (VariantField.name .sku) l.sku
  title := keep ts (VariantField.name .title) l.title
  barcode := keep ts (VariantField.name .barcode) l.barcode
  weight := keep ts (VariantField.name .weight) l.weight
  weightUnit := keep ts (VariantField.name .weightUnit) l.weightUnit

mutual

/-- What a selection asks for of a product. -/
def ShopProduct.restrict (ts : List FieldToken) : ShopProduct → ShopProduct
  | .mk leaves variants =>
    .mk (leaves.restrict ts) (ShopProduct.restrictVariants (below? ts "variants") variants)

/-- What a selection asks for of the variants of a product, if it asks for them. -/
def ShopProduct.restrictVariants (selection : Option (List FieldToken)) :
    Option (List ShopVariant) → Option (List ShopVariant)
  | none => none
  | some vs => selection.map fun xs ↦ ShopVariant.restrictAll xs vs

/-- What a selection asks for of a variant. -/
def ShopVariant.restrict (ts : List FieldToken) : ShopVariant → ShopVariant
  | .mk leaves product =>
    .mk (leaves.restrict ts) (ShopVariant.restrictOwner (below? ts "product") product)

/-- What a selection asks for of the product of a variant, if it asks for it. -/
def ShopVariant.restrictOwner (selection : Option (List FieldToken)) :
    Option ShopProduct → Option ShopProduct
  | none => none
  | some p => selection.map fun xs ↦ p.restrict xs

/-- What a selection asks for of variants. -/
def ShopVariant.restrictAll (ts : List FieldToken) : List ShopVariant → List ShopVariant
  | [] => []
  | v :: vs => v.restrict ts :: ShopVariant.restrictAll ts vs

end

/-! ### Nodes -/

/-- The attributes of a product as they are read. -/
def ShopProductLeaves.node (l : ShopProductLeaves) : ProductLeaves where
  id := .str l.id.id.gid
  title := l.title
  status := l.status.map fun w ↦ .str (Vocabulary.wire w)
  vendor := l.vendor
  handle := l.handle
  productType := l.productType
  tags := l.tags

/-- The attributes of a variant as they are read. -/
def ShopVariantLeaves.node (l : ShopVariantLeaves) : VariantLeaves where
  id := .str l.id.id.gid
  compareAtPrice := l.compareAtPrice.map fun a ↦ .text a.text
  inventoryQuantity := l.inventoryQuantity
  price := l.price.map fun a ↦ .text a.text
  sku := l.sku
  title := l.title
  barcode := l.barcode
  weight := l.weight.map Weight.value
  weightUnit := l.weightUnit.map fun w ↦ .str (Vocabulary.wire w)

mutual

/-- A product as it is read. -/
def ShopProduct.node : ShopProduct → ProductNode
  | .mk leaves variants => .mk leaves.node (ShopProduct.variantNodes variants)

/-- The variants of a product as they are read. -/
def ShopProduct.variantNodes : Option (List ShopVariant) → Option (List VariantNode)
  | none => none
  | some vs => some (ShopVariant.nodes vs)

/-- A variant as it is read. -/
def ShopVariant.node : ShopVariant → VariantNode
  | .mk leaves product => .mk leaves.node (ShopVariant.ownerNode product)

/-- The product of a variant as it is read. -/
def ShopVariant.ownerNode : Option ShopProduct → Option ProductNode
  | none => none
  | some p => some p.node

/-- Variants as they are read. -/
def ShopVariant.nodes : List ShopVariant → List VariantNode
  | [] => []
  | v :: vs => v.node :: ShopVariant.nodes vs

end

/-- A bulk operation as it is read. -/
def ShopBulk.node (b : ShopBulk) : BulkNode where
  id := .str b.id.id.gid
  status := .str (Vocabulary.wire b.status)
  errorCode := b.errorCode
  objectCount := b.objectCount.map fun d ↦ .text d.text
  url := b.url

/-! ### Entities -/

/-- The attributes of a product as the caller gets them. -/
def ShopProductLeaves.attributes (l : ShopProductLeaves) : ProductAttributes where
  id := l.id.id
  title := l.title
  status := l.status
  vendor := l.vendor
  handle := l.handle
  productType := l.productType
  tags := l.tags

/-- The attributes of a variant as the caller gets them. -/
def ShopVariantLeaves.attributes (l : ShopVariantLeaves) : VariantAttributes where
  id := l.id.id
  compareAtPrice := l.compareAtPrice.map Amount.money
  inventoryQuantity := l.inventoryQuantity
  price := l.price.map Amount.money
  sku := l.sku
  title := l.title
  barcode := l.barcode
  weight := l.weight.map Weight.value
  weightUnit := l.weightUnit

mutual

/-- A product as the caller gets it. -/
def ShopProduct.entity : ShopProduct → Product
  | .mk leaves variants => .mk leaves.attributes (ShopProduct.variantEntities variants)

/-- The variants of a product as the caller gets them. -/
def ShopProduct.variantEntities : Option (List ShopVariant) → Option (List ProductVariant)
  | none => none
  | some vs => some (ShopVariant.entities vs)

/-- A variant as the caller gets it. -/
def ShopVariant.entity : ShopVariant → ProductVariant
  | .mk leaves product => .mk leaves.attributes (ShopVariant.ownerEntity product)

/-- The product of a variant as the caller gets it. -/
def ShopVariant.ownerEntity : Option ShopProduct → Option Product
  | none => none
  | some p => some p.entity

/-- Variants as the caller gets them. -/
def ShopVariant.entities : List ShopVariant → List ProductVariant
  | [] => []
  | v :: vs => v.entity :: ShopVariant.entities vs

end

/-- A bulk operation as the caller gets it. -/
def ShopBulk.entity (b : ShopBulk) : BulkOperation where
  id := b.id.id
  status := b.status
  errorCode := b.errorCode
  objectCount := b.objectCount.map fun d ↦ d.value
  url := b.url

/-- What a selection asks for under a root field, as the caller gets it. -/
def Shop.entry (s : Shop) (ts : List FieldToken) : RootField → Entry
  | .product => s.product.elim .nothing fun p ↦ .product (p.restrict ts).entity
  | .productUpdate => s.productUpdate.elim .nothing fun p ↦ .product (p.restrict ts).entity
  | .productVariant => s.productVariant.elim .nothing fun v ↦ .variant (v.restrict ts).entity
  | .productVariantUpdate =>
    s.productVariantUpdate.elim .nothing fun v ↦ .variant (v.restrict ts).entity
  | .products => .products (s.products.map fun p ↦ (p.restrict ts).entity)
  | .productVariants => .variants (s.productVariants.map fun v ↦ (v.restrict ts).entity)
  | .bulkOperationRunQuery => s.bulkOperationRunQuery.elim .nothing fun b ↦ .bulk b.entity
  | .currentBulkOperation => s.currentBulkOperation.elim .nothing fun b ↦ .bulk b.entity

/-! ### What is read is interpreted -/

/-- A value that may be null is interpreted as its value is. -/
theorem readOptional_map {α β γ : Type} {read : α → Outcome β} {f : γ → α} {g : γ → β}
    (h : ∀ c, read (f c) = .ok (g c)) (o : Option γ) :
    readOptional read (o.map f) = .ok (o.map g) := by
  cases o with
  | none => rfl
  | some c =>
    rw [Option.map_some, readOptional, h]
    rfl

/-- Words that may be null are read back. -/
theorem readOptional_words {α : Type} [Vocabulary α] [Vocabulary.IsLawful α] (o : Option α) :
    readOptional (readWord α) (o.map fun w ↦ .str (Vocabulary.wire w)) = .ok o := by
  rw [readOptional_map (g := id) readWord_wire, Option.map_id]
  rfl

/-- Amounts that may be null are read. -/
theorem readOptional_amounts (o : Option Amount) :
    readOptional Price.money (o.map fun a ↦ .text a.text) = .ok (o.map Amount.money) := by
  have hmoney (a : Amount) : (Price.text a.text).money = .ok a.money := a.parse_text
  exact readOptional_map hmoney o

mutual

/-- **A product of a shop is interpreted without fail**, as what it is. -/
theorem ShopProduct.entity_node : ∀ p : ShopProduct, p.node.entity = .ok p.entity
  | .mk leaves variants => by
    rw [ShopProduct.node, ProductNode.entity, ShopProductLeaves.node, leaves.id.readEntityId_gid,
      readOptional_words, ShopProduct.variantEntities_nodes variants]
    rfl

/-- The variants of a product are interpreted as what they are, or as nothing. -/
theorem ShopProduct.variantEntities_nodes : ∀ variants : Option (List ShopVariant),
    ProductNode.variantEntities (ShopProduct.variantNodes variants) =
      .ok (ShopProduct.variantEntities variants)
  | none => rfl
  | some vs => by
    rw [ShopProduct.variantNodes, ProductNode.variantEntities, ShopVariant.entities_nodes vs]
    rfl

/-- **A variant of a shop is interpreted without fail**, as what it is. -/
theorem ShopVariant.entity_node : ∀ v : ShopVariant, v.node.entity = .ok v.entity
  | .mk leaves product => by
    rw [ShopVariant.node, VariantNode.entity, ShopVariantLeaves.node, leaves.id.readEntityId_gid,
      readOptional_amounts, readOptional_amounts, readOptional_words,
      ShopVariant.ownerEntity_node product]
    rfl

/-- The product of a variant is interpreted as what it is, or as nothing. -/
theorem ShopVariant.ownerEntity_node : ∀ product : Option ShopProduct,
    VariantNode.ownerEntity (ShopVariant.ownerNode product) = .ok (ShopVariant.ownerEntity product)
  | none => rfl
  | some p => by
    rw [ShopVariant.ownerNode, VariantNode.ownerEntity, ShopProduct.entity_node p]
    rfl

/-- Variants in a row are interpreted as what they are. -/
theorem ShopVariant.entities_nodes : ∀ vs : List ShopVariant,
    VariantNode.entities (ShopVariant.nodes vs) = .ok (ShopVariant.entities vs)
  | [] => rfl
  | v :: vs => by
    rw [ShopVariant.nodes, VariantNode.entities, ShopVariant.entity_node v,
      ShopVariant.entities_nodes vs]
    rfl

end

/-- **A bulk operation of a shop is interpreted without fail**, as what it is. -/
theorem ShopBulk.entity_node (b : ShopBulk) : b.node.entity = .ok b.entity := by
  rw [BulkNode.entity, ShopBulk.node, readOptional_map Digits.count_text, b.id.readEntityId_gid,
    readWord_wire]
  rfl

end CatalogQuery
