import CatalogQuery.Document
import CatalogQuery.Entities
import CatalogQuery.Script.Value

/-!
# What the library gives, as values

The selections, requests and documents that the library makes, and the replies and entities that it
reads, as values of a script. In a reply all that is no number is one value.
-/

namespace CatalogQuery.Script.Value

/-! ### Requests and documents -/

/-- A bound of a list. -/
def ofConnection (c : Connection) : Value :=
  make .connection [ofOption nat c.firstCount?, ofOption nat c.lastCount?]

mutual

/-- A field of a selection. -/
def ofToken : FieldToken → Value
  | .leaf n => make .leaf [str n]
  | .node n k xs c =>
    make .node [str n, word (.entityKind k), make .fields [ofTuple (ofTokens xs)],
      ofOption ofConnection c]

/-- The fields of a selection. -/
def ofTokens : List FieldToken → List Value
  | [] => []
  | x :: xs => ofToken x :: ofTokens xs

end

/-- A selection. -/
def ofFields (s : FieldSet) : Value :=
  make .fields [ofTuple (ofTokens s.tokens)]

/-- The selection of the identifier only. -/
def idOnly : Value := ofFields .idOnly

/-- The assignments of an update. -/
def ofInputs (i : Inputs) : Value :=
  make .inputs [ofTuple (i.entries.map fun e ↦ ofTuple [str e.1, ofDatum e.2])]

/-- A query. -/
def ofQuery (q : SomeQuery) : Value :=
  make (.query q.1) [ofFields q.2.fields, word (.operationKind q.2.kind),
    ofOption ofId q.2.identifier, ofOption ofConnection q.2.connection,
    ofOption ofInputs q.2.inputs]

/-- A bulk operation to be sent. -/
def ofBulk (b : BulkQuery) : Value :=
  make .bulk [word (.rootField b.operation), ofOption ofQuery b.inner, ofFields b.fields]

/-- A document. -/
def ofDocument (d : Document) : Value :=
  make .document [str d.text, word (.rootField d.operation)]

/-! ### Replies -/

/-- Data of a reply. -/
def ofReply (d : Datum) : Value := embed .shared d

/-- A text of a reply that may be absent. -/
def ofText? (t : Option Text) : Value := ofOption ofText t

/-- A number of a reply that may be absent. -/
def ofFloat? (x : Option Binary64) : Value := ofOption (fun x ↦ ofReply (.float x)) x

/-- An integer of a reply that may be absent. -/
def ofInt? (n : Option Int) : Value := ofOption (fun n ↦ ofAtom (.int n)) n

/-- A price in a payload. -/
def ofPrice : Price → Value
  | .text t => ofText t
  | .number x => ofReply (.float x)

/-- A count of objects in a payload. -/
def ofCount : ObjectCount → Value
  | .number n => ofAtom (.int n)
  | .text t => ofText t

/-- A list of entities in a payload. -/
def ofEdges (e : Entity) (nodes : List Value) : Value :=
  make (.payloadEdges e) [ofList (nodes.map fun n ↦ make (.payloadEdge e) [n])]

mutual

/-- A product in a payload. -/
def ofProductNode : ProductNode → Value
  | .mk a variants =>
    make (.payloadNode .product) [ofText a.id, ofText? a.title, ofText? a.status, ofText? a.vendor,
      ofText? a.handle, ofText? a.productType,
      ofOption (fun ts ↦ ofList (ts.map ofText)) a.tags, ofNodeVariants variants]

/-- The variants of a product in a payload. -/
def ofNodeVariants : Option (List VariantNode) → Value
  | none => null
  | some vs => ofEdges .variant (ofVariantNodes vs)

/-- A variant in a payload. -/
def ofVariantNode : VariantNode → Value
  | .mk a product =>
    make (.payloadNode .variant) [ofText a.id, ofOption ofPrice a.compareAtPrice,
      ofInt? a.inventoryQuantity, ofOption ofPrice a.price, ofNodeOwner product, ofText? a.sku,
      ofText? a.title, ofText? a.barcode, ofFloat? a.weight, ofText? a.weightUnit]

/-- The product of a variant in a payload. -/
def ofNodeOwner : Option ProductNode → Value
  | none => null
  | some p => ofProductNode p

/-- Variants in a payload. -/
def ofVariantNodes : List VariantNode → List Value
  | [] => []
  | v :: vs => ofVariantNode v :: ofVariantNodes vs

end

/-- A bulk operation in a payload. -/
def ofBulkNode (b : BulkNode) : Value :=
  make .bulkNode [ofText b.id, ofText b.status, ofText? b.errorCode, ofOption ofCount b.objectCount,
    ofText? b.url]

/-- A payload. -/
def ofPayload : Payload → Value
  | .product n => ofProductNode n
  | .variant n => ofVariantNode n
  | .productUpdate n => make (.updatePayload .product) [ofOption ofProductNode n]
  | .variantUpdate n => make (.updatePayload .variant) [ofOption ofVariantNode n]
  | .products ns => ofEdges .product (ns.map ofProductNode)
  | .variants ns => ofEdges .variant (ofVariantNodes ns)
  | .bulkRun n => make .bulkRun [ofOption ofBulkNode n]
  | .bulk n => ofBulkNode n

/-- A reply that answers a document. -/
def ofSuccess (s : Success) : Value :=
  make .success [word (.rootField s.operation), ofOption ofPayload s.payload, ofReply s.extensions]

/-- A reply. -/
def ofEnvelope : Envelope → Value
  | .success s => ofSuccess s
  | .errors errors data => make .errors [ofReply errors, ofReply data]

/-! ### Entities -/

/-- A list of nodes. -/
def ofNodes (vs : List Value) : Value := make .nodes [ofTuple vs]

mutual

/-- A product. -/
def ofProduct : Product → Value
  | .mk a variants =>
    make (.entity .product) [ofId a.id, ofText? a.title,
      ofOption (fun w ↦ word (.productStatus w)) a.status, ofText? a.vendor, ofText? a.handle,
      ofText? a.productType, ofOption (fun ts ↦ ofTuple (ts.map ofText)) a.tags,
      ofVariants? variants]

/-- The variants of a product. -/
def ofVariants? : Option (List ProductVariant) → Value
  | none => null
  | some vs => ofNodes (ofVariants vs)

/-- A variant. -/
def ofVariant : ProductVariant → Value
  | .mk a product =>
    make (.entity .variant) [ofId a.id, ofOption (ofMoney .shared) a.compareAtPrice,
      ofInt? a.inventoryQuantity, ofOption (ofMoney .shared) a.price, ofOwner? product,
      ofText? a.sku, ofText? a.title, ofText? a.barcode, ofFloat? a.weight,
      ofOption (fun w ↦ word (.weightUnit w)) a.weightUnit]

/-- The product of a variant. -/
def ofOwner? : Option Product → Value
  | none => null
  | some p => ofProduct p

/-- Variants in order. -/
def ofVariants : List ProductVariant → List Value
  | [] => []
  | v :: vs => ofVariant v :: ofVariants vs

end

/-- A bulk operation of the shop. -/
def ofBulkOperation (b : BulkOperation) : Value :=
  make .bulkOperation [ofId b.id, word (.bulkStatus b.status), ofText? b.errorCode,
    ofInt? b.objectCount, ofText? b.url]

/-- The entity of a reply. -/
def ofEntry : Entry → Value
  | .nothing => null
  | .product p => ofProduct p
  | .variant v => ofVariant v
  | .bulk b => ofBulkOperation b
  | .products ps => ofNodes (ps.map ofProduct)
  | .variants vs => ofNodes (ofVariants vs)

end CatalogQuery.Script.Value
