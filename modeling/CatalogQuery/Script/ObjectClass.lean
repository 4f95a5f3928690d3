import CatalogQuery.Query

/-!
# Classes of objects

The classes that a script can make objects of or meet in a reply. An object of a class is made of
parts, each with a name (`ObjectClass.partNames`); the order of the names is the order in which the
parts are given, shown and compared.
-/

namespace CatalogQuery.Script

/-- A class of objects. -/
inductive ObjectClass where
  /-- Identifiers. -/
  | id
  /-- Amounts of money. -/
  | money
  /-- Bounds of lists. -/
  | connection
  /-- Fields without fields below them. -/
  | leaf
  /-- Nested fields. -/
  | node
  /-- Selections. -/
  | fields
  /-- Assignments of an update. -/
  | inputs
  /-- What is selected below an entity. -/
  | selection (e : Entity)
  /-- Queries. -/
  | query (e : Entity)
  /-- Bulk operations to be sent. -/
  | bulk
  /-- Documents. -/
  | document
  /-- Lists of nodes. -/
  | nodes
  /-- Entities of a reply. -/
  | entity (e : Entity)
  /-- Bulk operations of the shop. -/
  | bulkOperation
  /-- Replies that answer a document. -/
  | success
  /-- Replies that report errors. -/
  | errors
  /-- Entities as a payload holds them. -/
  | payloadNode (e : Entity)
  /-- The places of entities in a list of a payload. -/
  | payloadEdge (e : Entity)
  /-- Lists of entities as a payload holds them. -/
  | payloadEdges (e : Entity)
  /-- Payloads of updates. -/
  | updatePayload (e : Entity)
  /-- Bulk operations as a payload holds them. -/
  | bulkNode
  /-- Payloads of bulk runs. -/
  | bulkRun
  deriving DecidableEq, Repr, Inhabited

namespace ObjectClass

/-- The name of a class. -/
def name : ObjectClass → String
  | .id => "Id"
  | .money => "Money"
  | .connection => "Connection"
  | .leaf => "ScalarField"
  | .node => "CompositeField"
  | .fields => "FieldSelectionSet"
  | .inputs => "InputAssignmentSet"
  | .selection .product => "ProductSelection"
  | .selection .variant => "VariantSelection"
  | .query .product => "ProductQueryBuilder"
  | .query .variant => "ProductVariantQueryBuilder"
  | .bulk => "BulkOperationBuilder"
  | .document => "GraphQLDocument"
  | .nodes => "NodeList"
  | .entity .product => "Product"
  | .entity .variant => "ProductVariant"
  | .bulkOperation => "BulkOperation"
  | .success => "SuccessEnvelope"
  | .errors => "ErrorEnvelope"
  | .payloadNode .product => "ProductNode"
  | .payloadNode .variant => "VariantNode"
  | .payloadEdge .product => "ProductEdge"
  | .payloadEdge .variant => "VariantEdge"
  | .payloadEdges .product => "ProductConnectionPayload"
  | .payloadEdges .variant => "VariantConnectionPayload"
  | .updatePayload .product => "ProductUpdatePayload"
  | .updatePayload .variant => "VariantUpdatePayload"
  | .bulkNode => "BulkOperationNode"
  | .bulkRun => "BulkOperationRunPayload"

/-- The names of the fields of a product. -/
def productParts : List String :=
  ["id", "title", "status", "vendor", "handle", "product_type", "tags", "variants"]

/-- The names of the fields of a variant. -/
def variantParts : List String :=
  ["id", "compare_at_price", "inventory_quantity", "price", "product", "sku", "title", "barcode",
    "weight", "weight_unit"]

/-- The names of the parts of an object, in order. -/
def partNames : ObjectClass → List String
  | .id => ["entity_type", "number", "namespace"]
  | .money => ["amount"]
  | .connection => ["first_count", "last_count"]
  | .leaf => ["name"]
  | .node => ["name", "entity_kind", "selection", "connection"]
  | .fields => ["tokens"]
  | .inputs => ["assignments"]
  | .selection .product => ["fields"]
  | .selection .variant => ["fields", "connection"]
  | .query _ => ["fields", "operation_kind", "identifier", "connection", "inputs"]
  | .bulk => ["operation", "inner", "fields"]
  | .document => ["text", "operation"]
  | .nodes => ["nodes"]
  | .entity .product | .payloadNode .product => productParts
  | .entity .variant | .payloadNode .variant => variantParts
  | .bulkOperation | .bulkNode => ["id", "status", "error_code", "object_count", "url"]
  | .success => ["operation", "payload", "extensions"]
  | .errors => ["errors", "data"]
  | .payloadEdge _ => ["node"]
  | .payloadEdges _ => ["edges"]
  | .updatePayload .product => ["product"]
  | .updatePayload .variant => ["product_variant"]
  | .bulkRun => ["bulk_operation"]

/-- The parts that the text of an object leaves out: an entity inside an entity. -/
def hiddenParts : ObjectClass → List String
  | .entity .product => ["variants"]
  | .entity .variant => ["product"]
  | _ => []

/-- The objects of a class stand in the payload of a reply. -/
def isPayload : ObjectClass → Bool
  | .payloadNode _ | .payloadEdge _ | .payloadEdges _ | .updatePayload _ | .bulkNode | .bulkRun =>
    true
  | _ => false

/-- The objects of a class are iterated over as their one part is. -/
def isCollection : ObjectClass → Bool
  | .fields | .inputs | .nodes => true
  | _ => false

end ObjectClass

end CatalogQuery.Script
