/-!
# Closed vocabularies

The enumerations that documents, replies and settings are written in. A word has a wire form, which
is what a document or a reply holds, and a label, which names it inside its vocabulary. `Word` is
the sum of all of them, for the places that take a word of any vocabulary.

`Vocabulary.ofWire?` reads a wire form. No two words of one vocabulary share one, but words of two
vocabularies may: a word is also accepted where another vocabulary has the same wire form.
-/

namespace CatalogQuery

/-- A closed enumeration whose words are written as texts. -/
class Vocabulary (α : Type) where
  /-- The name of the vocabulary. -/
  title : String
  /-- All words in order. -/
  all : List α
  /-- The text that stands for a word in documents and replies. -/
  wire : α → String
  /-- The name of a word inside its vocabulary. -/
  label : α → String

/-- The word with the given wire form. -/
def Vocabulary.ofWire? {α : Type} [Vocabulary α] (s : String) : Option α :=
  (Vocabulary.all (α := α)).find? fun w ↦ Vocabulary.wire w == s

/-- The type of the thing that an identifier names. -/
inductive EntityType where
  | product | productVariant | location | bulkOperation
  deriving DecidableEq, Repr, Inhabited

/-- The kind of entity whose fields are selected. -/
inductive EntityKind where
  | product | productVariant | bulkOperation
  deriving DecidableEq, Repr, Inhabited

/-- Whether a document reads or writes. -/
inductive OperationType where
  | query | mutation
  deriving DecidableEq, Repr, Inhabited

/-- What a query was made for: one entity by identifier, a change of one, or a list. -/
inductive OperationKind where
  | read | update | connection
  deriving DecidableEq, Repr, Inhabited

/-- The root fields of documents, which are also the shapes of replies. -/
inductive RootField where
  | product | productUpdate | productVariant | productVariantUpdate | products | productVariants
  | bulkOperationRunQuery | currentBulkOperation
  deriving DecidableEq, Repr, Inhabited

/-- Units of weight. -/
inductive WeightUnit where
  | grams | kilograms | ounces | pounds
  deriving DecidableEq, Repr, Inhabited

/-- The statuses of a product. -/
inductive ProductStatus where
  | active | archived | draft
  deriving DecidableEq, Repr, Inhabited

/-- The statuses of a bulk operation. -/
inductive BulkStatus where
  | canceled | canceling | completed | created | expired | failed | running
  deriving DecidableEq, Repr, Inhabited

/-- The levels that logging can be set to. -/
inductive LogLevel where
  | debug | info | warning | error | critical
  deriving DecidableEq, Repr, Inhabited

/-- The ways to authenticate. -/
inductive AuthType where
  | accessToken
  deriving DecidableEq, Repr, Inhabited

instance : Vocabulary EntityType where
  title := "EntityType"
  all := [.product, .productVariant, .location, .bulkOperation]
  wire
    | .product => "Product"
    | .productVariant => "ProductVariant"
    | .location => "Location"
    | .bulkOperation => "BulkOperation"
  label
    | .product => "PRODUCT"
    | .productVariant => "PRODUCT_VARIANT"
    | .location => "LOCATION"
    | .bulkOperation => "BULK_OPERATION"

instance : Vocabulary EntityKind where
  title := "EntityKind"
  all := [.product, .productVariant, .bulkOperation]
  wire
    | .product => "Product"
    | .productVariant => "ProductVariant"
    | .bulkOperation => "BulkOperation"
  label
    | .product => "PRODUCT"
    | .productVariant => "PRODUCT_VARIANT"
    | .bulkOperation => "BULK_OPERATION"

instance : Vocabulary OperationType where
  title := "GraphQLOperationType"
  all := [.query, .mutation]
  wire
    | .query => "query"
    | .mutation => "mutation"
  label
    | .query => "QUERY"
    | .mutation => "MUTATION"

instance : Vocabulary OperationKind where
  title := "OperationKind"
  all := [.read, .update, .connection]
  wire
    | .read => "read"
    | .update => "update"
    | .connection => "connection"
  label
    | .read => "READ"
    | .update => "UPDATE"
    | .connection => "CONNECTION"

instance : Vocabulary RootField where
  title := "OperationTag"
  all := [.product, .productUpdate, .productVariant, .productVariantUpdate, .products,
    .productVariants, .bulkOperationRunQuery, .currentBulkOperation]
  wire
    | .product => "product"
    | .productUpdate => "productUpdate"
    | .productVariant => "productVariant"
    | .productVariantUpdate => "productVariantUpdate"
    | .products => "products"
    | .productVariants => "productVariants"
    | .bulkOperationRunQuery => "bulkOperationRunQuery"
    | .currentBulkOperation => "currentBulkOperation"
  label
    | .product => "PRODUCT"
    | .productUpdate => "PRODUCT_UPDATE"
    | .productVariant => "PRODUCT_VARIANT"
    | .productVariantUpdate => "PRODUCT_VARIANT_UPDATE"
    | .products => "PRODUCTS"
    | .productVariants => "PRODUCT_VARIANTS"
    | .bulkOperationRunQuery => "BULK_OPERATION_RUN_QUERY"
    | .currentBulkOperation => "CURRENT_BULK_OPERATION"

instance : Vocabulary WeightUnit where
  title := "WeightUnit"
  all := [.grams, .kilograms, .ounces, .pounds]
  wire
    | .grams => "GRAMS"
    | .kilograms => "KILOGRAMS"
    | .ounces => "OUNCES"
    | .pounds => "POUNDS"
  label
    | .grams => "GRAMS"
    | .kilograms => "KILOGRAMS"
    | .ounces => "OUNCES"
    | .pounds => "POUNDS"

instance : Vocabulary ProductStatus where
  title := "ProductStatus"
  all := [.active, .archived, .draft]
  wire
    | .active => "ACTIVE"
    | .archived => "ARCHIVED"
    | .draft => "DRAFT"
  label
    | .active => "ACTIVE"
    | .archived => "ARCHIVED"
    | .draft => "DRAFT"

instance : Vocabulary BulkStatus where
  title := "BulkOperationStatus"
  all := [.canceled, .canceling, .completed, .created, .expired, .failed, .running]
  wire
    | .canceled => "CANCELED"
    | .canceling => "CANCELING"
    | .completed => "COMPLETED"
    | .created => "CREATED"
    | .expired => "EXPIRED"
    | .failed => "FAILED"
    | .running => "RUNNING"
  label
    | .canceled => "CANCELED"
    | .canceling => "CANCELING"
    | .completed => "COMPLETED"
    | .created => "CREATED"
    | .expired => "EXPIRED"
    | .failed => "FAILED"
    | .running => "RUNNING"

instance : Vocabulary LogLevel where
  title := "LogLevel"
  all := [.debug, .info, .warning, .error, .critical]
  wire
    | .debug => "DEBUG"
    | .info => "INFO"
    | .warning => "WARNING"
    | .error => "ERROR"
    | .critical => "CRITICAL"
  label
    | .debug => "DEBUG"
    | .info => "INFO"
    | .warning => "WARNING"
    | .error => "ERROR"
    | .critical => "CRITICAL"

instance : Vocabulary AuthType where
  title := "AuthType"
  all := [.accessToken]
  wire
    | .accessToken => "access_token"
  label
    | .accessToken => "ACCESS_TOKEN"

/-- A root field of the mutation type; the others belong to the query type. -/
def RootField.operationType : RootField → OperationType
  | .productUpdate | .productVariantUpdate | .bulkOperationRunQuery => .mutation
  | _ => .query

/-- The severity number of a level. -/
def LogLevel.severity : LogLevel → Nat
  | .debug => 10
  | .info => 20
  | .warning => 30
  | .error => 40
  | .critical => 50

/-- A word of any vocabulary. -/
inductive Word where
  | entityType (w : EntityType)
  | entityKind (w : EntityKind)
  | operationType (w : OperationType)
  | operationKind (w : OperationKind)
  | rootField (w : RootField)
  | weightUnit (w : WeightUnit)
  | productStatus (w : ProductStatus)
  | bulkStatus (w : BulkStatus)
  | logLevel (w : LogLevel)
  | authType (w : AuthType)
  deriving DecidableEq, Repr

namespace Word

/-- The title of the vocabulary of a word. -/
def title : Word → String
  | .entityType _ => Vocabulary.title EntityType
  | .entityKind _ => Vocabulary.title EntityKind
  | .operationType _ => Vocabulary.title OperationType
  | .operationKind _ => Vocabulary.title OperationKind
  | .rootField _ => Vocabulary.title RootField
  | .weightUnit _ => Vocabulary.title WeightUnit
  | .productStatus _ => Vocabulary.title ProductStatus
  | .bulkStatus _ => Vocabulary.title BulkStatus
  | .logLevel _ => Vocabulary.title LogLevel
  | .authType _ => Vocabulary.title AuthType

/-- The wire form of a word. -/
def wire : Word → String
  | .entityType w => Vocabulary.wire w
  | .entityKind w => Vocabulary.wire w
  | .operationType w => Vocabulary.wire w
  | .operationKind w => Vocabulary.wire w
  | .rootField w => Vocabulary.wire w
  | .weightUnit w => Vocabulary.wire w
  | .productStatus w => Vocabulary.wire w
  | .bulkStatus w => Vocabulary.wire w
  | .logLevel w => Vocabulary.wire w
  | .authType w => Vocabulary.wire w

/-- The label of a word. -/
def label : Word → String
  | .entityType w => Vocabulary.label w
  | .entityKind w => Vocabulary.label w
  | .operationType w => Vocabulary.label w
  | .operationKind w => Vocabulary.label w
  | .rootField w => Vocabulary.label w
  | .weightUnit w => Vocabulary.label w
  | .productStatus w => Vocabulary.label w
  | .bulkStatus w => Vocabulary.label w
  | .logLevel w => Vocabulary.label w
  | .authType w => Vocabulary.label w

/-- The name of a word with its vocabulary before it. -/
def fullName (w : Word) : String :=
  w.title ++ "." ++ w.label

/-- All words of all vocabularies. -/
def all : List Word :=
  (Vocabulary.all : List EntityType).map .entityType ++
  (Vocabulary.all : List EntityKind).map .entityKind ++
  (Vocabulary.all : List OperationType).map .operationType ++
  (Vocabulary.all : List OperationKind).map .operationKind ++
  (Vocabulary.all : List RootField).map .rootField ++
  (Vocabulary.all : List WeightUnit).map .weightUnit ++
  (Vocabulary.all : List ProductStatus).map .productStatus ++
  (Vocabulary.all : List BulkStatus).map .bulkStatus ++
  (Vocabulary.all : List LogLevel).map .logLevel ++
  (Vocabulary.all : List AuthType).map .authType

/-- The word with the given full name. -/
def ofFullName? (s : String) : Option Word :=
  all.find? fun w ↦ w.fullName == s

end Word

end CatalogQuery
