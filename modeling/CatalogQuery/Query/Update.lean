import CatalogQuery.Query

/-!
# Changes

The changes that an update query takes, each with the key that it assigns and the conversion of its
value. Text attributes take any value as text. The others are converted strictly: a word by its wire
form, an amount of money, a weight, a list of tags, and the available quantities by location.

A text attribute is converted before the query is looked at, all others after: a value without a
text is therefore a fault even where the change is a misuse.
-/

namespace CatalogQuery

/-- The attributes of a product that can be changed. -/
inductive ProductChange where
  | title | status | vendor | handle | productType | tags
  deriving DecidableEq, Repr

/-- The attributes of a variant that can be changed. -/
inductive VariantChange where
  | compareAtPrice | price | sku | barcode | weight | weightUnit | inventoryQuantities
  deriving DecidableEq, Repr

/-! ### Conversions -/

namespace Convert

/-- Any value as text. -/
def text (value : Datum) : Outcome Datum :=
  if value.hasText then .ok (.text value.plain)
  else Outcome.fault .badValue

/-- An amount of money, or a value that one can be read from. -/
def money (value : Datum) : Outcome Datum :=
  match value with
  | .money m => .ok (.money m)
  | d => (Money.parse d).map .money

/-- The status of a product. -/
def status (value : Datum) : Outcome Datum :=
  (Vocabulary.read ProductStatus value).map fun w ↦ .word (.productStatus w)

/-- A unit of weight. -/
def weightUnit (value : Datum) : Outcome Datum :=
  (Vocabulary.read WeightUnit value).map fun w ↦ .word (.weightUnit w)

/-- A weight. -/
def weight (value : Datum) : Outcome Datum :=
  (readWeight value).map .float

/-- Tags: a text is one tag, of any other collection each element is one as text. -/
def tags (value : Datum) : Outcome Datum :=
  match value.asText? with
  | some _ => .ok (.list [value])
  | none =>
    match value.elements? with
    | some xs => (xs.mapM text).map .list
    | none => Outcome.fault .wrongClass

/-- The two parts of a pair. -/
def pair (value : Datum) : Outcome (Datum × Datum) :=
  match value.elements? with
  | some [a, b] => .ok (a, b)
  | some _ => Outcome.fault .badValue
  | none => Outcome.fault .wrongClass

/-- A location: an identifier of one, or its number. -/
def location (value : Datum) : Outcome Id :=
  match value with
  | .id i => if i.entityType = .location then .ok i else .error (Failure.identifier value)
  | d => Id.ofType .location d

/-- The quantity available at a location, from a pair of quantity and location. The location is
looked at first. -/
def quantity (value : Datum) : Outcome Datum := do
  let (available, place) ← pair value
  let i ← location place
  let n ← readCount available
  return .dict [(.str "availableQuantity", .int n), (.str "locationId", .id i)]

/-- Available quantities by location. -/
def quantities (value : Datum) : Outcome Datum :=
  match value.elements? with
  | some xs => (xs.mapM quantity).map .list
  | none => Outcome.fault .wrongClass

end Convert

/-! ### Changes of products -/

namespace ProductChange

/-- The key that a change assigns. -/
def key : ProductChange → String
  | .title => "title"
  | .status => "status"
  | .vendor => "vendor"
  | .handle => "handle"
  | .productType => "productType"
  | .tags => "tags"

/-- The call that makes a change. -/
def call : ProductChange → String
  | .title => "update_title"
  | .status => "update_status"
  | .vendor => "update_vendor"
  | .handle => "update_handle"
  | .productType => "update_product_type"
  | .tags => "update_tags"

/-- The value is converted before the query is looked at. -/
def isText : ProductChange → Bool
  | .status | .tags => false
  | _ => true

/-- The conversion of the value of a change. -/
def convert : ProductChange → Datum → Outcome Datum
  | .status => Convert.status
  | .tags => Convert.tags
  | _ => Convert.text

end ProductChange

/-! ### Changes of variants -/

namespace VariantChange

/-- The key that a change assigns. -/
def key : VariantChange → String
  | .compareAtPrice => "compareAtPrice"
  | .price => "price"
  | .sku => "sku"
  | .barcode => "barcode"
  | .weight => "weight"
  | .weightUnit => "weightUnit"
  | .inventoryQuantities => "inventoryQuantities"

/-- The call that makes a change. -/
def call : VariantChange → String
  | .compareAtPrice => "update_compare_at_price"
  | .price => "update_price"
  | .sku => "update_sku"
  | .barcode => "update_barcode"
  | .weight => "update_weight"
  | .weightUnit => "update_weight_unit"
  | .inventoryQuantities => "update_inventory_quantities"

/-- The value is converted before the query is looked at. -/
def isText : VariantChange → Bool
  | .sku | .barcode => true
  | _ => false

/-- The conversion of the value of a change. -/
def convert : VariantChange → Datum → Outcome Datum
  | .compareAtPrice | .price => Convert.money
  | .weight => Convert.weight
  | .weightUnit => Convert.weightUnit
  | .inventoryQuantities => Convert.quantities
  | .sku | .barcode => Convert.text

end VariantChange

/-! ### Changing -/

namespace Query

/-- A conversion that has to succeed before the query is looked at. -/
def precheck (isText : Bool) (converted : Outcome Datum) : Outcome Unit :=
  if isText then converted.map fun _ ↦ () else .ok ()

/-- Changes an attribute of a product. -/
def updateProduct (q : Query .product) (c : ProductChange) (value : Datum) :
    Outcome (Query .product) := do
  precheck c.isText (c.convert value)
  q.assign c.call c.key (c.convert value)

/-- Changes an attribute of a variant. -/
def updateVariant (q : Query .variant) (c : VariantChange) (value : Datum) :
    Outcome (Query .variant) := do
  precheck c.isText (c.convert value)
  q.assign c.call c.key (c.convert value)

end Query

end CatalogQuery
