import CatalogQuery.Script.Call

/-!
# Methods

What a value can do by name. A value also answers to the names of its class. A name that stands for
an attribute cannot be called, and one that stands for nothing is a fault of its own kind.
-/

namespace CatalogQuery.Script

/-! ### Selectors and changes by name -/

/-- The product field that a selector names. -/
def productSelector? : String → Option ProductField
  | "with_title" => some .title
  | "with_status" => some .status
  | "with_vendor" => some .vendor
  | "with_handle" => some .handle
  | "with_product_type" => some .productType
  | "with_tags" => some .tags
  | _ => none

/-- The variant field that a selector names. -/
def variantSelector? : String → Option VariantField
  | "with_compare_at_price" => some .compareAtPrice
  | "with_inventory_quantity" => some .inventoryQuantity
  | "with_price" => some .price
  | "with_sku" => some .sku
  | "with_title" => some .title
  | "with_barcode" => some .barcode
  | "with_weight" => some .weight
  | "with_weight_unit" => some .weightUnit
  | _ => none

/-- A change of a product with the name of its parameter. -/
def productChange? : String → Option (ProductChange × String)
  | "update_title" => some (.title, "title")
  | "update_status" => some (.status, "status")
  | "update_vendor" => some (.vendor, "vendor")
  | "update_handle" => some (.handle, "handle")
  | "update_product_type" => some (.productType, "product_type")
  | "update_tags" => some (.tags, "tags")
  | _ => none

/-- A change of a variant with the name of its parameter. -/
def variantChange? : String → Option (VariantChange × String)
  | "update_compare_at_price" => some (.compareAtPrice, "compare_at_price")
  | "update_price" => some (.price, "price")
  | "update_sku" => some (.sku, "sku")
  | "update_barcode" => some (.barcode, "barcode")
  | "update_weight" => some (.weight, "weight")
  | "update_weight_unit" => some (.weightUnit, "weight_unit")
  | "update_inventory_quantities" => some (.inventoryQuantities, "inventory_quantities")
  | _ => none

/-- The leaf field of an entity that a selector names. -/
def selector? (e : Entity) (method : String) : Option e.Field :=
  match e with
  | .product => productSelector? method
  | .variant => variantSelector? method

/-! ### Methods by class -/

/-- A method without arguments. -/
def plainMethod (result : Outcome Value) : Arguments → Outcome Value := fun a ↦ do
  a.none
  result

/-- A method with one argument. -/
def oneMethod (parameter : String) (result : Value → Outcome Value) : Arguments → Outcome Value :=
  fun a ↦ do result (← a.one parameter)

/-- A selector of a query. -/
def selectIn (e : Entity) (v : Value) (f : e.Field) : Outcome Value :=
  settle ((Value.queryOf? e v).map fun q ↦ .ok (.ofQuery ⟨e, q.select f⟩))
    (v.select (e.fieldName f))

/-- A product query that selects variants. -/
def withVariants (v x : Value) : Outcome Value :=
  let given := do
    let q ← Value.queryOf? .product v
    let vs ← x.variants?
    return (q.withVariants vs).map fun r ↦ Value.ofQuery ⟨.product, r⟩
  settle given (v.withVariants x)

/-- A variant query that selects its product. -/
def withProduct (v x : Value) : Outcome Value :=
  let given := do
    let q ← Value.queryOf? .variant v
    let p ← x.owner?
    return (q.withProduct p).map fun r ↦ Value.ofQuery ⟨.variant, r⟩
  settle given (v.withProduct x)

/-- The methods of a query that its entity has. -/
def entityMethod? (v : Value) (e : Entity) (method : String) : Option (Arguments → Outcome Value) :=
  match e with
  | .product =>
    if method = "with_variants" then some (oneMethod "variants" (withVariants v))
    else (productChange? method).map fun (c, parameter) ↦ oneMethod parameter (v.updateProduct c)
  | .variant =>
    if method = "with_product" then some (oneMethod "product" (withProduct v))
    else (variantChange? method).map fun (c, parameter) ↦ oneMethod parameter (v.updateVariant c)

/-- The methods of a request: its document. -/
def requestMethod? (v : Value) (method : String) : Option (Arguments → Outcome Value) :=
  match method with
  | "compile" => some (plainMethod (v.document.map fun d ↦ .str d.text))
  | "build" => some (plainMethod (v.document.map .ofDocument))
  | _ => none

/-- The methods of a query. -/
def queryMethod? (v : Value) (e : Entity) (method : String) : Option (Arguments → Outcome Value) :=
  match selector? e method with
  | some f => some (plainMethod (selectIn e v f))
  | none =>
    match entityMethod? v e method with
    | some f => some f
    | none => requestMethod? v method

/-- Assigns a value to a key. -/
def assignMethod (v : Value) (a : Arguments) : Outcome Value := do
  match ← a.bind [.required "key", .required "value"] with
  | [key, value] => v.assignEntry key value
  | _ => wrongClass

/-- The value of a key, or a default. -/
def getMethod (assignments : Value) (a : Arguments) : Outcome Value := do
  match ← a.bind [.required "key", .absent "default"] with
  | [key, default] => return (← Value.entryValue key (← assignments.items)).getD default
  | _ => wrongClass

/-- The method of an object of a class. -/
def objectMethod? (v : Value) (cls : ObjectClass) (parts : List Value) (method : String) :
    Option (Arguments → Outcome Value) :=
  match cls, parts, method with
  | .money, [amount], "to_literal" =>
    some (plainMethod ((Value.make .money [amount]).plain.map .ofText))
  | .connection, [first, last], "render" =>
    some (plainMethod ((Branch.boundText (.make .connection [first, last])).map .str))
  | .fields, _, "add" => some (oneMethod "token" v.addToken)
  | .fields, _, "find" => some (oneMethod "name" v.findToken)
  | .inputs, _, "assign" => some (assignMethod v)
  | .inputs, [assignments], "get" => some (getMethod assignments)
  | .selection e, _, method =>
    (selector? e method).map fun f ↦ plainMethod (v.select (e.fieldName f))
  | .query e, _, method => queryMethod? v e method
  | .bulk, _, method => requestMethod? v method
  | .document, [text, _], "to_dict" =>
    some (plainMethod (.ok (.dict .fresh [(.own "query", text)])))
  | .nodes, [nodes], "get_node" => some (oneMethod "index" nodes.item)
  | .entity _, _, "fetched_fields" | .bulkOperation, _, "fetched_fields" =>
    some (plainMethod (.ok (.ofTuple (v.fetched.map .own))))
  | _, _, _ => none

/-- The method of a value. -/
def method? (v : Value) (method : String) : Option (Arguments → Outcome Value) :=
  match v with
  | .object _ cls parts =>
    match objectMethod? v cls parts method with
    | some f => some f
    | none => classMethod? cls.name method
  | v => v.word?.bind fun w ↦ classMethod? w.title method

/-- Calls a method of a value. -/
def callMethod (v : Value) (method : String) (a : Arguments) : Outcome Value :=
  match method? v method with
  | some f => f a
  | none =>
    match v.attribute? method with
    | .ok _ => wrongClass
    | .error failure => .error failure

end CatalogQuery.Script
