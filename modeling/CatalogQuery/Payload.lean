import CatalogQuery.Validation.Coerce

/-!
# Payloads

The shapes of what a reply holds under its root field, before any scalar is interpreted. A payload
is an object; each field is looked up under its name in documents, else under its plain name, and
keys that belong to no field are ignored. All fields are checked, in the order of their declaration,
and all issues are reported under the key that held the value.

A product holds variants and a variant its product, to any depth that the reply has. The checks
recur on the value: `checkField`, `checkItems` and `checkEdges` hand each part on together with the
fact that it is smaller than the whole. Two bounds on the depth are left out. A reader of JSON has a
limit of its own on how deep a reply may be nested, and a guard against endless recursion reports an
issue from the 255th nested product on; a reply within the limit of the reader mostly never gets to
the guard, but where the reader admits more, the guard comes first.
-/

namespace CatalogQuery

/-! ### Shapes -/

/-- A price as the shop writes it. -/
inductive Price where
  | text (t : Text)
  | number (x : Binary64)
  deriving DecidableEq, Repr

/-- A count of objects as the shop writes it. -/
inductive ObjectCount where
  | number (n : Int)
  | text (t : Text)
  deriving DecidableEq, Repr

/-- The leaf fields of a product in a reply. -/
structure ProductLeaves where
  id : Text
  title : Option Text := none
  status : Option Text := none
  vendor : Option Text := none
  handle : Option Text := none
  productType : Option Text := none
  tags : Option (List Text) := none
  deriving DecidableEq, Repr

/-- The leaf fields of a variant in a reply. -/
structure VariantLeaves where
  id : Text
  compareAtPrice : Option Price := none
  inventoryQuantity : Option Int := none
  price : Option Price := none
  sku : Option Text := none
  title : Option Text := none
  barcode : Option Text := none
  weight : Option Binary64 := none
  weightUnit : Option Text := none
  deriving DecidableEq, Repr

mutual

/-- A product in a reply. -/
inductive ProductNode where
  /-- The leaf fields and the variants. -/
  | mk (leaves : ProductLeaves) (variants : Option (List VariantNode))

/-- A variant in a reply. -/
inductive VariantNode where
  /-- The leaf fields and the product. -/
  | mk (leaves : VariantLeaves) (product : Option ProductNode)

end

/-- A bulk operation in a reply. -/
structure BulkNode where
  id : Text
  status : Text
  errorCode : Option Text := none
  objectCount : Option ObjectCount := none
  url : Option Text := none
  deriving DecidableEq, Repr

/-- The payload of a reply; the constructor is the shape of its root field. -/
inductive Payload where
  | product (node : ProductNode)
  | variant (node : VariantNode)
  | productUpdate (node : Option ProductNode)
  | variantUpdate (node : Option VariantNode)
  | products (nodes : List ProductNode)
  | variants (nodes : List VariantNode)
  | bulkRun (node : Option BulkNode)
  | bulk (node : BulkNode)

/-! ### Looking up fields -/

/-- The key that a field is found under: its name in documents if that is there, else its plain
name. -/
def fieldKey (name plainName : String) (entries : List (Datum × Datum)) : String :=
  if (Datum.field? name entries).isNone && (Datum.field? plainName entries).isSome then plainName
  else name

/-- The value of a field: under its name in documents, else under its plain name. -/
def fieldValue? (name plainName : String) (entries : List (Datum × Datum)) : Option Datum :=
  Datum.field? (fieldKey name plainName entries) entries

/-- A value under a key of a mapping is smaller than the mapping. -/
theorem sizeOf_lt_of_field? {key : String} {entries : List (Datum × Datum)} {v : Datum}
    (h : Datum.field? key entries = some v) : sizeOf v < sizeOf entries := by
  simp only [Datum.field?, Datum.get?, Option.map_eq_some_iff] at h
  obtain ⟨e, he, rfl⟩ := h
  have := List.sizeOf_lt_of_mem (List.mem_of_find?_eq_some he)
  have : sizeOf e = 1 + sizeOf e.1 + sizeOf e.2 := by cases e; simp
  omega

/-- The value of a field is smaller than the mapping. -/
theorem sizeOf_lt_of_fieldValue? {name plainName : String} {entries : List (Datum × Datum)}
    {v : Datum} (h : fieldValue? name plainName entries = some v) : sizeOf v < sizeOf entries :=
  sizeOf_lt_of_field? h

/-! ### Checking fields -/

section Checks

variable {α : Type}

/-- A field that has to be there. -/
def checkField (name plainName : String) (entries : List (Datum × Datum))
    (check : (v : Datum) → sizeOf v < sizeOf entries → Checked α) : Checked α :=
  Checked.under (fieldKey name plainName entries) <|
    match h : fieldValue? name plainName entries with
    | none => .fail .missing
    | some v => check v (sizeOf_lt_of_fieldValue? h)

/-- A field that may be absent or null. -/
def checkOptional (name plainName : String) (entries : List (Datum × Datum))
    (check : (v : Datum) → sizeOf v < sizeOf entries → Checked α) : Checked (Option α) :=
  Checked.under (fieldKey name plainName entries) <|
    match h : fieldValue? name plainName entries with
    | none => .ok none
    | some .null => .ok none
    | some v => (check v (sizeOf_lt_of_fieldValue? h)).map some

/-- The items of a list, with their indexes from `index` on. -/
def checkItems : (index : Nat) → (items : List Datum) →
    (check : (x : Datum) → sizeOf x < sizeOf items → Checked α) → Checked (List α)
  | _, [], _ => .ok []
  | index, x :: xs, check =>
    Checked.ap
      (Except.map List.cons (Checked.under (Nat.repr index) (check x (by simp; omega))))
      (checkItems (index + 1) xs fun y hy ↦ check y (by simp; omega))

/-- A list. -/
def checkList (d : Datum) (check : (x : Datum) → sizeOf x < sizeOf d → Checked α) :
    Checked (List α) :=
  match d with
  | .list xs => checkItems 0 xs fun x hx ↦ check x (by simp; omega)
  | .tuple xs => checkItems 0 xs fun x hx ↦ check x (by simp; omega)
  | _ => .fail .listType

/-- The node of one edge of a list of entities. -/
def checkEdge (d : Datum) (check : (x : Datum) → sizeOf x < sizeOf d → Checked α) : Checked α :=
  match d with
  | .dict es => checkField "node" "node" es fun x hx ↦ check x (by simp; omega)
  | _ => .fail .modelType

/-- The nodes of a list of entities. -/
def checkEdges (d : Datum) (check : (x : Datum) → sizeOf x < sizeOf d → Checked α) :
    Checked (List α) :=
  match d with
  | .dict es =>
    checkField "edges" "edges" es fun list hlist ↦
      checkList list fun edge hedge ↦ checkEdge edge fun x hx ↦ check x (by simp; omega)
  | _ => .fail .modelType

/-- A leaf field that may be absent or null. -/
def checkLeaf (name plainName : String) (entries : List (Datum × Datum))
    (check : Datum → Checked α) : Checked (Option α) :=
  checkOptional name plainName entries fun v _ ↦ check v

end Checks

/-! ### Checking leaves -/

/-- A price: a text, or a number. -/
def Price.check (d : Datum) : Checked Price :=
  match Coerce.text d with
  | .ok t => .ok (.text t)
  | .error _ =>
    match Coerce.float d with
    | .ok x => .ok (.number x)
    | .error issues =>
      .error (⟨["str"], .stringType⟩ :: (Checked.under (α := Unit) "float" (.error issues)).issues)

/-- A count of objects: a text, or an integer. -/
def ObjectCount.check (d : Datum) : Checked ObjectCount :=
  match Coerce.text d with
  | .ok t => .ok (.text t)
  | .error _ =>
    match Coerce.int d with
    | .ok n => .ok (.number n)
    | .error issues =>
      .error ((Checked.under (α := Unit) "int" (.error issues)).issues ++
        [⟨["str"], .stringType⟩])

/-- The tags of a product. -/
def checkTags (d : Datum) : Checked (List Text) :=
  checkList d fun x _ ↦ Coerce.text x

/-! ### Checking nodes -/

mutual

/-- A product. Nothing bounds how deep products and variants are nested. -/
def ProductNode.check (d : Datum) : Checked ProductNode :=
  match d with
  | .dict es =>
    let leaves := (Checked.ap (Except.map ProductLeaves.mk
      (checkField "id" "id" es fun v _ ↦ Coerce.text v))
      (checkLeaf "title" "title" es Coerce.text)).ap
      (checkLeaf "status" "status" es Coerce.text) |>.ap
      (checkLeaf "vendor" "vendor" es Coerce.text) |>.ap
      (checkLeaf "handle" "handle" es Coerce.text) |>.ap
      (checkLeaf "productType" "product_type" es Coerce.text) |>.ap
      (checkLeaf "tags" "tags" es checkTags)
    Checked.ap (Except.map ProductNode.mk leaves)
      (checkOptional "variants" "variants" es fun v _ ↦
        checkEdges v fun x _ ↦ VariantNode.check x)
  | _ => .fail .modelType
termination_by sizeOf d

/-- A variant. The product stands between the prices and the texts. -/
def VariantNode.check (d : Datum) : Checked VariantNode :=
  match d with
  | .dict es =>
    let assemble (id : Text) (compareAtPrice : Option Price) (inventoryQuantity : Option Int)
        (price : Option Price) (product : Option ProductNode) (sku title barcode : Option Text)
        (weight : Option Binary64) (weightUnit : Option Text) : VariantNode :=
      .mk { id, compareAtPrice, inventoryQuantity, price, sku, title, barcode, weight, weightUnit }
        product
    (Checked.ap (Except.map assemble
      (checkField "id" "id" es fun v _ ↦ Coerce.text v))
      (checkLeaf "compareAtPrice" "compare_at_price" es Price.check)).ap
      (checkLeaf "inventoryQuantity" "inventory_quantity" es Coerce.int) |>.ap
      (checkLeaf "price" "price" es Price.check) |>.ap
      (checkOptional "product" "product" es fun v _ ↦ ProductNode.check v) |>.ap
      (checkLeaf "sku" "sku" es Coerce.text) |>.ap
      (checkLeaf "title" "title" es Coerce.text) |>.ap
      (checkLeaf "barcode" "barcode" es Coerce.text) |>.ap
      (checkLeaf "weight" "weight" es Coerce.float) |>.ap
      (checkLeaf "weightUnit" "weight_unit" es Coerce.text)
  | _ => .fail .modelType
termination_by sizeOf d

end

/-- A bulk operation. -/
def BulkNode.check (d : Datum) : Checked BulkNode :=
  match d with
  | .dict es =>
    (Checked.ap (Except.map BulkNode.mk
      (checkField "id" "id" es fun v _ ↦ Coerce.text v))
      (checkField "status" "status" es fun v _ ↦ Coerce.text v)).ap
      (checkLeaf "errorCode" "error_code" es Coerce.text) |>.ap
      (checkLeaf "objectCount" "object_count" es ObjectCount.check) |>.ap
      (checkLeaf "url" "url" es Coerce.text)
  | _ => .fail .modelType

/-! ### Checking payloads -/

/-- A payload that wraps one node which may be absent or null. -/
def checkWrapped {α : Type} (name plainName : String) (check : Datum → Checked α) (d : Datum) :
    Checked (Option α) :=
  match d with
  | .dict es => checkLeaf name plainName es check
  | _ => .fail .modelType

/-- The payload of a root field. -/
def Payload.check (field : RootField) (d : Datum) : Checked Payload :=
  match field with
  | .product => (ProductNode.check d).map .product
  | .productVariant => (VariantNode.check d).map .variant
  | .productUpdate => (checkWrapped "product" "product" ProductNode.check d).map .productUpdate
  | .productVariantUpdate =>
    (checkWrapped "productVariant" "product_variant" VariantNode.check d).map .variantUpdate
  | .products => (checkEdges d fun x _ ↦ ProductNode.check x).map .products
  | .productVariants => (checkEdges d fun x _ ↦ VariantNode.check x).map .variants
  | .bulkOperationRunQuery =>
    (checkWrapped "bulkOperation" "bulk_operation" BulkNode.check d).map .bulkRun
  | .currentBulkOperation => (BulkNode.check d).map .bulk

end CatalogQuery
