import CatalogQuery.Payload

/-!
# Shapes of payloads

The table of what a payload is made of: for every object in it the fields that are looked at, in the
order in which they are checked, each with its name in documents, its plain name, what its value has
to be, and whether it has to be there (`Shape.slots`). The two records that refer to each other,
products and variants, stand in the table once, and so do the edges between them.

`Shape.check` is the check of an object, and `Shape.check_dict` says that it is made of the checks
of its slots and of nothing else. Two consequences are all that later modules use: an object is
accepted exactly when every slot is (`Shape.isOk_check_dict`), and objects whose slots are checked
alike are checked alike (`Shape.check_dict_congr`).

## Why there is a table

The checks of the library are functions that name their fields one after the other, in one long
expression for a product and another one for a variant. Statements about all fields would have to be
proved once for each of them. Here the fields are data, so that such a statement is one about all
slots of all shapes, and the expressions are opened in a single place (`Shape.check_dict`).

The table is typed: a part knows what it is read as (`Part.Value`), and the check of a slot has the
type that the assembly of its object takes. The order of the slots is that of the checks, and with
it that of the faults in a message.
-/

namespace CatalogQuery

/-! ### The table

A field is looked up under its name in documents first and then under its plain name. That no two
fields of one object share a key is decided by evaluation, and is what lets a value be changed under
one key without any other field seeing it (`Shape.eq_of_hasKey`).
-/

/-- A value that is no object. -/
inductive Leaf where
  | text | texts | price | integer | number | count
  deriving DecidableEq, Repr

/-- An object of a payload. -/
inductive Shape where
  | product | variant
  | productEdge | variantEdge
  | productEdges | variantEdges
  | productUpdate | variantUpdate
  | bulk | bulkRun
  deriving DecidableEq, Repr

/-- What the value of a field has to be. -/
inductive Part where
  /-- A value that is no object. -/
  | leaf (l : Leaf)
  /-- An object. -/
  | object (s : Shape)
  /-- A list of objects. -/
  | list (s : Shape)
  deriving DecidableEq, Repr

/-- A field of an object. -/
structure Slot where
  /-- The name in documents. -/
  name : String
  /-- The name that is looked up when the name in documents is not there. -/
  plainName : String
  /-- What the value has to be. -/
  part : Part
  /-- The field has to be there, and it may not be null. -/
  isRequired : Bool
  deriving DecidableEq, Repr

namespace Slot

/-- A field that has to be there. -/
def required (name : String) (part : Part) : Slot :=
  ⟨name, name, part, true⟩

/-- A field that may be absent or null. -/
def optional (name plainName : String) (part : Part) : Slot :=
  ⟨name, plainName, part, false⟩

/-- The field is looked up under this key. -/
def HasKey (f : Slot) (key : String) : Prop :=
  key = f.name ∨ key = f.plainName

/-- The value of the field in an object. -/
def value? (f : Slot) (es : List (Datum × Datum)) : Option Datum :=
  fieldValue? f.name f.plainName es

end Slot

/-- The fields of an object, in the order in which they are checked. -/
def Shape.slots : Shape → List Slot
  | .product =>
    [.required "id" (.leaf .text), .optional "title" "title" (.leaf .text),
      .optional "status" "status" (.leaf .text), .optional "vendor" "vendor" (.leaf .text),
      .optional "handle" "handle" (.leaf .text),
      .optional "productType" "product_type" (.leaf .text),
      .optional "tags" "tags" (.leaf .texts),
      .optional "variants" "variants" (.object .variantEdges)]
  | .variant =>
    [.required "id" (.leaf .text), .optional "compareAtPrice" "compare_at_price" (.leaf .price),
      .optional "inventoryQuantity" "inventory_quantity" (.leaf .integer),
      .optional "price" "price" (.leaf .price), .optional "product" "product" (.object .product),
      .optional "sku" "sku" (.leaf .text), .optional "title" "title" (.leaf .text),
      .optional "barcode" "barcode" (.leaf .text), .optional "weight" "weight" (.leaf .number),
      .optional "weightUnit" "weight_unit" (.leaf .text)]
  | .productEdge => [.required "node" (.object .product)]
  | .variantEdge => [.required "node" (.object .variant)]
  | .productEdges => [.required "edges" (.list .productEdge)]
  | .variantEdges => [.required "edges" (.list .variantEdge)]
  | .productUpdate => [.optional "product" "product" (.object .product)]
  | .variantUpdate => [.optional "productVariant" "product_variant" (.object .variant)]
  | .bulk =>
    [.required "id" (.leaf .text), .required "status" (.leaf .text),
      .optional "errorCode" "error_code" (.leaf .text),
      .optional "objectCount" "object_count" (.leaf .count), .optional "url" "url" (.leaf .text)]
  | .bulkRun => [.optional "bulkOperation" "bulk_operation" (.object .bulk)]

/-- No two fields of an object share a key. -/
theorem Shape.eq_of_hasKey {s : Shape} {f g : Slot} {key : String} (hf : f ∈ s.slots)
    (hg : g ∈ s.slots) (hfkey : f.HasKey key) (hgkey : g.HasKey key) : f = g := by
  have htable : ∀ f ∈ s.slots, ∀ g ∈ s.slots, (f.name = g.name ∨ f.name = g.plainName ∨
      f.plainName = g.name ∨ f.plainName = g.plainName) → f = g := by
    cases s <;> decide
  refine htable f hf g hg ?_
  rcases hfkey with rfl | rfl
  · exact hgkey.elim .inl fun h ↦ .inr (.inl h)
  · exact hgkey.elim (fun h ↦ .inr (.inr (.inl h))) fun h ↦ .inr (.inr (.inr h))

/-- The shape of the payload of a root field. -/
def RootField.shape : RootField → Shape
  | .product => .product
  | .productUpdate => .productUpdate
  | .productVariant => .variant
  | .productVariantUpdate => .variantUpdate
  | .products => .productEdges
  | .productVariants => .variantEdges
  | .bulkOperationRunQuery => .bulkRun
  | .currentBulkOperation => .bulk

/-! ### Checks

The types in which checks answer depend on what is checked: a leaf is read as a text, a number or a
price, an object as its node. The families `Leaf.Value`, `Shape.Node` and `Part.Value` say as what,
and the checks are typed by them.
-/

/-- What a value is read as. -/
abbrev Leaf.Value : Leaf → Type
  | .text => Text
  | .texts => List Text
  | .price => Price
  | .integer => Int
  | .number => Binary64
  | .count => ObjectCount

/-- The check of a value that is no object. -/
def Leaf.check : (l : Leaf) → Datum → Checked l.Value
  | .text => Coerce.text
  | .texts => checkTags
  | .price => Price.check
  | .integer => Coerce.int
  | .number => Coerce.float
  | .count => ObjectCount.check

/-- What an object is read as. -/
abbrev Shape.Node : Shape → Type
  | .product | .productEdge => ProductNode
  | .variant | .variantEdge => VariantNode
  | .productEdges => List ProductNode
  | .variantEdges => List VariantNode
  | .productUpdate => Option ProductNode
  | .variantUpdate => Option VariantNode
  | .bulk => BulkNode
  | .bulkRun => Option BulkNode

/-- The check of an object. -/
def Shape.check : (s : Shape) → Datum → Checked s.Node
  | .product, d => ProductNode.check d
  | .variant, d => VariantNode.check d
  | .productEdge, d => checkEdge d fun x _ ↦ ProductNode.check x
  | .variantEdge, d => checkEdge d fun x _ ↦ VariantNode.check x
  | .productEdges, d => checkEdges d fun x _ ↦ ProductNode.check x
  | .variantEdges, d => checkEdges d fun x _ ↦ VariantNode.check x
  | .productUpdate, d => checkWrapped "product" "product" ProductNode.check d
  | .variantUpdate, d => checkWrapped "productVariant" "product_variant" VariantNode.check d
  | .bulk, d => BulkNode.check d
  | .bulkRun, d => checkWrapped "bulkOperation" "bulk_operation" BulkNode.check d

/-- What the value of a field is read as. -/
abbrev Part.Value : Part → Type
  | .leaf l => l.Value
  | .object s => s.Node
  | .list s => List s.Node

/-- The check of the value of a field. -/
def Part.check : (p : Part) → Datum → Checked p.Value
  | .leaf l, d => l.check d
  | .object s, d => s.check d
  | .list s, d => checkList d fun x _ ↦ s.check x

/-- What a field is read as. -/
abbrev Slot.Value : Slot → Type
  | ⟨_, _, part, true⟩ => part.Value
  | ⟨_, _, part, false⟩ => Option part.Value

/-- The check of a field of an object. -/
def Slot.check : (f : Slot) → List (Datum × Datum) → Checked f.Value
  | ⟨name, plainName, part, true⟩, es => checkField name plainName es fun v _ ↦ part.check v
  | ⟨name, plainName, part, false⟩, es => checkOptional name plainName es fun v _ ↦ part.check v

/-! ### Checks of fields

The checks are handed a bound on the size of the value. Where the check of the value makes no use of
it, the check of the field is a function of the value that is looked up. -/

section Fields

variable {α : Type} {name plainName : String} {es : List (Datum × Datum)}
  {check : Datum → Checked α}

/-- A value that may be absent or null. -/
def checkPresent (check : Datum → Checked α) : Option Datum → Checked (Option α)
  | none => .ok none
  | some .null => .ok none
  | some v => (check v).map some

/-- A value that is not null is checked. -/
theorem checkPresent_some {v : Datum} (h : v ≠ .null) :
    checkPresent check (some v) = (check v).map some := by
  cases v with
  | null => exact absurd rfl h
  | _ => rfl

/-- Nothing is read exactly from a value that is absent or null. -/
theorem checkPresent_eq_none_iff {value : Option Datum} :
    checkPresent check value = .ok none ↔ value = none ∨ value = some .null := by
  cases value with
  | none => simp [checkPresent]
  | some v =>
    by_cases hnull : v = .null
    · simp [hnull, checkPresent]
    · rw [checkPresent_some hnull]
      cases check v <;> simp [Except.map, hnull]

/-- Something is read exactly from a value that is there, not null, and accepted. -/
theorem checkPresent_eq_some_iff {value : Option Datum} {a : α} :
    checkPresent check value = .ok (some a) ↔
      ∃ v, value = some v ∧ v ≠ .null ∧ check v = .ok a := by
  cases value with
  | none => simp [checkPresent]
  | some v =>
    by_cases hnull : v = .null
    · simp [hnull, checkPresent]
    · rw [checkPresent_some hnull]
      cases hv : check v <;> simp [Except.map, hnull, hv]

/-- The check of a field that has to be there is a function of the value that is looked up. -/
theorem checkField_eq :
    checkField name plainName es (fun v _ ↦ check v) =
      Checked.under (fieldKey name plainName es)
        ((fieldValue? name plainName es).elim (.fail .missing) check) := by
  rw [checkField]
  split <;> simp [*]

/-- The check of an optional field is a function of the value that is looked up. -/
theorem checkOptional_eq :
    checkOptional name plainName es (fun v _ ↦ check v) =
      Checked.under (fieldKey name plainName es)
        (checkPresent check (fieldValue? name plainName es)) := by
  rw [checkOptional]
  split
  · next h => rw [h, checkPresent]
  · next h => rw [h, checkPresent]
  · next hnull h => rw [h, checkPresent_some hnull]

end Fields

/-! ### Assembling nodes

A node is put together from the checks of its fields in the order of the table, and the issues of
all of them are collected. For the three records with many fields this is one function each; objects
with a single field are read as what that field is read as.
-/

namespace Checked

variable {α β : Type}

@[simp] theorem isOk_map (f : α → β) (c : Checked α) : Except.isOk (Except.map f c) = c.isOk := by
  cases c <;> rfl

@[simp] theorem isOk_ap (f : Checked (α → β)) (c : Checked α) :
    Except.isOk (ap f c) = (f.isOk && c.isOk) := by
  cases f <;> cases c <;> rfl

@[simp] theorem isOk_under (segment : String) (c : Checked α) :
    Except.isOk (under segment c) = c.isOk := by
  cases c <;> rfl

end Checked

/-- A product from the checks of its fields. -/
def ProductNode.assemble (id : Checked Text)
    (title status vendor handle productType : Checked (Option Text))
    (tags : Checked (Option (List Text))) (variants : Checked (Option (List VariantNode))) :
    Checked ProductNode :=
  let leaves := (Checked.ap (Except.map ProductLeaves.mk id) title).ap status |>.ap vendor
    |>.ap handle |>.ap productType |>.ap tags
  Checked.ap (Except.map ProductNode.mk leaves) variants

/-- A variant from the checks of its fields. -/
def VariantNode.assemble (id : Checked Text) (compareAtPrice : Checked (Option Price))
    (inventoryQuantity : Checked (Option Int)) (price : Checked (Option Price))
    (product : Checked (Option ProductNode)) (sku title barcode : Checked (Option Text))
    (weight : Checked (Option Binary64)) (weightUnit : Checked (Option Text)) :
    Checked VariantNode :=
  let node (id : Text) (compareAtPrice : Option Price) (inventoryQuantity : Option Int)
      (price : Option Price) (product : Option ProductNode) (sku title barcode : Option Text)
      (weight : Option Binary64) (weightUnit : Option Text) : VariantNode :=
    .mk { id, compareAtPrice, inventoryQuantity, price, sku, title, barcode, weight, weightUnit }
      product
  (Checked.ap (Except.map node id) compareAtPrice).ap inventoryQuantity |>.ap price |>.ap product
    |>.ap sku |>.ap title |>.ap barcode |>.ap weight |>.ap weightUnit

/-- A bulk operation from the checks of its fields. -/
def BulkNode.assemble (id status : Checked Text) (errorCode : Checked (Option Text))
    (objectCount : Checked (Option ObjectCount)) (url : Checked (Option Text)) : Checked BulkNode :=
  (Checked.ap (Except.map BulkNode.mk id) status).ap errorCode |>.ap objectCount |>.ap url

/-- A product is accepted exactly when all its fields are. -/
theorem ProductNode.isOk_assemble (id : Checked Text)
    (title status vendor handle productType : Checked (Option Text))
    (tags : Checked (Option (List Text))) (variants : Checked (Option (List VariantNode))) :
    (ProductNode.assemble id title status vendor handle productType tags variants).isOk = true ↔
      id.isOk = true ∧ title.isOk = true ∧ status.isOk = true ∧ vendor.isOk = true ∧
        handle.isOk = true ∧ productType.isOk = true ∧ tags.isOk = true ∧
          variants.isOk = true := by
  simp [assemble, and_assoc]

/-- A variant is accepted exactly when all its fields are. -/
theorem VariantNode.isOk_assemble (id : Checked Text) (compareAtPrice : Checked (Option Price))
    (inventoryQuantity : Checked (Option Int)) (price : Checked (Option Price))
    (product : Checked (Option ProductNode)) (sku title barcode : Checked (Option Text))
    (weight : Checked (Option Binary64)) (weightUnit : Checked (Option Text)) :
    (VariantNode.assemble id compareAtPrice inventoryQuantity price product sku title barcode weight
        weightUnit).isOk = true ↔
      id.isOk = true ∧ compareAtPrice.isOk = true ∧ inventoryQuantity.isOk = true ∧
        price.isOk = true ∧ product.isOk = true ∧ sku.isOk = true ∧ title.isOk = true ∧
          barcode.isOk = true ∧ weight.isOk = true ∧ weightUnit.isOk = true := by
  simp [assemble, and_assoc]

/-- A bulk operation is accepted exactly when all its fields are. -/
theorem BulkNode.isOk_assemble (id status : Checked Text) (errorCode : Checked (Option Text))
    (objectCount : Checked (Option ObjectCount)) (url : Checked (Option Text)) :
    (BulkNode.assemble id status errorCode objectCount url).isOk = true ↔
      id.isOk = true ∧ status.isOk = true ∧ errorCode.isOk = true ∧ objectCount.isOk = true ∧
        url.isOk = true := by
  simp [assemble, and_assoc]

/-! ### Objects are checked slot by slot -/

/-- The node of an object from the checks of its slots. -/
def Shape.assemble : (s : Shape) → List (Datum × Datum) → Checked s.Node
  | .product, es =>
    ProductNode.assemble ((Slot.required "id" (.leaf .text)).check es)
      ((Slot.optional "title" "title" (.leaf .text)).check es)
      ((Slot.optional "status" "status" (.leaf .text)).check es)
      ((Slot.optional "vendor" "vendor" (.leaf .text)).check es)
      ((Slot.optional "handle" "handle" (.leaf .text)).check es)
      ((Slot.optional "productType" "product_type" (.leaf .text)).check es)
      ((Slot.optional "tags" "tags" (.leaf .texts)).check es)
      ((Slot.optional "variants" "variants" (.object .variantEdges)).check es)
  | .variant, es =>
    VariantNode.assemble ((Slot.required "id" (.leaf .text)).check es)
      ((Slot.optional "compareAtPrice" "compare_at_price" (.leaf .price)).check es)
      ((Slot.optional "inventoryQuantity" "inventory_quantity" (.leaf .integer)).check es)
      ((Slot.optional "price" "price" (.leaf .price)).check es)
      ((Slot.optional "product" "product" (.object .product)).check es)
      ((Slot.optional "sku" "sku" (.leaf .text)).check es)
      ((Slot.optional "title" "title" (.leaf .text)).check es)
      ((Slot.optional "barcode" "barcode" (.leaf .text)).check es)
      ((Slot.optional "weight" "weight" (.leaf .number)).check es)
      ((Slot.optional "weightUnit" "weight_unit" (.leaf .text)).check es)
  | .productEdge, es => (Slot.required "node" (.object .product)).check es
  | .variantEdge, es => (Slot.required "node" (.object .variant)).check es
  | .productEdges, es => (Slot.required "edges" (.list .productEdge)).check es
  | .variantEdges, es => (Slot.required "edges" (.list .variantEdge)).check es
  | .productUpdate, es => (Slot.optional "product" "product" (.object .product)).check es
  | .variantUpdate, es =>
    (Slot.optional "productVariant" "product_variant" (.object .variant)).check es
  | .bulk, es =>
    BulkNode.assemble ((Slot.required "id" (.leaf .text)).check es)
      ((Slot.required "status" (.leaf .text)).check es)
      ((Slot.optional "errorCode" "error_code" (.leaf .text)).check es)
      ((Slot.optional "objectCount" "object_count" (.leaf .count)).check es)
      ((Slot.optional "url" "url" (.leaf .text)).check es)
  | .bulkRun, es => (Slot.optional "bulkOperation" "bulk_operation" (.object .bulk)).check es

/-- **The check of an object is made of the checks of its slots.** -/
theorem Shape.check_dict (s : Shape) (es : List (Datum × Datum)) :
    s.check (.dict es) = s.assemble es := by
  cases s with
  -- Products and variants are checked by functions that call each other; all other checks are
  -- opened by their definitions.
  | product =>
    show ProductNode.check (.dict es) = _
    rw [ProductNode.check]
    rfl
  | variant =>
    show VariantNode.check (.dict es) = _
    rw [VariantNode.check]
    rfl
  | productEdge => rfl
  | variantEdge => rfl
  | productEdges => rfl
  | variantEdges => rfl
  | productUpdate => rfl
  | variantUpdate => rfl
  | bulk => rfl
  | bulkRun => rfl

/-- Nothing but a mapping is an object. -/
theorem Shape.check_of_ne_dict {s : Shape} {d : Datum} (h : ∀ es, d ≠ .dict es) :
    s.check d = .fail .modelType := by
  -- These two recurse through each other, so they are opened by their equations; all others
  -- compute.
  have hproduct : ProductNode.check d = .fail .modelType := ProductNode.check.eq_2 d h
  have hvariant : VariantNode.check d = .fail .modelType := VariantNode.check.eq_2 d h
  cases s with
  | product => exact hproduct
  | variant => exact hvariant
  | _ =>
    cases d with
    | dict es => exact absurd rfl (h es)
    | _ => rfl

/-! ### What follows for objects

From here on an object is known by the list of its slots. That it is accepted is a statement about
all of them, and that two objects are checked alike is one about each.
-/

namespace Shape

variable {s : Shape} {es es' : List (Datum × Datum)}

/-- **An object is accepted exactly when every slot is.** -/
theorem isOk_check_dict :
    (s.check (.dict es)).isOk = true ↔ ∀ f ∈ s.slots, (f.check es).isOk = true := by
  rw [check_dict]
  cases s with
  | product =>
    refine (ProductNode.isOk_assemble _ _ _ _ _ _ _ _).trans ?_
    simp only [slots, List.forall_mem_cons, List.not_mem_nil, false_imp_iff, implies_true, and_true]
    exact Iff.rfl
  | variant =>
    refine (VariantNode.isOk_assemble _ _ _ _ _ _ _ _ _ _).trans ?_
    simp only [slots, List.forall_mem_cons, List.not_mem_nil, false_imp_iff, implies_true, and_true]
    exact Iff.rfl
  | bulk =>
    refine (BulkNode.isOk_assemble _ _ _ _ _).trans ?_
    simp only [slots, List.forall_mem_cons, List.not_mem_nil, false_imp_iff, implies_true, and_true]
    exact Iff.rfl
  | _ =>
    simp only [slots, List.forall_mem_singleton]
    exact Iff.rfl

/-- **Objects whose slots are checked alike are checked alike.** -/
theorem check_dict_congr (h : ∀ f ∈ s.slots, f.check es = f.check es') :
    s.check (.dict es) = s.check (.dict es') := by
  rw [check_dict, check_dict]
  cases s with
  | product | variant | bulk =>
    simp only [slots, List.forall_mem_cons] at h
    simp only [assemble, h]
  | _ => exact h _ (List.mem_singleton_self _)

end Shape

end CatalogQuery
