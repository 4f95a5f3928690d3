import CatalogQuery.Proofs.Attempt
import CatalogQuery.Proofs.Identifier
import Mathlib.Data.Option.Basic

/-!
# Entities and the payloads that they are built from

Building the entity of a payload reads scalars one after the other: identifiers, prices and words.
`readings` lists them in the order in which they are read, along the tree of the payload, and
`Reads` says what comes of it: something is built if all of them are accepted, and otherwise the
failure is that of the first that is not. `Reads.bind` carries this through a building of several
steps, so that each node takes one line for each of its fields.

What is built has the shape of the payload (`ProductNode.Yields`, `VariantNode.Yields`): the same
lists and the same nesting, with identifiers whose canonical texts are the raw ones, and with
nothing absent but what was absent. `Success.materialize_faithful` says both of every reply.

## A building and its readings

The first failure is a matter of order, and the order is that of the code: the fields of a node as
they are declared, and the nodes below where their field stands. `ProductNode.readings` and
`VariantNode.readings` write that order down as a list, apart from the building, and
`Reads rs Builds o` compares an outcome with such a list. It is closed under the ways in which
buildings are composed: one after the other (`Reads.bind`), for an optional field
(`Reads.optional`), and for every element of a list (`Reads.mapM`). With these, the proof for a node
is one line for each field that is read, in the order of the code; a field that is copied has none.

Products hold variants and variants hold products, so the two families of functions are mutually
recursive, and so are the two proofs. The depth is not bounded by anything, as the recursion is on
the nodes themselves.

## Faithfulness

`ProductNode.Yields` and `VariantNode.Yields` relate a node to what is built of it, one attribute
after the other. Lists are related element by element (`List.Forall₂`) and optional fields by
`Option.Rel`, so lengths, order and absence are part of the relation. An identifier is compared by
its canonical text with the raw one (`Id.IsReadFrom.gid`), which rules out that a part of the text
was lost when it was read.

A payload of null builds nothing, which is an entry of its own and no failure.
-/

open CatalogQuery.Attempt

namespace CatalogQuery

/-! ### Scalars that are read -/

/-- The failure of an outcome, if it is one. -/
def Outcome.failure? {α : Type} : Outcome α → Option Failure
  | .ok _ => none
  | .error failure => some failure

theorem Outcome.failure?_eq_none_iff {α : Type} {o : Outcome α} :
    o.failure? = none ↔ ∃ a, o = .ok a := by
  cases o <;> simp [failure?]

/-- A scalar that is read while an entity is built. -/
inductive Reading where
  /-- The identifier of an entity of a type. -/
  | id (type : EntityType) (raw : Text)
  /-- The status of a product. -/
  | status (raw : Text)
  /-- A price. -/
  | price (raw : Price)
  /-- A unit of weight. -/
  | weightUnit (raw : Text)
  /-- A count of objects. -/
  | count (raw : ObjectCount)
  /-- The status of a bulk operation. -/
  | bulkStatus (raw : Text)

namespace Reading

/-- The failure of reading a scalar, if it fails. -/
def failure? : Reading → Option Failure
  | .id type raw => (readEntityId type raw).failure?
  | .status raw => (readWord ProductStatus raw).failure?
  | .price raw => raw.money.failure?
  | .weightUnit raw => (readWord WeightUnit raw).failure?
  | .count raw => raw.count.failure?
  | .bulkStatus raw => (readWord BulkStatus raw).failure?

/-- A scalar is accepted: an identifier is read and names an entity of the type, a word is the wire
form of one, a price is an amount of money, and a count is an integer. -/
def Accepted : Reading → Prop
  | .id type raw => ∃ i, Id.parse (.text raw) = .ok i ∧ i.entityType = type
  | .status raw => ∃ w : ProductStatus, raw = .str (Vocabulary.wire w)
  | .price (.text t) => ∃ m, Money.parse (.text t) = .ok m
  | .price (.number x) => ∃ m, Money.parse (.float x) = .ok m
  | .weightUnit raw => ∃ w : WeightUnit, raw = .str (Vocabulary.wire w)
  | .count raw => ∃ n, raw.count = .ok n
  | .bulkStatus raw => ∃ w : BulkStatus, raw = .str (Vocabulary.wire w)

end Reading

/-- An identifier is read if it parses and has the type of the entity. -/
theorem readEntityId_eq_ok_iff {type : EntityType} {raw : Text} {i : Id} :
    readEntityId type raw = .ok i ↔ Id.parse (.text raw) = .ok i ∧ i.entityType = type := by
  rw [readEntityId, bind_eq_ok_iff]
  constructor
  · rintro ⟨j, hj, hreturn⟩
    split at hreturn
    · cases hreturn
      exact ⟨hj, ‹_›⟩
    · cases hreturn
  · rintro ⟨hi, htype⟩
    exact ⟨i, hi, if_pos htype⟩

/-- A word is read if the text is its wire form. -/
theorem readWord_eq_ok_iff {α : Type} [Vocabulary α] [Vocabulary.IsLawful α] {raw : Text} {w : α} :
    readWord α raw = .ok w ↔ raw = .str (Vocabulary.wire w) := by
  refine ⟨fun h ↦ ?_, fun h ↦ h ▸ readWord_wire w⟩
  -- A text with half of a surrogate pair is the wire form of nothing.
  cases raw with
  | str s =>
    simp only [readWord, Vocabulary.read, Vocabulary.ofDatum?, Datum.asText?] at h
    split at h
    · rename_i hword
      cases h
      rw [Vocabulary.wire_of_ofWire? hword]
    · cases h
  | broken ps => cases h

/-- **A reading is accepted exactly if it does not fail.** -/
theorem Reading.accepted_iff {r : Reading} : r.Accepted ↔ r.failure? = none := by
  cases r with
  | id type raw =>
    simp only [Accepted, failure?, Outcome.failure?_eq_none_iff, readEntityId_eq_ok_iff]
  | status raw => simp only [Accepted, failure?, Outcome.failure?_eq_none_iff, readWord_eq_ok_iff]
  | price raw =>
    cases raw <;> simp only [Accepted, failure?, Outcome.failure?_eq_none_iff, Price.money]
  | weightUnit raw =>
    simp only [Accepted, failure?, Outcome.failure?_eq_none_iff, readWord_eq_ok_iff]
  | count raw => simp only [Accepted, failure?, Outcome.failure?_eq_none_iff]
  | bulkStatus raw =>
    simp only [Accepted, failure?, Outcome.failure?_eq_none_iff, readWord_eq_ok_iff]

/-! ### Building in order -/

/-- What comes of a building that reads scalars in order: something is built if none of them fails,
and otherwise the failure is that of the first that does. -/
inductive Reads {α : Type} (rs : List Reading) (Builds : α → Prop) : Outcome α → Prop
  /-- Every scalar is accepted, and something is built. -/
  | done {a : α} (h : Builds a) (hall : rs.findSome? Reading.failure? = none) :
      Reads rs Builds (.ok a)
  /-- A scalar is refused, and the first such one is the failure. -/
  | failed {failure : Failure} (h : rs.findSome? Reading.failure? = some failure) :
      Reads rs Builds (.error failure)

namespace Reads

variable {α β : Type} {rs rs' : List Reading} {P : α → Prop} {Q : β → Prop} {o : Outcome α}

theorem pure {a : α} (h : P a) : Reads [] P (.ok a) :=
  .done h rfl

/-- One reading. -/
theorem single {r : Reading} (h : r.failure? = o.failure?) (hP : ∀ a, o = .ok a → P a) :
    Reads [r] P o := by
  cases o with
  | ok a => exact .done (hP a rfl) (by rw [List.findSome?_singleton, h]; rfl)
  | error failure => exact .failed (by rw [List.findSome?_singleton, h]; rfl)

/-- **One building after the other.** -/
theorem bind {g : α → Outcome β} (h : Reads rs P o) (h' : ∀ a, P a → Reads rs' Q (g a)) :
    Reads (rs ++ rs') Q (o >>= g) := by
  cases h with
  | failed h => exact .failed (by rw [List.findSome?_append, h]; rfl)
  | @done a h hall =>
    -- Nothing fails in the first part, so the first failure of the whole is that of the rest.
    have hrest : (rs ++ rs').findSome? Reading.failure? = rs'.findSome? Reading.failure? := by
      rw [List.findSome?_append, hall]
      rfl
    show Reads (rs ++ rs') Q (g a)
    cases hg : g a with
    | ok b =>
      have hdone := h' a h
      rw [hg] at hdone
      cases hdone with
      | done hb hall' => exact .done hb (hrest.trans hall')
    | error failure =>
      have hfailed := h' a h
      rw [hg] at hfailed
      cases hfailed with
      | failed hfailure => exact .failed (hrest.trans hfailure)

/-- What is built may be put into a form of its own. -/
theorem map {f : α → β} (h : Reads rs P o) (h' : ∀ a, P a → Q (f a)) : Reads rs Q (o.map f) := by
  cases h with
  | done h hall => exact .done (h' _ h) hall
  | failed h => exact .failed h

/-- An absent field is not read and leaves an absent attribute. -/
theorem optional {read : α → Outcome β} {reading : α → Reading} {R : α → β → Prop}
    (h : ∀ a, Reads [reading a] (R a) (read a)) (x : Option α) :
    Reads (x.map reading).toList (Option.Rel R x) (readOptional read x) := by
  cases x with
  | none => exact .pure .none
  | some a => exact (h a).map fun b hb ↦ .some hb

/-- **A list is built element by element**, up to the first that fails. -/
theorem mapM {f : α → Outcome β} {readings : α → List Reading} {R : α → β → Prop}
    (h : ∀ a, Reads (readings a) (R a) (f a)) (xs : List α) :
    Reads (xs.flatMap readings) (List.Forall₂ R xs) (xs.mapM f) := by
  induction xs with
  | nil => exact .pure .nil
  | cons x xs ih =>
    rw [List.flatMap_cons, List.mapM_cons]
    refine (h x).bind fun b hb ↦ ?_
    rw [← List.append_nil (xs.flatMap readings)]
    exact ih.bind fun bs hbs ↦ .pure (.cons hb hbs)

end Reads

/-! ### In which order scalars are read -/

mutual

/-- The scalars of a product, and of the variants in it. -/
def ProductNode.readings : ProductNode → List Reading
  | .mk leaves variants =>
    .id .product leaves.id ::
      ((leaves.status.map .status).toList ++ ProductNode.variantReadings variants)

/-- The scalars of the variants of a product. -/
def ProductNode.variantReadings : Option (List VariantNode) → List Reading
  | none => []
  | some vs => VariantNode.allReadings vs

/-- The scalars of a variant, and of the product in it. -/
def VariantNode.readings : VariantNode → List Reading
  | .mk leaves product =>
    .id .productVariant leaves.id :: ((leaves.compareAtPrice.map .price).toList ++
      ((leaves.price.map .price).toList ++
        (VariantNode.ownerReadings product ++ (leaves.weightUnit.map .weightUnit).toList)))

/-- The scalars of the product of a variant. -/
def VariantNode.ownerReadings : Option ProductNode → List Reading
  | none => []
  | some p => p.readings

/-- The scalars of variants in order. -/
def VariantNode.allReadings : List VariantNode → List Reading
  | [] => []
  | v :: vs => v.readings ++ VariantNode.allReadings vs

end

/-- The scalars of a bulk operation. -/
def BulkNode.readings (b : BulkNode) : List Reading :=
  (b.objectCount.map .count).toList ++ [.id .bulkOperation b.id, .bulkStatus b.status]

/-- The scalars of a payload. -/
def Payload.readings : Payload → List Reading
  | .product node => node.readings
  | .variant node => node.readings
  | .productUpdate node => VariantNode.ownerReadings node
  | .variantUpdate node => (node.map VariantNode.readings).getD []
  | .products nodes => nodes.flatMap ProductNode.readings
  | .variants nodes => VariantNode.allReadings nodes
  | .bulkRun node => (node.map BulkNode.readings).getD []
  | .bulk node => node.readings

/-- The scalars of a reply, in the order in which they are read. -/
def Success.readings (s : Success) : List Reading :=
  (s.payload.map Payload.readings).getD []

/-! ### What entities say of payloads -/

/-- An identifier of an entity of a type is what a raw text is read as, and the raw text is its
canonical one. -/
structure Id.IsReadFrom (i : Id) (type : EntityType) (raw : Text) : Prop where
  /-- The raw text is read as the identifier. -/
  parse : Id.parse (.text raw) = .ok i
  /-- It is one of the type that the field is for. -/
  entityType : i.entityType = type
  /-- Nothing of the raw text is lost. -/
  gid : codePoints i.gid.toList = raw.points

/-- A word is what a raw text is the wire form of. -/
def IsWireOf {α : Type} [Vocabulary α] (raw : Text) (w : α) : Prop :=
  raw = .str (Vocabulary.wire w)

/-- The attributes of a product say what its leaf fields say. -/
structure ProductLeaves.Yields (leaves : ProductLeaves) (a : ProductAttributes) : Prop where
  /-- The identifier is read. -/
  id : a.id.IsReadFrom .product leaves.id
  /-- The title is copied. -/
  title : a.title = leaves.title
  /-- The status is read as a word, if there is one. -/
  status : Option.Rel IsWireOf leaves.status a.status
  /-- The vendor is copied. -/
  vendor : a.vendor = leaves.vendor
  /-- The handle is copied. -/
  handle : a.handle = leaves.handle
  /-- The type of the product is copied. -/
  productType : a.productType = leaves.productType
  /-- The tags are copied, all of them and in order. -/
  tags : a.tags = leaves.tags

/-- The attributes of a variant say what its leaf fields say. -/
structure VariantLeaves.Yields (leaves : VariantLeaves) (a : VariantAttributes) : Prop where
  /-- The identifier is read. -/
  id : a.id.IsReadFrom .productVariant leaves.id
  /-- The compared price is read as an amount, if there is one. -/
  compareAtPrice : Option.Rel (fun raw m ↦ raw.money = .ok m) leaves.compareAtPrice a.compareAtPrice
  /-- The quantity is copied. -/
  inventoryQuantity : a.inventoryQuantity = leaves.inventoryQuantity
  /-- The price is read as an amount, if there is one. -/
  price : Option.Rel (fun raw m ↦ raw.money = .ok m) leaves.price a.price
  /-- The stock keeping unit is copied. -/
  sku : a.sku = leaves.sku
  /-- The title is copied. -/
  title : a.title = leaves.title
  /-- The barcode is copied. -/
  barcode : a.barcode = leaves.barcode
  /-- The weight is copied. -/
  weight : a.weight = leaves.weight
  /-- The unit of weight is read as a word, if there is one. -/
  weightUnit : Option.Rel IsWireOf leaves.weightUnit a.weightUnit

mutual

/-- A product says what a node says: its attributes, and as many variants in the same order. -/
inductive ProductNode.Yields : ProductNode → Product → Prop
  /-- The variants are there exactly if the node has any, an empty list included. -/
  | mk {leaves : ProductLeaves} {a : ProductAttributes} {nodes : Option (List VariantNode)}
      {variants : Option (List ProductVariant)} (h : leaves.Yields a)
      (hvariants : Option.Rel (List.Forall₂ VariantNode.Yields) nodes variants) :
      ProductNode.Yields (.mk leaves nodes) (.mk a variants)

/-- A variant says what a node says: its attributes, and its product. -/
inductive VariantNode.Yields : VariantNode → ProductVariant → Prop
  /-- The product is there exactly if the node has one. -/
  | mk {leaves : VariantLeaves} {a : VariantAttributes} {node : Option ProductNode}
      {product : Option Product} (h : leaves.Yields a)
      (hproduct : Option.Rel ProductNode.Yields node product) :
      VariantNode.Yields (.mk leaves node) (.mk a product)

end

/-- A bulk operation says what its node says. -/
structure BulkNode.Yields (node : BulkNode) (b : BulkOperation) : Prop where
  /-- The identifier is read. -/
  id : b.id.IsReadFrom .bulkOperation node.id
  /-- The status is read as a word. -/
  status : IsWireOf node.status b.status
  /-- The code of the error is copied. -/
  errorCode : b.errorCode = node.errorCode
  /-- The count is read as an integer, if there is one. -/
  objectCount : Option.Rel (fun raw n ↦ raw.count = .ok n) node.objectCount b.objectCount
  /-- The address of the result is copied. -/
  url : b.url = node.url

/-- The entity of a payload says what the payload says. -/
inductive Payload.Yields : Payload → Entry → Prop
  /-- A product is built of its node. -/
  | product {n : ProductNode} {p : Product} (h : n.Yields p) :
      Payload.Yields (.product n) (.product p)
  /-- A variant is built of its node. -/
  | variant {n : VariantNode} {v : ProductVariant} (h : n.Yields v) :
      Payload.Yields (.variant n) (.variant v)
  /-- The product of an update. -/
  | productUpdate {n : ProductNode} {p : Product} (h : n.Yields p) :
      Payload.Yields (.productUpdate (some n)) (.product p)
  /-- The product of an update may be missing. -/
  | noProductUpdate : Payload.Yields (.productUpdate none) .nothing
  /-- The variant of an update. -/
  | variantUpdate {n : VariantNode} {v : ProductVariant} (h : n.Yields v) :
      Payload.Yields (.variantUpdate (some n)) (.variant v)
  /-- The variant of an update may be missing. -/
  | noVariantUpdate : Payload.Yields (.variantUpdate none) .nothing
  /-- As many products in the same order. -/
  | products {ns : List ProductNode} {ps : List Product}
      (h : List.Forall₂ ProductNode.Yields ns ps) : Payload.Yields (.products ns) (.products ps)
  /-- As many variants in the same order. -/
  | variants {ns : List VariantNode} {vs : List ProductVariant}
      (h : List.Forall₂ VariantNode.Yields ns vs) : Payload.Yields (.variants ns) (.variants vs)
  /-- The bulk operation that a run has started. -/
  | bulkRun {n : BulkNode} {b : BulkOperation} (h : n.Yields b) :
      Payload.Yields (.bulkRun (some n)) (.bulk b)
  /-- A run may have started none. -/
  | noBulkRun : Payload.Yields (.bulkRun none) .nothing
  /-- The bulk operation in progress. -/
  | bulk {n : BulkNode} {b : BulkOperation} (h : n.Yields b) : Payload.Yields (.bulk n) (.bulk b)

/-- The entity of a reply says what its payload says; without a payload there is none. -/
inductive Success.Yields (s : Success) : Entry → Prop
  /-- The payload says what is built. -/
  | payload {p : Payload} {e : Entry} (hp : s.payload = some p) (h : p.Yields e) :
      Success.Yields s e
  /-- A payload of null builds nothing. -/
  | nothing (hp : s.payload = none) : Success.Yields s .nothing

/-! ### Every node is built in order -/

theorem reads_id (type : EntityType) (raw : Text) :
    Reads [.id type raw] (fun i ↦ i.IsReadFrom type raw) (readEntityId type raw) := by
  refine .single rfl fun i hi ↦ ?_
  obtain ⟨hparse, htype⟩ := readEntityId_eq_ok_iff.1 hi
  exact ⟨hparse, htype, (Id.points_of_parse hparse).symm⟩

theorem reads_word {α : Type} [Vocabulary α] [Vocabulary.IsLawful α] {r : Reading} {raw : Text}
    (h : r.failure? = (readWord α raw).failure?) : Reads [r] (IsWireOf raw) (readWord α raw) :=
  .single h fun _ ↦ readWord_eq_ok_iff.1

theorem reads_price (raw : Price) : Reads [.price raw] (fun m ↦ raw.money = .ok m) raw.money :=
  .single rfl fun _ h ↦ h

theorem VariantNode.entities_cons (v : VariantNode) (vs : List VariantNode) :
    VariantNode.entities (v :: vs) =
      v.entity >>= fun e ↦ (VariantNode.entities vs).map (e :: ·) := by
  rw [VariantNode.entities]
  cases v.entity <;> rfl

mutual

/-- **A product is built in order**, and says what its node says. -/
theorem ProductNode.reads : ∀ n : ProductNode, Reads n.readings n.Yields n.entity
  | .mk leaves variants => by
    -- One step for each field that is read; the others are copied.
    rw [ProductNode.readings, ProductNode.entity,
      ← List.append_nil (ProductNode.variantReadings variants)]
    refine (reads_id .product leaves.id).bind fun id hid ↦ ?_
    refine (Reads.optional (fun _ ↦ reads_word rfl) leaves.status).bind fun status hstatus ↦ ?_
    refine (ProductNode.reads_variants variants).bind fun vs hvs ↦ ?_
    exact .pure (.mk ⟨hid, rfl, hstatus, rfl, rfl, rfl, rfl⟩ hvs)

theorem ProductNode.reads_variants : ∀ nodes : Option (List VariantNode),
    Reads (ProductNode.variantReadings nodes) (Option.Rel (List.Forall₂ VariantNode.Yields) nodes)
      (ProductNode.variantEntities nodes)
  | none => .pure .none
  | some ns => (VariantNode.reads_all ns).map fun _ h ↦ .some h

/-- **A variant is built in order**, and says what its node says. -/
theorem VariantNode.reads : ∀ n : VariantNode, Reads n.readings n.Yields n.entity
  | .mk leaves product => by
    rw [VariantNode.readings, VariantNode.entity,
      ← List.append_nil (leaves.weightUnit.map Reading.weightUnit).toList]
    refine (reads_id .productVariant leaves.id).bind fun id hid ↦ ?_
    refine (Reads.optional reads_price leaves.compareAtPrice).bind fun compareAtPrice hcompare ↦ ?_
    refine (Reads.optional reads_price leaves.price).bind fun price hprice ↦ ?_
    refine (VariantNode.reads_owner product).bind fun p hp ↦ ?_
    refine (Reads.optional (fun _ ↦ reads_word rfl) leaves.weightUnit).bind fun unit hunit ↦ ?_
    exact .pure (.mk ⟨hid, hcompare, rfl, hprice, rfl, rfl, rfl, rfl, hunit⟩ hp)

theorem VariantNode.reads_owner : ∀ node : Option ProductNode,
    Reads (VariantNode.ownerReadings node) (Option.Rel ProductNode.Yields node)
      (VariantNode.ownerEntity node)
  | none => .pure .none
  | some n => n.reads.map fun _ h ↦ .some h

theorem VariantNode.reads_all : ∀ ns : List VariantNode,
    Reads (VariantNode.allReadings ns) (List.Forall₂ VariantNode.Yields ns)
      (VariantNode.entities ns)
  | [] => .pure .nil
  | n :: ns => by
    rw [VariantNode.allReadings, VariantNode.entities_cons]
    exact n.reads.bind fun e he ↦ (VariantNode.reads_all ns).map fun _ hes ↦ .cons he hes

end

/-- **A bulk operation is built in order**, and says what its node says. -/
theorem BulkNode.reads (n : BulkNode) : Reads n.readings n.Yields n.entity := by
  show Reads ((n.objectCount.map .count).toList ++
      ([.id .bulkOperation n.id] ++ ([.bulkStatus n.status] ++ []))) _ _
  refine (Reads.optional (fun raw ↦ .single rfl fun _ h ↦ h) n.objectCount).bind fun count hcount ↦
    ?_
  refine (reads_id .bulkOperation n.id).bind fun id hid ↦ ?_
  refine (reads_word rfl).bind fun status hstatus ↦ ?_
  exact .pure ⟨hid, hstatus, rfl, hcount, rfl⟩

/-- **A payload is built in order**, and the entry says what it says. -/
theorem Payload.reads (p : Payload) : Reads p.readings p.Yields p.entry := by
  cases p with
  | product n => exact n.reads.map fun _ h ↦ .product h
  | variant n => exact n.reads.map fun _ h ↦ .variant h
  | productUpdate node =>
    cases node with
    | none => exact .pure .noProductUpdate
    | some n => exact n.reads.map fun _ h ↦ .productUpdate h
  | variantUpdate node =>
    cases node with
    | none => exact .pure .noVariantUpdate
    | some n => exact n.reads.map fun _ h ↦ .variantUpdate h
  | products ns => exact (Reads.mapM ProductNode.reads ns).map fun _ h ↦ .products h
  | variants ns => exact (VariantNode.reads_all ns).map fun _ h ↦ .variants h
  | bulkRun node =>
    cases node with
    | none => exact .pure .noBulkRun
    | some n => exact n.reads.map fun _ h ↦ .bulkRun h
  | bulk n => exact n.reads.map fun _ h ↦ .bulk h

theorem Success.reads (s : Success) : Reads s.readings s.Yields s.materialize := by
  rw [Success.readings, Success.materialize]
  cases hp : s.payload with
  | none => exact .pure (.nothing hp)
  | some p =>
    have hreads := p.reads.map (f := id) fun _ h ↦ Success.Yields.payload hp h
    rwa [Except.map_id] at hreads

/-! ### Public contract -/

/-- **An entity is a faithful image of its payload, or is not built at all.** The entity of a reply
is built exactly if every scalar in the payload tree is accepted: each identifier is read and names
an entity of the type of its node, each status and each unit of weight is the wire form of a word,
and each price is an amount. What is built says what the payload says, node by node. Otherwise the
failure is that of the first scalar that is not accepted, in the order of `readings`: at each node
the identifier first and then the fields in the order of their declaration, each with the whole tree
below it. -/
theorem Success.materialize_faithful (s : Success) :
    ((∃ e, s.materialize = .ok e) ↔ ∀ r ∈ s.readings, r.Accepted) ∧
      (∀ e, s.materialize = .ok e → s.Yields e) ∧
      ∀ failure, s.materialize = .error failure ↔
        ∃ before r after, s.readings = before ++ r :: after ∧
        (∀ r' ∈ before, r'.Accepted) ∧ r.failure? = some failure := by
  have hall : s.readings.findSome? Reading.failure? = none ↔ ∀ r ∈ s.readings, r.Accepted := by
    rw [List.findSome?_eq_none_iff]
    exact forall₂_congr fun _ _ ↦ Reading.accepted_iff.symm
  have hfirst : ∀ failure, s.readings.findSome? Reading.failure? = some failure ↔
      ∃ before r after, s.readings = before ++ r :: after ∧ (∀ r' ∈ before, r'.Accepted) ∧
        r.failure? = some failure := by
    intro failure
    simp only [List.findSome?_eq_some_iff, Reading.accepted_iff, and_comm]
  have hreads := s.reads
  cases hs : s.materialize with
  | ok e =>
    rw [hs] at hreads
    cases hreads with
    | done hyields hnone =>
      refine ⟨⟨fun _ ↦ hall.1 hnone, fun _ ↦ ⟨e, rfl⟩⟩, ?_, fun failure ↦ ?_⟩
      · intro e' he'
        cases he'
        exact hyields
      · rw [← hfirst, hnone]
        simp
  | error failure =>
    rw [hs] at hreads
    cases hreads with
    | failed hsome =>
      refine ⟨⟨fun hbuilt ↦ ?_, fun haccepted ↦ ?_⟩, fun e he ↦ ?_, fun failure' ↦ ?_⟩
      · obtain ⟨e, he⟩ := hbuilt
        cases he
      · rw [hall.2 haccepted] at hsome
        cases hsome
      · cases he
      · rw [← hfirst, hsome, Except.error.injEq, Option.some.injEq]

end CatalogQuery
