import CatalogQuery.Entities
import CatalogQuery.Proofs.Amount
import CatalogQuery.Proofs.JsonReader

/-!
# How decoding a reply can end

Decoding takes any body and ends in one of two ways: with an entity of the kind that was asked for,
or with a failure of the five documented causes. `Outcome.Documented` states both halves at once,
and every step of the pipeline gets one lemma of that form; `decodeEntry_closed` is their
composition.

Two facts cross a border between steps. A null payload or the shape of a payload is checked where
the envelope is read and relied upon where the entity is built (`Success.Fits`). And the body that a
failure shows has to have a text, which is settled by the reader of the body
(`Json.hasText_of_read`).

## How the steps are put together

`Outcome.Documented P` reads: the step answers a value with `P`, or fails in a documented way. It
composes along the two ways in which steps are joined (`Documented.bind`, `Documented.map`), so the
lemma of a step names what it relies on and what it hands on, and nothing of how it computes. The
lemmas of the steps stand in the order of the pipeline read backwards: scalars, entities, payloads,
envelopes.

Scalars fail in a single way each, and their lemmas promise nothing of the value (`fun _ ↦ True`).
Identifiers are different. That their type is the type of the entity is checked where they are read,
and it is carried along to the entry.

Products and variants hold each other, so their lemmas are proved together, by recursion on the
nodes.
-/

open CatalogQuery.Attempt

namespace CatalogQuery

/-! ### Documented failures

A failure is documented if its cause is among the five and every value that its message shows has a
text. The second part is a condition on the values of the reply, as no text is written of an integer
beyond the digit limit.
-/

namespace Failure

/-- The causes that decoding is documented to fail with: the body is no known shape, the shop
reports errors, the reply or an identifier is of another kind, and a scalar or an identifier is
malformed. -/
def IsDecoding : Failure → Prop
  | .undecodable .. | .remote _ | .shapeMismatch .. | .invalidScalar .. | .invalidIdentifier _ =>
    True
  | _ => False

/-- The values whose text stands in the message of a failure. -/
def shown : Failure → List Datum
  | .remote errors => [errors]
  | .invalidScalar raw _ => [raw]
  | _ => []

/-- A failure of a documented cause, whose message can be written. -/
structure IsDocumented (f : Failure) : Prop where
  /-- The cause is documented. -/
  cause : f.IsDecoding
  /-- Every value in the message has a text. -/
  shown : ∀ d ∈ f.shown, d.hasText = true
  /-- There is a message. -/
  message : f.message?.isSome = true

theorem isDocumented_undecodable (body : List UInt8) (reason : DecodeReason) :
    (undecodable body reason).IsDocumented :=
  ⟨trivial, by simp [Failure.shown], rfl⟩

/-- Errors that the shop reports are a documented cause, as long as they can be shown. -/
theorem isDocumented_remote {errors : Datum} (h : errors.hasText = true) :
    (remote errors).IsDocumented :=
  ⟨trivial, by simpa [Failure.shown] using h, rfl⟩

theorem isDocumented_shapeMismatch (expected actual : String) :
    (shapeMismatch expected actual).IsDocumented :=
  ⟨trivial, by simp [Failure.shown], rfl⟩

theorem isDocumented_invalidIdentifier (raw : Text) : (invalidIdentifier raw).IsDocumented :=
  ⟨trivial, by simp [Failure.shown], rfl⟩

/-- A bad scalar that has a text is reported as one. -/
theorem isDocumented_scalar {raw : Datum} (h : raw.hasText = true) (scalarType : String) :
    (scalar raw scalarType).IsDocumented := by
  rw [scalar, showing, List.all_cons, h]
  exact ⟨trivial, by simpa [Failure.shown] using h, rfl⟩

/-- A bad identifier that has a text is reported as one. -/
theorem isDocumented_identifier {raw : Datum} (h : raw.hasText = true) :
    (identifier raw).IsDocumented := by
  rw [identifier, showing, List.all_cons, h]
  exact isDocumented_invalidIdentifier _

end Failure

namespace Outcome

variable {α β : Type}

/-- A step answers a value with a property or fails in a documented way. -/
def Documented (P : α → Prop) : Outcome α → Prop
  | .ok a => P a
  | .error f => f.IsDocumented

variable {P : α → Prop} {Q : β → Prop}

/-- Steps one after the other: the second may rely on what the first promises. -/
theorem Documented.bind {x : Outcome α} {f : α → Outcome β} (hx : Documented P x)
    (hf : ∀ a, P a → Documented Q (f a)) : Documented Q (x >>= f) := by
  cases x with
  | error failure => exact hx
  | ok a => exact hf a hx

theorem Documented.map {x : Outcome α} {f : α → β} (hx : Documented P x)
    (hf : ∀ a, P a → Q (f a)) : Documented Q (x.map f) := by
  cases x with
  | error failure => exact hx
  | ok a => exact hf a hx

end Outcome

open Outcome

/-! ### Scalars

Each reading of a scalar is met by one lemma of the same form. A bad scalar is shown in the message,
which is why some of the lemmas ask that it has a text.
-/

theorem Datum.hasText_text (t : Text) : (Datum.text t).hasText = true := by
  simp [Datum.hasText]

theorem Datum.hasText_float (x : Binary64) : (Datum.float x).hasText = true := by
  simp [Datum.hasText]

/-- A number is an amount or a bad scalar. -/
theorem Money.ofFloat_documented {raw : Datum} (h : raw.hasText = true) (x : Binary64) :
    Documented (fun _ ↦ True) (ofFloat raw x) := by
  unfold ofFloat
  split
  · trivial
  · exact Failure.isDocumented_scalar h _

/-- An amount is read or refused: what has the form of an amount spells a numeral, and reading that
cannot fail. -/
theorem Money.parse_text_documented (t : Text) : Documented (fun _ ↦ True) (parse (.text t)) := by
  by_cases hspelled : ∃ a : DecimalNumeral, a.SpelledBy t.points
  · obtain ⟨a, ha⟩ := hspelled
    rw [parse_of_spelledBy rfl ha]
    exact ofFloat_documented (Datum.hasText_text t) a.value
  · rw [parse_of_not_spelledBy rfl hspelled, ← scalar_of_asText? rfl]
    exact Failure.isDocumented_scalar (Datum.hasText_text t) _

/-- A number is read as an amount or refused. -/
theorem Money.parse_float_documented (x : Binary64) :
    Documented (fun _ ↦ True) (parse (.float x)) := by
  unfold parse
  simp only [Datum.asText?]
  exact ofFloat_documented (Datum.hasText_float x) x

/-- A price is read as an amount or refused, however it is written. -/
theorem Price.money_documented (p : Price) : Documented (fun _ ↦ True) p.money := by
  cases p with
  | text t => exact Money.parse_text_documented t
  | number x => exact Money.parse_float_documented x

/-- A word of an enumeration is read or refused. -/
theorem readWord_documented (α : Type) [Vocabulary α] (t : Text) :
    Documented (fun _ ↦ True) (readWord α t) := by
  unfold readWord Vocabulary.read
  split
  · trivial
  · exact Failure.isDocumented_scalar rfl _

/-- A count of objects is read or refused. -/
theorem ObjectCount.count_documented (c : ObjectCount) : Documented (fun _ ↦ True) c.count := by
  cases c with
  | number n => trivial
  | text t =>
    simp only [count]
    split
    · trivial
    · exact Failure.isDocumented_scalar rfl _

/-- An identifier is read or refused. -/
theorem Id.parse_text_documented (t : Text) : Documented (fun _ ↦ True) (parse (.text t)) := by
  simp only [parse, Datum.asText?]
  split
  · trivial
  · split
    · exact Failure.isDocumented_identifier rfl
    · exact Failure.isDocumented_invalidIdentifier _

/-- The identifier of an entity is of the type of the entity. -/
theorem readEntityId_documented (entityType : EntityType) (raw : Text) :
    Documented (fun i ↦ i.entityType = entityType) (readEntityId entityType raw) := by
  refine (Id.parse_text_documented raw).bind fun i _ ↦ ?_
  split
  · next htype => exact htype
  · exact Failure.isDocumented_shapeMismatch _ _

/-- A value that may be absent is read as it is when it is there. -/
theorem readOptional_documented {α β : Type} {read : α → Outcome β}
    (h : ∀ a, Documented (fun _ ↦ True) (read a)) (a : Option α) :
    Documented (fun _ ↦ True) (readOptional read a) := by
  cases a with
  | none => trivial
  | some a => exact (h a).map fun _ _ ↦ trivial

/-! ### Entities

The types of identifiers are a property of an entity and of everything below it, so it is defined by
the recursion of the two entities, and established by that of their nodes.
-/

mutual

/-- The identifiers of a product and of everything below it are of the types of their entities. -/
def Product.HasTypedIds : Product → Prop
  | .mk attributes variants =>
    attributes.id.entityType = .product ∧ Product.VariantsHaveTypedIds variants

/-- The variants of a product have identifiers of their type. -/
def Product.VariantsHaveTypedIds : Option (List ProductVariant) → Prop
  | none => True
  | some vs => ProductVariant.AllHaveTypedIds vs

/-- The identifiers of a variant and of everything below it are of the types of their entities. -/
def ProductVariant.HasTypedIds : ProductVariant → Prop
  | .mk attributes product =>
    attributes.id.entityType = .productVariant ∧ ProductVariant.OwnerHasTypedIds product

/-- The product of a variant has an identifier of its type. -/
def ProductVariant.OwnerHasTypedIds : Option Product → Prop
  | none => True
  | some p => p.HasTypedIds

/-- Variants have identifiers of their type. -/
def ProductVariant.AllHaveTypedIds : List ProductVariant → Prop
  | [] => True
  | v :: vs => v.HasTypedIds ∧ ProductVariant.AllHaveTypedIds vs

end

/-- Variants have typed identifiers if each of them does. -/
theorem ProductVariant.allHaveTypedIds_iff {vs : List ProductVariant} :
    AllHaveTypedIds vs ↔ ∀ v ∈ vs, v.HasTypedIds := by
  induction vs with
  | nil => simp [AllHaveTypedIds]
  | cons v vs ih => simp [AllHaveTypedIds, ih]

mutual

/-- A product is built, with identifiers of the right types below it, or refused. -/
theorem ProductNode.entity_documented :
    ∀ node : ProductNode, Documented Product.HasTypedIds node.entity
  | .mk leaves variants => by
    unfold ProductNode.entity
    refine (readEntityId_documented _ _).bind fun i hi ↦ ?_
    refine (readOptional_documented (readWord_documented ProductStatus) _).bind fun _ _ ↦ ?_
    refine (ProductNode.variantEntities_documented variants).bind fun vs hvs ↦ ?_
    exact ⟨hi, hvs⟩

/-- The variants of a product are built or refused. -/
theorem ProductNode.variantEntities_documented :
    ∀ variants : Option (List VariantNode),
      Documented Product.VariantsHaveTypedIds (ProductNode.variantEntities variants)
  | none => trivial
  | some vs => by
    unfold ProductNode.variantEntities
    exact (VariantNode.entities_documented vs).map fun _ h ↦ h

/-- A variant is built, with identifiers of the right types below it, or refused. -/
theorem VariantNode.entity_documented :
    ∀ node : VariantNode, Documented ProductVariant.HasTypedIds node.entity
  | .mk leaves product => by
    unfold VariantNode.entity
    refine (readEntityId_documented _ _).bind fun i hi ↦ ?_
    refine (readOptional_documented Price.money_documented _).bind fun _ _ ↦ ?_
    refine (readOptional_documented Price.money_documented _).bind fun _ _ ↦ ?_
    refine (VariantNode.ownerEntity_documented product).bind fun p hp ↦ ?_
    refine (readOptional_documented (readWord_documented WeightUnit) _).bind fun _ _ ↦ ?_
    exact ⟨hi, hp⟩

/-- The product of a variant is built or refused. -/
theorem VariantNode.ownerEntity_documented :
    ∀ product : Option ProductNode,
      Documented ProductVariant.OwnerHasTypedIds (VariantNode.ownerEntity product)
  | none => trivial
  | some p => by
    unfold VariantNode.ownerEntity
    exact (ProductNode.entity_documented p).map fun _ h ↦ h

/-- Variants in a row are built or refused. -/
theorem VariantNode.entities_documented :
    ∀ vs : List VariantNode,
      Documented ProductVariant.AllHaveTypedIds (VariantNode.entities vs)
  | [] => trivial
  | v :: vs => by
    unfold VariantNode.entities
    have hv := VariantNode.entity_documented v
    rcases hentity : v.entity with f | e
    · rw [hentity] at hv
      exact hv
    · rw [hentity] at hv
      exact (VariantNode.entities_documented vs).map fun _ h ↦ ⟨hv, h⟩

end

/-- Products in a row are built or refused. -/
theorem productEntities_documented (nodes : List ProductNode) :
    Documented (fun ps ↦ ∀ p ∈ ps, p.HasTypedIds) (nodes.mapM ProductNode.entity) := by
  induction nodes with
  | nil => exact fun _ hp ↦ absurd hp (List.not_mem_nil)
  | cons node nodes ih =>
    rw [List.mapM_cons]
    refine node.entity_documented.bind fun p hp ↦ ih.bind fun ps hps ↦ ?_
    exact List.forall_mem_cons.2 ⟨hp, hps⟩

/-- A bulk operation is built or refused. -/
theorem BulkNode.entity_documented (node : BulkNode) :
    Documented (fun b ↦ b.id.entityType = .bulkOperation) node.entity := by
  unfold BulkNode.entity
  refine (readOptional_documented ObjectCount.count_documented _).bind fun _ _ ↦ ?_
  refine (readEntityId_documented _ _).bind fun i hi ↦ ?_
  refine (readWord_documented BulkStatus _).bind fun _ _ ↦ ?_
  exact hi

/-! ### Payloads

An entry answers a root field by its form: nothing or one entity, or a list of entities. Of which
kind they are follows from the payload, since a payload passes the check of one root field only.
-/

/-- The entity that answers a root field: at most one of its kind for a single entity, a list of its
kind for a list, and everywhere identifiers of the type of their entity. -/
def Entry.Answers (e : Entry) : RootField → Prop
  | .product | .productUpdate => e = .nothing ∨ ∃ p : Product, e = .product p ∧ p.HasTypedIds
  | .productVariant | .productVariantUpdate =>
    e = .nothing ∨ ∃ v : ProductVariant, e = .variant v ∧ v.HasTypedIds
  | .products => ∃ ps : List Product, e = .products ps ∧ ∀ p ∈ ps, p.HasTypedIds
  | .productVariants => ∃ vs : List ProductVariant, e = .variants vs ∧ ∀ v ∈ vs, v.HasTypedIds
  | .bulkOperationRunQuery | .currentBulkOperation =>
    e = .nothing ∨ ∃ b : BulkOperation, e = .bulk b ∧ b.id.entityType = .bulkOperation

/-- The root field whose shape a payload has. -/
def Payload.root : Payload → RootField
  | .product _ => .product
  | .variant _ => .productVariant
  | .productUpdate _ => .productUpdate
  | .variantUpdate _ => .productVariantUpdate
  | .products _ => .products
  | .variants _ => .productVariants
  | .bulkRun _ => .bulkOperationRunQuery
  | .bulk _ => .currentBulkOperation

/-- A payload passes the check of its own root field only. -/
theorem Payload.root_of_check {field : RootField} {d : Datum} {p : Payload}
    (h : Payload.check field d = .ok p) : p.root = field := by
  cases field <;> obtain ⟨_, -, rfl⟩ := map_eq_ok_iff.1 h <;> rfl

/-- The payload of a mutation is nothing, or what its node is built into. -/
theorem entryOf_documented {α β : Type} {build : α → Outcome β} {wrap : β → Entry}
    {P : β → Prop} {Q : Entry → Prop} (hnothing : Q .nothing)
    (hbuild : ∀ a, Documented P (build a)) (hwrap : ∀ b, P b → Q (wrap b)) (node : Option α) :
    Documented Q (entryOf build wrap node) := by
  cases node with
  | none => exact hnothing
  | some a => exact (hbuild a).map hwrap

/-- A payload is built into an entry that answers its root field, or refused. -/
theorem Payload.entry_documented (p : Payload) : Documented (fun e ↦ e.Answers p.root) p.entry := by
  cases p with
  | product node => exact node.entity_documented.map fun p hp ↦ .inr ⟨p, rfl, hp⟩
  | variant node => exact node.entity_documented.map fun v hv ↦ .inr ⟨v, rfl, hv⟩
  | productUpdate node =>
    exact entryOf_documented (.inl rfl) ProductNode.entity_documented
      (fun p hp ↦ .inr ⟨p, rfl, hp⟩) node
  | variantUpdate node =>
    exact entryOf_documented (.inl rfl) VariantNode.entity_documented
      (fun v hv ↦ .inr ⟨v, rfl, hv⟩) node
  | products nodes => exact (productEntities_documented nodes).map fun ps hps ↦ ⟨ps, rfl, hps⟩
  | variants nodes =>
    exact (VariantNode.entities_documented nodes).map fun vs hvs ↦
      ⟨vs, rfl, ProductVariant.allHaveTypedIds_iff.1 hvs⟩
  | bulkRun node =>
    exact entryOf_documented (.inl rfl) BulkNode.entity_documented
      (fun b hb ↦ .inr ⟨b, rfl, hb⟩) node
  | bulk node => exact node.entity_documented.map fun b hb ↦ .inr ⟨b, rfl, hb⟩

/-! ### Envelopes

Reading an envelope settles two things for the steps that come later, and both are in `Fits`: the
errors can be shown, and a payload is there unless the root field admits none.
-/

/-- What reading an envelope settles for building its entity: a payload has the shape of the root
field, and only the root fields that admit it have none. -/
def Success.Fits (s : Success) : Prop :=
  match s.payload with
  | none => s.operation.isNullable = true
  | some p => p.root = s.operation

/-- What reading an envelope settles: reported errors can be shown, and a payload fits. -/
def Envelope.Fits : Envelope → Prop
  | .errors reported _ => reported.hasText = true
  | .success s => s.Fits

namespace Envelope

/-- What stands under a key of an object that can be shown can be shown, null if there is
nothing. -/
theorem hasText_entry {key : String} {es : List (Datum × Datum)}
    (hes : (Datum.dict es).hasText = true) : (entry key es).hasText = true := by
  rw [entry]
  rcases h : Datum.field? key es with - | d
  · rfl
  · exact Datum.hasText_of_field? hes h

/-- A payload that is read fits its root field. -/
theorem fits_of_readPayload {field : RootField} {d extensions : Datum} {p : Option Payload}
    (h : readPayload field d = .ok p) :
    Success.Fits { operation := field, payload := p, extensions } := by
  unfold readPayload at h
  split at h
  · split at h
    · next hnullable =>
      cases h
      exact hnullable
    · cases h
  · split at h
    · next hcheck =>
      cases h
      exact Payload.root_of_check hcheck
    · cases h

/-- An object that is read as an envelope is read as one that fits. -/
theorem fits_of_ofEntries {es : List (Datum × Datum)} {e : Envelope}
    (hes : (Datum.dict es).hasText = true) (h : ofEntries es = .ok e) : e.Fits := by
  simp only [ofEntries] at h
  split at h
  · cases h
    exact hasText_entry hes
  · split at h
    · cases h
    · split at h
      · cases h
      · split at h
        · next hpayload =>
          cases h
          exact fits_of_readPayload hpayload
        · cases h

/-- A body that is classed is classed as an envelope that fits. -/
theorem fits_of_classify {body : List UInt8} {e : Envelope} (h : classify body = .ok e) :
    e.Fits := by
  unfold classify at h
  split at h
  · cases h
  · next d hread =>
    unfold ofDatum at h
    split at h
    · exact fits_of_ofEntries (Json.hasText_of_read hread) h
    · cases h

/-- A body is read as an envelope that fits, or refused. -/
theorem parse_documented (body : List UInt8) : Documented Fits (parse body) := by
  unfold parse
  split
  · next hclassify => exact fits_of_classify hclassify
  · exact Failure.isDocumented_undecodable _ _

/-- A body is read as an answer to what was asked for, or refused. -/
theorem decode_documented (body : List UInt8) (expected : RootField) :
    Documented (fun s ↦ s.operation = expected ∧ s.Fits) (decode body expected) := by
  have hparse := parse_documented body
  unfold decode
  rcases h : parse body with f | e
  · rw [h] at hparse
    exact hparse
  · rw [h] at hparse
    cases e with
    | errors reported data => exact Failure.isDocumented_remote hparse
    | success s =>
      simp only [answering]
      split
      · next hoperation => exact ⟨hoperation, hparse⟩
      · exact Failure.isDocumented_shapeMismatch _ _

end Envelope

/-- A reply without a payload answers exactly the root fields that admit one. -/
theorem Entry.nothing_answers {field : RootField} (h : field.isNullable = true) :
    Entry.nothing.Answers field := by
  cases field <;> first | exact .inl rfl | cases h

theorem Success.materialize_documented {s : Success} (h : s.Fits) :
    Documented (fun e ↦ e.Answers s.operation) s.materialize := by
  unfold Success.materialize
  unfold Success.Fits at h
  cases hpayload : s.payload with
  | none =>
    rw [hpayload] at h
    exact Entry.nothing_answers h
  | some p =>
    rw [hpayload] at h
    have hroot : p.root = s.operation := h
    -- The entry answers the root field of the payload, which is the one of the envelope.
    rw [← hroot]
    exact p.entry_documented

/-! ### Public contract -/

/-- The body of a reply, as octets or as a text. -/
inductive Body where
  /-- Any octets, of UTF-8 or not. -/
  | octets (bytes : List UInt8)
  /-- A text, which is read as its octets of UTF-8. -/
  | text (s : String)

/-- The octets of a body; those of a text are its encoding. -/
def Body.bytes : Body → List UInt8
  | .octets bytes => bytes
  | .text s => Encoding.utf8 s

/-- **Decoding is closed under its documented failures.** Whatever the body and whatever was asked
for, decoding answers an entity of the kind that was asked for, with identifiers of the right types
at every depth, or fails with one of the documented causes and a message. -/
theorem decodeEntry_closed (body : Body) (expected : RootField) :
    (∃ e, decodeEntry body.bytes expected = .ok e ∧ e.Answers expected) ∨
      ∃ f, decodeEntry body.bytes expected = .error f ∧ f.IsDocumented := by
  have h : Documented (fun e ↦ e.Answers expected) (decodeEntry body.bytes expected) := by
    refine (Envelope.decode_documented body.bytes expected).bind fun s hs ↦ ?_
    exact hs.1 ▸ Success.materialize_documented hs.2
  rcases hdecode : decodeEntry body.bytes expected with f | e
  · rw [hdecode] at h
    exact .inr ⟨f, rfl, h⟩
  · rw [hdecode] at h
    exact .inl ⟨e, rfl, h⟩

end CatalogQuery
