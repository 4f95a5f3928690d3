import CatalogQuery.Proofs.Attempt
import CatalogQuery.Proofs.Reply
import Mathlib

/-!
# Compiling, answering and decoding agree

`Request.reached_decodes_answer` is the public contract: whatever a shop holds, its answer to the
selection of a reached request is decoded as what the shop holds, restricted to that selection.

The selection that is answered is the one of the document (`Request.payload`); that the document is
read as that selection under the one root field is the second half of the contract, and needs
callers that hand in what can be written in a document. What is left to show here is the outermost
layer, root field by root field: a reply is classified under its root field, lists have edges, the
root fields of changes wrap what they changed, and null stands for an entity that there is not.

## The layers

The proof goes from the inside out. That the answer of one entity is read and interpreted as what is
selected of it comes from the records (`Decodes`). Around it there are three forms of root fields,
and each is settled once for any entity: one that may be null (`Decodes.settles_optional`), one that
wraps an entity which may be null (`Decodes.settles_wrapped`), and a list
(`Decodes.settles_connection`). `Shop.settles_query` goes through the root fields and names the form
of each. Around that there is the body, in which only the data and the absence of errors matter
(`Settles.decodeEntry_eq`).

## What a body is asked for

Nothing is said about how the shop writes its answer down. A body is any text that is read as an
object with that answer as its data (`IsReply`), so spaces, the order of members and further members
beside the data are all allowed.
-/

open CatalogQuery.Attempt

namespace CatalogQuery

open Grammar Holding

/-! ### Replies

`Settles` is about the payload of one root field, and joins the two steps that a reply goes through:
reading it, and building an entity of what was read.
-/

/-- A body that is an object with the given data, and reports no errors. -/
def IsReply (body : List UInt8) (data : Datum) : Prop :=
  ∃ es, Json.read body = .ok (.dict es) ∧ (Envelope.entry "errors" es).isTruthy = false ∧
    Envelope.entry "data" es = data

/-- A payload is read, and what is read is interpreted as an entry. -/
def Settles (root : RootField) (payload : Datum) (e : Entry) : Prop :=
  ∃ p, Envelope.readPayload root payload = .ok p ∧ p.elim (.ok .nothing) Payload.entry = .ok e

/-- A reply with one root field is decoded as its payload. -/
theorem Settles.decodeEntry_eq {body : List UInt8} {root : RootField} {payload : Datum} {e : Entry}
    (h : Settles root payload e)
    (hbody : IsReply body (.dict [(.str (Vocabulary.wire root), payload)])) :
    decodeEntry body root = .ok e := by
  obtain ⟨p, hpayload, hentry⟩ := h
  obtain ⟨es, hread, herrors, hdata⟩ := hbody
  -- There is one root field and no error, so the body is a success with that payload.
  have hparse : Envelope.parse body = .ok (.success
      { operation := root, payload := p, extensions := Envelope.entry "extensions" es }) := by
    have hroot : Envelope.root? (.dict [(.str (Vocabulary.wire root), payload)]) =
        some (.str (Vocabulary.wire root), payload) := rfl
    rw [Envelope.parse, Envelope.classify, hread]
    simp only [Envelope.ofDatum, Envelope.ofEntries, herrors, hdata, hroot, Text.toString?,
      Option.bind_some, Vocabulary.IsLawful.ofWire?_wire, hpayload]
    rfl
  rw [← hentry, decodeEntry, Envelope.decode, hparse]
  simp only [Envelope.answering, if_true]
  cases p <;> rfl

/-! ### Root fields

Each of the three forms is proved for any kind of entity and any selection. What is different
between products, variants and bulk operations is collected in `Decodes`.
-/

section Roots

variable {α β γ : Type} {holding : α → Holding} {selection : List Field} {check : Datum → Checked β}
  {build : β → Outcome γ} {node : α → β} {entity : α → γ} {root : RootField}

/-- The answers of entities to a selection are read as nodes, and the nodes are built into
entities. -/
structure Decodes (holding : α → Holding) (selection : List Field) (check : Datum → Checked β)
    (build : β → Outcome γ) (node : α → β) (entity : α → γ) : Prop where
  /-- No entity answers with null. -/
  ne_null : ∀ a, (holding a).answer selection ≠ .null
  /-- An answer is read. -/
  check_eq : ∀ a, check ((holding a).answer selection) = .ok (node a)
  /-- What is read is built. -/
  build_eq : ∀ a, build (node a) = .ok (entity a)

/-- An entity that may be null answers with null, or as the entity does. -/
theorem answer_optionalHolding (o : Option α) :
    (optionalHolding holding o).answer selection =
      o.elim .null fun a ↦ (holding a).answer selection := by
  cases o with
  | none => rw [optionalHolding, Option.elim_none, answer, Option.elim_none]
  | some a => rfl

/-- A payload that is not null is read as its check says. -/
theorem readPayload_eq_ok {d : Datum} {p : Payload} (hne : d ≠ .null)
    (h : Payload.check root d = .ok p) : Envelope.readPayload root d = .ok (some p) := by
  rw [Envelope.readPayload, h]
  exact hne

namespace Decodes

variable (h : Decodes holding selection check build node entity)
include h

/-- A root field that is null where there is no entity. -/
theorem settles_optional {wrap : β → Payload} {enter : γ → Entry} (hroot : root.isNullable = true)
    (hcheck : ∀ d, Payload.check root d = (check d).map wrap)
    (hentry : ∀ b, (wrap b).entry = (build b).map enter) (o : Option α) :
    Settles root ((optionalHolding holding o).answer selection)
      (o.elim .nothing fun a ↦ enter (entity a)) := by
  rw [answer_optionalHolding]
  cases o with
  | none => exact ⟨none, if_pos hroot, rfl⟩
  | some a =>
    have hread : Payload.check root ((holding a).answer selection) = .ok (wrap (node a)) := by
      rw [hcheck, h.check_eq]
      rfl
    refine ⟨_, readPayload_eq_ok (h.ne_null a) hread, ?_⟩
    rw [Option.elim_some, hentry, h.build_eq]
    rfl

/-- A root field that wraps an entity, or null. -/
theorem settles_wrapped {wrap : Option β → Payload} {enter : γ → Entry} (n p : String)
    (hcheck : ∀ d, Payload.check root d = (checkWrapped n p check d).map wrap)
    (hentry : ∀ o, (wrap o).entry = entryOf build enter o) (o : Option α) :
    Settles root ((object [(n, optionalHolding holding o)]).answer [plainField n [] selection])
      (o.elim .nothing fun a ↦ enter (entity a)) := by
  have hvalue := fieldValue?_singleton n p (o.elim .null fun a ↦ (holding a).answer selection)
  have hleaf : checkLeaf n p [(.str n, o.elim .null fun a ↦ (holding a).answer selection)] check =
      .ok (o.map node) := by
    cases o with
    | none => exact checkOptional_of_null hvalue
    | some a => exact checkOptional_eq_ok hvalue (h.ne_null a) fun _ ↦ h.check_eq a
  rw [answer_object_singleton, answer_optionalHolding]
  refine ⟨_, readPayload_eq_ok nofun (p := wrap (o.map node)) ?_, ?_⟩
  · rw [hcheck, checkWrapped, hleaf]
    rfl
  · rw [Option.elim_some, hentry]
    cases o with
    | none => rfl
    | some a =>
      rw [Option.map_some, entryOf, h.build_eq]
      rfl

/-- A root field that lists entities. -/
theorem settles_connection {wrap : List β → Payload} {enter : List γ → Entry}
    (hcheck : ∀ d, Payload.check root d = (checkEdges d fun x _ ↦ check x).map wrap)
    (hentry : ∀ bs, (wrap bs).entry = (bs.mapM build).map enter) (as : List α) :
    Settles root ((connection (as.map holding)).answer (edgesFields selection))
      (enter (as.map entity)) := by
  have hitems : List.Forall₂ (fun d b ↦ check d = .ok b)
      (as.map fun a ↦ (holding a).answer selection) (as.map node) := by
    rw [List.forall₂_map_left_iff, List.forall₂_map_right_iff]
    exact List.forall₂_same.2 fun a _ ↦ h.check_eq a
  have hedges := checkEdges_eq_ok hitems
  rw [List.map_map] at hedges
  rw [answer_connection, List.map_map]
  refine ⟨_, readPayload_eq_ok nofun (p := wrap (as.map node)) ?_, ?_⟩
  · rw [hcheck]
    exact congrArg (Except.map wrap) hedges
  · rw [Option.elim_some, hentry, mapM_map_eq_ok h.build_eq]
    rfl

end Decodes

end Roots

/-! ### Entities

For each kind of entity, that its answer is read and that it is built are facts about its records,
and they are only put together here.
-/

section Entities

variable {Bound : Connection → Prop} {ts : List FieldToken}

/-- Products answer to a well-formed selection with what is read and built. -/
theorem decodes_product (h : Entity.product.Selects (Entity.product.IsNested Bound) ts) :
    Decodes ShopProduct.holding (FieldToken.fields ts) ProductNode.check ProductNode.entity
      (fun p ↦ (p.restrict ts).node) (fun p ↦ (p.restrict ts).entity) where
  ne_null p := p.answer_ne_null _
  check_eq p := p.check_answer h
  build_eq p := (p.restrict ts).entity_node

/-- Variants answer to a well-formed selection with what is read and built. -/
theorem decodes_variant (h : Entity.variant.Selects (Entity.variant.IsNested Bound) ts) :
    Decodes ShopVariant.holding (FieldToken.fields ts) VariantNode.check VariantNode.entity
      (fun v ↦ (v.restrict ts).node) (fun v ↦ (v.restrict ts).entity) where
  ne_null v := v.answer_ne_null _
  check_eq v := v.check_answer h
  build_eq v := (v.restrict ts).entity_node

/-- Bulk operations answer to their selection with what is read and built. -/
theorem decodes_bulk : Decodes ShopBulk.holding (FieldToken.fields BulkQuery.tokens) BulkNode.check
    BulkNode.entity ShopBulk.node ShopBulk.entity where
  ne_null b := by
    rw [ShopBulk.holding, answer]
    exact Datum.noConfusion
  check_eq := ShopBulk.check_answer
  build_eq := ShopBulk.entity_node

/-- The builder of variants in order is the builder of each. -/
theorem VariantNode.entities_eq_mapM (vs : List VariantNode) :
    VariantNode.entities vs = vs.mapM VariantNode.entity := by
  induction vs with
  | nil => rfl
  | cons v vs ih =>
    rw [VariantNode.entities, List.mapM_cons, ih]
    cases v.entity with
    | error failure => rfl
    | ok e => cases vs.mapM VariantNode.entity <;> rfl

end Entities

namespace Shop

variable (s : Shop)

/-- What a shop holds under a root field. -/
def held : RootField → Holding
  | .product => optionalHolding ShopProduct.holding s.product
  | .productUpdate => .object [("product", optionalHolding ShopProduct.holding s.productUpdate)]
  | .productVariant => optionalHolding ShopVariant.holding s.productVariant
  | .productVariantUpdate =>
    .object [("productVariant", optionalHolding ShopVariant.holding s.productVariantUpdate)]
  | .products => connection (s.products.map ShopProduct.holding)
  | .productVariants => connection (s.productVariants.map ShopVariant.holding)
  | .bulkOperationRunQuery =>
    .object [("bulkOperation", optionalHolding ShopBulk.holding s.bulkOperationRunQuery)]
  | .currentBulkOperation => optionalHolding ShopBulk.holding s.currentBulkOperation

/-- The answer to a root field is the answer of what is held under it. -/
theorem answer_root (root : RootField) (arguments : List (String × Value))
    (selection : List Field) :
    s.holding.answer [plainField (Vocabulary.wire root) arguments selection] =
      .dict [(.str (Vocabulary.wire root), (s.held root).answer selection)] := by
  rw [holding, answer]
  cases root <;> rfl

/-- The answer to the selection of a query is decoded as what is selected. -/
theorem settles_query {e : Entity} {q : Query e} {o : Origin} {Bound : Connection → Prop}
    (h : q.Invariant Bound o) :
    Settles q.operation ((s.held q.operation).answer q.payload)
      (s.entry q.fields.tokens q.operation) := by
  rw [Query.operation, Query.payload]
  -- One line for each entity and each kind of query: the form of its root field.
  cases e with
  | product =>
    have hdecodes := decodes_product h.selects
    cases q.kind with
    | read => exact hdecodes.settles_optional rfl (fun _ ↦ rfl) (fun _ ↦ rfl) s.product
    | update => exact hdecodes.settles_wrapped _ _ (fun _ ↦ rfl) (fun _ ↦ rfl) s.productUpdate
    | connection => exact hdecodes.settles_connection (fun _ ↦ rfl) (fun _ ↦ rfl) s.products
  | variant =>
    have hdecodes := decodes_variant h.selects
    cases q.kind with
    | read => exact hdecodes.settles_optional rfl (fun _ ↦ rfl) (fun _ ↦ rfl) s.productVariant
    | update =>
      exact hdecodes.settles_wrapped _ _ (fun _ ↦ rfl) (fun _ ↦ rfl) s.productVariantUpdate
    | connection =>
      refine hdecodes.settles_connection (fun _ ↦ rfl) (fun vs ↦ ?_) s.productVariants
      rw [Payload.entry, VariantNode.entities_eq_mapM]

/-- The answer to the selection of a bulk operation is decoded as what is held. -/
theorem settles_run (ts : List FieldToken) : Settles .bulkOperationRunQuery
    ((s.held .bulkOperationRunQuery).answer
      [plainField "bulkOperation" [] (FieldToken.fields BulkQuery.tokens)])
    (s.entry ts .bulkOperationRunQuery) :=
  decodes_bulk.settles_wrapped _ _ (fun _ ↦ rfl) (fun _ ↦ rfl) s.bulkOperationRunQuery

/-- The answer about the bulk operation in progress is decoded as what is held. -/
theorem settles_current (ts : List FieldToken) : Settles .currentBulkOperation
    ((s.held .currentBulkOperation).answer (FieldToken.fields BulkQuery.tokens))
    (s.entry ts .currentBulkOperation) :=
  decodes_bulk.settles_optional rfl (fun _ ↦ rfl) (fun _ ↦ rfl) s.currentBulkOperation

end Shop

/-! ### Public contract -/

namespace Request

variable {u : Usage} {r : Request}

/-- The root field of the document of a request, with some arguments. -/
def root (r : Request) (arguments : List (String × Value)) : Field :=
  plainField (Vocabulary.wire r.operation) arguments r.payload

/-- The answer to the selection of a reached request is decoded as what is selected. -/
theorem Reached.settles (h : r.Reached u) (s : Shop) :
    Settles r.operation ((s.held r.operation).answer r.payload)
      (s.entry r.fields.tokens r.operation) := by
  cases h with
  | query hq => exact s.settles_query hq.invariant
  | run hq hrun =>
    obtain ⟨-, rfl⟩ := BulkQuery.run_eq_ok hrun
    exact s.settles_run _
  | current => exact s.settles_current _

/-- **Compiling, answering and decoding agree on every selection.** Whatever a shop holds, a body
that replies with the answer of the shop to the selection of a reached request is decoded as what
the shop holds under the root field, restricted to that selection: at every depth each selected
field has its value, and every field that is null or not selected is absent. For plain callers that
selection is the one of the document, which is read as one operation with nothing else in it. -/
theorem reached_decodes_answer (h : r.Reached u) :
    (∀ (s : Shop) (arguments : List (String × Value)) (body : List UInt8),
      IsReply body (s.holding.answer [r.root arguments]) →
        decodeEntry body r.operation = .ok (s.entry r.fields.tokens r.operation)) ∧
      (u = .plain → ∃ d arguments, r.build = .ok d ∧ d.operation = r.operation ∧
        (Grammar.read d.text).map Operation.selection = some [r.root arguments]) := by
  refine ⟨fun s arguments body hbody ↦ ?_, ?_⟩
  · rw [root, s.answer_root] at hbody
    exact (h.settles s).decodeEntry_eq hbody
  · rintro rfl
    obtain ⟨d, arguments, hbuild, hread⟩ := h.build_reads
    obtain ⟨text, -, rfl⟩ := map_eq_ok_iff.1 hbuild
    exact ⟨_, arguments, hbuild, rfl, by rw [hread]; rfl⟩

set_option maxRecDepth 20000 in
/-- A product with one of its variants: the title is null, the vendor and the barcode are held but
not selected. -/
theorem reached_decodes_answer_read :
    ∃ (q : Query .product) (body : List UInt8) (d : Document),
      (Request.query ⟨.product, q⟩).Reached .plain ∧
        q.fields.names = ["id", "title", "variants"] ∧
        (Request.query ⟨.product, q⟩).build = .ok d ∧
        body = Encoding.utf8 ("\x7b\"data\":\x7b\"product\":\x7b" ++
          "\"id\":\"gid://shopify/Product/7\"," ++
          "\"title\":null,\"variants\":\x7b\"edges\":[\x7b\"node\":\x7b" ++
          "\"id\":\"gid://shopify/ProductVariant/8\",\"price\":\"12.50\"," ++
          "\"weight\":2\x7d\x7d]\x7d\x7d\x7d\x7d") ∧
        decodeEntry body d.operation = .ok (.product (.mk { id := ⟨.product, "7", "shopify"⟩ }
          (some [.mk
            { id := ⟨.productVariant, "8", "shopify"⟩
              price := some ⟨.ofDecimal false 1250 (-2)⟩
              weight := some (.finite false 4503599627370496 1023) } none]))) := by
  let price : Amount :=
    { whole := [0x31, 0x32]
      fraction := some [0x35, 0x30]
      digits_ne_nil := by decide
      isDigit_of_mem := by decide
      isFinite_value := by decide +kernel }
  let weight : Weight :=
    { datum := .int 2
      value := .finite false 4503599627370496 1023
      isNumber := .inr ⟨2, rfl, by decide +kernel⟩
      isFinite_value := rfl }
  let variant : ShopVariant := .mk
    { id := ⟨⟨.productVariant, "8", "shopify"⟩, rfl, ⟨by decide, by decide, by decide⟩⟩
      barcode := some (.str "b")
      price := some price
      weight := some weight } none
  let shop : Shop :=
    { product := some (.mk
        { id := ⟨⟨.product, "7", "shopify"⟩, rfl, ⟨by decide, by decide, by decide⟩⟩
          vendor := some (.str "v") } (some [variant])) }
  have hbound (c : Connection) (h : some ⟨.first, 1, by decide⟩ = some c) :
      Usage.plain.bound c := by
    cases h
    exact (by decide +kernel : integerFits 1 = true)
  have hvariants : Query.Reached .plain (.connection none (.int 1) .null) (e := .variant) _ :=
    .select (e := .variant) VariantField.weight
      (.select (e := .variant) VariantField.price (.make rfl hbound))
  obtain ⟨q, hq, hkind, hfields⟩ : ∃ q : Query .product,
      Query.Reached .plain (.read (.id ⟨.product, "7", "shopify"⟩)) q ∧ q.kind = .read ∧
        q.fields.tokens = [.leaf "id", .leaf "title", .node "variants" .productVariant
          [.leaf "id", .leaf "price", .leaf "weight"] (some ⟨.first, 1, by decide⟩)] :=
    ⟨_, .variantsOf (.select (e := .product) ProductField.title (.make rfl fun _ h ↦ nomatch h))
      hvariants rfl, rfl, rfl⟩
  have hoperation : q.operation = .product := by rw [Query.operation, hkind]; rfl
  obtain ⟨hdecodes, hdocument⟩ := reached_decodes_answer (Reached.query hq)
  obtain ⟨d, -, hbuild, hd, -⟩ := hdocument rfl
  have hdata : shop.holding.answer [(Request.query ⟨.product, q⟩).root []] =
      .dict [(.str "product",
        .dict [(.str "id", .str "gid://shopify/Product/7"), (.str "title", .null),
        (.str "variants", .dict [(.str "edges", .list [.dict [(.str "node", .dict
          [(.str "id", .str "gid://shopify/ProductVariant/8"), (.str "price", .str "12.50"),
            (.str "weight", .int 2)])]])])])] := by
    simp only [root, Request.operation, payload, Query.payload, hoperation, hkind, hfields]
    rfl
  refine ⟨q, _, d, .query hq, by rw [FieldSet.names, hfields]; rfl, hbuild, rfl, ?_⟩
  rw [hd]
  refine (hdecodes shop [] _
    ⟨[(.str "data", shop.holding.answer [(Request.query ⟨.product, q⟩).root []])], ?_, rfl,
      rfl⟩).trans ?_
  · rw [hdata]
    cbv
  · simp only [Request.operation, Request.fields, hoperation, hfields]
    rfl

end Request

end CatalogQuery
