import CatalogQuery.Proofs.Bulk
import CatalogQuery.Proofs.Shop

/-!
# Answers are read as what they answer

The answer of a shop to a well-formed selection is read as what the shop holds, restricted to that
selection: `ShopProduct.check_answer`, `ShopVariant.check_answer`, and `ShopBulk.check_answer`,
whose fields are always all selected.

A field name stands in three places: the selection has it from the builder, the shop answers under
the name of the schema, and the reader looks it up under a name and a plain name. The three meet in
`FieldToken.Clear.checkLeaf_answer`, one lemma for all leaf fields; a name that drifted would leave
one of its hypotheses without proof. The proof for products and variants follows the records, in
turn and down to any depth, with a well-formed selection at each.

## One lemma for all leaf fields

`FieldToken.Clear` is the condition under which a lookup finds what the selection asked for. The
reader looks a value up under its name in documents and falls back to its plain name, so two things
could go wrong: another field could answer under the name, or a field could be selected under the
plain name. In a well-formed selection neither happens (`Entity.Selects.clear`). The plain names are
those that the reader uses; that none of them is the name of a field of the schema is decided for
each by evaluation.

## Recursion over the records

A product is checked in the midst of its selection, and its nested field is checked by the same
function on a variant, and so on. The proof follows the **records** and not the selections: each
nested field takes one record away, whereas the selection of the next level is any well-formed one.
The check of an object is a chain of checks of its fields; the leaf fields enter it by
`checkLeaf_answer`, the nested field by `Entity.Selects.checkOptional_answer`.
-/

namespace CatalogQuery

open Grammar Holding FieldToken

/-! ### Checking one field

The check of a field is given its value together with the fact that it is smaller than the object,
on which the reader's recursion rests. So a lemma about the check of a field has that fact among the
arguments of the check, and asks for nothing of it.
-/

section Checks

variable {α : Type} {n p : String} {es : List (Datum × Datum)} {v : Datum} {a : α}
  {check : (v : Datum) → sizeOf v < sizeOf es → Checked α}

/-- A field that has to be there is read as its value. -/
theorem checkField_eq_ok (h : fieldValue? n p es = some v) (hv : ∀ hlt, check v hlt = .ok a) :
    checkField n p es check = .ok a := by
  unfold checkField
  split
  · next hnone => exact absurd (h.symm.trans hnone) (by simp)
  · next w hw =>
    obtain rfl : v = w := Option.some.inj (h.symm.trans hw)
    rw [hv]
    rfl

/-- A field that is not there is read as nothing. -/
theorem checkOptional_of_none (h : fieldValue? n p es = none) :
    checkOptional n p es check = .ok none := by
  unfold checkOptional
  split
  · rfl
  · rfl
  · next hsome => exact absurd (h.symm.trans hsome) (by simp)

/-- A field that is null is read as nothing. -/
theorem checkOptional_of_null (h : fieldValue? n p es = some .null) :
    checkOptional n p es check = .ok none := by
  unfold checkOptional
  split
  · rfl
  · rfl
  · next hnull hsome => exact absurd (Option.some.inj (hsome.symm.trans h)) hnull

/-- A field that is there and not null is read as its value. -/
theorem checkOptional_eq_ok (h : fieldValue? n p es = some v) (hnull : v ≠ .null)
    (hv : ∀ hlt, check v hlt = .ok a) : checkOptional n p es check = .ok (some a) := by
  unfold checkOptional
  split
  · next hnone => exact absurd (h.symm.trans hnone) (by simp)
  · next hsome => exact absurd (Option.some.inj (h.symm.trans hsome)) hnull
  · next w _ hw =>
    obtain rfl : v = w := Option.some.inj (h.symm.trans hw)
    rw [hv]
    rfl

end Checks

/-! ### Checking lists

The nodes of a list stand in objects of one entry each, and the list of these in an object of one
entry. Both layers are the shop's, and in both nothing else can be found.
-/

section Lists

variable {α : Type} {ds : List Datum} {as : List α} {check : Datum → Checked α}

/-- Items in a row are accepted if each of them is. -/
theorem checkItems_eq_ok (h : List.Forall₂ (fun d a ↦ check d = .ok a) ds as) (index : Nat) :
    checkItems index ds (fun d _ ↦ check d) = .ok as := by
  induction h generalizing index with
  | nil => rfl
  | cons hd _ ih =>
    rw [checkItems, hd, ih]
    rfl

/-- A list is accepted if its items are. -/
theorem checkList_eq_ok (h : List.Forall₂ (fun d a ↦ check d = .ok a) ds as) :
    checkList (.list ds) (fun d _ ↦ check d) = .ok as :=
  checkItems_eq_ok h 0

/-- The value of the only entry is found. -/
theorem fieldValue?_singleton (n p : String) (d : Datum) :
    fieldValue? n p [(.str n, d)] = some d := by
  have hfind : Datum.field? n [(.str n, d)] = some d := by
    simp [Datum.field?, Datum.get?, Datum.equal_str]
  rw [fieldValue?, fieldKey, hfind, Option.isNone_some, Bool.false_and, if_neg (by decide), hfind]

/-- A list of entities is accepted if its nodes are. -/
theorem checkEdges_eq_ok (h : List.Forall₂ (fun d a ↦ check d = .ok a) ds as) :
    checkEdges (.dict [(.str "edges", .list (ds.map fun d ↦ .dict [(.str "node", d)]))])
      (fun d _ ↦ check d) = .ok as := by
  have hedge (d : Datum) (a : α) (hd : check d = .ok a) :
      checkEdge (.dict [(.str "node", d)]) (fun d _ ↦ check d) = .ok a := by
    rw [checkEdge]
    exact checkField_eq_ok (fieldValue?_singleton "node" "node" d) fun _ ↦ hd
  have hedges : List.Forall₂ (fun d a ↦ checkEdge d (fun d _ ↦ check d) = .ok a)
      (ds.map fun d ↦ .dict [(.str "node", d)]) as :=
    List.forall₂_map_left_iff.2 (h.imp hedge)
  rw [checkEdges]
  exact checkField_eq_ok (fieldValue?_singleton "edges" "edges" _) fun _ ↦ checkList_eq_ok hedges

end Lists

/-! ### Fields of an answer -/

namespace FieldToken

variable {fields : List (String × Holding)} {ts : List FieldToken} {n p : String}

/-- A value is looked up under its name if no field has its plain name. -/
theorem fieldValue?_answerEntries (fields : List (String × Holding))
    (hplain : p = n ∨ p ∉ ts.map name) :
    fieldValue? n p (answerEntries fields ts) =
      (ts.find? fun t ↦ t.name == n).map fun t ↦ fieldAnswer fields t.field := by
  rw [← field?_answerEntries, fieldValue?, fieldKey]
  rcases hplain with rfl | hp
  · rw [ite_self]
  · have hnone : Datum.field? p (answerEntries fields ts) = none := by
      rw [field?_answerEntries, Option.map_eq_none_iff, List.find?_eq_none]
      intro t ht hname
      exact hp (List.mem_map.2 ⟨t, ht, eq_of_beq hname⟩)
    rw [hnone, Option.isSome_none, Bool.and_false]
    rfl

/-- All fields of a name are leaves, and no field has the plain name instead. -/
structure Clear (ts : List FieldToken) (n p : String) : Prop where
  /-- A field of the name is a leaf. -/
  eq_leaf : ∀ t ∈ ts, t.name = n → t = .leaf n
  /-- The plain name is the name, or nothing is selected under it. -/
  plain : p = n ∨ p ∉ ts.map name

/-- The first field of a clear name is the leaf of that name, if it is selected at all. -/
theorem Clear.find?_eq (h : Clear ts n p) :
    (ts.find? fun t ↦ t.name == n) = if n ∈ ts.map name then some (.leaf n) else none := by
  -- Nothing is found, or a field of the name, which has to be the leaf.
  rcases hfind : ts.find? fun t ↦ t.name == n with - | t
  · rw [hfind, if_neg]
    intro hmem
    obtain ⟨t, ht, hname⟩ := List.mem_map.1 hmem
    exact List.find?_eq_none.1 hfind t ht (by simpa using hname)
  · have ht := List.mem_of_find?_eq_some hfind
    have hname : t.name = n := by simpa using List.find?_some hfind
    rw [hfind, if_pos (List.mem_map.2 ⟨t, ht, hname⟩), h.eq_leaf t ht hname]

/-- **A leaf field is read as what is held under its name**, if it is selected. -/
theorem Clear.checkLeaf_answer {α β : Type} {wire : α → Datum} {read : α → β}
    {check : Datum → Checked β} (h : Clear ts n p) (fields : List (String × Holding)) (o : Option α)
    (hheld : fieldAnswer fields (plainField n [] []) = o.elim .null wire)
    (hcheck : ∀ a, wire a ≠ .null ∧ check (wire a) = .ok (read a)) :
    checkLeaf n p (answerEntries fields ts) check = .ok ((keep ts n o).map read) := by
  have hvalue := fieldValue?_answerEntries fields h.plain
  rw [h.find?_eq] at hvalue
  rw [checkLeaf, keep]
  split_ifs at hvalue ⊢ with hmem
  · rw [Option.map_some, field, hheld] at hvalue
    -- The field is selected: null is held under it, or a value.
    cases o with
    | none => exact checkOptional_of_null hvalue
    | some a => exact checkOptional_eq_ok hvalue (hcheck a).1 fun _ ↦ (hcheck a).2
  · exact checkOptional_of_none hvalue

/-- A leaf field that has to be there is read as what is held under its name. -/
theorem Clear.checkField_answer {β : Type} {d : Datum} {check : Datum → Checked β} {b : β}
    (h : Clear ts n p) (fields : List (String × Holding)) (hmem : n ∈ ts.map name)
    (hheld : fieldAnswer fields (plainField n [] []) = d)
    (hcheck : check d = .ok b) :
    checkField n p (answerEntries fields ts) (fun v _ ↦ check v) = .ok b := by
  have hvalue := fieldValue?_answerEntries fields h.plain
  rw [h.find?_eq, if_pos hmem, Option.map_some, field, hheld] at hvalue
  exact checkField_eq_ok hvalue fun _ ↦ hcheck

/-- A leaf field whose values are read as they are held. -/
theorem Clear.checkLeaf_same {α : Type} {wire : α → Datum} {check : Datum → Checked α}
    (h : Clear ts n p) (fields : List (String × Holding)) (o : Option α)
    (hheld : fieldAnswer fields (plainField n [] []) = o.elim .null wire)
    (hcheck : ∀ a, wire a ≠ .null ∧ check (wire a) = .ok a) :
    checkLeaf n p (answerEntries fields ts) check = .ok (keep ts n o) := by
  have hleaf : checkLeaf n p (answerEntries fields ts) check = .ok ((keep ts n o).map id) :=
    h.checkLeaf_answer fields o hheld hcheck
  rwa [Option.map_id] at hleaf

end FieldToken

/-! ### Scalars

A value that is held is never written as null, which a reader would take for absence, and it is read
as what it is. Amounts and counts are read as their texts; that these can be interpreted later is a
fact about the shop, and no concern of the check.
-/

theorem check_text (t : Text) : Datum.text t ≠ .null ∧ Coerce.text (.text t) = .ok t :=
  ⟨nofun, rfl⟩

theorem check_int (n : Int) : Datum.int n ≠ .null ∧ Coerce.int (.int n) = .ok n :=
  ⟨nofun, rfl⟩

theorem check_word {α : Type} [Vocabulary α] (w : α) :
    wordWire w ≠ .null ∧ Coerce.text (wordWire w) = .ok (.str (Vocabulary.wire w)) :=
  ⟨nofun, rfl⟩

theorem check_tags (ts : List Text) : tagsWire ts ≠ .null ∧ checkTags (tagsWire ts) = .ok ts := by
  have htexts : List.Forall₂ (fun d t ↦ Coerce.text d = .ok t) (ts.map .text) ts :=
    List.forall₂_map_left_iff.2 (List.forall₂_same.2 fun t _ ↦ rfl)
  exact ⟨nofun, checkList_eq_ok htexts⟩

/-- An amount is read as its text; it is interpreted as a number only later. -/
theorem check_amount (a : Amount) : a.wire ≠ .null ∧ Price.check a.wire = .ok (.text a.text) :=
  ⟨nofun, rfl⟩

/-- A weight is read as its value, whichever way it is written. -/
theorem check_weight (w : Weight) : w.datum ≠ .null ∧ Coerce.float w.datum = .ok w.value := by
  refine ⟨?_, w.float_datum⟩
  rcases w.isNumber with h | ⟨n, h, -⟩
  · rw [h]
    nofun
  · rw [h]
    nofun

theorem check_digits (d : Digits) :
    d.wire ≠ .null ∧ ObjectCount.check d.wire = .ok (.text d.text) :=
  ⟨nofun, rfl⟩

/-! ### Selections of entities

All names that a selection can have are listed once for each entity. A plain name that is not on the
list is free, and which names are not is decided by evaluation where a field is checked.
-/

namespace Entity

/-- The names of the fields of an entity. -/
def fieldNames : Entity → List String
  | .product => ["id", "variants", "title", "status", "vendor", "handle", "productType", "tags"]
  | .variant =>
    ["id", "product", "compareAtPrice", "inventoryQuantity", "price", "sku", "title", "barcode",
      "weight", "weightUnit"]

theorem id_mem_fieldNames (e : Entity) : "id" ∈ e.fieldNames := by
  cases e <;> decide

theorem nestedName_mem_fieldNames (e : Entity) : e.nestedName ∈ e.fieldNames := by
  cases e <;> decide

theorem fieldName_mem_fieldNames {e : Entity} (f : e.Field) : e.fieldName f ∈ e.fieldNames := by
  cases e <;> cases f <;> decide

namespace Selects

variable {e : Entity} {Bound : Connection → Prop} {ts : List FieldToken}
variable (h : e.Selects (e.IsNested Bound) ts)
include h

/-- A well-formed selection has no names but those of the fields of its entity. -/
theorem name_mem_fieldNames {t : FieldToken} (ht : t ∈ ts) : t.name ∈ e.fieldNames := by
  rcases h.mem t ht with (rfl | ⟨f, rfl⟩) | hnested
  · exact e.id_mem_fieldNames
  · exact fieldName_mem_fieldNames f
  · rw [hnested.name_eq]
    exact e.nestedName_mem_fieldNames

/-- A name other than that of the nested field is the name of leaves. -/
theorem clear (n p : String) (hn : n ≠ e.nestedName) (hp : p = n ∨ p ∉ e.fieldNames) :
    FieldToken.Clear ts n p where
  eq_leaf t ht hname := by
    rcases h.mem t ht with hleaf | hnested
    · rw [hleaf.eq_leaf_name, hname]
    · exact absurd (hname.symm.trans hnested.name_eq) hn
  plain := hp.imp_right fun hnot hmem ↦ by
    obtain ⟨t, ht, rfl⟩ := List.mem_map.1 hmem
    exact hnot (h.name_mem_fieldNames ht)

theorem id_mem : "id" ∈ ts.map FieldToken.name :=
  List.mem_map.2 ⟨_, List.mem_of_mem_head? h.head, rfl⟩

/-- The nested field is read as what is held under its name, if it is selected: nothing where null
is held, else the value that the answer to its selection is read as. -/
theorem checkOptional_answer {α : Type} (check : Datum → Checked α)
    (fields : List (String × Holding)) (n : String) (o : Option α) (hn : n = e.nestedName)
    (hunselected : below? ts n = none → o = none)
    (hselected : ∀ t, e.IsNested Bound t → below? ts n = some t.nested →
      (fieldAnswer fields t.field = .null ∧ o = none) ∨
        ∃ a, fieldAnswer fields t.field ≠ .null ∧ check (fieldAnswer fields t.field) = .ok a ∧
          o = some a) :
    checkOptional n n (answerEntries fields ts) (fun v _ ↦ check v) = .ok o := by
  have hvalue : fieldValue? n n (answerEntries fields ts) =
      (ts.find? fun t ↦ t.name == n).map fun t ↦ fieldAnswer fields t.field :=
    fieldValue?_answerEntries fields (.inl rfl)
  rw [below?] at hunselected hselected
  rcases hfind : ts.find? fun t ↦ t.name == n with - | t
  · rw [hfind] at hvalue hunselected
    rw [hunselected rfl]
    exact checkOptional_of_none hvalue
  · have hname : t.name = n := by simpa using List.find?_some hfind
    -- No leaf field has the name of the nested field.
    have hnested : e.IsNested Bound t :=
      (h.mem t (List.mem_of_find?_eq_some hfind)).resolve_left fun hleaf ↦
        hleaf.name_ne_nestedName (hname.trans hn)
    rw [hfind] at hvalue hselected
    obtain ⟨hnull, rfl⟩ | ⟨a, hne, hcheck, rfl⟩ := hselected t hnested rfl
    · exact checkOptional_of_null (by rw [hvalue, Option.map_some, hnull])
    · exact checkOptional_eq_ok hvalue hne fun _ ↦ hcheck

/-- The identifier of an entity is read. -/
theorem checkField_id (fields : List (String × Holding)) (t : Text)
    (hheld : fieldAnswer fields (plainField "id" [] []) = .text t) :
    checkField "id" "id" (answerEntries fields ts) (fun v _ ↦ Coerce.text v) = .ok t :=
  (h.clear "id" "id" e.id_ne_nestedName (.inl rfl)).checkField_answer fields h.id_mem hheld rfl

end Selects

end Entity

/-! ### Products and variants

Five statements are proved together, one for each function of the reader: a product and its
variants, a variant and its product, and variants in a row. In each the selection is arbitrary, and
the record gets smaller.
-/

section Leaves

variable {Bound : Connection → Prop} {ts : List FieldToken} (held : Holding)

/-- The attributes of a product are read as those that are selected, beside its variants. -/
theorem ShopProductLeaves.check_answer (l : ShopProductLeaves)
    {variants : Option (List VariantNode)}
    (h : Entity.product.Selects (Entity.product.IsNested Bound) ts)
    (hvariants : checkOptional "variants" "variants" (answerEntries (l.fields held) ts)
      (fun v _ ↦ checkEdges v fun x _ ↦ VariantNode.check x) = .ok variants) :
    ProductNode.check (.dict (answerEntries (l.fields held) ts)) =
      .ok (.mk (l.restrict ts).node variants) := by
  have hid := h.checkField_id (l.fields held) (.str l.id.id.gid) rfl
  have htitle := (h.clear "title" "title" (by decide) (.inl rfl)).checkLeaf_same (l.fields held)
    l.title rfl check_text
  have hstatus := (h.clear "status" "status" (by decide) (.inl rfl)).checkLeaf_answer
    (l.fields held) l.status rfl check_word
  have hvendor := (h.clear "vendor" "vendor" (by decide) (.inl rfl)).checkLeaf_same (l.fields held)
    l.vendor rfl check_text
  have hhandle := (h.clear "handle" "handle" (by decide) (.inl rfl)).checkLeaf_same (l.fields held)
    l.handle rfl check_text
  have hproductType := (h.clear "productType" "product_type" (by decide)
    (.inr (by decide))).checkLeaf_same (l.fields held) l.productType rfl check_text
  have htags := (h.clear "tags" "tags" (by decide) (.inl rfl)).checkLeaf_same (l.fields held)
    l.tags rfl check_tags
  -- Each field has been checked by now, and the reader only collects the values.
  rw [ProductNode.check]
  simp only [hid, htitle, hstatus, hvendor, hhandle, hproductType, htags, hvariants]
  rfl

/-- The attributes of a variant are read as those that are selected, beside its product. -/
theorem ShopVariantLeaves.check_answer (l : ShopVariantLeaves) {product : Option ProductNode}
    (h : Entity.variant.Selects (Entity.variant.IsNested Bound) ts)
    (hproduct : checkOptional "product" "product" (answerEntries (l.fields held) ts)
      (fun v _ ↦ ProductNode.check v) = .ok product) :
    VariantNode.check (.dict (answerEntries (l.fields held) ts)) =
      .ok (.mk (l.restrict ts).node product) := by
  have hid := h.checkField_id (l.fields held) (.str l.id.id.gid) rfl
  have hcompareAtPrice := (h.clear "compareAtPrice" "compare_at_price" (by decide)
    (.inr (by decide))).checkLeaf_answer (l.fields held) l.compareAtPrice rfl check_amount
  have hinventoryQuantity := (h.clear "inventoryQuantity" "inventory_quantity" (by decide)
    (.inr (by decide))).checkLeaf_same (l.fields held) l.inventoryQuantity rfl check_int
  have hprice := (h.clear "price" "price" (by decide) (.inl rfl)).checkLeaf_answer (l.fields held)
    l.price rfl check_amount
  have hsku := (h.clear "sku" "sku" (by decide) (.inl rfl)).checkLeaf_same (l.fields held)
    l.sku rfl check_text
  have htitle := (h.clear "title" "title" (by decide) (.inl rfl)).checkLeaf_same (l.fields held)
    l.title rfl check_text
  have hbarcode := (h.clear "barcode" "barcode" (by decide) (.inl rfl)).checkLeaf_same
    (l.fields held) l.barcode rfl check_text
  have hweight := (h.clear "weight" "weight" (by decide) (.inl rfl)).checkLeaf_answer
    (l.fields held) l.weight rfl check_weight
  have hweightUnit := (h.clear "weightUnit" "weight_unit" (by decide)
    (.inr (by decide))).checkLeaf_answer (l.fields held) l.weightUnit rfl check_word
  rw [VariantNode.check]
  simp only [hid, hcompareAtPrice, hinventoryQuantity, hprice, hproduct, hsku, htitle, hbarcode,
    hweight, hweightUnit]
  rfl

end Leaves

/-- A product that is held never answers with null. -/
theorem ShopProduct.answer_ne_null (p : ShopProduct) (selection : List Field) :
    p.holding.answer selection ≠ .null := by
  cases p
  rw [ShopProduct.holding, answer]
  exact Datum.noConfusion

theorem ShopVariant.answer_ne_null (v : ShopVariant) (selection : List Field) :
    v.holding.answer selection ≠ .null := by
  cases v
  rw [ShopVariant.holding, answer]
  exact Datum.noConfusion

mutual

/-- **The answer of a product is read as what is selected of it.** -/
theorem ShopProduct.check_answer {Bound : Connection → Prop} :
    ∀ (p : ShopProduct) {ts : List FieldToken},
    Entity.product.Selects (Entity.product.IsNested Bound) ts →
    ProductNode.check (p.holding.answer (FieldToken.fields ts)) = .ok (p.restrict ts).node
  | .mk l variants, ts, h => by
    rw [ShopProduct.holding, answer_object_fields,
      l.check_answer _ h (ShopProduct.check_variants l variants h)]
    rfl

/-- The answer of the variants of a product is read as what is selected of them. -/
theorem ShopProduct.check_variants {Bound : Connection → Prop} (l : ShopProductLeaves) :
    ∀ (variants : Option (List ShopVariant)) {ts : List FieldToken},
    Entity.product.Selects (Entity.product.IsNested Bound) ts →
    checkOptional "variants" "variants"
        (answerEntries (l.fields (ShopProduct.variantsHolding variants)) ts)
        (fun v _ ↦ checkEdges v fun x _ ↦ VariantNode.check x) =
      .ok (ShopProduct.variantNodes (ShopProduct.restrictVariants (below? ts "variants") variants))
  | none, ts, h => by
    refine h.checkOptional_answer (fun v ↦ checkEdges v fun x _ ↦ VariantNode.check x) _ _ _ rfl
      (fun _ ↦ rfl) fun t ht _ ↦ .inl ⟨?_, rfl⟩
    cases ht
    rfl
  | some vs, ts, h => by
    refine h.checkOptional_answer (fun v ↦ checkEdges v fun x _ ↦ VariantNode.check x) _ _ _ rfl
      (fun hbelow ↦ by rw [hbelow]; rfl) fun t ht hbelow ↦ .inr ?_
    cases ht with
    | @variants xs c hflat hbound =>
      have hbelow' : Entity.variant.Selects (Entity.variant.IsNested Bound) xs :=
        hflat.mono fun _ ↦ False.elim
      have hedges := checkEdges_eq_ok (ShopVariant.check_answers vs hbelow')
      have hanswer : fieldAnswer (l.fields (ShopProduct.variantsHolding (some vs)))
          (FieldToken.node "variants" .productVariant xs (some c)).field = _ :=
        answer_connection (ShopVariant.holdings vs) (FieldToken.fields xs)
      rw [List.map_map] at hedges
      rw [hanswer, hbelow]
      exact ⟨_, nofun, hedges, rfl⟩

/-- **The answer of a variant is read as what is selected of it.** -/
theorem ShopVariant.check_answer {Bound : Connection → Prop} :
    ∀ (v : ShopVariant) {ts : List FieldToken},
    Entity.variant.Selects (Entity.variant.IsNested Bound) ts →
    VariantNode.check (v.holding.answer (FieldToken.fields ts)) = .ok (v.restrict ts).node
  | .mk l product, ts, h => by
    rw [ShopVariant.holding, answer_object_fields,
      l.check_answer _ h (ShopVariant.check_owner l product h)]
    rfl

/-- The answer of the product of a variant is read as what is selected of it. -/
theorem ShopVariant.check_owner {Bound : Connection → Prop} (l : ShopVariantLeaves) :
    ∀ (product : Option ShopProduct) {ts : List FieldToken},
    Entity.variant.Selects (Entity.variant.IsNested Bound) ts →
    checkOptional "product" "product"
      (answerEntries (l.fields (ShopVariant.ownerHolding product)) ts)
        (fun v _ ↦ ProductNode.check v) =
      .ok (ShopVariant.ownerNode (ShopVariant.restrictOwner (below? ts "product") product))
  | none, ts, h => by
    refine h.checkOptional_answer ProductNode.check _ _ _ rfl (fun _ ↦ rfl) fun t ht _ ↦
      .inl ⟨?_, rfl⟩
    cases ht
    rfl
  | some p, ts, h => by
    refine h.checkOptional_answer ProductNode.check _ _ _ rfl (fun hbelow ↦ by rw [hbelow]; rfl)
      fun t ht hbelow ↦ .inr ?_
    cases ht with
    | @product xs hflat =>
      have hbelow' : Entity.product.Selects (Entity.product.IsNested Bound) xs :=
        hflat.mono fun _ ↦ False.elim
      have hanswer : fieldAnswer (l.fields (ShopVariant.ownerHolding (some p)))
          (FieldToken.node "product" .product xs none).field =
            p.holding.answer (FieldToken.fields xs) := rfl
      rw [hanswer, hbelow]
      exact ⟨_, p.answer_ne_null _, ShopProduct.check_answer p hbelow', rfl⟩

/-- The answers of variants are read one by one as what is selected of them. -/
theorem ShopVariant.check_answers {Bound : Connection → Prop} : ∀ (vs : List ShopVariant)
    {ts : List FieldToken}, Entity.variant.Selects (Entity.variant.IsNested Bound) ts →
    List.Forall₂ (fun d a ↦ VariantNode.check d = .ok a)
      ((ShopVariant.holdings vs).map fun h ↦ h.answer (FieldToken.fields ts))
      (ShopVariant.nodes (ShopVariant.restrictAll ts vs))
  | [], _, _ => .nil
  | v :: vs, _, h => .cons (ShopVariant.check_answer v h) (ShopVariant.check_answers vs h)

end

/-! ### Bulk operations

A bulk operation is asked for all its fields, so nothing of it is left out and there is no selection
to follow.
-/

namespace BulkQuery

theorem names_tokens : tokens.map FieldToken.name = bulkFields :=
  rfl

/-- The selection of a bulk operation consists of leaves. -/
theorem clear_tokens (n p : String) (hp : p = n ∨ p ∉ bulkFields) : Clear tokens n p where
  eq_leaf t ht hname := by
    obtain ⟨m, -, rfl⟩ := List.mem_map.1 ht
    exact congrArg FieldToken.leaf hname
  plain := by rwa [names_tokens]

/-- Nothing of a bulk operation is left out. -/
theorem keep_tokens {α : Type} {n : String} (h : n ∈ bulkFields) (o : Option α) :
    keep tokens n o = o :=
  if_pos (by rwa [names_tokens])

end BulkQuery

/-- **The answer of a bulk operation is read as what it is**: all its fields are selected. -/
theorem ShopBulk.check_answer (b : ShopBulk) :
    BulkNode.check (b.holding.answer (FieldToken.fields BulkQuery.tokens)) = .ok b.node := by
  have hid := (BulkQuery.clear_tokens "id" "id" (.inl rfl)).checkField_answer b.fields
    (by decide) rfl (check_text (.str b.id.id.gid)).2
  have hstatus := (BulkQuery.clear_tokens "status" "status" (.inl rfl)).checkField_answer b.fields
    (by decide) rfl (check_word b.status).2
  have herrorCode := (BulkQuery.clear_tokens "errorCode" "error_code"
    (.inr (by decide))).checkLeaf_same b.fields b.errorCode rfl check_text
  have hobjectCount := (BulkQuery.clear_tokens "objectCount" "object_count"
    (.inr (by decide))).checkLeaf_answer b.fields b.objectCount rfl check_digits
  have hurl := (BulkQuery.clear_tokens "url" "url" (.inl rfl)).checkLeaf_same
    b.fields b.url rfl check_text
  rw [BulkQuery.keep_tokens (by decide)] at herrorCode hobjectCount hurl
  rw [ShopBulk.holding, answer_object_fields, BulkNode.check]
  simp only [hid, hstatus, herrorCode, hobjectCount, hurl]
  rfl

end CatalogQuery
