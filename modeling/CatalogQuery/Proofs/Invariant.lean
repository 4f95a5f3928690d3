import CatalogQuery.Proofs.Reached

/-!
# The shape of every reached query

`Query.Invariant` is what all calls preserve: the kind, the identifier and the bound are those of
the factory, an update has an input that starts with its identifier, and the selection starts with
the identifier, has distinct names and at most one nested field.

`Query.reached_wellFormed` is the public contract. The induction runs on the calls and needs one
fact per way of changing a query: `Entity.Selects.addLeaf` and `Entity.Selects.addNested` for
selections, `Query.Invariant.assign` for inputs. That an embedded query of the other entity is flat
is not part of any single call; it is `Entity.Selects.flat_of_not_reaches` applied to the run that
made the query.

## Why flat selections

The cycle check runs when a document is made, on the path from the root. That it never refuses a
reached query cannot be read off any single call: the guard of an embedding looks at the selection
that is embedded, not at the one that it goes into. What makes the guards sufficient is the
induction. An embedded selection satisfies the invariant itself, so its only nested field would have
the kind of the entity around it; the guard refuses exactly that kind, so there is no nested field
at all (`Entity.Selects.flat_of_not_reaches`). Two levels are therefore the most that calls reach,
and on two levels no kind can repeat.

## Why the names stay distinct

Adding a leaf appends it unless an equal leaf is there. A nested field of the same name would be
neither, but no leaf of an entity has the name of its nested field
(`Entity.fieldName_ne_nestedName`). Embedding asks for the name outright.
-/

namespace CatalogQuery

/-! ### Well-formed selections -/

namespace Entity

/-- The name of the nested field that an entity can have. -/
def nestedName : Entity → String
  | .product => "variants"
  | .variant => "product"

/-- The kind of the entity below the nested field. -/
def nestedKind : Entity → EntityKind
  | .product => .productVariant
  | .variant => .product

/-- A leaf field of an entity: the identifier, or one of its attributes. -/
def IsLeaf (e : Entity) (t : FieldToken) : Prop :=
  t = .leaf "id" ∨ ∃ f : e.Field, t = .leaf (e.fieldName f)

/-- A selection of an entity: the identifier comes first, no name occurs twice, and every field is a
leaf field of the entity or one of the given nested fields. -/
structure Selects (e : Entity) (Nested : FieldToken → Prop) (ts : List FieldToken) : Prop where
  /-- The identifier is selected first. -/
  head : ts.head? = some (.leaf "id")
  /-- The names are distinct. -/
  nodup : (ts.map FieldToken.name).Nodup
  /-- Nothing else is selected. -/
  mem : ∀ t ∈ ts, e.IsLeaf t ∨ Nested t

/-- A selection without nested fields. -/
abbrev SelectsFlat (e : Entity) : List FieldToken → Prop :=
  e.Selects fun _ ↦ False

/-- The nested field that an entity can have: the variants of a product within a bound, and the
product of a variant without one, each over a flat selection. -/
inductive IsNested (Bound : Connection → Prop) : Entity → FieldToken → Prop
  /-- The variants of a product, within a bound. -/
  | variants {xs : List FieldToken} {c : Connection} :
      Entity.variant.SelectsFlat xs → Bound c →
        IsNested Bound .product (.node "variants" .productVariant xs (some c))
  /-- The product of a variant, which has no bound. -/
  | product {xs : List FieldToken} :
      Entity.product.SelectsFlat xs → IsNested Bound .variant (.node "product" .product xs none)

variable {e : Entity} {Nested : FieldToken → Prop} {Bound : Connection → Prop}

/-- No leaf field of an entity has the name of its nested field. -/
theorem fieldName_ne_nestedName (f : e.Field) : e.fieldName f ≠ e.nestedName := by
  cases e <;> cases f <;> decide

theorem id_ne_nestedName (e : Entity) : "id" ≠ e.nestedName := by
  cases e <;> decide

/-- A leaf field is determined by its name. -/
theorem IsLeaf.eq_leaf_name {t : FieldToken} (h : e.IsLeaf t) : t = .leaf t.name := by
  obtain rfl | ⟨f, rfl⟩ := h <;> rfl

theorem IsLeaf.name_ne_nestedName {t : FieldToken} (h : e.IsLeaf t) :
    t.name ≠ e.nestedName := by
  obtain rfl | ⟨f, rfl⟩ := h
  · exact e.id_ne_nestedName
  · exact fieldName_ne_nestedName f

/-- All nested fields of an entity have one name. -/
theorem IsNested.name_eq {t : FieldToken} (h : IsNested Bound e t) : t.name = e.nestedName := by
  cases h <;> rfl

/-- A nested field brings its kind into the selection. -/
theorem IsNested.nestedKind_mem_kinds {t : FieldToken} (h : IsNested Bound e t) :
    e.nestedKind ∈ t.kinds := by
  cases h <;> simp [FieldToken.kinds, nestedKind]

namespace Selects

/-! ### What a call makes of a selection -/

/-- The bare selection is well formed. -/
theorem idOnly : e.Selects Nested FieldSet.idOnly.tokens where
  head := rfl
  nodup := by simp [FieldSet.idOnly, FieldSet.ofNames, FieldSet.empty, FieldSet.add]
  mem t ht := .inl (.inl (by
    simpa [FieldSet.idOnly, FieldSet.ofNames, FieldSet.empty, FieldSet.add] using ht))

/-- A leaf field can always be added. Its name occurs in a nested field of no entity, so the only
field of that name can be the leaf itself. -/
theorem addLeaf (hN : ∀ t, Nested t → t.name = e.nestedName) {s : FieldSet}
    (h : e.Selects Nested s.tokens) (f : e.Field) :
    e.Selects Nested (s.add (.leaf (e.fieldName f))).tokens where
  head := FieldSet.head?_tokens_add h.head
  nodup := by
    refine FieldSet.nodup_names_add h.nodup ?_
    by_cases hname : e.fieldName f ∈ s.names
    · obtain ⟨t, ht, htname⟩ := FieldSet.exists_of_mem_names hname
      rcases h.mem t ht with hleaf | hnested
      · exact .inl (htname ▸ hleaf.eq_leaf_name ▸ ht)
      · exact absurd (htname.symm.trans (hN t hnested)) (fieldName_ne_nestedName f)
    · exact .inr hname
  mem t ht := by
    rcases FieldSet.mem_tokens_add.1 ht with hold | rfl
    · exact h.mem t hold
    · exact .inl (.inr ⟨f, rfl⟩)

/-- A nested field can be added if it is there already or no field has its name. -/
theorem addNested {s : FieldSet} {t : FieldToken} (h : e.Selects Nested s.tokens) (ht : Nested t)
    (hnew : t ∈ s.tokens ∨ t.name ∉ s.names) : e.Selects Nested (s.add t).tokens where
  head := FieldSet.head?_tokens_add h.head
  nodup := FieldSet.nodup_names_add h.nodup hnew
  mem u hu := by
    rcases FieldSet.mem_tokens_add.1 hu with hold | rfl
    · exact h.mem u hold
    · exact .inr ht

/-- A selection that does not reach the kind of its nested field has no nested field. -/
theorem flat_of_not_reaches {s : FieldSet} (h : e.Selects (IsNested Bound e) s.tokens)
    (hreach : s.reaches e.nestedKind = false) : e.SelectsFlat s.tokens where
  head := h.head
  nodup := h.nodup
  mem t ht := by
    rcases h.mem t ht with hleaf | hnested
    · exact .inl hleaf
    · have hmem : e.nestedKind ∈ s.kinds :=
        FieldToken.mem_kindsOfList.2 ⟨t, ht, hnested.nestedKind_mem_kinds⟩
      simp [FieldSet.reaches, hmem] at hreach

/-! ### No cycles -/

/-- A selection in which no field repeats a kind repeats none. -/
theorem repeatedIn?_eq_none {above : List EntityKind} :
    ∀ {ts : List FieldToken}, (∀ t ∈ ts, FieldToken.repeated? above t = none) →
      FieldToken.repeatedIn? above ts = none
  | [], _ => rfl
  | t :: ts, h => by
    rw [FieldToken.repeatedIn?, h t (by simp)]
    exact repeatedIn?_eq_none fun u hu ↦ h u (by simp [hu])

theorem repeated?_leaf {above : List EntityKind} {t : FieldToken} (h : e.IsLeaf t) :
    FieldToken.repeated? above t = none := by
  rw [h.eq_leaf_name, FieldToken.repeated?]

theorem flat_repeatedIn?_eq_none {above : List EntityKind} {ts : List FieldToken}
    (h : e.SelectsFlat ts) : FieldToken.repeatedIn? above ts = none :=
  repeatedIn?_eq_none fun t ht ↦ repeated?_leaf ((h.mem t ht).resolve_right id)

/-- A nested field over a flat selection repeats no kind: its own differs from that of the
entity. -/
theorem repeated?_nested {t : FieldToken} (h : IsNested Bound e t) :
    FieldToken.repeated? [e.kind] t = none := by
  cases h with
  | variants hflat _ =>
    simpa [FieldToken.repeated?, kind] using hflat.flat_repeatedIn?_eq_none
  | product hflat =>
    simpa [FieldToken.repeated?, kind] using hflat.flat_repeatedIn?_eq_none

/-- A selection whose nested fields stand over flat ones has no cycle. -/
theorem checkCycles_eq_ok {s : FieldSet} (h : e.Selects (IsNested Bound e) s.tokens) :
    checkCycles e.kind s = .ok () := by
  have hnone : FieldToken.repeatedIn? [e.kind] s.tokens = none := by
    refine repeatedIn?_eq_none fun t ht ↦ ?_
    rcases h.mem t ht with hleaf | hnested
    · exact repeated?_leaf hleaf
    · exact repeated?_nested hnested
  rw [checkCycles, hnone]

end Selects

end Entity

/-- A reached product selection is flat: there is no call that nests anything in it. -/
theorem ProductSelection.Reached.selects {s : ProductSelection} (h : s.Reached) :
    Entity.product.SelectsFlat s.fields.tokens := by
  induction h with
  | bare => exact Entity.Selects.idOnly
  | select f _ ih => exact ih.addLeaf (by simp) f

/-- A reached variant selection is flat, and its bound is one that the caller handed in. -/
theorem VariantSelection.Reached.selects {u : Usage} {s : VariantSelection} (h : s.Reached u) :
    Entity.variant.SelectsFlat s.fields.tokens ∧ u.bound s.connection := by
  induction h with
  | bare hc => exact ⟨Entity.Selects.idOnly, hc⟩
  | select f _ ih => exact ⟨ih.1.addLeaf (by simp) f, ih.2⟩

/-! ### The invariant -/

/-- What a factory fixes: the kind of a query, its identifier and its bound. A query that reads or
updates has an identifier of the type of its entity, a list has a bound instead. -/
def Origin.Fixes {e : Entity} (q : Query e) : Origin → Prop
  | .read d =>
    q.kind = .read ∧ q.connection = none ∧
      ∃ i, d = .id i ∧ i.entityType = e.idType ∧ q.identifier = some i
  | .update d =>
    q.kind = .update ∧ q.connection = none ∧
      ∃ i, d = .id i ∧ i.entityType = e.idType ∧ q.identifier = some i
  | .connection bound first last =>
    q.kind = .connection ∧ q.identifier = none ∧
      ∃ c, q.connection = some c ∧
        (bound = some c ∨ bound = none ∧ Connection.make first last = .ok c)

/-- What holds of the input of a query: only an update has one, it starts with the identifier of the
query, and no key occurs twice. -/
structure Query.HasInputs {e : Entity} (q : Query e) : Prop where
  /-- Exactly the updates have an input. -/
  isSome_iff : q.inputs.isSome = true ↔ q.kind = .update
  /-- The identifier comes first. -/
  head : ∀ inputs, q.inputs = some inputs →
    ∃ i, q.identifier = some i ∧ inputs.entries.head? = some ("id", .id i)
  /-- The keys are distinct. -/
  nodup : ∀ inputs, q.inputs = some inputs → inputs.keys.Nodup

/-- What every call preserves. -/
structure Query.Invariant {e : Entity} (Bound : Connection → Prop) (o : Origin) (q : Query e) :
    Prop where
  /-- The factory has fixed the kind, the identifier and the bound. -/
  origin : o.Fixes q
  /-- The input is well formed. -/
  inputs : q.HasInputs
  /-- The selection is well formed. -/
  selects : e.Selects (e.IsNested Bound) q.fields.tokens
  /-- The bound of a list comes from the caller. -/
  bound : ∀ c, q.connection = some c → Bound c

namespace Query

variable {e : Entity} {o : Origin} {q q' : Query e} {Bound : Connection → Prop}

/-- A query as it comes from a factory selects the identifier alone, and has what the factory
fixes. -/
theorem make_fixes (h : o.make e = .ok q) :
    o.Fixes q ∧ q.HasInputs ∧ q.fields = .idOnly := by
  cases o with
  | read d =>
    simp only [Origin.make, forRead] at h
    rcases hid : checkIdentifier e .read "for_read" d with f | i
    · rw [hid] at h
      cases h
    · rw [hid] at h
      cases h
      obtain ⟨hd, htype⟩ := checkIdentifier_eq_ok hid
      exact ⟨⟨rfl, rfl, i, hd, htype, rfl⟩, ⟨by simp, by simp, by simp⟩, rfl⟩
  | update d =>
    simp only [Origin.make, forUpdate] at h
    rcases hid : checkIdentifier e .update "for_update" d with f | i
    · rw [hid] at h
      cases h
    · rw [hid] at h
      cases h
      obtain ⟨hd, htype⟩ := checkIdentifier_eq_ok hid
      refine ⟨⟨rfl, rfl, i, hd, htype, rfl⟩, ⟨by simp, ?_, ?_⟩, rfl⟩
      · rintro inputs hinputs
        cases hinputs
        exact ⟨i, rfl, rfl⟩
      · rintro inputs hinputs
        cases hinputs
        simp [Inputs.assign, Inputs.empty, Inputs.assignEntries, Inputs.keys]
  | connection bound first last =>
    simp only [Origin.make, forConnection] at h
    split at h
    · rcases hc : Connection.make first last with f | c
      · rw [hc] at h
        cases h
      · rw [hc] at h
        cases h
        exact ⟨⟨rfl, rfl, c, rfl, .inr ⟨rfl, hc⟩⟩, ⟨by simp, by simp, by simp⟩, rfl⟩
    · next c =>
      cases h
      exact ⟨⟨rfl, rfl, c, rfl, .inl rfl⟩, ⟨by simp, by simp, by simp⟩, rfl⟩
    · cases h

/-- A change of the selection alone leaves everything else. -/
theorem Invariant.setFields (h : q.Invariant Bound o) {s : FieldSet}
    (hs : e.Selects (e.IsNested Bound) s.tokens) :
    Invariant (e := e) Bound o { q with fields := s } where
  origin := by cases o <;> exact h.origin
  inputs := ⟨h.inputs.isSome_iff, h.inputs.head, h.inputs.nodup⟩
  selects := hs
  bound := h.bound

/-- An assignment to a key other than the identifier keeps the input well formed. -/
theorem Invariant.assign (h : q.Invariant Bound o) {call key : String}
    {converted : Outcome Datum} (hkey : "id" ≠ key) (hq : q.assign call key converted = .ok q') :
    q'.Invariant Bound o := by
  obtain ⟨inputs, v, hkind, hinputs, -, rfl⟩ := assign_eq_ok hq
  obtain ⟨i, hi, hhead⟩ := h.inputs.head inputs hinputs
  refine ⟨by cases o <;> exact h.origin, ⟨by simp [hkind], ?_, ?_⟩, h.selects, h.bound⟩
  · rintro _ ⟨rfl⟩
    exact ⟨i, hi, Inputs.head?_entries_assign hhead hkey⟩
  · rintro _ ⟨rfl⟩
    exact Inputs.nodup_keys_assign (h.inputs.nodup inputs hinputs)

/-- Embedding a nested field of the right form keeps the invariant. -/
theorem Invariant.embed (h : q.Invariant Bound o) {call : String} {t : FieldToken}
    (ht : e.IsNested Bound t) (hq : q.embed call t = .ok q') : q'.Invariant Bound o := by
  obtain ⟨rfl, hnew⟩ := embed_eq_ok hq
  exact h.setFields (h.selects.addNested ht hnew)

/-- A list query has a bound. -/
theorem Invariant.exists_bound (h : q.Invariant Bound o) (hkind : q.kind = .connection) :
    ∃ c, q.connection = some c ∧ Bound c := by
  cases o with
  | read d => exact absurd (h.origin.1.symm.trans hkind) (by decide)
  | update d => exact absurd (h.origin.1.symm.trans hkind) (by decide)
  | connection bound first last =>
    obtain ⟨-, -, c, hc, -⟩ := h.origin
    exact ⟨c, hc, h.bound c hc⟩

/-- Variants taken from a selection or from a list query of variants are flat and within a bound. -/
theorem Invariant.withVariants {q q' : Query .product} {v : Variants}
    (h : q.Invariant Bound o) (hv : ∀ fields bound, v.parts = .ok (fields, bound) →
      Entity.variant.Selects (Entity.variant.IsNested Bound) fields.tokens ∧
        ∃ c, bound = some c ∧ Bound c)
    (hq : q.withVariants v = .ok q') : q'.Invariant Bound o := by
  obtain ⟨fields, bound, hparts, hreach, hembed⟩ := withVariants_eq_ok hq
  obtain ⟨hselects, c, rfl, hc⟩ := hv fields bound hparts
  exact h.embed (.variants (hselects.flat_of_not_reaches hreach) hc) hembed

/-- A product taken from a selection or from a query of a product is flat. -/
theorem Invariant.withProduct {q q' : Query .variant} {p : Owner}
    (h : q.Invariant Bound o) (hp : ∀ fields, p.parts = .ok fields →
      Entity.product.Selects (Entity.product.IsNested Bound) fields.tokens)
    (hq : q.withProduct p = .ok q') : q'.Invariant Bound o := by
  obtain ⟨fields, hparts, hreach, hembed⟩ := withProduct_eq_ok hq
  exact h.embed (.product ((hp fields hparts).flat_of_not_reaches hreach)) hembed

end Query

theorem Entity.Selects.mono {e : Entity} {Nested Nested' : FieldToken → Prop}
    {ts : List FieldToken} (h : e.Selects Nested ts) (hN : ∀ t, Nested t → Nested' t) :
    e.Selects Nested' ts :=
  ⟨h.head, h.nodup, fun t ht ↦ (h.mem t ht).imp_right (hN t)⟩

/-- **Every reached query satisfies the invariant.** One case per call; the run of an embedded query
enters through its own induction hypothesis. -/
theorem Query.Reached.invariant {u : Usage} {e : Entity} {o : Origin} {q : Query e}
    (h : Reached u o q) : q.Invariant u.bound o := by
  induction h with
  | make hmake hbound =>
    obtain ⟨horigin, hinputs, hfields⟩ := make_fixes hmake
    exact ⟨horigin, hinputs, hfields ▸ Entity.Selects.idOnly, hbound⟩
  | select f _ ih => exact ih.setFields (ih.selects.addLeaf (fun _ ↦ Entity.IsNested.name_eq) f)
  | variants _ hs hq ih =>
    obtain ⟨hflat, hbound⟩ := hs.selects
    refine ih.withVariants ?_ hq
    rintro _ _ ⟨⟩
    exact ⟨hflat.mono fun _ ↦ False.elim, _, rfl, hbound⟩
  | variantsOf _ _ hq ih ihr =>
    refine ih.withVariants ?_ hq
    intro fields bound hparts
    -- The run of the embedded query: its selection satisfies the invariant, and as a list it has a
    -- bound.
    obtain ⟨hkind, rfl, rfl⟩ := parts_query_eq_ok hparts
    exact ⟨ihr.selects, ihr.exists_bound hkind⟩
  | product _ hs hq ih =>
    refine ih.withProduct ?_ hq
    rintro _ ⟨⟩
    exact hs.selects.mono fun _ ↦ False.elim
  | productOf _ _ hq ih ihr =>
    refine ih.withProduct ?_ hq
    intro fields hparts
    exact parts_owner_eq_ok hparts ▸ ihr.selects
  | @changeProduct _ _ _ c _ _ _ hq ih =>
    -- No attribute is assigned under the name of the identifier.
    exact ih.assign (by cases c <;> decide) (updateProduct_eq_ok hq)
  | @changeVariant _ _ _ c _ _ _ hq ih =>
    exact ih.assign (by cases c <;> decide) (updateVariant_eq_ok hq)

/-! ### Public contract -/

namespace Query

/-- **The shape of a reached query**, whatever callers hand in: its selection starts with the
identifier and has distinct names; the kind, the identifier and the bound are those of the factory;
the input is there exactly for an update, starts with the identifier and has distinct keys; the only
nested field is the one that the entity can have, over a flat selection; and so no document has a
cycle. -/
theorem reached_wellFormed {u : Usage} {e : Entity} {o : Origin} {q : Query e}
    (h : Reached u o q) :
    (q.fields.tokens.head? = some (.leaf "id") ∧ q.fields.names.Nodup) ∧
      o.Fixes q ∧
      q.HasInputs ∧
      (∀ t ∈ q.fields.tokens, e.IsLeaf t ∨ e.IsNested u.bound t) ∧
      checkCycles e.kind q.fields = .ok () := by
  have hinv := h.invariant
  exact ⟨⟨hinv.selects.head, hinv.selects.nodup⟩, hinv.origin, hinv.inputs, hinv.selects.mem,
    hinv.selects.checkCycles_eq_ok⟩

/-- A product with its variants taken from a list query, changed twice under one key. -/
theorem reached_wellFormed_update :
    ∃ q : Query .product, Reached .any (.update (.id ⟨.product, "7", "shopify"⟩)) q ∧
      q.fields.names = ["id", "variants", "title"] ∧
      checkCycles .product q.fields = .ok () := by
  have hvariants : Reached .any (.connection none (.int 2) .null) (e := .variant) _ :=
    .select (e := .variant) VariantField.sku (.make rfl fun _ _ ↦ trivial)
  have hproduct : Reached .any (.update (.id ⟨.product, "7", "shopify"⟩)) (e := .product) _ :=
    .select (e := .product) ProductField.title
      (.variantsOf (.make rfl fun _ _ ↦ trivial) hvariants rfl)
  have hchanged : Reached .any (.update (.id ⟨.product, "7", "shopify"⟩)) (e := .product) _ :=
    .changeProduct (c := .title) (d := .str "b")
      (.changeProduct (c := .title) (d := .str "a") hproduct trivial rfl) trivial rfl
  exact ⟨_, hchanged, rfl, (reached_wellFormed hchanged).2.2.2.2⟩

end Query

end CatalogQuery
