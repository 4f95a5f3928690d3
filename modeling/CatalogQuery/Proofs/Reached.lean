import CatalogQuery.Document
import CatalogQuery.Query.Update
import CatalogQuery.Proofs.Selection

/-!
# Queries that calls can reach

A query is made by one of three factories (`Origin`) and then changed by calls that answer a new
query. `Query.Reached` holds of exactly the queries that come out of such a run, where whatever is
embedded on the way comes out of a run of its own. `Usage` says what callers hand in; a statement
that holds for every usage holds for all callers.

Two guards keep the selections shallow, and neither does it alone: `Query.withVariants` refuses
variants that reach a product, `Query.withProduct` refuses a product that reaches variants. The
invariant that both of them preserve is `Entity.Selects` with `Entity.IsNested` below it: the one
nested field of an entity stands over a **flat** selection of the other. From it follow the distinct
names and that no document has a cycle (`Query.Reached.selects`,
`Entity.Selects.checkCycles_eq_ok`).

## Why runs and not queries

A query is a record, and a record could be written down with any fields, any kind and any bound. The
claims about queries are about those that the interface hands out. `Query.Reached` describes these
by how they come about, so a property of all of them is proved by induction with one case for each
call. An embedded query is again a reached one, and its own run is a hypothesis of the call that
embeds it: the induction has it at hand.

`Usage` is a parameter of the runs because the claims differ in what they ask of callers. The shape
of a query does not depend on it at all; whether a document can be written depends on the numbers
and texts that were handed in.

## One call at a time

The second half takes the calls apart: from a call that answers a query, what the query is. The
calls that embed go through `Query.embed`, and the calls that change an attribute through
`Query.assign`, so there is one lemma for each of the two, and the calls themselves are brought back
to them.
-/

namespace CatalogQuery

/-! ### Runs of calls -/

/-- How a query is made. -/
inductive Origin where
  /-- A query that reads the entity with an identifier. -/
  | read (identifier : Datum)
  /-- A query that updates the entity with an identifier. -/
  | update (identifier : Datum)
  /-- A query that lists entities, within a bound or within the bound of two counts. -/
  | connection (bound : Option Connection) (first last : Datum)

/-- The query that is made. -/
def Origin.make (e : Entity) : Origin → Outcome (Query e)
  | .read identifier => Query.forRead e identifier
  | .update identifier => Query.forUpdate e identifier
  | .connection bound first last => Query.forConnection e bound first last

/-- What callers hand in: the bounds of lists, and the values of changes. -/
structure Usage where
  /-- The bounds that a list is made with. -/
  bound : Connection → Prop
  /-- The values that an attribute of a product is changed to. -/
  productValue : ProductChange → Datum → Prop
  /-- The values that an attribute of a variant is changed to. -/
  variantValue : VariantChange → Datum → Prop

/-- Callers that hand in anything. -/
def Usage.any : Usage where
  bound _ := True
  productValue _ _ := True
  variantValue _ _ := True

/-- A product selection that calls reach from the bare one. -/
inductive ProductSelection.Reached : ProductSelection → Prop
  /-- The selection of the identifier alone. -/
  | bare : Reached {}
  /-- One more field. -/
  | select {s : ProductSelection} (f : ProductField) : Reached s → Reached (s.select f)

/-- A variant selection that calls reach from a bare one. -/
inductive VariantSelection.Reached (u : Usage) : VariantSelection → Prop
  /-- The selection of the identifier alone, with a bound for the variants. -/
  | bare {c : Connection} : u.bound c → Reached u { connection := c }
  /-- One more field. -/
  | select {s : VariantSelection} (f : VariantField) : Reached u s → Reached u (s.select f)

/-- A query that calls reach from the one that was made. -/
inductive Query.Reached (u : Usage) : {e : Entity} → Origin → Query e → Prop
  /-- The query as it was made. -/
  | make {e : Entity} {o : Origin} {q : Query e} :
      o.make e = .ok q → (∀ c, q.connection = some c → u.bound c) → Reached u o q
  /-- A field was selected. -/
  | select {e : Entity} {o : Origin} {q : Query e} (f : e.Field) :
      Reached u o q → Reached u o (q.select f)
  /-- Variants were embedded with a selection of their own. -/
  | variants {o : Origin} {q q' : Query .product} {s : VariantSelection} :
      Reached u o q → s.Reached u → q.withVariants (.selection s) = .ok q' → Reached u o q'
  /-- Variants were embedded with the selection of a query. -/
  | variantsOf {o o' : Origin} {q q' : Query .product} {r : Query .variant} :
      Reached u o q → Reached u o' r → q.withVariants (.query r) = .ok q' → Reached u o q'
  /-- The product was embedded with a selection of its own. -/
  | product {o : Origin} {q q' : Query .variant} {s : ProductSelection} :
      Reached u o q → s.Reached → q.withProduct (.selection s) = .ok q' → Reached u o q'
  /-- The product was embedded with the selection of a query. -/
  | productOf {o o' : Origin} {q q' : Query .variant} {r : Query .product} :
      Reached u o q → Reached u o' r → q.withProduct (.query r) = .ok q' → Reached u o q'
  /-- A value of the product was changed. -/
  | changeProduct {o : Origin} {q q' : Query .product} {c : ProductChange} {d : Datum} :
      Reached u o q → u.productValue c d → q.updateProduct c d = .ok q' → Reached u o q'
  /-- A value of the variant was changed. -/
  | changeVariant {o : Origin} {q q' : Query .variant} {c : VariantChange} {d : Datum} :
      Reached u o q → u.variantValue c d → q.updateVariant c d = .ok q' → Reached u o q'

/-! ### What one call does -/

namespace Query

variable {e : Entity} {q q' : Query e}

/-- A factory takes identifiers of the type of its entity, and nothing else. -/
theorem checkIdentifier_eq_ok {kind : OperationKind} {call : String} {d : Datum} {i : Id}
    (h : checkIdentifier e kind call d = .ok i) : d = .id i ∧ i.entityType = e.idType := by
  cases d with
  | id j =>
    simp only [checkIdentifier] at h
    split at h
    · next htype =>
      cases h
      exact ⟨rfl, htype⟩
    · cases h
  | _ => cases h

/-- An embedding adds the token, and only if no other token has its name. -/
theorem embed_eq_ok {call : String} {t : FieldToken} (h : q.embed call t = .ok q') :
    q' = { q with fields := q.fields.add t } ∧
      (t ∈ q.fields.tokens ∨ t.name ∉ q.fields.names) := by
  simp only [embed] at h
  split at h
  · next hfind =>
    cases h
    exact ⟨rfl, .inr (FieldSet.find?_eq_none_iff.1 hfind)⟩
  · next existing hfind =>
    split at h
    · next heq =>
      cases h
      obtain rfl : existing = t := eq_of_beq heq
      exact ⟨rfl, .inl (FieldSet.mem_of_find?_eq_some hfind).1⟩
    · cases h

/-- Variants are embedded if they do not reach a product. -/
theorem withVariants_eq_ok {q q' : Query .product} {v : Variants}
    (h : q.withVariants v = .ok q') :
    ∃ fields bound, v.parts = .ok (fields, bound) ∧ fields.reaches .product = false ∧
      q.embed "with_variants" (.node "variants" .productVariant fields.tokens bound) = .ok q' := by
  simp only [withVariants] at h
  split at h
  · cases h
  · next fields bound hparts =>
    split at h
    · cases h
    · next hreach => exact ⟨fields, bound, hparts, by simpa using hreach, h⟩

/-- A product is embedded if it does not reach variants. -/
theorem withProduct_eq_ok {q q' : Query .variant} {p : Owner} (h : q.withProduct p = .ok q') :
    ∃ fields, p.parts = .ok fields ∧ fields.reaches .productVariant = false ∧
      q.embed "with_product" (.node "product" .product fields.tokens none) = .ok q' := by
  simp only [withProduct] at h
  split at h
  · cases h
  · next fields hparts =>
    split at h
    · cases h
    · next hreach => exact ⟨fields, hparts, by simpa using hreach, h⟩

/-- Of the queries of variants, only those that list them can be embedded, with their bound. -/
theorem parts_query_eq_ok {r : Query .variant} {fields : FieldSet} {bound : Option Connection}
    (h : (Variants.query r).parts = .ok (fields, bound)) :
    r.kind = .connection ∧ fields = r.fields ∧ bound = r.connection := by
  simp only [Variants.parts] at h
  split at h
  · next hkind =>
    cases h
    exact ⟨hkind, rfl, rfl⟩
  · cases h

/-- A query of a product is embedded with its selection; its kind and its identifier do not
count. -/
theorem parts_owner_eq_ok {r : Query .product} {fields : FieldSet}
    (h : (Owner.query r).parts = .ok fields) : fields = r.fields := by
  simp only [Owner.parts] at h
  split at h
  · cases h
    rfl
  · cases h

/-- An assignment changes the input of an update and nothing else. -/
theorem assign_eq_ok {call key : String} {converted : Outcome Datum}
    (h : q.assign call key converted = .ok q') :
    ∃ inputs v, q.kind = .update ∧ q.inputs = some inputs ∧ converted = .ok v ∧
      q' = { q with inputs := some (inputs.assign key v) } := by
  simp only [assign] at h
  split at h
  · next inputs hkind hinputs =>
    rcases converted with f | v
    · cases h
    · cases h
      exact ⟨inputs, v, hkind, hinputs, rfl, rfl⟩
  · cases h

/-- A change of a product that succeeds is an assignment of the converted value. The check that
comes before some conversions can only make a change fail. -/
theorem updateProduct_eq_ok {q q' : Query .product} {c : ProductChange} {d : Datum}
    (h : q.updateProduct c d = .ok q') : q.assign c.call c.key (c.convert d) = .ok q' := by
  simp only [updateProduct, precheck] at h
  split at h
  · rcases hconv : c.convert d with f | v
    · rw [hconv] at h
      cases h
    · rwa [hconv] at h
  · exact h

/-- A change of a variant that succeeds is an assignment of the converted value. -/
theorem updateVariant_eq_ok {q q' : Query .variant} {c : VariantChange} {d : Datum}
    (h : q.updateVariant c d = .ok q') : q.assign c.call c.key (c.convert d) = .ok q' := by
  simp only [updateVariant, precheck] at h
  split at h
  · rcases hconv : c.convert d with f | v
    · rw [hconv] at h
      cases h
    · rwa [hconv] at h
  · exact h

end Query

end CatalogQuery
