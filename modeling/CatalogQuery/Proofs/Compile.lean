import CatalogQuery.Proofs.PlainUsage

/-!
# Compiling loses and injects nothing

`Query.reached_build_reads` is the public contract: the document of every query that plain callers
reach is read, by the lexical grammar and the grammar of operations, as exactly one operation with
nothing left over, and that operation is the query (`Query.tree?`).

What remains to be shown here is that a reached query is one that has a document: its names are
names, its nested selections are not empty and its bounds have texts, all by the invariant of
reached queries (`Query.Invariant`), and its input is plain (`Query.Reached.plainInputs`).

The statement names three things that have to agree. The document is what `Request.build` makes of
the request. The tree is what the query **stands for**, computed from the query alone. And
`Grammar.read` finds that tree in the text of the document, which rules out at once that anything is
lost and that anything is added: a text is read as one tree at most.

Titles, tags and other texts of an update are arbitrary. Nothing is asked of their characters beyond
being characters, so the statement covers texts that look like the end of a string or of the
document (`Query.reached_build_reads_update`).
-/

namespace CatalogQuery

open Grammar

/-! ### Selections of reached queries -/

namespace Entity

variable {e : Entity} {Bound : Connection → Prop} {t : FieldToken} {ts : List FieldToken}

/-- The names of fields of the schema are names of the grammar. -/
theorem isName_fieldName (f : e.Field) : isName (e.fieldName f) = true := by
  cases e <;> cases f <;> decide

theorem IsLeaf.isNamed (h : e.IsLeaf t) : t.IsNamed := by
  obtain rfl | ⟨f, rfl⟩ := h
  · exact (by decide : isName "id" = true)
  · exact isName_fieldName f

theorem areNamed_of_forall : ∀ {ts : List FieldToken}, (∀ t ∈ ts, t.IsNamed) →
    FieldToken.AreNamed ts
  | [], _ => trivial
  | t :: _, h => ⟨h t (by simp), areNamed_of_forall fun u hu ↦ h u (List.mem_cons_of_mem t hu)⟩

/-- A well-formed selection holds the identifier at least. -/
theorem Selects.ne_nil {Nested : FieldToken → Prop} (h : e.Selects Nested ts) : ts ≠ [] := by
  rintro rfl
  cases h.head

/-- A well-formed selection has names throughout if its nested fields have. -/
theorem Selects.areNamed {Nested : FieldToken → Prop} (h : e.Selects Nested ts)
    (hN : ∀ t, Nested t → t.IsNamed) : FieldToken.AreNamed ts :=
  areNamed_of_forall fun t ht ↦ (h.mem t ht).elim IsLeaf.isNamed (hN t)

/-- The nested field of an entity is named, and its selection is not empty. -/
theorem IsNested.isNamed (h : IsNested Bound e t) : t.IsNamed := by
  cases h with
  | variants hflat _ => exact ⟨by decide, hflat.ne_nil, hflat.areNamed fun _ ↦ False.elim⟩
  | product hflat => exact ⟨by decide, hflat.ne_nil, hflat.areNamed fun _ ↦ False.elim⟩

theorem IsLeaf.hasText (h : e.IsLeaf t) : t.hasText = true := by
  rw [h.eq_leaf_name, FieldToken.hasText]

theorem hasTextAll_of_forall : ∀ {ts : List FieldToken}, (∀ t ∈ ts, t.hasText = true) →
    FieldToken.hasTextAll ts = true
  | [], _ => rfl
  | t :: ts, h => by
    rw [FieldToken.hasTextAll, h t (by simp),
      hasTextAll_of_forall fun u hu ↦ h u (List.mem_cons_of_mem t hu)]
    rfl

/-- A well-formed selection has a text if its nested fields have. -/
theorem Selects.hasTextAll {Nested : FieldToken → Prop} (h : e.Selects Nested ts)
    (hN : ∀ t, Nested t → t.hasText = true) : FieldToken.hasTextAll ts = true :=
  hasTextAll_of_forall fun t ht ↦ (h.mem t ht).elim IsLeaf.hasText (hN t)

/-- The nested field of an entity has a text if its bound has. -/
theorem IsNested.hasText (hB : ∀ c, Bound c → c.hasText = true) (h : IsNested Bound e t) :
    t.hasText = true := by
  cases h with
  | variants hflat hbound =>
    rw [FieldToken.hasText, hflat.hasTextAll fun _ ↦ False.elim, Option.all_some, hB _ hbound]
    rfl
  | product hflat =>
    rw [FieldToken.hasText, hflat.hasTextAll fun _ ↦ False.elim]
    rfl

end Entity

/-! ### Reached queries have documents -/

namespace Query

variable {e : Entity} {o : Origin} {q : Query e}

/-- An input stands for an object if its keys are names and its values stand for values. -/
theorem toDatum_value? {inputs : Inputs}
    (h : ∀ entry ∈ inputs.entries, isName entry.1 = true ∧ ∃ v, entry.2.value? = some v) :
    ∃ v, inputs.toDatum.value? = some v := by
  obtain ⟨es⟩ := inputs
  -- The existence of the values is shown by induction, not their form: which values they are is
  -- said by `value?`.
  have hentries : ∃ vs, Datum.entryValues? (es.map fun e ↦ (.str e.1, e.2)) = some vs := by
    induction es with
    | nil => exact ⟨[], rfl⟩
    | cons entry es ih =>
      obtain ⟨hname, v, hv⟩ := h entry (by simp)
      obtain ⟨vs, hvs⟩ := ih fun other hother ↦ h other (List.mem_cons_of_mem entry hother)
      refine ⟨(entry.1, v) :: vs, ?_⟩
      rw [List.map_cons, Datum.entryValues?]
      simp [hv, hname, hvs]
  obtain ⟨vs, hvs⟩ := hentries
  exact ⟨.object vs, by rw [Inputs.toDatum, Datum.value?, hvs]; rfl⟩

/-- The numbers of an input are those of its values. -/
theorem toDatum_hasNumbers {inputs : Inputs} (h : ∀ entry ∈ inputs.entries, entry.2.HasNumbers) :
    inputs.toDatum.HasNumbers := by
  obtain ⟨es⟩ := inputs
  show Datum.EntriesHaveNumbers (es.map fun e ↦ (.str e.1, e.2))
  induction es with
  | nil => trivial
  | cons entry es ih =>
    exact ⟨h entry (by simp), ih fun other hother ↦ h other (List.mem_cons_of_mem entry hother)⟩

/-- A reached query has a text if its bounds and the numbers in its input have texts. -/
theorem Reached.hasText_of_hasNumbers {u : Usage} (hB : ∀ c, u.bound c → c.hasText = true)
    (h : Reached u o q)
    (hnumbers : ∀ inputs, q.inputs = some inputs → ∀ entry ∈ inputs.entries, entry.2.HasNumbers) :
    q.HasText where
  named := h.invariant.selects.areNamed fun _ ↦ Entity.IsNested.isNamed
  ne_nil := h.invariant.selects.ne_nil
  bounds := h.invariant.selects.hasTextAll fun _ ↦ Entity.IsNested.hasText hB
  bound c hc := hB c (h.invariant.bound c hc)
  numbers inputs hinputs := toDatum_hasNumbers (hnumbers inputs hinputs)

/-- A query that plain callers reach has a text. -/
theorem Reached.hasText (h : Reached .plain o q) : q.HasText :=
  h.hasText_of_hasNumbers (fun _ ↦ id) fun inputs hinputs entry hentry ↦
    (h.plainInputs inputs hinputs entry hentry).2.numbers

/-- A reached query stands for an operation: it has the argument that its root field needs. -/
theorem Reached.exists_tree (h : Reached .plain o q) : ∃ tree, q.tree? = some tree := by
  have hargument : ∃ argument, q.argument? = some argument := by
    -- The factory decides what the argument is: the identifier, the input or the bound.
    have horigin := h.invariant.origin
    cases o with
    | read d =>
      obtain ⟨hkind, -, i, -, -, hi⟩ := horigin
      exact ⟨("id", .string i.gid), by simp only [argument?, hkind, hi, Option.map_some]⟩
    | update d =>
      obtain ⟨hkind, -⟩ := horigin
      obtain ⟨inputs, hinputs⟩ := Option.isSome_iff_exists.1 (h.invariant.inputs.isSome_iff.2 hkind)
      obtain ⟨v, hv⟩ := toDatum_value? fun entry hentry ↦
        (h.plainInputs inputs hinputs entry hentry).imp_right Datum.IsPlain.value
      exact ⟨("input", v), by
        simp only [argument?, hkind, hinputs, Option.bind_some, hv, Option.map_some]⟩
    | connection bound first last =>
      obtain ⟨hkind, -, c, hc, -⟩ := horigin
      exact ⟨c.entry, by simp only [argument?, hkind, hc, Option.map_some]⟩
  obtain ⟨argument, hargument⟩ := hargument
  exact ⟨_, by rw [tree?, hargument, Option.map_some]⟩

/-- The document of a reached query is read as the operation that the query stands for. -/
theorem Reached.compile_reads (h : Reached .plain o q) {tree : Operation}
    (htree : q.tree? = some tree) :
    ∃ text, (Request.query ⟨e, q⟩).compile = .ok text ∧ Grammar.read text = some tree := by
  obtain ⟨text, htext, hread⟩ := h.hasText.text_reads htree
  have hcycles : checkCycles e.kind q.fields = .ok () := h.invariant.selects.checkCycles_eq_ok
  refine ⟨text, ?_, hread⟩
  simp only [Request.compile, Request.entityKind, Request.fields, hcycles]
  exact htext

/-! ### Public contract -/

/-- **Compiling loses and injects nothing.** A query that plain callers reach has a document, and
the text of the document is read as one operation with nothing left over. That operation is the
query: a mutation exactly if the document is one, with the root field of the query, the argument of
its identifier, its bound or its input, and the selected fields in order at every depth. -/
theorem reached_build_reads (h : Reached .plain o q) :
    ∃ (d : Document) (tree : Operation), (Request.query ⟨e, q⟩).compile = .ok d.text ∧
      (Request.query ⟨e, q⟩).build = .ok d ∧
      q.tree? = some tree ∧
      Grammar.read d.text = some tree ∧
      tree.type = d.operationType := by
  obtain ⟨tree, htree⟩ := h.exists_tree
  obtain ⟨text, hcompile, hread⟩ := h.compile_reads htree
  refine ⟨⟨text, q.operation⟩, tree, hcompile, ?_, htree, hread, ?_⟩
  · rw [Request.build, hcompile]
    rfl
  · obtain ⟨argument, -, rfl⟩ := Option.map_eq_some_iff.1 htree
    rfl

/-- An update whose title tries to end its string, the input and the operation, over variants that
are listed below it. -/
theorem reached_build_reads_update :
    ∃ (q : Query .product) (d : Document) (tree : Operation),
      Reached .plain (.update (.id ⟨.product, "7", "shopify"⟩)) q ∧
        q.fields.names = ["id", "variants", "title"] ∧
        q.inputs.map Inputs.keys = some ["id", "title", "tags"] ∧
        (Request.query ⟨.product, q⟩).build = .ok d ∧
        q.tree? = some tree ∧ Grammar.read d.text = some tree ∧ tree.type = d.operationType := by
  have hbound (c : Connection) (h : some ⟨.first, 2, by decide⟩ = some c) :
      Usage.plain.bound c := by
    cases h
    exact (by decide +kernel : integerFits 2 = true)
  have hvariants : Reached .plain (.connection none (.int 2) .null) (e := .variant) _ :=
    .select (e := .variant) VariantField.sku (.make rfl hbound)
  have hproduct : Reached .plain (.update (.id ⟨.product, "7", "shopify"⟩)) (e := .product) _ :=
    .select (e := .product) ProductField.title
      (.variantsOf (.make rfl fun _ h ↦ nomatch h) hvariants rfl)
  have htags : Datum.TagsHaveCharacters (.list [.str "a\nb", .str "#"]) := by
    rintro _ ⟨⟩ x hx
    obtain rfl | rfl : x = .str "a\nb" ∨ x = .str "#" := by simpa using hx
    · exact ⟨"a\nb", rfl⟩
    · exact ⟨"#", rfl⟩
  have hchanged : Reached .plain (.update (.id ⟨.product, "7", "shopify"⟩)) (e := .product) _ :=
    .changeProduct (c := .tags) (d := .list [.str "a\nb", .str "#"])
      (.changeProduct (c := .title) (d := .str "\\\" \x7d) \x7d \"\"\" mutation")
        hproduct ⟨_, rfl⟩ rfl) htags rfl
  obtain ⟨d, tree, -, hbuild, htree, hread, htype⟩ := reached_build_reads hchanged
  exact ⟨_, d, tree, hchanged, rfl, rfl, hbuild, htree, hread, htype⟩

end Query

end CatalogQuery
