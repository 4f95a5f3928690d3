import CatalogQuery.Proofs.Reached
import Mathlib.Data.List.Induction
import Mathlib.Data.List.Perm.Subperm

/-!
# Cycles in selections

What `checkCycles` refuses, and that the guards of the two embedding calls refuse the same.

Three readings of a selection meet here. A `Chain` is a path of nested fields from the selection
down, and a cycle is a chain in which a kind occurs twice. `occurrencesOfList` lists **all** nested
fields in reading order, each with the kinds above it; the check is the search for the first that
repeats one of them (`repeatedIn?_eq_find?`), and the two readings agree on what there is to find
(`mem_occurrencesOfList`). The guards go by the third, the kinds at any depth, which forgets the
paths (`kindsOfList_eq_map`).

A guard that looks for one kind only can stand for the whole check because of what it is given:
below a selection that has no cycle of its own, one more kind above can be repeated by that kind
alone (`repeatedIn?_append_singleton`).

## What rests on what

`checkCycles_exact` is put together from three parts. The chains and the occurrences are two views
of the nested fields of a selection, and `mem_occurrencesOfList` takes one to the other by recursion
on the selection. That a chain with a repeated kind has a **first** field that repeats one above it
(`exists_repeats_of_not_nodup`) is an induction on the chain from its end, because the fields below
the repetition do not matter. The bound of two nested fields is counting: there are three kinds, and
the one at the root is used.

The part about the guards is about a single field that is added at the end. A selection that is
added to has passed the check before that, and so has the selection that is put below the new field,
so what is left to be found is a repetition of the kind of the query.
-/

namespace CatalogQuery

namespace FieldToken

/-! ### Chains of nested fields

A chain need not go down to a leaf, so every beginning of a chain is a chain. It forgets the names
of the fields and keeps their kinds, which are all that a cycle is about.
-/

/-- The kinds of nested fields each of which stands in the selection of the one before, from a
selection down. -/
inductive Chain : List FieldToken → List EntityKind → Prop
  /-- From every selection the empty chain leads down. -/
  | nil {xs : List FieldToken} : Chain xs []
  /-- A nested field of the selection, and a chain from the selection below it. -/
  | cons {xs below : List FieldToken} {name : String} {kind : EntityKind}
      {bound : Option Connection} {ks : List EntityKind} :
      .node name kind below bound ∈ xs → Chain below ks → Chain xs (kind :: ks)

variable {x : FieldToken} {xs ys : List FieldToken} {k : EntityKind} {ks js above : List EntityKind}

/-- A chain of a selection is one of every selection that holds its first field. -/
theorem Chain.mono (h : Chain xs ks) (hsub : ∀ y ∈ xs, y ∈ ys) : Chain ys ks := by
  cases h with
  | nil => exact .nil
  | cons hmem hbelow => exact .cons (hsub _ hmem) hbelow

/-- A chain begins in the first field or in one of the others. -/
theorem chain_cons_iff : Chain (x :: xs) ks ↔ Chain [x] ks ∨ Chain xs ks := by
  constructor
  · intro h
    cases h with
    | nil => exact .inr .nil
    | cons hmem hbelow =>
      rcases List.mem_cons.1 hmem with rfl | hmem
      · exact .inl (.cons (List.mem_singleton_self _) hbelow)
      · exact .inr (.cons hmem hbelow)
  · rintro (h | h)
    · exact h.mono (by simp)
    · exact h.mono fun y hy ↦ List.mem_cons_of_mem x hy

/-- A chain that begins in a nested field goes on in the selection of that field. -/
theorem chain_node_iff {name : String} {bound : Option Connection} {j : EntityKind} :
    Chain [.node name k xs bound] (j :: ks) ↔ j = k ∧ Chain xs ks := by
  constructor
  · intro h
    cases h with
    | cons hmem hbelow =>
      cases List.mem_singleton.1 hmem
      exact ⟨rfl, hbelow⟩
  · rintro ⟨rfl, h⟩
    exact .cons (List.mem_singleton_self _) h

/-- No chain begins in a leaf. -/
theorem not_chain_leaf {name : String} : ¬ Chain [.leaf name] (k :: ks) := by
  intro h
  cases h with
  | cons hmem => exact absurd (List.mem_singleton.1 hmem) (by simp)

/-- A chain may stop early. -/
theorem Chain.of_append (h : Chain xs (ks ++ js)) : Chain xs ks := by
  induction ks generalizing xs with
  | nil => exact .nil
  | cons k ks ih =>
    cases h with
    | cons hmem hbelow => exact .cons hmem (ih hbelow)

/-! ### All nested fields, in reading order

An occurrence is a nested field with the kinds above it, the nearest first. The list of all
occurrences is made by the same recursion as the check, but it does not stop at the first one that
repeats a kind.
-/

/-- A nested field at its place in a selection. -/
structure Occurrence where
  /-- The kind of the field. -/
  kind : EntityKind
  /-- The kinds above it, the nearest first. -/
  above : List EntityKind
  deriving DecidableEq, Repr

/-- The kind of the field occurs above it. -/
def Occurrence.Repeats (o : Occurrence) : Prop :=
  o.kind ∈ o.above

instance (o : Occurrence) : Decidable o.Repeats :=
  inferInstanceAs (Decidable (o.kind ∈ o.above))

mutual

/-- The nested fields at and below a field, a field before those below it. -/
def occurrences (above : List EntityKind) : FieldToken → List Occurrence
  | .leaf _ => []
  | .node _ k xs _ => ⟨k, above⟩ :: occurrencesOfList (k :: above) xs

/-- The nested fields in a selection and below it, from left to right. -/
def occurrencesOfList (above : List EntityKind) : List FieldToken → List Occurrence
  | [] => []
  | x :: xs => occurrences above x ++ occurrencesOfList above xs

end

mutual

/-- The nested fields at and below a field are the ends of the chains that begin in it. -/
theorem mem_occurrences {o : Occurrence} : ∀ {x : FieldToken} {above : List EntityKind},
    o ∈ occurrences above x ↔ ∃ ks, Chain [x] (ks ++ [o.kind]) ∧ o.above = ks.reverse ++ above
  | .leaf n, above => by
    have hnone : ∀ ks, ¬ Chain [.leaf n] (ks ++ [o.kind]) := by
      rintro (- | ⟨k, ks⟩) <;> exact not_chain_leaf
    simp [occurrences, hnone]
  | .node _ k xs _, above => by
    rw [occurrences, List.mem_cons, mem_occurrencesOfList]
    constructor
    · rintro (rfl | ⟨ks, hks, habove⟩)
      · exact ⟨[], chain_node_iff.2 ⟨rfl, .nil⟩, rfl⟩
      · exact ⟨k :: ks, chain_node_iff.2 ⟨rfl, hks⟩, by simp [habove]⟩
    · rintro ⟨- | ⟨j, ks⟩, hks, habove⟩
      · have hkind : o.kind = k := (chain_node_iff.1 hks).1
        exact .inl (by rw [← hkind, show above = o.above from habove.symm])
      · obtain ⟨rfl, hbelow⟩ := chain_node_iff.1 hks
        exact .inr ⟨ks, hbelow, by simp [habove]⟩

/-- **The nested fields are the ends of the chains**, with what is above them in reverse. -/
theorem mem_occurrencesOfList {o : Occurrence} : ∀ {xs : List FieldToken} {above : List EntityKind},
    o ∈ occurrencesOfList above xs ↔ ∃ ks, Chain xs (ks ++ [o.kind]) ∧ o.above = ks.reverse ++ above
  | [], above => by
    have hnone : ∀ ks, ¬ Chain [] (ks ++ [o.kind]) := by
      rintro (- | ⟨k, ks⟩) (- | ⟨hmem, -⟩) <;> cases hmem
    simp [occurrencesOfList, hnone]
  | x :: xs, above => by
    rw [occurrencesOfList, List.mem_append, mem_occurrences, mem_occurrencesOfList, ← exists_or]
    refine exists_congr fun ks ↦ ?_
    rw [← or_and_right, ← chain_cons_iff]

end

/-! ### The check is a search

That the check is a search is shown by recursion on fields and lists of fields. What it searches for
is then compared with chains, for which the place of the first repetition is found from the end of a
chain.
-/

/-- The first field is looked at before the others. -/
theorem repeatedIn?_cons :
    repeatedIn? above (x :: xs) = (repeated? above x).or (repeatedIn? above xs) := by
  rw [repeatedIn?]
  rcases repeated? above x with - | k <;> rfl

/-- The fields in front are looked at before those behind them. -/
theorem repeatedIn?_append :
    repeatedIn? above (xs ++ ys) = (repeatedIn? above xs).or (repeatedIn? above ys) := by
  induction xs with
  | nil => rfl
  | cons x xs ih => rw [List.cons_append, repeatedIn?_cons, repeatedIn?_cons, ih, Option.or_assoc]

mutual

/-- At and below a field, the check finds the first nested field whose kind occurs above it. -/
theorem repeated?_eq_find? : ∀ {x : FieldToken} {above : List EntityKind},
    repeated? above x = ((occurrences above x).find? (·.Repeats)).map Occurrence.kind
  | .leaf _, _ => rfl
  | .node _ k xs _, above => by
    rw [repeated?, occurrences, List.find?_cons, repeatedIn?_eq_find?]
    by_cases h : k ∈ above <;> simp [Occurrence.Repeats, h]

/-- **The check finds the first nested field, in reading order, whose kind occurs above it.** -/
theorem repeatedIn?_eq_find? : ∀ {xs : List FieldToken} {above : List EntityKind},
    repeatedIn? above xs = ((occurrencesOfList above xs).find? (·.Repeats)).map Occurrence.kind
  | [], _ => rfl
  | x :: xs, above => by
    rw [repeatedIn?_cons, occurrencesOfList, List.find?_append, Option.map_or, repeated?_eq_find?,
      repeatedIn?_eq_find?]

end

/-- Nothing is found exactly if no nested field repeats a kind above it. -/
theorem repeatedIn?_eq_none_iff :
    repeatedIn? above xs = none ↔ ∀ o ∈ occurrencesOfList above xs, ¬ o.Repeats := by
  simp [repeatedIn?_eq_find?]

/-- A chain that repeats a kind ends, at the latest, in a field that repeats a kind above it. -/
theorem exists_repeats_of_not_nodup (h : Chain xs ks) (hks : ¬ (k :: ks).Nodup) :
    ∃ o ∈ occurrencesOfList [k] xs, o.Repeats := by
  -- By the end of the chain: either it already repeats a kind without its last field, or that field
  -- is the one.
  induction ks using List.reverseRecOn with
  | nil => exact absurd (List.nodup_singleton k) hks
  | append_singleton ks j ih =>
    by_cases hpath : (k :: ks).Nodup
    · -- The last field of the chain is the one that repeats a kind.
      have hmem : j ∈ k :: ks := by
        by_contra hnew
        refine hks (List.nodup_append.2 ⟨hpath, List.nodup_singleton j, ?_⟩)
        rintro i hi _ hj rfl
        exact hnew (List.mem_singleton.1 hj ▸ hi)
      exact ⟨⟨j, ks.reverse ++ [k]⟩, mem_occurrencesOfList.2 ⟨ks, h, rfl⟩, by
        simpa [Occurrence.Repeats, or_comm] using hmem⟩
    · exact ih h.of_append hpath

/-- Nothing is found exactly if no chain from the root repeats a kind. -/
theorem repeatedIn?_singleton_eq_none_iff :
    repeatedIn? [k] xs = none ↔ ∀ ks, Chain xs ks → (k :: ks).Nodup := by
  rw [repeatedIn?_eq_none_iff]
  constructor
  · intro hnone ks hks
    by_contra hdup
    obtain ⟨o, ho, hrepeats⟩ := exists_repeats_of_not_nodup hks hdup
    exact hnone o ho hrepeats
  · intro hchains o ho hrepeats
    obtain ⟨ks, hks, habove⟩ := mem_occurrencesOfList.1 ho
    have habove' : o.kind ∈ k :: ks := by simpa [Occurrence.Repeats, habove, or_comm] using hrepeats
    have hnodup : (k :: ks ++ [o.kind]).Nodup := hchains _ hks
    exact (List.nodup_append.1 hnodup).2.2 o.kind habove' o.kind (List.mem_singleton_self _) rfl

/-- There are three kinds, and one of them stands at the root. -/
theorem length_le_two_of_nodup (h : (k :: ks).Nodup) : ks.length ≤ 2 := by
  have hsub : k :: ks ⊆ (Vocabulary.all : List EntityKind) := by
    intro j _
    cases j <;> decide
  have hlength : (k :: ks).length ≤ 3 := (List.subperm_of_subset h hsub).length_le
  rw [List.length_cons] at hlength
  omega

/-! ### Kinds at any depth

The guards of the embedding calls ask whether a kind is reached at any depth. This agrees with the
check because a selection that has passed it can only get a repetition from what is new above it.
-/

mutual

/-- The kinds that a field reaches are those of the nested fields at and below it. -/
theorem kinds_eq_map : ∀ {x : FieldToken} (above : List EntityKind),
    kinds x = (occurrences above x).map Occurrence.kind
  | .leaf _, _ => rfl
  | .node _ k xs _, above => by
    rw [kinds, occurrences, List.map_cons, kindsOfList_eq_map (k :: above)]

/-- The kinds that a selection reaches are those of its nested fields, whatever is above it. -/
theorem kindsOfList_eq_map : ∀ {xs : List FieldToken} (above : List EntityKind),
    kindsOfList xs = (occurrencesOfList above xs).map Occurrence.kind
  | [], _ => rfl
  | x :: xs, above => by
    rw [kindsOfList, occurrencesOfList, List.map_append, kinds_eq_map above,
      kindsOfList_eq_map above]

end

/-- **One more kind above** a selection without a cycle is repeated exactly if the selection reaches
it, and then it is what the check finds. -/
theorem repeatedIn?_append_singleton (h : repeatedIn? above xs = none) :
    repeatedIn? (above ++ [k]) xs = if k ∈ kindsOfList xs then some k else none := by
  -- A field that repeats a kind now did not repeat one before, so it is of the new kind.
  have hkind : ∀ o ∈ occurrencesOfList (above ++ [k]) xs, o.Repeats → o.kind = k := by
    intro o ho hrepeats
    obtain ⟨ks, hks, habove⟩ := mem_occurrencesOfList.1 ho
    have hbefore : o.kind ∉ ks.reverse ++ above :=
      repeatedIn?_eq_none_iff.1 h ⟨o.kind, _⟩ (mem_occurrencesOfList.2 ⟨ks, hks, rfl⟩)
    rw [Occurrence.Repeats, habove, ← List.append_assoc] at hrepeats
    exact List.mem_singleton.1 ((List.mem_append.1 hrepeats).resolve_left hbefore)
  rw [kindsOfList_eq_map (above ++ [k])]
  rcases hfound : repeatedIn? (above ++ [k]) xs with - | j
  · have hnew : k ∉ (occurrencesOfList (above ++ [k]) xs).map Occurrence.kind := by
      intro hmem
      obtain ⟨o, ho, rfl⟩ := List.mem_map.1 hmem
      obtain ⟨ks, -, habove⟩ := mem_occurrencesOfList.1 ho
      exact repeatedIn?_eq_none_iff.1 hfound o ho (by simp [Occurrence.Repeats, habove])
    rw [if_neg hnew]
  · rw [repeatedIn?_eq_find?] at hfound
    obtain ⟨o, ho, rfl⟩ := Option.map_eq_some_iff.1 hfound
    have hmem := List.mem_of_find?_eq_some ho
    obtain rfl : o.kind = k := hkind o hmem (by simpa using List.find?_some ho)
    rw [if_pos (List.mem_map_of_mem hmem)]

end FieldToken

open FieldToken

/-! ### The check of a selection

The check begins with the kind of the entity that is selected from, as the one kind above.
-/

variable {k j : EntityKind} {s : FieldSet} {t : FieldToken}

/-- A selection passes if nothing is found below a root of the kind. -/
theorem checkCycles_eq_ok_iff : checkCycles k s = .ok () ↔ repeatedIn? [k] s.tokens = none := by
  rw [checkCycles]
  rcases repeatedIn? [k] s.tokens with - | j <;> simp

/-- A selection fails with the kind of the first field that repeats one. -/
theorem checkCycles_eq_error_iff {f : Failure} :
    checkCycles k s = .error f ↔
      ∃ o, (occurrencesOfList [k] s.tokens).find? (·.Repeats) = some o ∧
        f = .cycle (.entityKind o.kind) := by
  rw [checkCycles, repeatedIn?_eq_find?]
  generalize (occurrencesOfList [k] s.tokens).find? _ = found
  rcases found with - | o
  · simp
  · simp [eq_comm]

/-- A selection is refused exactly if a chain from the root repeats a kind. -/
theorem exists_cycle_iff :
    (∃ j, checkCycles k s = .error (.cycle (.entityKind j))) ↔
      ∃ ks, Chain s.tokens ks ∧ ¬ (k :: ks).Nodup := by
  have hrefused : (∃ j, checkCycles k s = .error (.cycle (.entityKind j))) ↔
      repeatedIn? [k] s.tokens ≠ none := by
    rw [checkCycles]
    rcases repeatedIn? [k] s.tokens with - | j <;> simp
  rw [hrefused, ne_eq, repeatedIn?_singleton_eq_none_iff]
  push Not
  rfl

/-- A field that is new to a selection without a cycle decides what the check finds. -/
theorem checkCycles_add (hs : checkCycles k s = .ok ()) (ht : t.name ∉ s.names) :
    checkCycles k (s.add t) =
      match repeated? [k] t with
      | some j => .error (.cycle (.entityKind j))
      | none => .ok () := by
  have hnew : t ∉ s.tokens := fun h ↦ ht (FieldSet.name_mem_names h)
  have hrepeated : repeatedIn? [k] (s.add t).tokens = repeated? [k] t := by
    rw [FieldSet.tokens_add, if_neg hnew, repeatedIn?_append, checkCycles_eq_ok_iff.1 hs,
      Option.none_or, repeatedIn?_cons, repeatedIn?, Option.or_none]
  show (match repeatedIn? [k] (s.add t).tokens with
      | some j => .error (.cycle (.entityKind j))
      | none => .ok () : Outcome Unit) = _
  rw [hrepeated]

/-! ### The guards of the embedding calls

An embedding call makes a field of the selection that it is given and adds it to the query. The
guard looks at that selection before it is added.
-/

namespace Query

variable {e : Entity} {q : Query e}

theorem embed_of_not_mem {call : String} (h : t.name ∉ q.fields.names) :
    q.embed call t = .ok { q with fields := q.fields.add t } := by
  rw [embed, FieldSet.find?_eq_none_iff.2 h]

/-- **A guard that looks for the kind of the query alone** decides as the check of the selection
with the new field would, with the same failure. -/
theorem guarded_embed_eq {name call : String} {below : FieldSet} {bound : Option Connection}
    (hown : checkCycles e.kind q.fields = .ok ()) (hname : name ∉ q.fields.names)
    (hbelow : checkCycles j below = .ok ()) (hne : j ≠ e.kind) :
    (if below.reaches e.kind then .error (.cycle (.entityKind e.kind))
      else q.embed call (.node name j below.tokens bound)) =
      (checkCycles e.kind (q.fields.add (.node name j below.tokens bound))).map fun _ ↦
        { q with fields := q.fields.add (.node name j below.tokens bound) } := by
  have hrepeated : repeated? [e.kind] (.node name j below.tokens bound) =
      if e.kind ∈ kindsOfList below.tokens then some e.kind else none := by
    rw [repeated?, if_neg (by simpa using hne)]
    exact repeatedIn?_append_singleton (checkCycles_eq_ok_iff.1 hbelow)
  rw [checkCycles_add hown (t := .node name j below.tokens bound) hname, hrepeated,
    embed_of_not_mem (t := .node name j below.tokens bound) hname]
  by_cases hreach : e.kind ∈ kindsOfList below.tokens
  · simp [FieldSet.reaches, FieldSet.kinds, hreach, Except.map]
  · simp [FieldSet.reaches, FieldSet.kinds, hreach, Except.map]

end Query

/-! ### Public contract -/

/-- **The check refuses exactly the selections that repeat a kind on a path,** names the kind of the
first field in reading order whose kind occurs above it, and lets no selection nest more than two
fields. The guards of the two embedding calls agree with it: on a query without a cycle that has no
field of the embedded name yet, an embedding of a selection without a cycle of its own answers what
the check of the grown selection answers, and the grown query if that is no failure. -/
theorem checkCycles_exact :
    (∀ (kind : EntityKind) (fields : FieldSet),
      ((∃ k, checkCycles kind fields = .error (.cycle (.entityKind k))) ↔
        ∃ ks, Chain fields.tokens ks ∧ ¬ (kind :: ks).Nodup) ∧
      (∀ f, checkCycles kind fields = .error f ↔
        ∃ before o after, occurrencesOfList [kind] fields.tokens = before ++ o :: after ∧
          o.Repeats ∧ (∀ p ∈ before, ¬ p.Repeats) ∧ f = .cycle (.entityKind o.kind)) ∧
      (checkCycles kind fields = .ok () → ∀ ks, Chain fields.tokens ks → ks.length ≤ 2)) ∧
    (∀ (q : Query .product) (v : Query.Variants) (below : FieldSet) (bound : Option Connection),
      checkCycles .product q.fields = .ok () → "variants" ∉ q.fields.names →
      v.parts = .ok (below, bound) → checkCycles .productVariant below = .ok () →
      q.withVariants v =
        (checkCycles .product
          (q.fields.add (.node "variants" .productVariant below.tokens bound))).map fun _ ↦
          { q with fields := q.fields.add (.node "variants" .productVariant below.tokens bound) }) ∧
    (∀ (q : Query .variant) (p : Query.Owner) (below : FieldSet),
      checkCycles .productVariant q.fields = .ok () → "product" ∉ q.fields.names →
      p.parts = .ok below → checkCycles .product below = .ok () →
      q.withProduct p =
        (checkCycles .productVariant
          (q.fields.add (.node "product" .product below.tokens none))).map fun _ ↦
          { q with fields := q.fields.add (.node "product" .product below.tokens none) }) := by
  refine ⟨fun kind fields ↦ ⟨exists_cycle_iff, fun f ↦ ?_, fun hok ks hks ↦ ?_⟩, ?_, ?_⟩
  · rw [checkCycles_eq_error_iff]
    constructor
    · rintro ⟨o, hfind, rfl⟩
      obtain ⟨ho, before, after, hsplit, hbefore⟩ := List.find?_eq_some_iff_append.1 hfind
      exact ⟨before, o, after, hsplit, by simpa using ho, by simpa using hbefore, rfl⟩
    · rintro ⟨before, o, after, hsplit, ho, hbefore, rfl⟩
      refine ⟨o, List.find?_eq_some_iff_append.2 ⟨by simpa using ho, before, after, hsplit, ?_⟩,
        rfl⟩
      simpa using hbefore
  · have hnodup := repeatedIn?_singleton_eq_none_iff.1 (checkCycles_eq_ok_iff.1 hok) ks hks
    exact length_le_two_of_nodup hnodup
  · intro q v below bound hown hname hparts hbelow
    rw [Query.withVariants, hparts]
    exact Query.guarded_embed_eq (e := .product) hown hname hbelow (by decide)
  · intro q p below hown hname hparts hbelow
    rw [Query.withProduct, hparts]
    exact Query.guarded_embed_eq (e := .variant) hown hname hbelow (by decide)

/-- Variants that select their product: no cycle of their own, and one below a product. A product
that selects its identifier alone goes below a variant. -/
theorem checkCycles_exact_embeddings :
    ∃ (product : Query .product) (variant : Query .variant),
      checkCycles .product product.fields = .ok () ∧ "variants" ∉ product.fields.names ∧
        (Query.Variants.query variant).parts = .ok (variant.fields, variant.connection) ∧
        checkCycles .productVariant variant.fields = .ok () ∧
        product.withVariants (.query variant) = .error (.cycle (.entityKind .product)) ∧
        "product" ∉ FieldSet.idOnly.names ∧
        (Query.Owner.query product).parts = .ok product.fields ∧
        (Query.withProduct {} (.query product)).isOk = true := by
  let product : Query .product := {}
  let variant : Query .variant :=
    { kind := .connection, fields := ⟨[.leaf "id", .node "product" .product [.leaf "id"] none]⟩ }
  obtain ⟨-, hvariants, hproduct⟩ := checkCycles_exact
  refine ⟨product, variant, rfl, by decide, rfl, rfl, ?_, by decide, rfl, ?_⟩
  · rw [hvariants product (.query variant) variant.fields variant.connection rfl (by decide) rfl
      rfl]
    rfl
  · rw [hproduct {} (.query product) product.fields rfl (by decide) rfl rfl]
    rfl

end CatalogQuery
