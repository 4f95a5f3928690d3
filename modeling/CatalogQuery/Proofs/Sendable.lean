import CatalogQuery.Proofs.Blank

/-!
# Which accepted updates can be sent

A change converts its value when it is called, and the literal is written when the document is. Two
kinds of values pass the first and are not right for the second: a weight may be any number, and an
amount that is one already is taken as it is, while only `Money.parse` and the literal of a number
look whether it is finite.

* `Query.Reached.compile_update` says what can go wrong late, whatever is handed in: an accepted
  update has a document **exactly if** its weight is finite, and otherwise the fault names the
  weight.
* `Query.reached_update_sendable` says what callers have to keep to: if no weight and no amount that
  they hand in is beyond the finite numbers, then every accepted update has a document, and every
  number in it is a finite numeral (`Grammar.Operation.IsFinite`). Texts are not restricted, so the
  grammar is asked about the document with its strings emptied.
* `Query.reached_update_not_sendable` has one accepted update of each kind that goes wrong.

## Late faults

`Query.Reached.compile_update` is stated over `Usage.fitting`, under which callers keep to the digit
limit and to nothing else. The digit limit is a matter of its own, as any integer beyond it has no
text at all. What a change can assign is then one of three (`Datum.IsAccepted`): something that has
a literal, a decimal number, or an amount. The last two are what conversions let through; of them
only the number is looked at again when the literal is written (`Datum.IsAccepted.literal_cases`),
which makes the equivalence exact.

## Documents of finite callers

For `Usage.finite` all three are writable, by one lemma for each change. The document is then read
by the grammar. A text may hold halves of surrogate pairs, which the strings of the grammar have no
characters for, so what is read is the document with its strings emptied: `Query.blank` empties the
texts of the query, and the document of the one is that of the other with its strings emptied
(`Query.updateText_blank`). Numbers are not touched by this, and the tree is finite because the data
is (`Datum.value?_isFinite`).

Finiteness of a tree has a second clause, for bare words. An amount stands in a document as its bare
text, so that an amount which is no number would be read as a word and not as a number
(`Value.IsFinite`). Words of the vocabulary are none of these texts (`Word.isFinite_wire`).
-/

namespace CatalogQuery

open Grammar

/-! ### Finite trees -/

namespace Grammar

mutual

/-- Every number in a value is finite, and no bare word in it is the text of a number that is
not. -/
def Value.IsFinite : Value → Prop
  | .float x => x.isFinite = true
  | .enum n => ∀ x : Binary64, n = x.display → x.isFinite = true
  | .list vs => AreFinite vs
  | .object es => EntriesAreFinite es
  | _ => True

/-- The values are finite. -/
def AreFinite : List Value → Prop
  | [] => True
  | v :: vs => v.IsFinite ∧ AreFinite vs

/-- The named values are finite. -/
def EntriesAreFinite : List (String × Value) → Prop
  | [] => True
  | (_, v) :: es => v.IsFinite ∧ EntriesAreFinite es

end

mutual

/-- Every argument at and below a field is finite. -/
def Field.IsFinite : Field → Prop
  | .mk _ _ args below => EntriesAreFinite args ∧ FieldsAreFinite below

/-- The fields are finite. -/
def FieldsAreFinite : List Field → Prop
  | [] => True
  | f :: fs => f.IsFinite ∧ FieldsAreFinite fs

end

/-- Every number in an operation is finite. -/
def Operation.IsFinite (o : Operation) : Prop :=
  FieldsAreFinite o.selection

end Grammar

/-- No word is written as a number that is not finite. -/
theorem Word.isFinite_wire (w : Word) : (Value.enum w.wire).IsFinite := by
  have hwire : w.wire ≠ "nan" ∧ w.wire ≠ "inf" ∧ w.wire ≠ "-inf" := by
    cases w with
    | entityType w => cases w <;> decide
    | entityKind w => cases w <;> decide
    | operationType w => cases w <;> decide
    | operationKind w => cases w <;> decide
    | rootField w => cases w <;> decide
    | weightUnit w => cases w <;> decide
    | productStatus w => cases w <;> decide
    | bulkStatus w => cases w <;> decide
    | logLevel w => cases w <;> decide
    | authType w =>
      cases w
      decide
  intro x hx
  cases x with
  | nan => exact absurd hx hwire.1
  | inf negative =>
    cases negative
    · exact absurd hx hwire.2.1
    · exact absurd hx hwire.2.2
  | finite => rfl

namespace Datum

mutual

/-- What a datum stands for is finite if its numbers have texts. -/
theorem value?_isFinite : ∀ {d : Datum} {v : Value}, d.value? = some v → d.HasNumbers → v.IsFinite
  | .null, _, rfl, _ | .bool _, _, rfl, _ | .int _, _, rfl, _ | .id _, _, rfl, _ => trivial
  | .float _, _, rfl, h | .money _, _, rfl, h => h
  | .text t, _, h, _ => by
    obtain ⟨s, -, rfl⟩ := Option.map_eq_some_iff.1 h
    trivial
  | .word w, _, rfl, _ => w.isFinite_wire
  | .list xs, _, h, hnumbers | .tuple xs, _, h, hnumbers => by
    obtain ⟨vs, hvs, rfl⟩ := Option.map_eq_some_iff.1 h
    exact values?_areFinite hvs hnumbers
  | .dict es, _, h, hnumbers => by
    obtain ⟨vs, hvs, rfl⟩ := Option.map_eq_some_iff.1 h
    exact entryValues?_areFinite hvs hnumbers

theorem values?_areFinite : ∀ {xs : List Datum} {vs : List Value}, values? xs = some vs →
    HaveNumbers xs → AreFinite vs
  | [], _, rfl, _ => trivial
  | x :: xs, vs, h, hnumbers => by
    rw [values?] at h
    split at h
    · cases h
    · next v hv =>
      obtain ⟨us, hus, rfl⟩ := Option.map_eq_some_iff.1 h
      exact ⟨value?_isFinite hv hnumbers.1, values?_areFinite hus hnumbers.2⟩

theorem entryValues?_areFinite : ∀ {es : List (Datum × Datum)} {vs : List (String × Value)},
    entryValues? es = some vs → EntriesHaveNumbers es → EntriesAreFinite vs
  | [], _, rfl, _ => trivial
  | (key, x) :: es, vs, h, hnumbers => by
    unfold entryValues? at h
    split at h
    · split at h
      · cases h
      · next v hv =>
        split at h
        · obtain ⟨us, hus, rfl⟩ := Option.map_eq_some_iff.1 h
          exact ⟨value?_isFinite hv hnumbers.1, entryValues?_areFinite hus hnumbers.2⟩
        · cases h
    · cases h

end

end Datum

namespace FieldToken

mutual

/-- The only numbers in a selection are the bounds of its lists. -/
theorem field_isFinite : ∀ x : FieldToken, x.field.IsFinite
  | .leaf _ => ⟨trivial, trivial⟩
  | .node _ _ xs none => ⟨trivial, fields_areFinite xs⟩
  | .node _ _ xs (some _) =>
    ⟨⟨trivial, trivial⟩, ⟨trivial, ⟨trivial, fields_areFinite xs⟩, trivial⟩, trivial⟩

theorem fields_areFinite : ∀ xs : List FieldToken, FieldsAreFinite (fields xs)
  | [] => trivial
  | x :: xs => ⟨field_isFinite x, fields_areFinite xs⟩

end

end FieldToken

/-! ### What is accepted -/

/-- Callers whose bounds and quantities are within the digit limit. -/
def Usage.fitting : Usage where
  bound c := c.hasText = true
  productValue _ _ := True
  variantValue
    | .inventoryQuantities, d => d.QuantitiesFit
    | _, _ => True

/-- Callers that, besides, hand in no weight and no amount beyond the finite numbers. -/
def Usage.finite : Usage where
  bound := Usage.fitting.bound
  productValue := Usage.fitting.productValue
  variantValue
    | .price, d | .compareAtPrice, d => ∀ m, d = .money m → Datum.HasNumeral m.amount
    | .weight, d => ∀ x, readWeight d = .ok x → x.isFinite = true
    | c, d => Usage.fitting.variantValue c d

namespace Datum

/-- What a change can assign: a value that has a literal, a number or an amount. -/
inductive IsAccepted : Datum → Prop
  /-- A value with a literal. -/
  | writable {d : Datum} : d.IsWritable → IsAccepted d
  /-- A decimal number, finite or not. -/
  | float (x : Binary64) : IsAccepted (.float x)
  /-- An amount, of a finite number or not. -/
  | money (m : Money) : IsAccepted (.money m)

theorem isWritable_text (t : Text) : (text t).IsWritable :=
  ⟨⟨_, rfl⟩, trivial⟩

/-- A list has a literal if all its elements have. -/
theorem isWritable_list {xs : List Datum} (h : ∀ x ∈ xs, x.IsWritable) : (list xs).IsWritable := by
  have hitems : (∃ vs, values? (blankItems xs) = some vs) ∧ HaveNumbers xs := by
    induction xs with
    | nil => exact ⟨⟨[], rfl⟩, trivial⟩
    | cons x xs ih =>
      obtain ⟨⟨v, hv⟩, hnumbers⟩ := h x (by simp)
      obtain ⟨⟨vs, hvs⟩, hrest⟩ := ih fun y hy ↦ h y (List.mem_cons_of_mem x hy)
      exact ⟨⟨v :: vs, by rw [blankItems, values?, hv]; simp [hvs]⟩, hnumbers, hrest⟩
  obtain ⟨⟨vs, hvs⟩, hnumbers⟩ := hitems
  exact ⟨⟨.list vs, by rw [blank, value?, hvs]; rfl⟩, hnumbers⟩

/-- What can be assigned has a literal unless it is a number that is not finite. -/
theorem IsAccepted.literal_cases {d : Datum} (h : d.IsAccepted) :
    (∃ l, d.literal = .ok l) ∧ (∀ x, d = .float x → x.isFinite = true) ∨
      ∃ x, d = .float x ∧ x.isFinite = false ∧ d.literal = .error (.notFinite x) := by
  cases h with
  | writable hwritable =>
    obtain ⟨v, hv⟩ := hwritable.value
    obtain ⟨l, -, hl, -⟩ := literal_blank hv hwritable.numbers
    refine .inl ⟨⟨l, hl⟩, ?_⟩
    rintro x rfl
    exact hwritable.numbers
  | money m => exact .inl ⟨⟨m.text, rfl⟩, nofun⟩
  | float x =>
    by_cases hx : x.isFinite = true
    · refine .inl ⟨⟨x.display, if_pos hx⟩, ?_⟩
      rintro _ ⟨⟩
      exact hx
    · exact .inr ⟨x, rfl, by simpa using hx, if_neg hx⟩

end Datum

namespace Convert

variable {d v : Datum}

/-- What a text is converted to has a literal. -/
theorem text_isWritable (h : text d = .ok v) : v.IsWritable := by
  unfold text at h
  split at h
  · cases h
    exact Datum.isWritable_text d.plain
  · cases h

/-- Tags have literals, one or many. -/
theorem tags_isWritable (h : tags d = .ok v) : v.IsWritable := by
  unfold tags at h
  split at h
  · next t ht =>
    cases h
    refine Datum.isWritable_list fun x hx ↦ ?_
    obtain rfl : x = d := by simpa using hx
    cases x with
    | text t => exact Datum.isWritable_text t
    | word w => exact (Datum.isPlain_word w).isWritable
    | _ => cases ht
  · split at h
    · obtain ⟨ys, hys, rfl⟩ := Attempt.map_eq_ok_iff.1 h
      refine Datum.isWritable_list fun y hy ↦ ?_
      obtain ⟨x, -, hxy⟩ := Attempt.mem_of_mapM_eq_ok hys y hy
      exact text_isWritable hxy
    · cases h

end Convert

/-- Every change of a product assigns a value that has a literal, whatever is handed in. -/
theorem ProductChange.convert_isWritable {c : ProductChange} {d v : Datum}
    (h : c.convert d = .ok v) : v.IsWritable := by
  cases c with
  | status => exact (Convert.status_isPlain h).isWritable
  | tags => exact Convert.tags_isWritable h
  | title => exact Convert.text_isWritable h
  | vendor => exact Convert.text_isWritable h
  | handle => exact Convert.text_isWritable h
  | productType => exact Convert.text_isWritable h

/-- Every change of a variant assigns a value that is accepted. -/
theorem VariantChange.convert_isAccepted {c : VariantChange} {d v : Datum}
    (hd : Usage.fitting.variantValue c d) (h : c.convert d = .ok v) : v.IsAccepted := by
  -- An amount that is one already is taken as it is, and any other is parsed.
  have hmoney (h : Convert.money d = .ok v) : v.IsAccepted := by
    unfold Convert.money at h
    split at h
    · cases h
      exact .money _
    · obtain ⟨m, -, rfl⟩ := Attempt.map_eq_ok_iff.1 h
      exact .money m
  -- Nothing is asked of amounts and weights here: they are accepted as they are.
  cases c with
  | compareAtPrice => exact hmoney h
  | price => exact hmoney h
  | sku => exact .writable (Convert.text_isWritable h)
  | barcode => exact .writable (Convert.text_isWritable h)
  | weight =>
    obtain ⟨x, -, rfl⟩ := Attempt.map_eq_ok_iff.1 h
    exact .float x
  | weightUnit => exact .writable (Convert.weightUnit_isPlain h).isWritable
  | inventoryQuantities => exact .writable (Convert.quantities_isPlain hd h).isWritable

/-- Changes of variants assign values that have literals, if weights and amounts are finite. -/
theorem VariantChange.convert_isWritable {c : VariantChange} {d v : Datum}
    (hd : Usage.finite.variantValue c d) (h : c.convert d = .ok v) : v.IsWritable := by
  cases c with
  | compareAtPrice => exact (Convert.money_isPlain hd h).isWritable
  | price => exact (Convert.money_isPlain hd h).isWritable
  | sku => exact Convert.text_isWritable h
  | barcode => exact Convert.text_isWritable h
  | weight => exact (Convert.weight_isPlain hd h).isWritable
  | weightUnit => exact (Convert.weightUnit_isPlain h).isWritable
  | inventoryQuantities => exact (Convert.quantities_isPlain hd h).isWritable

/-! ### Documents of accepted updates -/

namespace Query

variable {e : Entity} {d : Datum} {q : Query e}

theorem Reached.exists_inputs {u : Usage} (h : Reached u (.update d) q) :
    q.kind = .update ∧ ∃ inputs, q.inputs = some inputs := by
  have hkind : q.kind = .update := h.invariant.origin.1
  exact ⟨hkind, Option.isSome_iff_exists.1 (h.invariant.inputs.isSome_iff.2 hkind)⟩

/-- An update has no cycles, so its document is its text. -/
theorem Reached.compile_eq_updateText {u : Usage} (h : Reached u (.update d) q) :
    (Request.query ⟨e, q⟩).compile = q.updateText := by
  have hcycles : checkCycles e.kind q.fields = .ok () := h.invariant.selects.checkCycles_eq_ok
  simp only [Request.compile, Request.entityKind, Request.fields, hcycles]
  show q.text = q.updateText
  rw [text, h.exists_inputs.1]

/-- The assignments have texts exactly if no number in them is beyond the finite ones. -/
theorem assignmentTexts_cases {es : List (String × Datum)} (h : ∀ entry ∈ es, entry.2.IsAccepted) :
    (∃ ls, assignmentTexts es = .ok ls) ∧
        (∀ entry ∈ es, ∀ x, entry.2 = .float x → x.isFinite = true) ∨
      ∃ entry ∈ es, ∃ x, entry.2 = .float x ∧ x.isFinite = false ∧
        assignmentTexts es = .error (.notFinite x) := by
  -- The first assignment that has no text decides; before it nothing fails.
  induction es with
  | nil => exact .inl ⟨⟨[], rfl⟩, by simp⟩
  | cons entry es ih =>
    obtain ⟨key, value⟩ := entry
    obtain ⟨⟨l, hl⟩, hfinite⟩ | ⟨x, hvalue, hx, hl⟩ := (h (key, value) (by simp)).literal_cases
    · obtain ⟨⟨ls, hls⟩, hrest⟩ | ⟨other, hother, x, hvalue, hx, hls⟩ :=
        ih fun other hother ↦ h other (List.mem_cons_of_mem _ hother)
      · refine .inl ⟨⟨assignmentText key l :: ls, ?_⟩, ?_⟩
        · rw [assignmentTexts, hl, hls]
          rfl
        · rintro other hother x hvalue
          rcases List.mem_cons.1 hother with rfl | hold
          · exact hfinite x hvalue
          · exact hrest other hold x hvalue
      · refine .inr ⟨other, List.mem_cons_of_mem _ hother, x, hvalue, hx, ?_⟩
        rw [assignmentTexts, hl, hls]
        rfl
    · exact .inr ⟨(key, value), by simp, x, hvalue, hx, by rw [assignmentTexts, hl]⟩

/-- **The only late fault of an accepted update is a weight that is not finite**, whatever callers
hand in: the update has a document exactly if every number that it assigns is finite, and otherwise
the fault is that one of them is not. -/
theorem Reached.compile_update (h : Reached .fitting (.update d) q) :
    ∃ inputs, q.inputs = some inputs ∧
      ((∃ text, (Request.query ⟨e, q⟩).compile = .ok text) ∧
          (∀ entry ∈ inputs.entries, ∀ x, entry.2 = .float x → x.isFinite = true) ∨
        ∃ entry ∈ inputs.entries, ∃ x, entry.2 = .float x ∧ x.isFinite = false ∧
          (Request.query ⟨e, q⟩).compile = .error (.notFinite x)) := by
  have haccepted : q.HasInputValues Datum.IsAccepted :=
    h.hasInputValues (fun i ↦ .writable (Datum.isPlain_id i).isWritable)
      (fun _ _ _ _ hv ↦ .writable (ProductChange.convert_isWritable hv))
      fun _ _ _ ↦ VariantChange.convert_isAccepted
  obtain ⟨-, inputs, hinputs⟩ := h.exists_inputs
  have hfields : q.fields.text = .ok q.fields.render :=
    if_pos (h.invariant.selects.hasTextAll fun _ ↦ Entity.IsNested.hasText fun _ ↦ id)
  refine ⟨inputs, hinputs, ?_⟩
  rw [h.compile_eq_updateText, updateText, hinputs]
  obtain ⟨⟨ls, hls⟩, hfinite⟩ | ⟨entry, hentry, x, hvalue, hx, hls⟩ :=
    assignmentTexts_cases fun entry hentry ↦ (haccepted inputs hinputs entry hentry).2
  · exact .inl ⟨⟨_, by simp only [hls, hfields]; rfl⟩, hfinite⟩
  · exact .inr ⟨entry, hentry, x, hvalue, hx, by simp only [hls]; rfl⟩

/-- What an update stands for once its texts are empty: one root field with the input, and below it
the selected fields. -/
theorem blank_tree? {inputs : Inputs} {v : Value} (hkind : q.kind = .update)
    (hinputs : q.inputs = some inputs) (hv : inputs.blank.toDatum.value? = some v) :
    q.blank.tree? = some {
      type := q.operation.operationType
      name := none
      selection := [plainField (Vocabulary.wire q.operation) [("input", v)]
        [plainField e.payloadField [] (FieldToken.fields q.fields.tokens)]] } := by
  have hblank : q.blank.inputs = some inputs.blank := by rw [blank, hinputs, Option.map_some]
  have hkind' : q.blank.kind = .update := hkind
  simp only [tree?, argument?, payload, hkind', hblank, hv, Option.bind_some, Option.map_some]
  rfl

/-- The text of an update, with its strings emptied, is read as what the update stands for. -/
theorem HasText.updateText_reads {inputs : Inputs} {v : Value} {tree : Operation} (h : q.HasText)
    (hkind : q.kind = .update) (hinputs : q.inputs = some inputs)
    (hv : inputs.blank.toDatum.value? = some v) (htree : q.blank.tree? = some tree) :
    ∃ text, q.updateText = .ok text ∧ Grammar.read (withoutStrings text) = some tree := by
  obtain ⟨text', htext', hread⟩ := h.blank.text_reads htree
  obtain ⟨l, l', hl, hl', hempties⟩ := updateText_blank h hinputs hv
  have hkind' : q.blank.kind = .update := hkind
  rw [text, hkind'] at htext'
  obtain rfl : text' = l' := Except.ok.inj (htext'.symm.trans hl')
  exact ⟨l, hl, hempties.withoutStrings_eq ▸ hread⟩

/-! ### Public contract -/

/-- **An accepted update can be sent**, as long as callers keep to finite weights and amounts: it
has a document, the document with its strings emptied is read as one operation with nothing left
over, and every number in that operation is finite. Of texts nothing is asked, halves of surrogate
pairs included. -/
theorem reached_update_sendable (h : Reached .finite (.update d) q) :
    ∃ text tree, (Request.query ⟨e, q⟩).compile = .ok text ∧
      Grammar.read (withoutStrings text) = some tree ∧ tree.IsFinite := by
  -- What is assigned has a literal, so the update and the update with its texts emptied have
  -- documents; the grammar reads the second, which is the first with its strings emptied.
  have hwritable : q.HasInputValues Datum.IsWritable :=
    h.hasInputValues (fun i ↦ (Datum.isPlain_id i).isWritable)
      (fun _ _ _ _ ↦ ProductChange.convert_isWritable) fun _ _ _ ↦ VariantChange.convert_isWritable
  obtain ⟨hkind, inputs, hinputs⟩ := h.exists_inputs
  have htext : q.HasText := h.hasText_of_hasNumbers (fun _ ↦ id) fun inputs hinputs entry hentry ↦
    (hwritable inputs hinputs entry hentry).2.numbers
  obtain ⟨v, hv⟩ : ∃ v, inputs.blank.toDatum.value? = some v := by
    refine toDatum_value? fun blanked hblanked ↦ ?_
    obtain ⟨entry, hentry, rfl⟩ := List.mem_map.1 hblanked
    exact (hwritable inputs hinputs entry hentry).imp_right Datum.IsWritable.value
  have htree := blank_tree? hkind hinputs hv
  obtain ⟨text, hupdate, hread⟩ := htext.updateText_reads hkind hinputs hv htree
  have hnumbers : inputs.blank.toDatum.HasNumbers :=
    htext.blank.numbers inputs.blank (by rw [blank, hinputs, Option.map_some])
  have hinput : v.IsFinite := Datum.value?_isFinite hv hnumbers
  have hpayload : (plainField e.payloadField [] (FieldToken.fields q.fields.tokens)).IsFinite :=
    ⟨trivial, FieldToken.fields_areFinite _⟩
  exact ⟨text, _, h.compile_eq_updateText.trans hupdate, hread,
    ⟨⟨hinput, trivial⟩, hpayload, trivial⟩, trivial⟩

/-- A variant with half of a surrogate pair in a text, and with a weight and an amount of one and a
half. -/
theorem reached_update_sendable_variant :
    ∃ (q : Query .variant) (text : String) (tree : Operation),
      Reached .finite (.update (.id ⟨.productVariant, "77", "shopify"⟩)) q ∧
        q.inputs.map Inputs.keys = some ["id", "sku", "weight", "price"] ∧
        (Request.query ⟨.variant, q⟩).compile = .ok text ∧
        Grammar.read (withoutStrings text) = some tree ∧ tree.IsFinite := by
  have hsku :
      Reached .finite (.update (.id ⟨.productVariant, "77", "shopify"⟩)) (e := .variant) _ :=
    .changeVariant (c := .sku) (d := .text (.ofPoints [0xD800, 0x22]))
      (.make rfl fun _ h ↦ nomatch h) trivial rfl
  have hweight :
      Reached .finite (.update (.id ⟨.productVariant, "77", "shopify"⟩)) (e := .variant) _ :=
    .changeVariant (c := .weight) (d := .float (.finite false 6755399441055744 1022)) hsku
      (by rintro _ ⟨⟩; rfl) rfl
  have hprice :
      Reached .finite (.update (.id ⟨.productVariant, "77", "shopify"⟩)) (e := .variant) _ :=
    .changeVariant (c := .price) (d := .money ⟨.finite false 6755399441055744 1022⟩) hweight
      (by rintro _ ⟨⟩; rfl) rfl
  obtain ⟨text, tree, hcompile, hread, hfinite⟩ := reached_update_sendable hprice
  exact ⟨_, text, tree, hprice, rfl, hcompile, hread, hfinite⟩

/-- **Not every accepted update can be sent.** A weight that is no number is accepted, and the fault
comes when the document is written; an amount made from such a number is accepted too, and stands
bare in the document. -/
theorem reached_update_not_sendable :
    (∃ q : Query .variant, Reached .any (.update (.id ⟨.productVariant, "77", "shopify"⟩)) q ∧
      (Request.query ⟨.variant, q⟩).compile = .error (.notFinite .nan)) ∧
    ∃ q : Query .variant, Reached .any (.update (.id ⟨.productVariant, "77", "shopify"⟩)) q ∧
      (Request.query ⟨.variant, q⟩).compile = .ok
        ("mutation \x7b productVariantUpdate(input: " ++
          "\x7b id: \"gid://shopify/ProductVariant/77\", " ++
          "price: nan \x7d) \x7b productVariant \x7b id \x7d \x7d \x7d") := by
  have hmade : Reached .any (.update (.id ⟨.productVariant, "77", "shopify"⟩)) (e := .variant) _ :=
    .make rfl fun _ _ ↦ trivial
  have hweight :
      Reached .any (.update (.id ⟨.productVariant, "77", "shopify"⟩)) (e := .variant) _ :=
    .changeVariant (c := .weight) (d := .float .nan) hmade trivial rfl
  have hprice : Reached .any (.update (.id ⟨.productVariant, "77", "shopify"⟩)) (e := .variant) _ :=
    .changeVariant (c := .price) (d := .money ⟨.nan⟩) hmade trivial rfl
  exact ⟨⟨_, hweight, rfl⟩, _, hprice, rfl⟩

end Query

end CatalogQuery
