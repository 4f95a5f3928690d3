import CatalogQuery.Proofs.Attempt
import CatalogQuery.Proofs.Document
import CatalogQuery.Proofs.Invariant

/-!
# What plain callers hand in

`Usage.plain` is the ordinary use of the library: texts of characters, amounts that were read by
`Money.parse`, weights that are finite, and integers within the digit limit. It restricts what is
handed in, never what a conversion makes of it; that every conversion of such values answers a value
with a literal is proved here, one lemma for each (`Datum.IsPlain`).

`Query.Reached.plainInputs` carries this along the calls: every key of the input of a reached update
is a name, and every value stands for a value of a document.

## What is restricted and what is not

A status or a unit of weight needs no restriction: whatever is handed in, the conversion answers a
word of the vocabulary or fails. A text has to be one of characters, because a literal of half of a
surrogate pair is refused by the grammar. An amount that was made by hand could be infinite, so it
has to come from the reader of amounts, which answers finite ones only (`Money.parse_hasNumeral`).
And an integer beyond the digit limit has no text at all.

## Two inductions in one

`Query.Reached.hasInputValues` is stated for any property of values, with the conversions as
hypotheses. Here it is used with `Datum.IsPlain`; other properties of converted values are carried
to the inputs of reached queries by the same lemma, with the cases for conversions exchanged.
-/

open CatalogQuery.Attempt

namespace CatalogQuery

open Grammar Datum

/-! ### Plain values

A caller is described by what it hands in (`Usage`), separately for the bounds of lists, for the
changes of a product and for those of a variant. A restriction on what a conversion would make of a
value is one on the value.
-/

namespace Datum

/-- A value that, as text, has no half of a surrogate pair. -/
def HasCharacters (d : Datum) : Prop :=
  ∃ s, d.plain = .str s

/-- Tags without halves of surrogate pairs: one text, or the elements of another collection. -/
def TagsHaveCharacters (d : Datum) : Prop :=
  match d.asText? with
  | some t => ∃ s, t = .str s
  | none => ∀ xs, d.elements? = some xs → ∀ x ∈ xs, x.HasCharacters

/-- Quantities by location, all within the digit limit. -/
def QuantitiesFit (d : Datum) : Prop :=
  ∀ xs, d.elements? = some xs →
    ∀ x ∈ xs, ∀ available place n, x.elements? = some [available, place] →
    readCount available = .ok n → integerFits n = true

/-- A value that stands for a value of a document, with a text for every number in it. -/
structure IsPlain (d : Datum) : Prop where
  /-- It stands for a value. -/
  value : ∃ v, d.value? = some v
  /-- Its numbers have texts. -/
  numbers : d.HasNumbers

end Datum

/-- An amount that was read from a value. -/
def Money.IsRead (m : Money) : Prop :=
  ∃ raw : Datum, Money.parse raw = .ok m

/-- Callers that hand in texts of characters and numbers that can be written. -/
def Usage.plain : Usage where
  bound c := c.hasText = true
  productValue
    | .status, _ => True
    | .tags, d => d.TagsHaveCharacters
    | _, d => d.HasCharacters
  variantValue
    | .price, d | .compareAtPrice, d => ∀ m, d = .money m → m.IsRead
    | .weight, d => ∀ x, readWeight d = .ok x → x.isFinite = true
    | .weightUnit, _ => True
    | .inventoryQuantities, d => d.QuantitiesFit
    | _, d => d.HasCharacters

/-! ### Numbers that are read -/

/-- A number is taken as an amount only if it is finite. -/
theorem Money.ofFloat_hasNumeral {raw : Datum} {x : Binary64} {m : Money}
    (h : ofFloat raw x = .ok m) : HasNumeral m.amount := by
  unfold ofFloat at h
  split at h
  · next hfinite =>
    cases h
    exact hfinite
  · cases h

/-- An amount that was read is a finite number. -/
theorem Money.parse_hasNumeral {raw : Datum} {m : Money} (h : parse raw = .ok m) :
    HasNumeral m.amount := by
  unfold parse at h
  split at h
  · split at h
    · split at h
      · exact ofFloat_hasNumeral h
      · cases h
    · cases h
  · split at h
    · obtain ⟨x, -, hm⟩ := bind_eq_ok_iff.1 h
      exact ofFloat_hasNumeral hm
    · exact ofFloat_hasNumeral h
    · cases h

theorem Money.IsRead.hasNumeral {m : Money} (h : m.IsRead) : HasNumeral m.amount := by
  obtain ⟨raw, hparse⟩ := h
  exact parse_hasNumeral hparse

/-! ### Conversions answer plain values

One lemma for each conversion, under the restriction on what is handed in. Two conversions are under
no restriction, because they answer nothing but words.
-/

namespace Datum

theorem isPlain_text (s : String) : (str s).IsPlain :=
  ⟨⟨_, rfl⟩, trivial⟩

theorem isPlain_word (w : Word) : (word w).IsPlain :=
  ⟨⟨_, rfl⟩, trivial⟩

theorem isPlain_id (i : Id) : (id i).IsPlain :=
  ⟨⟨_, rfl⟩, trivial⟩

theorem isPlain_money {m : Money} (h : HasNumeral m.amount) : (money m).IsPlain :=
  ⟨⟨_, rfl⟩, h⟩

/-- Plain values in a row stand for values in a row. -/
theorem values?_isSome : ∀ {xs : List Datum}, (∀ x ∈ xs, x.IsPlain) → ∃ vs, values? xs = some vs
  | [], _ => ⟨[], rfl⟩
  | x :: xs, h => by
    obtain ⟨v, hv⟩ := (h x (by simp)).value
    obtain ⟨vs, hvs⟩ := values?_isSome fun y hy ↦ h y (List.mem_cons_of_mem x hy)
    exact ⟨v :: vs, by rw [values?, hv]; simp [hvs]⟩

theorem haveNumbers_of_forall : ∀ {xs : List Datum}, (∀ x ∈ xs, x.IsPlain) → HaveNumbers xs
  | [], _ => trivial
  | x :: _, h =>
    ⟨(h x (by simp)).numbers, haveNumbers_of_forall fun y hy ↦ h y (List.mem_cons_of_mem x hy)⟩

theorem isPlain_list {xs : List Datum} (h : ∀ x ∈ xs, x.IsPlain) : (list xs).IsPlain := by
  obtain ⟨vs, hvs⟩ := values?_isSome h
  exact ⟨⟨.list vs, by rw [value?, hvs]; rfl⟩, haveNumbers_of_forall h⟩

end Datum

namespace Convert

variable {d v : Datum}

/-- A text of characters is converted to a plain value. -/
theorem text_isPlain (hd : d.HasCharacters) (h : text d = .ok v) : v.IsPlain := by
  obtain ⟨s, hs⟩ := hd
  unfold text at h
  split at h
  · cases h
    exact hs ▸ isPlain_text s
  · cases h

/-- An amount is handed on as it is, and anything else is read as one; both are finite. -/
theorem money_isPlain (hm : ∀ m, d = .money m → HasNumeral m.amount)
    (h : money d = .ok v) : v.IsPlain := by
  unfold money at h
  split at h
  · next m =>
    cases h
    exact isPlain_money (hm m rfl)
  · obtain ⟨m, hparse, rfl⟩ := map_eq_ok_iff.1 h
    exact isPlain_money (Money.parse_hasNumeral hparse)

/-- A status is converted to a word, whatever was handed in. -/
theorem status_isPlain (h : status d = .ok v) : v.IsPlain := by
  obtain ⟨w, -, rfl⟩ := map_eq_ok_iff.1 h
  exact isPlain_word _

theorem weightUnit_isPlain (h : weightUnit d = .ok v) : v.IsPlain := by
  obtain ⟨w, -, rfl⟩ := map_eq_ok_iff.1 h
  exact isPlain_word _

/-- A weight is plain if the number that was read is finite, which the conversion does not check. -/
theorem weight_isPlain (hfinite : ∀ x, readWeight d = .ok x → x.isFinite = true)
    (h : weight d = .ok v) : v.IsPlain := by
  obtain ⟨x, hx, rfl⟩ := map_eq_ok_iff.1 h
  exact ⟨⟨_, rfl⟩, hfinite x hx⟩

/-- What counts as a text of characters is plain as it is: a text, or a word. -/
theorem asText?_isPlain {t : Text} {s : String} (ht : d.asText? = some t) (hs : t = .str s) :
    d.IsPlain := by
  subst hs
  cases d with
  | text t =>
    cases ht
    exact isPlain_text s
  | word w => exact isPlain_word w
  | _ => cases ht

/-- Tags are one text or a collection of them; both are converted to a list of plain values. -/
theorem tags_isPlain (hd : d.TagsHaveCharacters) (h : tags d = .ok v) : v.IsPlain := by
  unfold tags at h
  unfold TagsHaveCharacters at hd
  split at h
  · next t ht =>
    rw [ht] at hd
    obtain ⟨s, hs⟩ := hd
    cases h
    exact isPlain_list (by simpa using asText?_isPlain ht hs)
  · next ht =>
    rw [ht] at hd
    split at h
    · next xs hxs =>
      obtain ⟨ys, hys, rfl⟩ := map_eq_ok_iff.1 h
      refine isPlain_list fun y hy ↦ ?_
      obtain ⟨x, hx, hxy⟩ := mem_of_mapM_eq_ok hys y hy
      exact text_isPlain (hd xs hxs x hx) hxy
    · cases h

/-- A pair is a collection of two. -/
theorem pair_eq_ok {a b : Datum} (h : pair d = .ok (a, b)) : d.elements? = some [a, b] := by
  unfold pair at h
  split at h
  · next hd =>
    cases h
    exact hd
  · cases h
  · cases h

/-- Quantities by location are plain if the quantities are within the digit limit. -/
theorem quantities_isPlain (hd : d.QuantitiesFit) (h : quantities d = .ok v) : v.IsPlain := by
  unfold quantities at h
  split at h
  · next xs hxs =>
    obtain ⟨ys, hys, rfl⟩ := map_eq_ok_iff.1 h
    refine isPlain_list fun y hy ↦ ?_
    obtain ⟨x, hx, hxy⟩ := mem_of_mapM_eq_ok hys y hy
    obtain ⟨⟨available, place⟩, hpair, hxy⟩ := bind_eq_ok_iff.1 hxy
    obtain ⟨i, -, hxy⟩ := bind_eq_ok_iff.1 hxy
    obtain ⟨n, hn, hxy⟩ := bind_eq_ok_iff.1 hxy
    cases hxy
    have hfits := hd xs hxs x hx available place n (pair_eq_ok hpair) hn
    exact ⟨⟨_, rfl⟩, hfits, trivial, trivial⟩
  · cases h

end Convert

/-- Changes of products convert plain values to plain values. -/
theorem ProductChange.convert_isPlain {c : ProductChange} {d v : Datum}
    (hd : Usage.plain.productValue c d) (h : c.convert d = .ok v) : v.IsPlain := by
  cases c with
  | status => exact Convert.status_isPlain h
  | tags => exact Convert.tags_isPlain hd h
  | title => exact Convert.text_isPlain hd h
  | vendor => exact Convert.text_isPlain hd h
  | handle => exact Convert.text_isPlain hd h
  | productType => exact Convert.text_isPlain hd h

/-- Changes of variants convert plain values to plain values. -/
theorem VariantChange.convert_isPlain {c : VariantChange} {d v : Datum}
    (hd : Usage.plain.variantValue c d) (h : c.convert d = .ok v) : v.IsPlain := by
  cases c with
  | compareAtPrice => exact Convert.money_isPlain (fun m hm ↦ (hd m hm).hasNumeral) h
  | price => exact Convert.money_isPlain (fun m hm ↦ (hd m hm).hasNumeral) h
  | sku => exact Convert.text_isPlain hd h
  | barcode => exact Convert.text_isPlain hd h
  | weight => exact Convert.weight_isPlain hd h
  | weightUnit => exact Convert.weightUnit_isPlain h
  | inventoryQuantities => exact Convert.quantities_isPlain hd h

/-! ### Inputs of reached queries

The induction on the calls is over all of them, though only changes touch the input. Embedding a
query takes its selection and leaves its input behind.
-/

namespace Query

variable {e : Entity} {o : Origin} {q q' : Query e}

/-- Every key of the input is a name, and every value satisfies `P`. -/
def HasInputValues (P : Datum → Prop) (q : Query e) : Prop :=
  ∀ inputs, q.inputs = some inputs → ∀ entry ∈ inputs.entries, isName entry.1 = true ∧ P entry.2

/-- Every key of the input is a name, and every value is plain. -/
def HasPlainInputs (q : Query e) : Prop :=
  q.HasInputValues Datum.IsPlain

variable {P : Datum → Prop}

/-- A factory puts the identifier into the input of an update, and nothing else. -/
theorem make_hasInputValues (hid : ∀ i, P (.id i)) (h : o.make e = .ok q) : q.HasInputValues P := by
  cases o with
  | read d =>
    obtain ⟨i, -, rfl⟩ := map_eq_ok_iff.1 h
    rintro _ ⟨⟩
  | update d =>
    obtain ⟨i, -, rfl⟩ := map_eq_ok_iff.1 h
    rintro _ ⟨⟩ entry hentry
    obtain rfl : entry = ("id", .id i) := by
      simpa [Inputs.assign, Inputs.empty, Inputs.assignEntries] using hentry
    exact ⟨(by decide : isName "id" = true), hid i⟩
  | connection bound first last =>
    simp only [Origin.make, forConnection] at h
    split at h
    · obtain ⟨c, -, rfl⟩ := map_eq_ok_iff.1 h
      rintro _ ⟨⟩
    · cases h
      rintro _ ⟨⟩
    · cases h

/-- Assigning a value with the property keeps the property. -/
theorem HasInputValues.assign (hq : q.HasInputValues P) {call key : String}
    {converted : Outcome Datum} (hkey : isName key = true) (hvalue : ∀ v, converted = .ok v → P v)
    (h : q.assign call key converted = .ok q') : q'.HasInputValues P := by
  obtain ⟨inputs, v, -, hinputs, hv, rfl⟩ := assign_eq_ok h
  rintro _ ⟨⟩ entry hentry
  rcases Inputs.mem_entries_assign hentry with rfl | hold
  · exact ⟨hkey, hvalue v hv⟩
  · exact hq inputs hinputs entry hold

theorem HasInputValues.embed (hq : q.HasInputValues P) {call : String} {t : FieldToken}
    (h : q.embed call t = .ok q') : q'.HasInputValues P := by
  obtain ⟨rfl, -⟩ := embed_eq_ok h
  exact hq

/-- **What holds of every converted value holds of the input of a reached query**, by induction on
the calls: a change assigns a converted value to a name, every other call leaves the input. -/
theorem Reached.hasInputValues {u : Usage} (hid : ∀ i, P (.id i))
    (hproduct : ∀ (c : ProductChange) (d v : Datum), u.productValue c d → c.convert d = .ok v → P v)
    (hvariant : ∀ (c : VariantChange) (d v : Datum), u.variantValue c d → c.convert d = .ok v → P v)
    (h : Reached u o q) : q.HasInputValues P := by
  induction h with
  | make hmake => exact make_hasInputValues hid hmake
  | select f _ ih => exact ih
  | variants _ _ hq ih =>
    -- The run of an embedded query plays no part: its input is not embedded.
    obtain ⟨_, _, _, _, hembed⟩ := withVariants_eq_ok hq
    exact ih.embed hembed
  | variantsOf _ _ hq ih =>
    obtain ⟨_, _, _, _, hembed⟩ := withVariants_eq_ok hq
    exact ih.embed hembed
  | product _ _ hq ih =>
    obtain ⟨_, _, _, hembed⟩ := withProduct_eq_ok hq
    exact ih.embed hembed
  | productOf _ _ hq ih =>
    obtain ⟨_, _, _, hembed⟩ := withProduct_eq_ok hq
    exact ih.embed hembed
  | @changeProduct _ _ _ c _ _ hd hq ih =>
    exact ih.assign (by cases c <;> decide) (fun v ↦ hproduct c _ v hd) (updateProduct_eq_ok hq)
  | @changeVariant _ _ _ c _ _ hd hq ih =>
    exact ih.assign (by cases c <;> decide) (fun v ↦ hvariant c _ v hd) (updateVariant_eq_ok hq)

/-- The input of a query that plain callers reach is plain. -/
theorem Reached.plainInputs (h : Reached .plain o q) : q.HasPlainInputs :=
  h.hasInputValues isPlain_id (fun _ _ _ ↦ ProductChange.convert_isPlain)
    fun _ _ _ ↦ VariantChange.convert_isPlain

end Query

end CatalogQuery
