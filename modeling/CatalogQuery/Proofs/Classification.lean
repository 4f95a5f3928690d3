import CatalogQuery.Proofs.Decode
import CatalogQuery.Proofs.Shape
import CatalogQuery.Proofs.WireValue

/-!
# Every body is one of three things

What a payload has to be made of is said by `Part.Accepts`, without reference to a reader: every
field that has to be there is there, and every field that is there holds what it has to hold, or
null if it may. `Part.isOk_check_iff` says that exactly such values are accepted. Acceptance is read
off the table of shapes, so one induction covers all root fields and every depth at which products
and variants alternate.

The reading of a whole body falls apart accordingly (`Envelope.decode_trichotomy`). A body is
undecodable, or it reports errors, or it answers one root field; what was asked for decides only
whether an answer fits.

## Acceptance without a reader

`Part.Accepts` has constructors for an object and for the two kinds of list, and its object
constructor quantifies over the slots of the table. There is no order of checks in it, no fault, and
no value that is built. The check has all of this, so the direction from the check to acceptance is
an induction on the size of the value: the check looks parts up in it, and what is looked up is
smaller. The other direction is an induction on acceptance.

## From the classes to the readings

A body is classed before it is known what was asked for. The two forms of a class are described by
`HasErrors` and `HasAnswer`, which speak of the body, and the three readings by `IsUndecodable`,
`Reports` and `AnswersOnly`, which speak of all requests. The readings exclude each other since they
differ at some request, and there is always one since there is always a class.
-/

open CatalogQuery.Attempt

namespace CatalogQuery

/-! ### What is accepted

What a leaf accepts is said by the readings of single values. Of an object two things are asked: the
required fields are there, and what is there is accepted. Whether null is accepted depends on the
field that holds it, so it is the object that says so, and null itself is no object.
-/

/-- What is accepted where no object has to stand. -/
def Leaf.Accepts : Leaf → Datum → Prop
  | .text, d => d.asText?.isSome = true
  | .texts, d => ∃ xs, (d = .list xs ∨ d = .tuple xs) ∧ ∀ x ∈ xs, x.asText?.isSome = true
  | .price, d => d.asText?.isSome = true ∨ (Coerce.float d).isOk = true
  | .integer, d => (Coerce.int d).isOk = true
  | .number, d => (Coerce.float d).isOk = true
  | .count, d => d.asText?.isSome = true ∨ (Coerce.int d).isOk = true

/-- What is accepted as the value of a field. -/
inductive Part.Accepts : Part → Datum → Prop
  /-- A value that is no object. -/
  | leaf {l : Leaf} {d : Datum} (value : l.Accepts d) : Part.Accepts (.leaf l) d
  /-- An object: its required fields are there, and every field that is there is accepted, unless it
  is optional and null. -/
  | object {s : Shape} {es : List (Datum × Datum)}
      (required : ∀ f ∈ s.slots, f.isRequired = true → (f.value? es).isSome = true)
      (values : ∀ f ∈ s.slots, ∀ v, f.value? es = some v → (f.isRequired = true ∨ v ≠ .null) →
        Part.Accepts f.part v) :
      Part.Accepts (.object s) (.dict es)
  /-- A list of objects. -/
  | list {s : Shape} {xs : List Datum} (items : ∀ x ∈ xs, Part.Accepts (.object s) x) :
      Part.Accepts (.list s) (.list xs)
  /-- A tuple of objects. -/
  | tuple {s : Shape} {xs : List Datum} (items : ∀ x ∈ xs, Part.Accepts (.object s) x) :
      Part.Accepts (.list s) (.tuple xs)

/-- No object is null. -/
theorem Part.not_accepts_null (s : Shape) : ¬Part.Accepts (.object s) .null :=
  nofun

/-! ### Single checks

Each check of the library is met by one equivalence: the checks of a required and of an optional
field, of the items of a list, and of a leaf. They say when a check succeeds and leave open which
issues it has otherwise.
-/

section Checks

variable {α : Type}

/-- A list is accepted if its items are. -/
theorem isOk_checkItems {xs : List Datum} {check : Datum → Checked α} (index : Nat) :
    (checkItems index xs fun x _ ↦ check x).isOk = true ↔ ∀ x ∈ xs, (check x).isOk = true := by
  induction xs generalizing index with
  | nil => simp [checkItems]
  | cons x xs ih =>
    rw [checkItems, Checked.isOk_ap, Checked.isOk_map, Checked.isOk_under, Bool.and_eq_true, ih,
      List.forall_mem_cons]

variable {name plainName : String} {es : List (Datum × Datum)} {check : Datum → Checked α}

/-- A field that has to be there is accepted if it is there and its value is accepted. -/
theorem isOk_checkField :
    (checkField name plainName es fun v _ ↦ check v).isOk = true ↔
      ∃ v, fieldValue? name plainName es = some v ∧ (check v).isOk = true := by
  rw [checkField_eq, Checked.isOk_under]
  cases fieldValue? name plainName es <;> simp [Checked.fail]

/-- An optional field is accepted if its value is, unless there is none or it is null. -/
theorem isOk_checkOptional :
    (checkOptional name plainName es fun v _ ↦ check v).isOk = true ↔
      ∀ v, fieldValue? name plainName es = some v → v ≠ .null → (check v).isOk = true := by
  rw [checkOptional_eq, Checked.isOk_under]
  cases fieldValue? name plainName es with
  | none => simp [checkPresent]
  | some v =>
    by_cases hnull : v = .null
    · simp [hnull, checkPresent]
    · simp [hnull, checkPresent_some]

end Checks

/-- A field is accepted if it is there or need not be, and its value is, unless it is optional and
null. -/
theorem Slot.isOk_check {f : Slot} {es : List (Datum × Datum)} :
    (f.check es).isOk = true ↔
      (f.isRequired = true → (f.value? es).isSome = true) ∧
        ∀ v, f.value? es = some v → (f.isRequired = true ∨ v ≠ .null) →
          (f.part.check v).isOk = true := by
  obtain ⟨name, plainName, part, isRequired⟩ := f
  cases isRequired with
  | true =>
    refine isOk_checkField.trans ?_
    rw [Slot.value?]
    constructor
    · rintro ⟨v, hv, hok⟩
      refine ⟨fun _ ↦ by rw [hv]; rfl, fun w hw _ ↦ ?_⟩
      obtain rfl : v = w := Option.some.inj (hv.symm.trans hw)
      exact hok
    · rintro ⟨hthere, hvalue⟩
      obtain ⟨v, hv⟩ := Option.isSome_iff_exists.1 (hthere rfl)
      exact ⟨v, hv, hvalue v hv (.inl rfl)⟩
  | false =>
    refine isOk_checkOptional.trans ?_
    simp [Slot.value?]

/-- What is read as a text is what is accepted as one. -/
theorem isOk_text {d : Datum} : (Coerce.text d).isOk = true ↔ d.asText?.isSome = true := by
  unfold Coerce.text
  split
  · next h => simp [h]
  · next h => simp [h, Checked.fail]

/-- What is read as texts is what is accepted as them. -/
theorem isOk_checkTags {d : Datum} : (checkTags d).isOk = true ↔ Leaf.texts.Accepts d := by
  cases d with
  | list xs | tuple xs =>
    refine (isOk_checkItems 0).trans ?_
    simp [Leaf.Accepts, isOk_text]
  | _ => simp [checkTags, checkList, Leaf.Accepts, Checked.fail]

/-- The check of a leaf accepts what is accepted there. -/
theorem Leaf.isOk_check {l : Leaf} {d : Datum} : (l.check d).isOk = true ↔ l.Accepts d := by
  cases l with
  | text => exact isOk_text
  | texts => exact isOk_checkTags
  | price =>
    show (Price.check d).isOk = true ↔ _ ∨ _
    rw [← isOk_text, Price.check]
    cases Coerce.text d <;> cases Coerce.float d <;> simp
  | integer => exact Iff.rfl
  | number => exact Iff.rfl
  | count =>
    show (ObjectCount.check d).isOk = true ↔ _ ∨ _
    rw [← isOk_text, ObjectCount.check]
    cases Coerce.text d <;> cases Coerce.int d <;> simp

/-! ### Values at every depth -/

/-- What is accepted passes the check. -/
theorem Part.isOk_check_of_accepts {p : Part} {d : Datum} (h : p.Accepts d) :
    (p.check d).isOk = true := by
  induction h with
  | leaf value => exact Leaf.isOk_check.2 value
  | object required _ ih =>
    exact Shape.isOk_check_dict.2 fun f hf ↦ Slot.isOk_check.2 ⟨required f hf, ih f hf⟩
  | list _ ih => exact (isOk_checkItems 0).2 ih
  | tuple _ ih => exact (isOk_checkItems 0).2 ih

/-- Nothing but a mapping passes the check of an object. -/
theorem Shape.eq_dict_of_isOk_check {s : Shape} {d : Datum} (h : (s.check d).isOk = true) :
    ∃ es, d = .dict es := by
  by_contra hdict
  rw [Shape.check_of_ne_dict (not_exists.1 hdict)] at h
  cases h

/-- Nothing but a list or a tuple passes the check of a list. -/
theorem Part.eq_list_of_isOk_check {s : Shape} {d : Datum}
    (h : ((Part.list s).check d).isOk = true) :
    ∃ xs, d = .list xs ∨ d = .tuple xs := by
  cases d with
  | list xs => exact ⟨xs, .inl rfl⟩
  | tuple xs => exact ⟨xs, .inr rfl⟩
  | _ => cases h

/-- What passes the check is accepted. The values of the fields and the items of a list are smaller
than the whole. -/
theorem Part.accepts_of_isOk_check {p : Part} {d : Datum} (h : (p.check d).isOk = true) :
    p.Accepts d := by
  -- The check goes on with what it looks up in `d`, not with a part that a constructor names: hence
  -- the size.
  induction hsize : sizeOf d using Nat.strong_induction_on generalizing p d with
  | _ n ih =>
    subst hsize
    cases p with
    | leaf l => exact .leaf (Leaf.isOk_check.1 h)
    | object s =>
      obtain ⟨es, rfl⟩ := Shape.eq_dict_of_isOk_check h
      have hslots (f : Slot) (hf : f ∈ s.slots) :=
        Slot.isOk_check.1 (Shape.isOk_check_dict.1 h f hf)
      refine .object (fun f hf ↦ (hslots f hf).1) fun f hf v hv hnull ↦ ?_
      have hlt : sizeOf v < sizeOf es := sizeOf_lt_of_fieldValue? hv
      exact ih (sizeOf v) (by simp; omega) ((hslots f hf).2 v hv hnull) rfl
    | list s =>
      have hitem (xs : List Datum) (hsize : sizeOf xs < sizeOf d)
          (hok : ∀ x ∈ xs, (s.check x).isOk = true) : ∀ x ∈ xs, (Part.object s).Accepts x := by
        intro x hx
        have hlt := List.sizeOf_lt_of_mem hx
        exact ih (sizeOf x) (by omega) (p := .object s) (hok x hx) rfl
      obtain ⟨xs, rfl | rfl⟩ := eq_list_of_isOk_check h
      · exact .list (hitem xs (by simp) ((isOk_checkItems 0).1 h))
      · exact .tuple (hitem xs (by simp) ((isOk_checkItems 0).1 h))

/-- **Exactly what is accepted passes the check.** -/
theorem Part.isOk_check_iff {p : Part} {d : Datum} : (p.check d).isOk = true ↔ p.Accepts d :=
  ⟨accepts_of_isOk_check, isOk_check_of_accepts⟩

/-- The check of the payload of a root field is the check of its shape. -/
theorem Payload.isOk_check_iff {a : RootField} {d : Datum} :
    (Payload.check a d).isOk = true ↔ (Part.object a.shape).Accepts d := by
  rw [← Part.isOk_check_iff]
  cases a <;> exact Bool.eq_iff_iff.1 (Checked.isOk_map _ _)

/-! ### The three readings of a body

The three predicates quantify over all that can be asked for, so that what a body is does not depend
on the request. The two forms, `HasErrors` and `HasAnswer`, mention no request at all and are
conditions on the entries of the body.
-/

namespace Envelope

/-- The body is undecodable, for one reason and whatever is asked for. -/
def IsUndecodable (body : Body) : Prop :=
  ∃ reason, ∀ expected, decode body.bytes expected = .error (.undecodable body.bytes reason)

/-- The body reports errors, whatever is asked for. -/
def Reports (body : Body) (errors : Datum) : Prop :=
  ∀ expected, decode body.bytes expected = .error (.remote errors)

/-- The body answers one root field, and is a mismatch for every other. -/
structure AnswersOnly (body : Body) (a : RootField) : Prop where
  /-- It answers the root field. -/
  answers : ∃ s, decode body.bytes a = .ok s ∧ s.operation = a
  /-- It is a mismatch for every other. -/
  mismatch : ∀ expected, expected ≠ a →
    decode body.bytes expected =
      .error (.shapeMismatch (Vocabulary.wire expected) (Vocabulary.wire a))

/-- The body is an object with something under `errors`. -/
def HasErrors (body : Body) (errors : Datum) : Prop :=
  ∃ es, Json.read body.bytes = .ok (.dict es) ∧ Datum.field? "errors" es = some errors ∧
    errors.isTruthy = true

/-- The body is an object with nothing under `errors` and a single root field under `data`, whose
payload is accepted, or null if it may be. -/
def HasAnswer (body : Body) (a : RootField) : Prop :=
  ∃ es payload, Json.read body.bytes = .ok (.dict es) ∧
    (∀ errors, Datum.field? "errors" es = some errors → errors.isTruthy = false) ∧
    Datum.field? "data" es = some (.dict [(.str (Vocabulary.wire a), payload)]) ∧
    (payload = .null ∧ a.isNullable = true ∨ (Part.object a.shape).Accepts payload)

/-! ### From the class of a body to its readings

Decoding classes the body first and compares the root field of an answer with the one that was asked
for. The three lemmas are these two steps in each of the three cases.
-/

section Decode

variable {body : List UInt8}

/-- A body without a class is undecodable, whatever is asked for. -/
theorem decode_of_error {reason : DecodeReason} (h : classify body = .error reason)
    (expected : RootField) : decode body expected = .error (.undecodable body reason) := by
  rw [decode, parse, h]

/-- A body with errors reports them, whatever is asked for. -/
theorem decode_of_errors {reported data : Datum} (h : classify body = .ok (.errors reported data))
    (expected : RootField) : decode body expected = .error (.remote reported) := by
  rw [decode, parse, h]
  rfl

/-- An answer is one to its own root field only. -/
theorem decode_of_success {s : Success} (h : classify body = .ok (.success s))
    (expected : RootField) :
    decode body expected =
      if s.operation = expected then .ok s
      else .error (.shapeMismatch (Vocabulary.wire expected) (Vocabulary.wire s.operation)) := by
  rw [decode, parse, h]
  rfl

end Decode

/-! ### From the form of a body to its class

The class is decided by what stands under two keys, and each look at them is restated as a condition
on the entries. Together they give the class of a body as an equivalence, in both cases in which it
has one.
-/

/-- Something counts under a key exactly if it is there and counts. -/
theorem truthy_entry_iff {es : List (Datum × Datum)} {d : Datum} {key : String} :
    entry key es = d ∧ d.isTruthy = true ↔ Datum.field? key es = some d ∧ d.isTruthy = true := by
  rw [entry]
  cases Datum.field? key es with
  | none =>
    constructor
    · rintro ⟨rfl, htruthy⟩
      cases htruthy
    · rintro ⟨hfield, -⟩
      cases hfield
  | some v => simp

/-- Nothing counts under a key exactly if what is there, if anything, does not count. -/
theorem falsy_entry_iff {es : List (Datum × Datum)} {key : String} :
    (entry key es).isTruthy = false ↔ ∀ d, Datum.field? key es = some d → d.isTruthy = false := by
  rw [entry]
  cases Datum.field? key es with
  | none =>
    refine ⟨fun _ d hfield ↦ ?_, fun _ ↦ rfl⟩
    cases hfield
  | some v => simp

/-- There is a root field exactly in a mapping of one entry. -/
theorem root?_eq_some_iff {d payload : Datum} {key : Text} :
    root? d = some (key, payload) ↔ d = .dict [(.text key, payload)] := by
  constructor
  · intro h
    unfold root? at h
    split at h
    · cases h
      rfl
    · cases h
  · rintro rfl
    rfl

/-- A payload is read exactly when it is null and may be, or is accepted. -/
theorem readPayload_isOk_iff {a : RootField} {payload : Datum} :
    (readPayload a payload).isOk = true ↔
      payload = .null ∧ a.isNullable = true ∨ (Part.object a.shape).Accepts payload := by
  unfold readPayload
  split
  · have hnot := Part.not_accepts_null a.shape
    split <;> simp_all
  · next hnull =>
    rw [← Payload.isOk_check_iff]
    split <;> simp_all

/-- The root field of a key is the one whose wire form the key is. -/
theorem rootField_eq_some_iff {key : Text} {a : RootField} :
    key.toString?.bind Vocabulary.ofWire? = some a ↔ key = .str (Vocabulary.wire a) := by
  constructor
  · intro h
    obtain ⟨s, hs, ha⟩ := Option.bind_eq_some_iff.1 h
    have hwire : Vocabulary.wire a = s := by simpa using List.find?_some ha
    cases key with
    | str t =>
      cases hs
      rw [hwire]
    | broken ps => cases hs
  · rintro rfl
    exact Vocabulary.IsLawful.ofWire?_wire a

/-- A body is classed by its entries, if it is an object. -/
theorem classify_eq_iff {body : List UInt8} {e : Envelope} :
    classify body = .ok e ↔ ∃ es, Json.read body = .ok (.dict es) ∧ ofEntries es = .ok e := by
  rw [classify]
  cases Json.read body with
  | error reason => simp
  | ok d =>
    constructor
    · intro h
      cases d with
      | dict es => exact ⟨es, rfl, h⟩
      | _ => cases h
    · rintro ⟨es, ⟨⟩, h⟩
      exact h

/-- An object is classed as errors exactly if something counts under `errors`. -/
theorem ofEntries_eq_errors_iff {es : List (Datum × Datum)} {reported data : Datum} :
    ofEntries es = .ok (.errors reported data) ↔
      (Datum.field? "errors" es = some reported ∧ reported.isTruthy = true) ∧
        entry "data" es = data := by
  rw [← truthy_entry_iff, ofEntries]
  split
  · next htruthy =>
    constructor
    · intro h
      cases h
      exact ⟨⟨rfl, htruthy⟩, rfl⟩
    · rintro ⟨⟨rfl, -⟩, rfl⟩
      rfl
  · next hfalsy =>
    constructor
    · intro h
      split at h
      · cases h
      · split at h
        · cases h
        · split at h <;> cases h
    · rintro ⟨⟨rfl, htruthy⟩, -⟩
      exact absurd htruthy hfalsy

/-- The object of a body with one root field is classed by the payload of that field. -/
theorem ofEntries_of_root {es : List (Datum × Datum)} {a : RootField} {payload : Datum}
    (hfalsy : (entry "errors" es).isTruthy = false)
    (hdata : entry "data" es = .dict [(.str (Vocabulary.wire a), payload)]) :
    ofEntries es = (readPayload a payload).map fun p ↦
      .success { operation := a, payload := p, extensions := entry "extensions" es } := by
  have hroot := root?_eq_some_iff.2 hdata
  have hfield := rootField_eq_some_iff.2 (Eq.refl (Text.str (Vocabulary.wire a)))
  simp only [ofEntries, hfalsy, Bool.false_eq_true, if_false, hroot, hfield]
  cases readPayload a payload <;> rfl

/-- An object is classed as an answer exactly if nothing counts under `errors` and the data hold one
root field with a payload that is read. -/
theorem ofEntries_eq_success_iff {es : List (Datum × Datum)} {s : Success} :
    ofEntries es = .ok (.success s) ↔
      (entry "errors" es).isTruthy = false ∧
        ∃ payload, entry "data" es = .dict [(.str (Vocabulary.wire s.operation), payload)] ∧
          readPayload s.operation payload = .ok s.payload ∧
            entry "extensions" es = s.extensions := by
  constructor
  · intro h
    simp only [ofEntries] at h
    split at h
    · cases h
    · next hfalsy =>
      refine ⟨Bool.eq_false_iff.2 hfalsy, ?_⟩
      split at h
      · cases h
      · next key payload hroot =>
        split at h
        · cases h
        · next a ha =>
          split at h
          · next hread =>
            cases h
            refine ⟨payload, ?_, hread, rfl⟩
            rw [root?_eq_some_iff.1 hroot, rootField_eq_some_iff.1 ha]
          · cases h
  · rintro ⟨hfalsy, payload, hdata, hread, hextensions⟩
    rw [ofEntries_of_root hfalsy hdata, hread, hextensions]
    rfl

/-- **A body is classed as errors exactly when it has some.** -/
theorem exists_classify_errors_iff {body : Body} {errors : Datum} :
    (∃ data, classify body.bytes = .ok (.errors errors data)) ↔ HasErrors body errors := by
  simp only [classify_eq_iff, ofEntries_eq_errors_iff]
  constructor
  · rintro ⟨_, es, hread, ⟨hfield, htruthy⟩, -⟩
    exact ⟨es, hread, hfield, htruthy⟩
  · rintro ⟨es, hread, hfield, htruthy⟩
    exact ⟨entry "data" es, es, hread, ⟨hfield, htruthy⟩, rfl⟩

/-- **A body is classed as the answer of a root field exactly when it has the form of one.** -/
theorem exists_classify_success_iff {body : Body} {a : RootField} :
    (∃ s, classify body.bytes = .ok (.success s) ∧ s.operation = a) ↔ HasAnswer body a := by
  simp only [classify_eq_iff, ofEntries_eq_success_iff, falsy_entry_iff]
  constructor
  · rintro ⟨s, ⟨es, hread, hfalsy, payload, hdata, hpayload, -⟩, rfl⟩
    have hfield := (truthy_entry_iff.1 ⟨hdata, rfl⟩).1
    have haccepted : (readPayload s.operation payload).isOk = true := by
      rw [hpayload]
      rfl
    exact ⟨es, payload, hread, hfalsy, hfield, readPayload_isOk_iff.1 haccepted⟩
  · rintro ⟨es, payload, hread, hfalsy, hfield, haccepted⟩
    obtain ⟨p, hp⟩ := isOk_iff.1 (readPayload_isOk_iff.2 haccepted)
    have hdata := (truthy_entry_iff.2 ⟨hfield, rfl⟩).1
    exact ⟨⟨a, p, entry "extensions" es⟩, ⟨es, hread, hfalsy, payload, hdata, hp, rfl⟩, rfl⟩

/-! ### The readings

Uniqueness comes first: the readings of one body exclude each other and a report has one value of
errors. With the implications from form to reading, and one form or the other being there, the
equivalences follow without looking at the classification again.
-/

/-- A body answers at most one root field. -/
theorem AnswersOnly.unique {body : Body} {a b : RootField} (ha : AnswersOnly body a)
    (hb : AnswersOnly body b) : a = b := by
  by_contra hne
  obtain ⟨s, hs, -⟩ := ha.answers
  exact nomatch hs.symm.trans (hb.mismatch a hne)

/-- What is undecodable reports nothing. -/
theorem not_reports_of_isUndecodable {body : Body} (h : IsUndecodable body) (errors : Datum) :
    ¬Reports body errors := by
  intro herrors
  obtain ⟨reason, hreason⟩ := h
  exact nomatch (hreason .product).symm.trans (herrors .product)

/-- What is undecodable answers nothing. -/
theorem not_answersOnly_of_isUndecodable {body : Body} (h : IsUndecodable body) (a : RootField) :
    ¬AnswersOnly body a := by
  intro ha
  obtain ⟨reason, hreason⟩ := h
  obtain ⟨s, hs, -⟩ := ha.answers
  exact nomatch (hreason a).symm.trans hs

/-- What reports errors answers nothing. -/
theorem not_answersOnly_of_reports {body : Body} {errors : Datum} (h : Reports body errors)
    (a : RootField) : ¬AnswersOnly body a := by
  intro ha
  obtain ⟨s, hs, -⟩ := ha.answers
  exact nomatch (h a).symm.trans hs

/-- A body with errors reports them. -/
theorem reports_of_hasErrors {body : Body} {errors : Datum} (h : HasErrors body errors) :
    Reports body errors := by
  obtain ⟨_, hclass⟩ := exists_classify_errors_iff.2 h
  exact decode_of_errors hclass

/-- A body of the form of an answer answers its root field. -/
theorem answersOnly_of_hasAnswer {body : Body} {a : RootField} (h : HasAnswer body a) :
    AnswersOnly body a := by
  obtain ⟨s, hclass, rfl⟩ := exists_classify_success_iff.2 h
  refine ⟨⟨s, ?_, rfl⟩, fun expected hne ↦ ?_⟩
  · rw [decode_of_success hclass, if_pos rfl]
  · rw [decode_of_success hclass, if_neg hne.symm]

/-- A body has errors, or has the form of an answer, or is undecodable. -/
theorem hasErrors_or_hasAnswer_or_isUndecodable (body : Body) :
    (∃ errors, HasErrors body errors) ∨ (∃ a, HasAnswer body a) ∨ IsUndecodable body := by
  rcases hclass : classify body.bytes with reason | e
  · exact .inr (.inr ⟨reason, decode_of_error hclass⟩)
  · cases e with
    | errors reported data => exact .inl ⟨reported, exists_classify_errors_iff.1 ⟨data, hclass⟩⟩
    | success s =>
      exact .inr (.inl ⟨s.operation, exists_classify_success_iff.1 ⟨s, hclass, rfl⟩⟩)

/-- A report carries the errors of the body. -/
theorem Reports.unique {body : Body} {errors reported : Datum} (h : Reports body errors)
    (h' : Reports body reported) : reported = errors := by
  have heq := (h' .product).symm.trans (h .product)
  cases heq
  rfl

/-- **A body reports errors exactly when it has them**, verbatim. -/
theorem reports_iff {body : Body} {errors : Datum} :
    Reports body errors ↔ HasErrors body errors := by
  -- A body of another form is read in another way, and no body is read in two.
  refine ⟨fun h ↦ ?_, reports_of_hasErrors⟩
  rcases hasErrors_or_hasAnswer_or_isUndecodable body with ⟨e, he⟩ | ⟨a, ha⟩ | hundecodable
  · rwa [(reports_of_hasErrors he).unique h]
  · exact absurd (answersOnly_of_hasAnswer ha) (not_answersOnly_of_reports h a)
  · exact absurd h (not_reports_of_isUndecodable hundecodable errors)

/-- **A body answers exactly the root field that it has the form of an answer of.** -/
theorem answersOnly_iff {body : Body} {a : RootField} : AnswersOnly body a ↔ HasAnswer body a := by
  refine ⟨fun h ↦ ?_, answersOnly_of_hasAnswer⟩
  rcases hasErrors_or_hasAnswer_or_isUndecodable body with ⟨e, he⟩ | ⟨b, hb⟩ | hundecodable
  · exact absurd h (not_answersOnly_of_reports (reports_of_hasErrors he) a)
  · rwa [h.unique (answersOnly_of_hasAnswer hb)]
  · exact absurd h (not_answersOnly_of_isUndecodable hundecodable a)

/-- **Every body is exactly one of three things**, whatever is asked for: undecodable, a report of
errors, or the answer of one root field and a mismatch for every other. It is a report exactly when
it has errors, and an answer exactly when it has the form of one. -/
theorem decode_trichotomy (body : Body) :
    ((IsUndecodable body ∧ (∀ errors, ¬Reports body errors) ∧ ∀ a, ¬AnswersOnly body a) ∨
      (¬IsUndecodable body ∧ (∃! errors, Reports body errors) ∧ ∀ a, ¬AnswersOnly body a) ∨
      (¬IsUndecodable body ∧ (∀ errors, ¬Reports body errors) ∧ ∃! a, AnswersOnly body a)) ∧
    (∀ errors, Reports body errors ↔ HasErrors body errors) ∧
    ∀ a, AnswersOnly body a ↔ HasAnswer body a := by
  refine ⟨?_, fun _ ↦ reports_iff, fun _ ↦ answersOnly_iff⟩
  obtain ⟨errors, herrors⟩ | ⟨a, ha⟩ | hundecodable :=
    hasErrors_or_hasAnswer_or_isUndecodable body
  · have hreports := reports_of_hasErrors herrors
    exact .inr (.inl ⟨fun h ↦ not_reports_of_isUndecodable h errors hreports,
      ⟨errors, hreports, fun _ h ↦ hreports.unique h⟩, not_answersOnly_of_reports hreports⟩)
  · have honly := answersOnly_of_hasAnswer ha
    exact .inr (.inr ⟨fun h ↦ not_answersOnly_of_isUndecodable h a honly,
      fun _ h ↦ not_answersOnly_of_reports h a honly, ⟨a, honly, fun _ h ↦ h.unique honly⟩⟩)
  · exact .inl ⟨hundecodable, not_reports_of_isUndecodable hundecodable,
      not_answersOnly_of_isUndecodable hundecodable⟩

end Envelope

end CatalogQuery
