import CatalogQuery.Proofs.JsonReader
import CatalogQuery.Proofs.Reached

/-!
# What a change comes to

A change looks at the query and converts its value. On an update the outcome is that of the
conversion (`Query.precheck_assign_of_update`, for variants `Query.updateVariant_of_update`): an
update that calls reach has an input, and only an update does (`Query.HasInputs`). On any other
query the change is a misuse that names the kind of the query and the call, whatever the value is,
but for one case: a text attribute is made a text before the query is looked at, and a value in
which an integer beyond the digit limit occurs has no text (`Query.change_misuse`). Such a value is
the only one that is noticed on a query that takes no changes.

## The order of the steps

A change converts its value inside of the check of the query, so that a misuse wins over a value
that cannot be converted. Text attributes have one conversion before it (`Query.precheck`). On an
update that conversion is made twice to the same end, which is why `Query.precheck_assign_of_update`
can leave it out; on any other query it is the only thing that can fail before the misuse. For which
values it fails is said by a predicate with one constructor for each place where an integer can
stand (`Datum.HasLongInteger`), and not by the computation (`Datum.hasText_eq_false_iff`).
-/

namespace CatalogQuery

/-! ### Values without a text -/

namespace Datum

/-- An integer beyond the digit limit occurs in a value, at some depth. -/
inductive HasLongInteger : Datum → Prop
  /-- An integer itself. -/
  | int {n : Int} (h : integerFits n = false) : HasLongInteger (.int n)
  /-- In an item of a list. -/
  | list {x : Datum} {xs : List Datum} (hx : x ∈ xs)
      (h : HasLongInteger x) : HasLongInteger (.list xs)
  /-- In an item of a tuple. -/
  | tuple {x : Datum} {xs : List Datum} (hx : x ∈ xs)
      (h : HasLongInteger x) : HasLongInteger (.tuple xs)
  /-- In a key of a mapping. -/
  | key {k v : Datum} {es : List (Datum × Datum)} (he : (k, v) ∈ es) (h : HasLongInteger k) :
      HasLongInteger (.dict es)
  /-- In a value of a mapping. -/
  | value {k v : Datum} {es : List (Datum × Datum)} (he : (k, v) ∈ es) (h : HasLongInteger v) :
      HasLongInteger (.dict es)
  /-- In a value of another class, which has no text for such an integer. -/
  | foreign {o : Foreign} {elements : Option (List Datum)} (h : o.hasText = false) :
      HasLongInteger (.foreign o elements)

/-- A value in which such an integer occurs has no text. -/
theorem HasLongInteger.hasText_eq_false {d : Datum} (h : d.HasLongInteger) : d.hasText = false := by
  induction h with
  | int h => exact h
  | list hx _ ih | tuple hx _ ih =>
    exact Bool.eq_false_iff.2 fun htext ↦ Bool.eq_false_iff.1 ih (hasTextItems_iff.1 htext _ hx)
  | key he _ ih =>
    exact Bool.eq_false_iff.2 fun htext ↦ Bool.eq_false_iff.1 ih (hasTextEntries_iff.1 htext _ he).1
  | value he _ ih =>
    exact Bool.eq_false_iff.2 fun htext ↦ Bool.eq_false_iff.1 ih (hasTextEntries_iff.1 htext _ he).2
  | foreign h => exact h

mutual

/-- A value that has no text holds such an integer; the recursion finds it. -/
theorem hasLongInteger_of_hasText : ∀ d : Datum, d.hasText = false → d.HasLongInteger
  | .int n => by
    rw [hasText]
    intro h
    exact .int h
  | .foreign o elements => by
    rw [hasText]
    intro h
    exact .foreign h
  | .list xs => by
    rw [hasText]
    intro h
    obtain ⟨x, hx, hlong⟩ := exists_hasLongInteger_of_items xs h
    exact .list hx hlong
  | .tuple xs => by
    rw [hasText]
    intro h
    obtain ⟨x, hx, hlong⟩ := exists_hasLongInteger_of_items xs h
    exact .tuple hx hlong
  | .dict es => by
    rw [hasText]
    intro h
    obtain ⟨e, he, hlong | hlong⟩ := exists_hasLongInteger_of_entries es h
    · exact .key he hlong
    · exact .value he hlong
  | .null | .bool _ | .float _ | .text _ | .octets _ | .word _ | .id _ | .money _ => by
    simp [hasText]

/-- Among items without a text there is one that holds such an integer. -/
theorem exists_hasLongInteger_of_items : ∀ xs : List Datum, hasTextItems xs = false →
    ∃ x ∈ xs, x.HasLongInteger
  | [], h => by
    simp [hasTextItems] at h
  | x :: xs, h => by
    rw [hasTextItems, Bool.and_eq_false_iff] at h
    rcases h with h | h
    · exact ⟨x, List.mem_cons_self, hasLongInteger_of_hasText x h⟩
    · obtain ⟨y, hy, hlong⟩ := exists_hasLongInteger_of_items xs h
      exact ⟨y, List.mem_cons_of_mem x hy, hlong⟩

/-- Among entries without a text there is one that holds such an integer in its key or its value. -/
theorem exists_hasLongInteger_of_entries : ∀ es : List (Datum × Datum), hasTextEntries es = false →
    ∃ e ∈ es, e.1.HasLongInteger ∨ e.2.HasLongInteger
  | [], h => by
    simp [hasTextEntries] at h
  | (k, v) :: es, h => by
    rw [hasTextEntries, Bool.and_eq_false_iff, Bool.and_eq_false_iff] at h
    rcases h with (h | h) | h
    · exact ⟨(k, v), List.mem_cons_self, .inl (hasLongInteger_of_hasText k h)⟩
    · exact ⟨(k, v), List.mem_cons_self, .inr (hasLongInteger_of_hasText v h)⟩
    · obtain ⟨e, he, hlong⟩ := exists_hasLongInteger_of_entries es h
      exact ⟨e, List.mem_cons_of_mem _ he, hlong⟩

end

/-- A value has no text exactly if an integer beyond the digit limit occurs in it. -/
theorem hasText_eq_false_iff {d : Datum} : d.hasText = false ↔ d.HasLongInteger :=
  ⟨hasLongInteger_of_hasText d, HasLongInteger.hasText_eq_false⟩

end Datum

/-- The conversion to a text fails for a value that has none. -/
theorem Convert.text_of_hasLongInteger {d : Datum} (h : d.HasLongInteger) :
    text d = Outcome.fault .badValue := by
  rw [text, h.hasText_eq_false]
  rfl

/-- The conversion to a text gives the text of every other value. -/
theorem Convert.text_of_not_hasLongInteger {d : Datum} (h : ¬ d.HasLongInteger) :
    text d = .ok (.text d.plain) := by
  rw [text, if_pos (by simpa using mt Datum.hasText_eq_false_iff.1 h)]

/-- The text attributes of a product are those that are made texts. -/
theorem ProductChange.convert_of_isText {c : ProductChange} (h : c.isText = true) :
    c.convert = Convert.text := by
  cases c <;> first | rfl | cases h

/-- The text attributes of a variant are those that are made texts. -/
theorem VariantChange.convert_of_isText {c : VariantChange} (h : c.isText = true) :
    c.convert = Convert.text := by
  cases c <;> first | rfl | cases h

/-! ### Changes of any query -/

namespace Query

variable {e : Entity} {q : Query e} {inputs : Inputs} {call key : String} {isText : Bool}
  {converted : Outcome Datum}

/-- On an update, what was converted is assigned; whether it was converted before does not
matter. -/
theorem precheck_assign_of_update (hkind : q.kind = .update) (hinputs : q.inputs = some inputs) :
    (precheck isText converted >>= fun _ ↦ q.assign call key converted) =
      converted.map fun v ↦ { q with inputs := some (inputs.assign key v) } := by
  have hassign : q.assign call key converted =
      converted.map fun v ↦ { q with inputs := some (inputs.assign key v) } := by
    rw [assign, hkind, hinputs]
  cases isText with
  | false => exact hassign
  | true =>
    -- Made before the query is looked at or after, the conversion comes to the same.
    cases converted with
    | error failure => rfl
    | ok v => exact hassign

/-- On any other query only the conversion of a text attribute is noticed. -/
theorem precheck_assign_of_ne_update (hkind : q.kind ≠ .update) :
    (precheck isText converted >>= fun _ ↦ q.assign call key converted) =
      precheck isText converted >>= fun _ ↦ .error (.misuse q.kindName call none) := by
  have hassign : q.assign call key converted = .error (.misuse q.kindName call none) := by
    rw [assign]
    split
    · next hupdate _ => exact absurd hupdate hkind
    · rfl
  rw [hassign]

/-- On an update, a change of a variant assigns what its value is converted to. -/
theorem updateVariant_of_update {q : Query .variant} (hkind : q.kind = .update)
    (hinputs : q.inputs = some inputs) (c : VariantChange) (d : Datum) :
    q.updateVariant c d =
      (c.convert d).map fun v ↦ { q with inputs := some (inputs.assign c.key v) } :=
  precheck_assign_of_update hkind hinputs

/-- How a change ends on a query that is no update, for a conversion to text or one that is not made
first.
-/
theorem precheck_assign_cases {d : Datum} (hkind : q.kind ≠ .update)
    (hconverted : isText = true → converted = Convert.text d) :
    (¬ (isText = true ∧ d.HasLongInteger) →
      (precheck isText converted >>= fun _ ↦ q.assign call key converted) =
        .error (.misuse q.kindName call none)) ∧
    (isText = true ∧ d.HasLongInteger →
      (precheck isText converted >>= fun _ ↦ q.assign call key converted) =
        Outcome.fault .badValue) := by
  rw [precheck_assign_of_ne_update hkind]
  cases isText with
  | false => exact ⟨fun _ ↦ rfl, fun h ↦ by cases h.1⟩
  | true =>
    rw [hconverted rfl]
    refine ⟨fun h ↦ ?_, fun h ↦ ?_⟩
    · rw [Convert.text_of_not_hasLongInteger fun hlong ↦ h ⟨rfl, hlong⟩]
      rfl
    · rw [Convert.text_of_hasLongInteger h.2]
      rfl

/-! ### Public contract -/

/-- **On a query that is no update every change is a misuse**, named by the kind of the query and
the call, whatever the value is and whatever its conversion would come to; except that a text
attribute fails first for a value that has no text, because an integer beyond the digit limit occurs
in it. -/
theorem change_misuse (d : Datum) :
    (∀ (q : Query .product) (c : ProductChange), q.kind ≠ .update →
      (¬ (c.isText = true ∧ d.HasLongInteger) →
        q.updateProduct c d = .error (.misuse q.kindName c.call none)) ∧
      (c.isText = true ∧ d.HasLongInteger → q.updateProduct c d = Outcome.fault .badValue)) ∧
    (∀ (q : Query .variant) (c : VariantChange), q.kind ≠ .update →
      (¬ (c.isText = true ∧ d.HasLongInteger) →
        q.updateVariant c d = .error (.misuse q.kindName c.call none)) ∧
      (c.isText = true ∧ d.HasLongInteger → q.updateVariant c d = Outcome.fault .badValue)) := by
  refine ⟨fun q c hkind ↦ ?_, fun q c hkind ↦ ?_⟩
  · exact precheck_assign_cases hkind fun htext ↦ congrFun (ProductChange.convert_of_isText htext) d
  · exact precheck_assign_cases hkind fun htext ↦ congrFun (VariantChange.convert_of_isText htext) d

/-- A text attribute of a product that is read, with a list; a price of listed variants, with a text
that is none. -/
theorem change_misuse_read :
    ({ kind := .read } : Query .product).updateProduct .title (.list [.null]) =
        .error (.misuse "read" "update_title" none) ∧
      ({ kind := .connection } : Query .variant).updateVariant .price (.str "abc") =
        .error (.misuse "connection" "update_price" none) := by
  refine ⟨((change_misuse (.list [.null])).1 { kind := .read } .title (by decide)).1 ?_,
    ((change_misuse (.str "abc")).2 { kind := .connection } .price (by decide)).1 ?_⟩
  · rintro ⟨-, hlong⟩
    exact absurd hlong.hasText_eq_false (by decide)
  · rintro ⟨htext, -⟩
    cases htext

/-- The misuse does not win over an integer of 4301 digits. -/
theorem change_misuse_not_first :
    ({ kind := .read } : Query .product).updateProduct .title (.int ((10 ^ 4300 : Nat) : Int)) =
      Outcome.fault .badValue := by
  have hlong : (Datum.int ((10 ^ 4300 : Nat) : Int)).HasLongInteger := .int (by decide +kernel)
  exact (precheck_assign_cases (by decide) fun _ ↦ rfl).2 ⟨rfl, hlong⟩

end Query

end CatalogQuery
