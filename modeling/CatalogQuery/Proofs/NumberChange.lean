import CatalogQuery.Proofs.Amount
import CatalogQuery.Proofs.Stock

/-!
# How changes by numbers end

A change of a price, of a weight or of available quantities takes integers, numbers and texts. It is
made, or it is refused for the scalar or the identifier that is none; with one exception on each
side of the numbers. A price and a weight are kept as binary numbers, and an integer from
`Binary64.overflowThreshold` on has no nearest finite one (`Binary64.ofInt_cases`); a quantity is
kept as an integer, and an infinite number has no integer part (`Datum.quantityRefusal`). Both end
in a fault of overflow, which is not one of the refusals.

`EndsAsNumber` puts the two ends of a price or a weight in one statement,
`Query.updateVariant_numbers` has them for all changes.

## Three sources of an amount

An integer, a decimal number and a text reach a price along different ways, and `EndsAsNumber` is
proved for each of the three. Only an integer can end in a fault, since only it is converted to a
decimal number before it is looked at (`EndsAsNumber.of_ofInt`). A decimal number that is not
finite, and a text of one, come to the check of finiteness and are refused there
(`Money.ofFloat_cases`). A truth value is an integer to the conversion of a weight, and is refused
by that of a price; in neither way it can be beyond the numbers.

The statement carries over to the change of a query because a change is the conversion followed by
an assignment, which cannot fail (`EndsAsNumber.map`).

## Quantities

For a list of pairs the exception is a matter of order. The update fails as the first pair that
gives nothing, so an infinite quantity shows only if all pairs before it give something, and if its
own location is one: locations are converted first. That is what the hypothesis of the last part of
`Query.updateVariant_numbers` says, and it is exact.

The pairs are taken as the callers may hand them in, of a number or a text with a text or an
identifier (`IsStockPair`). Other values have further ways to fail, which `Refuses` lists.
-/

open CatalogQuery.Attempt

namespace CatalogQuery

/-! ### Integers as numbers -/

namespace Binary64

/-- What is packed is finite or infinite. -/
theorem bounded?_pack (negative : Bool) {m e : Nat} (hm : m ≤ Nat.pow 2 53)
    (he : e = 0 ∨ Nat.pow 2 52 ≤ m) :
    (pack negative m e hm he).bounded? =
      if (pack negative m e hm he).isFinite = true then some (pack negative m e hm he)
      else none := by
  simp only [pack]
  split_ifs <;> simp_all [bounded?, isFinite]

/-- An integer has a nearest finite number if it is below the midpoint between the largest finite
number and the power of two above it. -/
theorem ofInt_cases (n : Int) :
    overflowThreshold ≤ n.natAbs ∧ ofInt n = Outcome.fault .overflow ∨
      n.natAbs < overflowThreshold ∧ ∃ x, x.isFinite = true ∧ ofInt n = .ok x := by
  have hfinite : (ofRatio (n < 0) n.natAbs 1).isFinite = true ↔ n.natAbs < overflowThreshold * 1 :=
    ofRatio_isFinite_iff Nat.one_pos
  rw [Nat.mul_one] at hfinite
  -- The number is packed in any case, and is then finite exactly below the threshold.
  rw [ofInt, ofInt?, ofRatio, bounded?_pack]
  split
  · next hx => exact .inr ⟨hfinite.1 hx, _, hx, rfl⟩
  · next hx => exact .inl ⟨Nat.le_of_not_lt (mt hfinite.2 hx), rfl⟩

end Binary64

namespace Datum

/-- An integer, a number or a text. -/
inductive IsNumberOrText : Datum → Prop
  /-- An integer or a truth value. -/
  | integer {d : Datum} {n : Int} (hd : d.asInt? = some n) : IsNumberOrText d
  /-- A decimal number, finite or not. -/
  | number (x : Binary64) : IsNumberOrText (.float x)
  /-- A text, or a word that counts as one. -/
  | text {d : Datum} {t : Text} (hd : d.asText? = some t) : IsNumberOrText d

/-- An integer that has no nearest finite number. -/
def IsBeyondNumbers (d : Datum) : Prop :=
  ∃ n, d.asInt? = some n ∧ Binary64.overflowThreshold ≤ n.natAbs

end Datum

/-! ### Prices and weights -/

/-- How a change by a number ends: an integer beyond the numbers is a fault; with any other value
the change is made or the value is refused as a scalar. -/
def EndsAsNumber {α : Type} (d : Datum) (scalarType : String) (o : Outcome α) : Prop :=
  (d.IsBeyondNumbers → o = Outcome.fault .overflow) ∧
    (¬ d.IsBeyondNumbers → (∃ a, o = .ok a) ∨ o = .error (.invalidScalar d scalarType))

namespace EndsAsNumber

variable {α β : Type} {d : Datum} {scalarType : String} {o : Outcome α}

theorem map (h : EndsAsNumber d scalarType o) (f : α → β) :
    EndsAsNumber d scalarType (o.map f) := by
  refine ⟨fun hd ↦ ?_, fun hd ↦ ?_⟩
  · rw [h.1 hd]
    rfl
  · rcases h.2 hd with ⟨a, rfl⟩ | rfl
    · exact .inl ⟨f a, rfl⟩
    · exact .inr rfl

/-- A value that is no integer is not beyond the numbers. -/
theorem of_ne (hd : d.asInt? = none)
    (h : (∃ a, o = .ok a) ∨ o = .error (.invalidScalar d scalarType)) :
    EndsAsNumber d scalarType o := by
  refine ⟨?_, fun _ ↦ h⟩
  rintro ⟨n, hn, -⟩
  rw [hd] at hn
  cases hn

/-- An integer ends as the number that it is made. -/
theorem of_ofInt {n : Int} {f : Binary64 → Outcome α} (hd : d.asInt? = some n)
    (h : ∀ x, x.isFinite = true → (∃ a, f x = .ok a) ∨ f x = .error (.invalidScalar d scalarType)) :
    EndsAsNumber d scalarType (Binary64.ofInt n >>= f) := by
  obtain ⟨hlarge, hfault⟩ | ⟨hsmall, x, hx, hint⟩ := Binary64.ofInt_cases n
  · rw [hfault]
    exact ⟨fun _ ↦ rfl, fun hd' ↦ absurd ⟨n, hd, hlarge⟩ hd'⟩
  · rw [hint]
    refine ⟨?_, fun _ ↦ h x hx⟩
    rintro ⟨m, hm, hlarge⟩
    rw [hd] at hm
    cases hm
    exact absurd hsmall (Nat.not_lt_of_le hlarge)

end EndsAsNumber

/-- A number or a text that is refused is shown as what it is. -/
theorem Datum.IsNumberOrText.scalar_eq {d : Datum} (hd : d.IsNumberOrText) (hint : d.asInt? = none)
    (scalarType : String) : Failure.scalar d scalarType = .invalidScalar d scalarType := by
  have htext : d.hasText = true := by
    cases hd with
    | integer hd =>
      rw [hint] at hd
      cases hd
    | number => simp [Datum.hasText]
    | text hd => exact Datum.hasText_of_asText? hd
  rw [Failure.scalar, Failure.showing, List.all_cons, htext]
  rfl

/-- A number is an amount, or refused with the value that it was read from. -/
theorem Money.ofFloat_cases {d : Datum} (hd : d.IsNumberOrText) (hint : d.asInt? = none)
    (x : Binary64) :
    (∃ m, ofFloat d x = .ok m) ∨ ofFloat d x = .error (.invalidScalar d "Money") := by
  rw [ofFloat]
  split
  · exact .inl ⟨_, rfl⟩
  · exact .inr (congrArg _ (hd.scalar_eq hint "Money"))

/-- **An amount is parsed or refused**, unless it is an integer beyond the numbers. -/
theorem Money.parse_ends {d : Datum} (hd : d.IsNumberOrText) :
    EndsAsNumber d "Money" (parse d) := by
  cases hd with
  | @integer d n hn =>
    cases d with
    | int m =>
      cases hn
      refine .of_ofInt rfl fun x hx ↦ .inl ⟨⟨x⟩, ?_⟩
      rw [ofFloat, if_pos hx]
    | bool b =>
      -- A truth value counts as an integer, but an amount it is not.
      refine ⟨?_, fun _ ↦ .inr rfl⟩
      rintro ⟨m, hm, hlarge⟩
      cases hm
      cases b <;> exact absurd hlarge (by decide +kernel)
    | _ => cases hn
  | number x => exact .of_ne rfl (ofFloat_cases (.number x) rfl x)
  | @text d t ht =>
    have hint := Datum.asInt?_of_asText? ht
    refine .of_ne hint ?_
    -- The texts of amounts are known exactly, and both kinds of text end as they should.
    by_cases hspelled : ∃ a : DecimalNumeral, a.SpelledBy t.points
    · obtain ⟨a, ha⟩ := hspelled
      rw [parse_of_spelledBy ht ha]
      exact ofFloat_cases (.text ht) hint a.value
    · exact .inr (parse_of_not_spelledBy ht hspelled)

/-- **A weight is read or refused**, unless it is an integer beyond the numbers. -/
theorem readWeight_ends {d : Datum} (hd : d.IsNumberOrText) :
    EndsAsNumber d "Float" (readWeight d) := by
  cases hd with
  | @integer d n hn =>
    -- A truth value is read as an integer, in one step of the same form.
    have hread : readWeight d = Binary64.ofInt n >>= Except.ok := by
      cases d with
      | int | bool =>
        cases hn
        show Binary64.ofInt _ = _
        cases Binary64.ofInt _ <;> rfl
      | _ => cases hn
    rw [hread]
    exact .of_ofInt hn fun x _ ↦ .inl ⟨x, rfl⟩
  | number x => exact .of_ne rfl (.inl ⟨x, rfl⟩)
  | @text d t ht =>
    have hint := Datum.asInt?_of_asText? ht
    refine .of_ne hint ?_
    simp only [readWeight, ht, Option.bind_some]
    split
    · exact .inl ⟨_, rfl⟩
    · exact .inr (congrArg _ (Datum.IsNumberOrText.scalar_eq (.text ht) hint "Float"))

theorem Convert.money_ends {d : Datum} (hd : d.IsNumberOrText) :
    EndsAsNumber d "Money" (money d) := by
  have hmoney : money d = (Money.parse d).map .money := by
    cases hd with
    | integer hd =>
      cases d with
      | int | bool => rfl
      | _ => cases hd
    | number => rfl
    | text hd =>
      cases d with
      | text | word => rfl
      | _ => cases hd
  rw [hmoney]
  exact (Money.parse_ends hd).map _

/-! ### Quantities -/

/-- A pair of a number or a text, and a text or an identifier. -/
inductive IsStockPair : Datum → Prop
  /-- The location may be anything that can be shown in a refusal. -/
  | pair {x available place : Datum} (hx : x.elements? = some [available, place])
      (havailable : available.IsNumberOrText)
      (hplace : (∃ t, place.asText? = some t) ∨ ∃ i, place = .id i) : IsStockPair x

/-- A pair of an infinite number and a location. -/
def IsEndlessPair (x : Datum) : Prop :=
  ∃ negative place i, x.elements? = some [.float (.inf negative), place] ∧ place.Locates i

/-- Of a pair whose elements are known. -/
theorem isEndlessPair_iff {x available place : Datum} (hx : x.elements? = some [available, place]) :
    IsEndlessPair x ↔ (∃ negative, available = .float (.inf negative)) ∧ ∃ i, place.Locates i := by
  constructor
  · rintro ⟨negative, place', i, hx', hplace⟩
    rw [hx] at hx'
    cases hx'
    exact ⟨⟨negative, rfl⟩, i, hplace⟩
  · rintro ⟨⟨negative, rfl⟩, i, hplace⟩
    exact ⟨negative, place, i, hx, hplace⟩

/-- An infinite quantity at a location fails as a fault. -/
theorem IsEndlessPair.refuses {x : Datum} (h : IsEndlessPair x) : Refuses x (.fault .overflow) := by
  obtain ⟨negative, place, i, hx, hplace⟩ := h
  refine .quantity hx hplace fun r hr ↦ ?_
  cases Datum.isQuantity_float.1 hr

/-- A text or an identifier that is no location is shown as what it is. -/
theorem Failure.identifier_eq {d : Datum} (hd : (∃ t, d.asText? = some t) ∨ ∃ i, d = .id i) :
    Failure.identifier d = .invalidIdentifier d.plain := by
  have htext : d.hasText = true := by
    rcases hd with ⟨t, ht⟩ | ⟨i, rfl⟩
    · exact Datum.hasText_of_asText? ht
    · simp [Datum.hasText]
  rw [identifier, showing, List.all_cons, htext]
  rfl

/-- A pair of a number or a text with a text or an identifier is refused for one of its elements,
unless the number is infinite and the location is one. -/
theorem Refuses.cases_of_isStockPair {x : Datum} {failure : Failure} (h : Refuses x failure)
    (hx : IsStockPair x) :
    IsEndlessPair x ∧ failure = .fault .overflow ∨
      ¬ IsEndlessPair x ∧ ∃ available place, x.elements? = some [available, place] ∧
        (failure = .invalidScalar available "Int" ∨ failure = .invalidIdentifier place.plain) := by
  obtain @⟨available, place, hpair, havailable, htext⟩ := hx
  rw [isEndlessPair_iff hpair]
  -- The pair has elements, and two of them, so it is refused for its location or its quantity.
  cases h with
  | noElements hx =>
    rw [hpair] at hx
    cases hx
  | noPair hx hlength =>
    rw [hpair] at hx
    cases hx
    exact absurd rfl hlength
  | place hx hplace =>
    rw [hpair] at hx
    cases hx
    refine .inr ⟨?_, available, place, hpair, .inr (Failure.identifier_eq htext)⟩
    rintro ⟨-, i, hi⟩
    exact hplace i hi
  | quantity hx hplace hquantity =>
    rw [hpair] at hx
    cases hx
    -- An infinite number is the only quantity whose refusal is not one of the scalar.
    by_cases hinf : ∃ negative, available = .float (.inf negative)
    · obtain ⟨negative, rfl⟩ := hinf
      exact .inl ⟨⟨⟨negative, rfl⟩, _, hplace⟩, rfl⟩
    · have hint : available.asInt? = none := by
        cases hint : available.asInt? with
        | none => rfl
        | some n => exact absurd (.integer hint rfl) (hquantity n)
      have hrefusal := Datum.quantityRefusal_of_ne_inf (not_exists.1 hinf)
      refine .inr ⟨fun hendless ↦ hinf hendless.1, available, place, hpair, .inl ?_⟩
      rw [hrefusal, havailable.scalar_eq hint]

namespace Query

variable {q : Query .variant} {inputs : Inputs}

/-! ### Public contract -/

/-- **How changes by numbers and texts end.** A price, a compared price or a weight is changed or
the value is refused as a scalar, except for an integer from the midpoint above the largest finite
number on. Available quantities are changed or a quantity or a location is refused, except where the
first pair that gives nothing is one of an infinite number and a location. The exceptions are faults
of overflow. -/
theorem updateVariant_numbers (hkind : q.kind = .update) (hinputs : q.inputs = some inputs) :
    (∀ d : Datum, d.IsNumberOrText →
      EndsAsNumber d "Money" (q.updateVariant .price d) ∧
      EndsAsNumber d "Money" (q.updateVariant .compareAtPrice d) ∧
      EndsAsNumber d "Float" (q.updateVariant .weight d)) ∧
    ∀ (value : Datum) (xs : List Datum), value.elements? = some xs → (∀ x ∈ xs, IsStockPair x) →
      ((∃ before x after, xs = before ++ x :: after ∧ (∃ stocks, List.Forall₂ Gives before stocks) ∧
        IsEndlessPair x) →
        q.updateVariant .inventoryQuantities value = Outcome.fault .overflow) ∧
      (¬ (∃ before x after, xs = before ++ x :: after ∧
        (∃ stocks, List.Forall₂ Gives before stocks) ∧ IsEndlessPair x) →
        (∃ q', q.updateVariant .inventoryQuantities value = .ok q') ∨
          ∃ x ∈ xs, ∃ available place, x.elements? = some [available, place] ∧
            (q.updateVariant .inventoryQuantities value = .error (.invalidScalar available "Int") ∨
              q.updateVariant .inventoryQuantities value =
                .error (.invalidIdentifier place.plain))) := by
  refine ⟨fun d hd ↦ ?_, fun value xs hvalue hpairs ↦ ⟨?_, fun hendless ↦ ?_⟩⟩
  · simp only [updateVariant_of_update hkind hinputs]
    exact ⟨(Convert.money_ends hd).map _, (Convert.money_ends hd).map _,
      ((readWeight_ends hd).map _).map _⟩
  · rintro ⟨before, x, after, hxs, hbefore, hx⟩
    exact (updateVariant_quantities_eq_error_iff hkind hinputs hvalue).2
      ⟨before, x, after, hxs, hbefore, hx.refuses⟩
  · cases hend : q.updateVariant .inventoryQuantities value with
    | ok q' => exact .inl ⟨q', rfl⟩
    | error failure =>
      obtain ⟨before, x, after, rfl, hbefore, hx⟩ :=
        (updateVariant_quantities_eq_error_iff hkind hinputs hvalue).1 hend
      have hmem : x ∈ before ++ x :: after := by simp
      obtain ⟨hendlessPair, -⟩ | ⟨-, available, place, hpair, hfailure⟩ :=
        hx.cases_of_isStockPair (hpairs x hmem)
      · exact absurd ⟨before, x, after, rfl, hbefore, hendlessPair⟩ hendless
      · refine .inr ⟨x, hmem, available, place, hpair, ?_⟩
        exact hfailure.imp (congrArg _) (congrArg _)

/-- A price from a text that is no amount, and a quantity that is no number. -/
theorem updateVariant_numbers_refused :
    ((∃ q', ({ kind := .update, inputs := some .empty } : Query .variant).updateVariant
        .price (.str "abc") = .ok q') ∨
      ({ kind := .update, inputs := some .empty } : Query .variant).updateVariant
        .price (.str "abc") = .error (.invalidScalar (.str "abc") "Money")) ∧
    ((∃ q', ({ kind := .update, inputs := some .empty } : Query .variant).updateVariant
        .inventoryQuantities (.list [.tuple [.float .nan, .str "1001"]]) = .ok q') ∨
      ∃ x ∈ [Datum.tuple [.float .nan, .str "1001"]],
        ∃ available place, x.elements? = some [available, place] ∧
        (({ kind := .update, inputs := some .empty } : Query .variant).updateVariant
            .inventoryQuantities (.list [.tuple [.float .nan, .str "1001"]]) =
              .error (.invalidScalar available "Int") ∨
          ({ kind := .update, inputs := some .empty } : Query .variant).updateVariant
            .inventoryQuantities (.list [.tuple [.float .nan, .str "1001"]]) =
              .error (.invalidIdentifier place.plain))) := by
  have hpair : IsStockPair (.tuple [.float .nan, .str "1001"]) :=
    .pair rfl (.number .nan) (.inl ⟨.str "1001", rfl⟩)
  refine ⟨((updateVariant_numbers rfl rfl).1 (.str "abc") (.text rfl)).1.2 ?_,
    ((updateVariant_numbers rfl rfl).2 (.list [.tuple [.float .nan, .str "1001"]]) _ rfl
      (by simpa using hpair)).2 ?_⟩
  · rintro ⟨n, hn, -⟩
    cases hn
  · rintro ⟨before, x, after, hxs, -, negative, place, i, hx, -⟩
    have hmem : x ∈ [Datum.tuple [.float .nan, .str "1001"]] := by simp [hxs]
    obtain rfl := List.mem_singleton.1 hmem
    cases hx

/-- **A price or a weight of ten to the power of four hundred, and an infinite quantity**, are no
refusals but faults. -/
theorem updateVariant_number_overflow :
    ({ kind := .update, inputs := some .empty } : Query .variant).updateVariant
        .price (.int ((10 ^ 400 : Nat) : Int)) = Outcome.fault .overflow ∧
      ({ kind := .update, inputs := some .empty } : Query .variant).updateVariant
        .weight (.int ((10 ^ 400 : Nat) : Int)) = Outcome.fault .overflow ∧
      ({ kind := .update, inputs := some .empty } : Query .variant).updateVariant
        .inventoryQuantities (.list [.tuple [.float (.inf false), .str "1001"]]) =
          Outcome.fault .overflow := by
  have hupdate (c : VariantChange) (d : Datum) :=
    updateVariant_of_update (q := { kind := .update, inputs := some .empty }) rfl rfl c d
  have hbeyond : (Datum.int ((10 ^ 400 : Nat) : Int)).IsBeyondNumbers := ⟨_, rfl, by decide +kernel⟩
  have hnumber : (Datum.int ((10 ^ 400 : Nat) : Int)).IsNumberOrText := .integer rfl
  have hendless : IsEndlessPair (.tuple [.float (.inf false), .str "1001"]) :=
    ⟨false, .str "1001", _, rfl, .number (t := .str "1001") rfl (by decide)⟩
  -- From here on only the size of the integer matters, and nothing needs to evaluate its digits.
  generalize Datum.int ((10 ^ 400 : Nat) : Int) = d at hbeyond hnumber ⊢
  rw [hupdate .price, hupdate .weight]
  refine ⟨((Convert.money_ends hnumber).map _).1 hbeyond,
    (((readWeight_ends hnumber).map _).map _).1 hbeyond, ?_⟩
  exact (updateVariant_quantities_eq_error_iff rfl rfl rfl).2 ⟨[], _, [], rfl, ⟨[], .nil⟩,
    hendless.refuses⟩

end Query

end CatalogQuery
