import CatalogQuery.Proofs.Change
import CatalogQuery.Proofs.IntegerNumeral
import CatalogQuery.Proofs.IntegerPart
import CatalogQuery.Proofs.LiteralReading
import CatalogQuery.Proofs.PlainUsage

/-!
# Available quantities by location

What an update makes of a list of pairs, each of a quantity and a location. `Gives` says which pairs
are taken, and as what: the quantity is a number (`Datum.IsQuantity`), of which the integer part is
kept, and the location is an identifier of one or its number (`Datum.Locates`). `Refuses` says how
every other pair fails. Both are relations on the data; that the conversions decide them is one
lemma for each part of a pair (`readCount_eq_ok_iff`, `Convert.location_eq_ok_iff`) and for the pair
(`Convert.quantity_eq_ok_iff`, `Convert.quantity_eq_error_iff`).

A list is taken if all its pairs are, and fails as the first pair that is not
(`Attempt.mapM_eq_ok_iff`, `Attempt.mapM_eq_error_iff`). `Query.updateVariant_stocks` carries this
to the update and to the literal of its input.

A number that is not whole is taken without its fraction: only decimal numbers can be so, because
the text of a number with a fraction is no text of an integer.

## Relations and conversions

`Datum.IsQuantity`, `Datum.Locates`, `Gives` and `Refuses` have a constructor for each form of value
and mention no conversion. They are shown to be single-valued where that is needed
(`Datum.IsQuantity.unique`, `Datum.Locates.unique`), so that a conversion which answers something
related answers the only thing related.

Each conversion is then characterized in one lemma with two disjuncts (`readCount_cases`,
`Convert.location_cases`): the value is related to something and this is answered, or it is related
to nothing and the refusal is known. The equivalences for success and for failure are both read off
the disjunction, without a second look at the conversion.

Texts and octets are counted alike once their points are known, and share
`readCount_cases_of_points`. Words of the vocabulary count as the texts of their wire names. A truth
value is an integer here, since a conversion to an integer takes it for one.

## The order of refusals

A pair is looked at in three steps, and the first that fails decides. That the value has two
elements is asked before anything is converted; the location is converted before the quantity.
`Refuses.quantity` therefore asks for a location, while `Refuses.place` asks for nothing of the
quantity.

## Writing the quantities

A list of quantities is written exactly if each is within the digit limit. Where one is not, the
fault comes from that quantity whatever the others are, since a quantity within the limit is always
written (`Stock.literal_eq_fault`).
-/

open CatalogQuery.Attempt

namespace CatalogQuery

open Grammar

/-! ### Quantities -/

namespace Datum

/-- The number that a quantity is: an integer, a finite number, or the text of an integer. -/
inductive IsQuantity : Datum → ℚ → Prop
  /-- An integer or a truth value. -/
  | integer {d : Datum} {r : ℚ} {n : Int} (hd : d.asInt? = some n) (hr : r = n) : IsQuantity d r
  /-- A finite number, whole or not. -/
  | number {x : Binary64} {r : ℚ} (hx : x.toRat? = some r) : IsQuantity (.float x) r
  /-- The text of an integer. -/
  | text {d : Datum} {r : ℚ} {t : Text} (a : IntegerNumeral) (hd : d.asText? = some t)
      (ht : t.points = a.points) (hr : r = a.value) : IsQuantity d r
  /-- The text of an integer as octets of ASCII. -/
  | octets {bs : List UInt8} {r : ℚ} (a : IntegerNumeral) (hbs : asciiPoints? bs = some a.points)
      (hr : r = a.value) : IsQuantity (.octets bs) r

/-- How a value fails that is no quantity. -/
def quantityRefusal : Datum → Failure
  | .float (.inf _) => .fault .overflow
  | d => Failure.scalar d "Int"

variable {d : Datum} {r r' : ℚ} {t : Text}

/-- Any value but an infinite number fails as a scalar. -/
theorem quantityRefusal_of_ne_inf (h : ∀ negative, d ≠ .float (.inf negative)) :
    d.quantityRefusal = Failure.scalar d "Int" := by
  rw [quantityRefusal]
  exact h

/-- An integer is the quantity that it is. -/
theorem isQuantity_of_asInt? {n : Int} (h : d.asInt? = some n) : d.IsQuantity r ↔ r = n := by
  refine ⟨fun hquantity ↦ ?_, .integer h⟩
  -- An integer is neither a decimal number nor a text nor octets, so only the first form remains.
  cases hquantity with
  | integer hd hr =>
    rw [h] at hd
    cases hd
    exact hr
  | number => cases h
  | text _ hd =>
    rw [asInt?_of_asText? hd] at h
    cases h
  | octets => cases h

/-- A text is a quantity exactly if it is the text of an integer. -/
theorem isQuantity_of_asText? (h : d.asText? = some t) :
    d.IsQuantity r ↔ ∃ n : Int, Numeral.integer? t.points = some n ∧ r = n := by
  constructor
  · intro hquantity
    -- A text is no integer, and the two remaining forms are not of texts.
    cases hquantity with
    | integer hd =>
      rw [asInt?_of_asText? h] at hd
      cases hd
    | number => cases h
    | text a hd ht hr =>
      rw [h] at hd
      cases hd
      exact ⟨a.value, Numeral.integer?_eq_some_iff.2 ⟨a, ht, rfl⟩, hr⟩
    | octets => cases h
  · rintro ⟨n, hn, rfl⟩
    obtain ⟨a, ha, rfl⟩ := Numeral.integer?_eq_some_iff.1 hn
    exact .text a h ha rfl

/-- A decimal number is a quantity exactly if it is finite. -/
theorem isQuantity_float {x : Binary64} : (Datum.float x).IsQuantity r ↔ x.toRat? = some r := by
  refine ⟨fun hquantity ↦ ?_, .number⟩
  cases hquantity with
  | integer hd => cases hd
  | number hx => exact hx
  | text _ hd => cases hd

/-- Octets are a quantity exactly if they are the ASCII text of an integer. -/
theorem isQuantity_octets {bs : List UInt8} :
    (Datum.octets bs).IsQuantity r ↔
      ∃ n : Int, (asciiPoints? bs).bind Numeral.integer? = some n ∧ r = n := by
  constructor
  · intro hquantity
    cases hquantity with
    | integer hd => cases hd
    | text _ hd => cases hd
    | octets a hbs hr => exact ⟨a.value, by rw [hbs, Option.bind_some, a.integer?_points], hr⟩
  · rintro ⟨n, hn, rfl⟩
    obtain ⟨ps, hps, hn⟩ := Option.bind_eq_some_iff.1 hn
    obtain ⟨a, rfl, rfl⟩ := Numeral.integer?_eq_some_iff.1 hn
    exact .octets a hps rfl

/-- A value of any other class is no quantity. -/
theorem not_isQuantity (hint : d.asInt? = none) (htext : d.asText? = none)
    (hfloat : ∀ x, d ≠ .float x) (hoctets : ∀ bs, d ≠ .octets bs) : ¬ d.IsQuantity r := by
  intro hquantity
  cases hquantity with
  | integer hd =>
    rw [hint] at hd
    cases hd
  | number => exact hfloat _ rfl
  | text _ hd =>
    rw [htext] at hd
    cases hd
  | octets => exact hoctets _ rfl

/-- A quantity is one number. -/
theorem IsQuantity.unique (h : d.IsQuantity r) (h' : d.IsQuantity r') : r = r' := by
  cases h with
  | integer hd hr => exact hr.trans ((isQuantity_of_asInt? hd).1 h').symm
  | number hx => exact Option.some.inj (hx.symm.trans (isQuantity_float.1 h'))
  | text a hd ht hr =>
    obtain ⟨n, hn, rfl⟩ := (isQuantity_of_asText? hd).1 h'
    rw [ht, a.integer?_points] at hn
    cases hn
    exact hr
  | octets a hbs hr =>
    obtain ⟨n, hn, rfl⟩ := isQuantity_octets.1 h'
    rw [hbs, Option.bind_some, a.integer?_points] at hn
    cases hn
    exact hr

end Datum

/-- A text, or octets that stand for one, are counted as the integer that they are the text of. -/
theorem readCount_cases_of_points {d : Datum} (ps : Option (List Nat))
    (hrefusal : d.quantityRefusal = Failure.scalar d "Int")
    (hquantity : ∀ r, d.IsQuantity r ↔ ∃ n : Int, ps.bind Numeral.integer? = some n ∧ r = n)
    (hread : readCount d = match ps.bind Numeral.integer? with
      | some n => .ok n
      | none => .error (Failure.scalar d "Int")) :
    (∃ r n, d.IsQuantity r ∧ IsIntegerPart r n ∧ readCount d = .ok n) ∨
      (∀ r, ¬ d.IsQuantity r) ∧ readCount d = .error d.quantityRefusal := by
  simp only [hquantity, hrefusal]
  cases hn : ps.bind Numeral.integer? with
  | none =>
    rw [hn] at hread
    exact .inr ⟨by simp, hread⟩
  | some n =>
    rw [hn] at hread
    exact .inl ⟨n, n, ⟨n, rfl, rfl⟩, .of_int n, hread⟩

/-- A value is counted as the integer part of the quantity that it is, or refused if it is none. -/
theorem readCount_cases (d : Datum) :
    (∃ r n, d.IsQuantity r ∧ IsIntegerPart r n ∧ readCount d = .ok n) ∨
      (∀ r, ¬ d.IsQuantity r) ∧ readCount d = .error d.quantityRefusal := by
  cases d with
  | int n => exact .inl ⟨n, n, .integer rfl rfl, .of_int n, rfl⟩
  | bool b => exact .inl ⟨_, _, .integer rfl rfl, .of_int _, rfl⟩
  | text t =>
    exact readCount_cases_of_points (some t.points) rfl (fun _ ↦ Datum.isQuantity_of_asText? rfl)
      rfl
  | word w =>
    refine readCount_cases_of_points (some (Text.str w.wire).points) rfl (fun _ ↦ ?_) rfl
    exact Datum.isQuantity_of_asText? rfl
  | octets bs =>
    exact readCount_cases_of_points (asciiPoints? bs) rfl (fun _ ↦ Datum.isQuantity_octets) rfl
  | float x =>
    simp only [Datum.isQuantity_float]
    cases x with
    -- The two that have no integer part fail in different ways, of which `quantityRefusal` keeps
    -- account.
    | nan => exact .inr ⟨nofun, rfl⟩
    | inf s => exact .inr ⟨nofun, rfl⟩
    | finite s m e h =>
      have htruncate : (Binary64.finite s m e h).truncate? = some _ := rfl
      obtain ⟨r, hr, hpart⟩ := Binary64.truncate?_eq_some_iff.1 htruncate
      exact .inl ⟨r, _, hr, hpart, rfl⟩
  | _ => exact .inr ⟨fun _ ↦ Datum.not_isQuantity rfl rfl nofun nofun, rfl⟩

/-- **The count of a value is the integer part of its quantity**, and a value without a quantity has
no count. -/
theorem readCount_eq_ok_iff {d : Datum} {n : Int} :
    readCount d = .ok n ↔ ∃ r, d.IsQuantity r ∧ IsIntegerPart r n := by
  obtain ⟨r, m, hr, hpart, hread⟩ | ⟨hnone, hread⟩ := readCount_cases d
  · rw [hread, Except.ok.injEq]
    constructor
    · rintro rfl
      exact ⟨r, hr, hpart⟩
    · rintro ⟨r', hr', hpart'⟩
      rw [hr'.unique hr] at hpart'
      exact hpart.unique hpart'
  · rw [hread]
    exact ⟨nofun, fun ⟨r, hr, _⟩ ↦ absurd hr (hnone r)⟩

/-- **A value is refused exactly if it is no quantity.** -/
theorem readCount_eq_error_iff {d : Datum} {failure : Failure} :
    readCount d = .error failure ↔ (∀ r, ¬ d.IsQuantity r) ∧ failure = d.quantityRefusal := by
  obtain ⟨r, n, hr, -, hread⟩ | ⟨hnone, hread⟩ := readCount_cases d
  · rw [hread]
    exact ⟨nofun, fun h ↦ absurd hr (h.1 r)⟩
  · rw [hread, Except.error.injEq]
    exact ⟨fun h ↦ ⟨hnone, h.symm⟩, fun h ↦ h.2.symm⟩

/-! ### Locations -/

namespace Datum

/-- The location that a value is: an identifier of one, or a text of ASCII digits. -/
inductive Locates : Datum → Id → Prop
  /-- The identifier of a location. -/
  | identifier {i : Id} (h : i.entityType = .location) : Locates (.id i) i
  /-- The number of a location. -/
  | number {d : Datum} {t : Text} (hd : d.asText? = some t) (h : Id.isNumber t.points = true) :
      Locates d { entityType := .location, number := Id.ofAscii t.points }

theorem Locates.entityType_eq {d : Datum} {i : Id} (h : d.Locates i) :
    i.entityType = .location := by
  cases h with
  | identifier h => exact h
  | number => rfl

/-- A value is the location of one identifier. -/
theorem Locates.unique {d : Datum} {i j : Id} (h : d.Locates i) (h' : d.Locates j) : i = j := by
  cases h with
  | identifier =>
    cases h' with
    | identifier => rfl
    | number hd => cases hd
  | number hd =>
    cases h' with
    | identifier => cases hd
    | number hd' =>
      rw [hd] at hd'
      cases hd'
      rfl

end Datum

namespace Convert

variable {d x : Datum} {i : Id} {failure : Failure}

/-- A number is the number of a location; every other value but an identifier is refused. -/
theorem ofType_location_cases (d : Datum) :
    (∃ t, d.asText? = some t ∧ Id.isNumber t.points = true ∧
        Id.ofType .location d = .ok { entityType := .location, number := Id.ofAscii t.points }) ∨
      (∀ t, d.asText? = some t → Id.isNumber t.points = false) ∧
        Id.ofType .location d = .error (Failure.identifier d) := by
  have htype : Vocabulary.ofDatum? (.word (.entityType .location)) = some EntityType.location := by
    decide
  -- Only the form of the text is left to decide, since the type of the entity is given.
  cases ht : d.asText? with
  | none => exact .inr ⟨nofun, by simp [Id.ofType, Id.make, Id.number?, ht]⟩
  | some t =>
    cases hnumber : Id.isNumber t.points with
    | true =>
      exact .inl ⟨t, rfl, hnumber, by simp [Id.ofType, Id.make, Id.number?, ht, hnumber, htype]⟩
    | false =>
      refine .inr ⟨?_, by simp [Id.ofType, Id.make, Id.number?, ht, hnumber]⟩
      rintro _ ⟨⟩
      exact hnumber

/-- A value is the location that it stands for, or refused if it stands for none. -/
theorem location_cases (d : Datum) :
    (∃ i, d.Locates i ∧ location d = .ok i) ∨
      (∀ i, ¬ d.Locates i) ∧ location d = .error (Failure.identifier d) := by
  -- An identifier is compared with the type of a location; everything else is the number of one or
  -- refused.
  cases d with
  | id i =>
    by_cases htype : i.entityType = .location
    · exact .inl ⟨i, .identifier htype, if_pos htype⟩
    · refine .inr ⟨fun j hj ↦ ?_, if_neg htype⟩
      cases hj with
      | identifier h => exact htype h
      | number hd => cases hd
  | _ =>
    obtain ⟨t, ht, hnumber, hmake⟩ | ⟨hnone, hmake⟩ := ofType_location_cases _
    · exact .inl ⟨_, .number ht hnumber, hmake⟩
    · refine .inr ⟨fun j hj ↦ ?_, hmake⟩
      cases hj with
      | number hd h =>
        rw [hnone _ hd] at h
        cases h

/-- **An identifier or a number is taken exactly if it is that of a location.** -/
theorem location_eq_ok_iff : location d = .ok i ↔ d.Locates i := by
  obtain ⟨j, hj, hlocation⟩ | ⟨hnone, hlocation⟩ := location_cases d
  · rw [hlocation, Except.ok.injEq]
    constructor
    · rintro rfl
      exact hj
    · exact hj.unique
  · rw [hlocation]
    exact ⟨nofun, fun h ↦ absurd h (hnone i)⟩

theorem location_eq_error_iff :
    location d = .error failure ↔ (∀ i, ¬ d.Locates i) ∧ failure = Failure.identifier d := by
  obtain ⟨i, hi, hlocation⟩ | ⟨hnone, hlocation⟩ := location_cases d
  · rw [hlocation]
    exact ⟨nofun, fun h ↦ absurd hi (h.1 i)⟩
  · rw [hlocation, Except.error.injEq]
    exact ⟨fun h ↦ ⟨hnone, h.symm⟩, fun h ↦ h.2.symm⟩

end Convert

/-! ### Pairs -/

/-- A quantity available at a location. -/
structure Stock where
  /-- The quantity. -/
  available : Int
  /-- The location. -/
  place : Id
  /-- The identifier is one of a location. -/
  isLocation : place.entityType = .location

namespace Stock

/-- The value that is assigned for a quantity at a location. -/
def datum (s : Stock) : Datum :=
  .dict [(.str "availableQuantity", .int s.available), (.str "locationId", .id s.place)]

/-- What a document says of a quantity at a location. -/
def value (s : Stock) : Value :=
  .object [("availableQuantity", .int s.available), ("locationId", .string s.place.gid)]

end Stock

/-- A pair gives a quantity at a location: the integer part of its first element, at the location
that its second element is. -/
inductive Gives : Datum → Stock → Prop
  /-- Both parts are taken. -/
  | pair {x available place : Datum} {r : ℚ} {s : Stock}
      (hx : x.elements? = some [available, place])
      (hquantity : available.IsQuantity r) (hpart : IsIntegerPart r s.available)
      (hplace : place.Locates s.place) : Gives x s

/-- How a pair fails that gives nothing. The location is looked at first. -/
inductive Refuses : Datum → Failure → Prop
  /-- The value has no elements at all. -/
  | noElements {x : Datum} (hx : x.elements? = none) : Refuses x (.fault .wrongClass)
  /-- The value has more or fewer than two elements. -/
  | noPair {x : Datum} {ys : List Datum} (hx : x.elements? = some ys) (hlength : ys.length ≠ 2) :
      Refuses x (.fault .badValue)
  /-- The second element is no location. -/
  | place {x available place : Datum} (hx : x.elements? = some [available, place])
      (hplace : ∀ i, ¬ place.Locates i) : Refuses x (Failure.identifier place)
  /-- The first element is no quantity, and the second is a location. -/
  | quantity {x available place : Datum} {i : Id} (hx : x.elements? = some [available, place])
      (hplace : place.Locates i) (hquantity : ∀ r, ¬ available.IsQuantity r) :
      Refuses x available.quantityRefusal

namespace Convert

variable {x value v : Datum} {xs : List Datum} {failure : Failure}

/-- A value is a pair if it has two elements. -/
theorem pair_cases (x : Datum) :
    (∃ a b, x.elements? = some [a, b] ∧ pair x = .ok (a, b)) ∨
      (∃ ys, x.elements? = some ys ∧ ys.length ≠ 2 ∧ pair x = Outcome.fault .badValue) ∨
      x.elements? = none ∧ pair x = Outcome.fault .wrongClass := by
  rw [pair]
  split
  · next a b hx => exact .inl ⟨a, b, hx, rfl⟩
  · next ys hys hx =>
    refine .inr (.inl ⟨ys, hx, fun hlength ↦ ?_, rfl⟩)
    obtain ⟨a, b, rfl⟩ := List.length_eq_two.1 hlength
    exact hys a b rfl
  · next hx => exact .inr (.inr ⟨hx, rfl⟩)

/-- What a pair is converted to, in its two steps. -/
theorem quantity_of_elements? {a b : Datum} (hx : x.elements? = some [a, b]) :
    quantity x = location b >>= fun i ↦ readCount a >>= fun n ↦
      .ok (.dict [(.str "availableQuantity", .int n), (.str "locationId", .id i)]) := by
  have hpair : pair x = .ok (a, b) := by rw [pair, hx]
  rw [quantity, hpair]
  rfl

/-- **A pair is taken exactly if it gives a quantity at a location**, and as this. -/
theorem quantity_eq_ok_iff : quantity x = .ok v ↔ ∃ s, Gives x s ∧ v = s.datum := by
  constructor
  · intro h
    obtain ⟨⟨a, b⟩, hpair, h⟩ := bind_eq_ok_iff.1 h
    obtain ⟨i, hi, h⟩ := bind_eq_ok_iff.1 h
    obtain ⟨n, hn, h⟩ := bind_eq_ok_iff.1 h
    cases h
    have hplace := location_eq_ok_iff.1 hi
    obtain ⟨r, hr, hpart⟩ := readCount_eq_ok_iff.1 hn
    exact ⟨⟨n, i, hplace.entityType_eq⟩, .pair (pair_eq_ok hpair) hr hpart hplace, rfl⟩
  · rintro ⟨s, ⟨hx, hquantity, hpart, hplace⟩, rfl⟩
    rw [quantity_of_elements? hx, location_eq_ok_iff.2 hplace,
      readCount_eq_ok_iff.2 ⟨_, hquantity, hpart⟩]
    rfl

theorem refuses_of_quantity_eq_error (h : quantity x = .error failure) : Refuses x failure := by
  obtain ⟨a, b, hx, -⟩ | ⟨ys, hx, hlength, hpair⟩ | ⟨hx, hpair⟩ := pair_cases x
  · rw [quantity_of_elements? hx, bind_eq_error_iff] at h
    rcases h with h | ⟨i, hi, h⟩
    · -- The location is converted first: where it is refused, the quantity may be anything.
      obtain ⟨hplace, rfl⟩ := location_eq_error_iff.1 h
      exact .place hx hplace
    · rcases bind_eq_error_iff.1 h with h | ⟨n, -, h⟩
      · obtain ⟨hquantity, rfl⟩ := readCount_eq_error_iff.1 h
        exact .quantity hx (location_eq_ok_iff.1 hi) hquantity
      · cases h
  · rw [quantity, hpair] at h
    cases h
    exact .noPair hx hlength
  · rw [quantity, hpair] at h
    cases h
    exact .noElements hx

theorem quantity_of_refuses (h : Refuses x failure) : quantity x = .error failure := by
  -- One case for each step of the conversion; those before it succeed.
  cases h with
  | noElements hx =>
    rw [quantity, pair, hx]
    rfl
  | noPair hx hlength =>
    obtain ⟨a, b, hx', -⟩ | ⟨ys, -, -, hpair⟩ | ⟨hx', -⟩ := pair_cases x
    · rw [hx] at hx'
      cases hx'
      exact absurd rfl hlength
    · rw [quantity, hpair]
      rfl
    · rw [hx] at hx'
      cases hx'
  | place hx hplace =>
    rw [quantity_of_elements? hx, location_eq_error_iff.2 ⟨hplace, rfl⟩]
    rfl
  | quantity hx hplace hquantity =>
    have hread := readCount_eq_error_iff.2 ⟨hquantity, rfl⟩
    rw [quantity_of_elements? hx]
    exact bind_eq_error_iff.2
      (.inr ⟨_, location_eq_ok_iff.2 hplace, bind_eq_error_iff.2 (.inl hread)⟩)

/-- **A pair is refused exactly if it gives nothing.** -/
theorem quantity_eq_error_iff : quantity x = .error failure ↔ Refuses x failure :=
  ⟨refuses_of_quantity_eq_error, quantity_of_refuses⟩

/-! ### Lists of pairs -/

/-- All pairs of a list are taken exactly if each gives something. -/
theorem mapM_quantity_eq_ok_iff {vs : List Datum} :
    xs.mapM quantity = .ok vs ↔
      ∃ stocks, List.Forall₂ Gives xs stocks ∧ vs = stocks.map Stock.datum := by
  rw [mapM_eq_ok_iff]
  constructor
  · intro h
    -- The list of stocks is built along with the list of answers.
    induction h with
    | nil => exact ⟨[], .nil, rfl⟩
    | cons hx _ ih =>
      obtain ⟨s, hs, rfl⟩ := quantity_eq_ok_iff.1 hx
      obtain ⟨stocks, hstocks, rfl⟩ := ih
      exact ⟨s :: stocks, .cons hs hstocks, rfl⟩
  · rintro ⟨stocks, hstocks, rfl⟩
    induction hstocks with
    | nil => exact .nil
    | cons hs _ ih => exact .cons (quantity_eq_ok_iff.2 ⟨_, hs, rfl⟩) ih

theorem quantities_eq_ok_iff (hvalue : value.elements? = some xs) :
    quantities value = .ok v ↔
      ∃ stocks, List.Forall₂ Gives xs stocks ∧ v = .list (stocks.map Stock.datum) := by
  rw [quantities, hvalue, map_eq_ok_iff]
  constructor
  · rintro ⟨vs, hvs, rfl⟩
    obtain ⟨stocks, hstocks, rfl⟩ := mapM_quantity_eq_ok_iff.1 hvs
    exact ⟨stocks, hstocks, rfl⟩
  · rintro ⟨stocks, hstocks, rfl⟩
    exact ⟨_, mapM_quantity_eq_ok_iff.2 ⟨stocks, hstocks, rfl⟩, rfl⟩

/-- A list fails as the first of its pairs that gives nothing. -/
theorem quantities_eq_error_iff (hvalue : value.elements? = some xs) :
    quantities value = .error failure ↔ ∃ before x after, xs = before ++ x :: after ∧
      (∃ stocks, List.Forall₂ Gives before stocks) ∧ Refuses x failure := by
  rw [quantities, hvalue, map_eq_error_iff, mapM_eq_error_iff]
  simp only [quantity_eq_error_iff, mapM_quantity_eq_ok_iff]
  constructor
  · rintro ⟨before, x, after, hxs, ⟨-, stocks, hstocks, -⟩, hx⟩
    exact ⟨before, x, after, hxs, ⟨stocks, hstocks⟩, hx⟩
  · rintro ⟨before, x, after, hxs, ⟨stocks, hstocks⟩, hx⟩
    exact ⟨before, x, after, hxs, ⟨_, stocks, hstocks, rfl⟩, hx⟩

end Convert

/-! ### Literals -/

namespace Stock

variable {s : Stock} {stocks : List Stock}

theorem isPlain_datum (h : integerFits s.available = true) : s.datum.IsPlain :=
  ⟨⟨_, rfl⟩, h, trivial, trivial⟩

/-- What a document says of assigned quantities. -/
theorem values?_map_datum (stocks : List Stock) :
    Datum.values? (stocks.map Stock.datum) = some (stocks.map Stock.value) := by
  induction stocks with
  | nil => rfl
  | cons s stocks ih =>
    rw [List.map_cons, Datum.values?, ih]
    rfl

/-- Quantities within the digit limit are written as a list with one object for each, in their
order. -/
theorem readValue?_literal (h : ∀ s ∈ stocks, integerFits s.available = true) :
    ∃ l, (Datum.list (stocks.map Stock.datum)).literal = .ok l ∧
      readValue? l.toList = some (.list (stocks.map Stock.value), []) := by
  have hvalue :
      (Datum.list (stocks.map Stock.datum)).value? = some (.list (stocks.map Stock.value)) := by
    rw [Datum.value?, values?_map_datum]
    rfl
  have hnumbers : Datum.HaveNumbers (stocks.map Stock.datum) :=
    Datum.haveNumbers_of_forall (List.forall_mem_map.2 fun s hs ↦ isPlain_datum (h s hs))
  obtain ⟨l, hl, hread, -⟩ := Datum.readValue?_literal hvalue hnumbers
  exact ⟨l, hl, hread⟩

/-- A quantity beyond the digit limit has no text. -/
theorem literal_datum (h : integerFits s.available = false) :
    s.datum.literal = Outcome.fault .badValue := by
  have hint : (Datum.int s.available).literal = Outcome.fault .badValue := by
    rw [Datum.literal, h]
    rfl
  have hkey : (Datum.str "availableQuantity").keyLiteral = .ok "availableQuantity" := rfl
  rw [datum, Datum.literal, Datum.entryLiterals_cons hkey, hint]
  rfl

/-- A quantity beyond the digit limit has no text, and with it the whole list has none. -/
theorem literal_eq_fault (h : ∃ s ∈ stocks, integerFits s.available = false) :
    (Datum.list (stocks.map Stock.datum)).literal = Outcome.fault .badValue := by
  have hliterals : Datum.literals (stocks.map Stock.datum) = Outcome.fault .badValue := by
    induction stocks with
    | nil => simp at h
    | cons s stocks ih =>
      rw [List.map_cons, Datum.literals_cons]
      cases hfits : integerFits s.available with
      | false =>
        rw [literal_datum hfits]
        rfl
      | true =>
        -- The others are written after this one, and one of them has no text.
        obtain ⟨s', hs', hlong⟩ := h
        rcases List.mem_cons.1 hs' with rfl | hs'
        · rw [hfits] at hlong
          cases hlong
        · obtain ⟨l, hl, -⟩ :=
            Datum.readValue?_literal (d := s.datum) rfl (isPlain_datum hfits).numbers
          rw [hl, ih ⟨s', hs', hlong⟩]
          rfl
  rw [Datum.literal, hliterals]
  rfl

end Stock

namespace Query

variable {q q' : Query .variant} {inputs : Inputs} {value : Datum} {xs : List Datum}
  {failure : Failure}

/-- The change is made exactly if every pair gives a quantity at a location. -/
theorem updateVariant_quantities_eq_ok_iff (hkind : q.kind = .update)
    (hinputs : q.inputs = some inputs) (hvalue : value.elements? = some xs) :
    q.updateVariant .inventoryQuantities value = .ok q' ↔ ∃ stocks, List.Forall₂ Gives xs stocks ∧
      q' = { q with
        inputs :=
          some (inputs.assign "inventoryQuantities" (.list (stocks.map Stock.datum))) } := by
  rw [updateVariant_of_update hkind hinputs, map_eq_ok_iff]
  show (∃ v, Convert.quantities value = .ok v ∧ _) ↔ _
  simp only [Convert.quantities_eq_ok_iff hvalue]
  constructor
  · rintro ⟨_, ⟨stocks, hstocks, rfl⟩, rfl⟩
    exact ⟨stocks, hstocks, rfl⟩
  · rintro ⟨stocks, hstocks, rfl⟩
    exact ⟨_, ⟨stocks, hstocks, rfl⟩, rfl⟩

/-- The change fails as the first pair that gives nothing. -/
theorem updateVariant_quantities_eq_error_iff (hkind : q.kind = .update)
    (hinputs : q.inputs = some inputs) (hvalue : value.elements? = some xs) :
    q.updateVariant .inventoryQuantities value = .error failure ↔
      ∃ before x after, xs = before ++ x :: after ∧ (∃ stocks, List.Forall₂ Gives before stocks) ∧
        Refuses x failure := by
  rw [updateVariant_of_update hkind hinputs, map_eq_error_iff]
  exact Convert.quantities_eq_error_iff hvalue

/-! ### Public contract -/

/-- **What an update makes of pairs of quantity and location.** If every pair gives a quantity at a
location, these are assigned, one for each pair and in their order; else the update fails as the
first pair that gives nothing, and there is no query. What is assigned is written as a list of
objects, each with the quantity and the canonical text of the location, unless a quantity is beyond
the digit limit. The quantity that is kept is the one that was handed in exactly if that is whole:
of a number that is not, the fraction is cut off. -/
theorem updateVariant_stocks (hkind : q.kind = .update) (hinputs : q.inputs = some inputs)
    (hvalue : value.elements? = some xs) :
    (∀ q', q.updateVariant .inventoryQuantities value = .ok q' ↔
      ∃ stocks, List.Forall₂ Gives xs stocks ∧
        q' =
          { q with
            inputs :=
              some (inputs.assign "inventoryQuantities" (.list (stocks.map Stock.datum))) }) ∧
    (∀ failure, q.updateVariant .inventoryQuantities value = .error failure ↔
      ∃ before x after, xs = before ++ x :: after ∧ (∃ stocks, List.Forall₂ Gives before stocks) ∧
        Refuses x failure) ∧
    (∀ stocks : List Stock,
      ((∀ s ∈ stocks, integerFits s.available = true) →
        ∃ l, (Datum.list (stocks.map Stock.datum)).literal = .ok l ∧
          readValue? l.toList = some (.list (stocks.map Stock.value), [])) ∧
      ((∃ s ∈ stocks, integerFits s.available = false) →
        (Datum.list (stocks.map Stock.datum)).literal = Outcome.fault .badValue)) ∧
    ∀ x s available place r, Gives x s → x.elements? = some [available, place] →
      available.IsQuantity r → ((s.available : ℚ) = r ↔ ∃ k : ℤ, (k : ℚ) = r) := by
  refine ⟨fun q' ↦ updateVariant_quantities_eq_ok_iff hkind hinputs hvalue,
    fun failure ↦ updateVariant_quantities_eq_error_iff hkind hinputs hvalue,
    fun _ ↦ ⟨Stock.readValue?_literal, Stock.literal_eq_fault⟩, ?_⟩
  intro x s available place r hgives hx hquantity
  -- A pair has one list of elements and a quantity is one number, so the pair is looked at as it
  -- was when it was taken.
  obtain ⟨hx', hquantity', hpart, -⟩ := hgives
  rw [hx] at hx'
  cases hx'
  rw [hquantity.unique hquantity']
  exact hpart.eq_iff

/-- Minus five at a location that is given by its number; and the text of a number with a
fraction. -/
theorem updateVariant_stocks_pair :
    ({ kind := .update, inputs := some .empty } : Query .variant).updateVariant .inventoryQuantities
        (.list [.tuple [.int (-5), .str "1001"]]) =
      .ok { kind := .update, inputs := some (Inputs.empty.assign "inventoryQuantities"
        (.list [.dict [(.str "availableQuantity", .int (-5)),
          (.str "locationId", .id ⟨.location, "1001", "shopify"⟩)]])) } ∧
    ({ kind := .update, inputs := some .empty } : Query .variant).updateVariant .inventoryQuantities
        (.list [.tuple [.str "2.5", .str "1001"]]) =
      .error (.invalidScalar (.str "2.5") "Int") := by
  have hplace : (Datum.str "1001").Locates ⟨.location, "1001", "shopify"⟩ :=
    .number (t := .str "1001") rfl (by decide)
  have hgives : Gives (.tuple [.int (-5), .str "1001"]) ⟨-5, ⟨.location, "1001", "shopify"⟩, rfl⟩ :=
    .pair rfl (.integer rfl rfl) (.of_int (-5)) hplace
  have hrefuses :
      Refuses (.tuple [.str "2.5", .str "1001"]) (.invalidScalar (.str "2.5") "Int") := by
    have hnone : ∀ r, ¬ (Datum.str "2.5").IsQuantity r := by
      intro r hr
      obtain ⟨n, hn, -⟩ := (Datum.isQuantity_of_asText? rfl).1 hr
      have hinteger : Numeral.integer? (codePoints "2.5".toList) = none := by decide
      rw [Text.points_str, hinteger] at hn
      cases hn
    have hpair :
        (Datum.tuple [.str "2.5", .str "1001"]).elements? = some [.str "2.5", .str "1001"] := rfl
    exact .quantity hpair hplace hnone
  exact ⟨((updateVariant_stocks rfl rfl rfl).1 _).2 ⟨[_], .cons hgives .nil, rfl⟩,
    ((updateVariant_stocks rfl rfl rfl).2.1 _).2 ⟨[], _, [], rfl, ⟨[], .nil⟩, hrefuses⟩⟩

/-- **A quantity of two and a half is taken as two**, and the document says so. -/
theorem updateVariant_cuts_quantity :
    (Binary64.finite false 5629499534213120 1023).toRat? = some (5 / 2) ∧
    ∃ q q' : Query .variant, Reached .any (.update (.id ⟨.productVariant, "77", "shopify"⟩)) q ∧
      q.updateVariant .inventoryQuantities
        (.list [.tuple [.float (.finite false 5629499534213120 1023), .str "1001"]]) = .ok q' ∧
      (Request.query ⟨.variant, q'⟩).compile.toOption = some
        ("mutation \x7b productVariantUpdate(input: " ++
          "\x7b id: \"gid://shopify/ProductVariant/77\", " ++
          "inventoryQuantities: [\x7b availableQuantity: 2, " ++
          "locationId: \"gid://shopify/Location/1001\" \x7d] \x7d) " ++
          "\x7b productVariant \x7b id \x7d \x7d \x7d") := by
  have hrat : (Binary64.finite false 5629499534213120 1023).toRat? = some (5 / 2) := by
    -- The comparison is one of integers, over the common unit of all finite numbers.
    have hscaled :
        Binary64.scaled false 5629499534213120 1023 * 2 = 5 * (2 ^ Binary64.unitScale : ℕ) := by
      decide +kernel
    rw [Binary64.toRat?, Option.some.injEq, div_eq_div_iff (by positivity) (by norm_num)]
    exact_mod_cast hscaled
  have hgives : Gives (.tuple [.float (.finite false 5629499534213120 1023), .str "1001"])
      ⟨2, ⟨.location, "1001", "shopify"⟩, rfl⟩ :=
    .pair rfl (.number hrat) (by norm_num [IsIntegerPart, abs_lt])
      (.number (t := .str "1001") rfl (by decide))
  let q : Query .variant :=
    { kind := .update
      identifier := some ⟨.productVariant, "77", "shopify"⟩
      inputs := some (Inputs.empty.assign "id" (.id ⟨.productVariant, "77", "shopify"⟩)) }
  have hmade : Reached .any (.update (.id ⟨.productVariant, "77", "shopify"⟩)) q :=
    .make rfl fun _ _ ↦ trivial
  have hchange := (updateVariant_quantities_eq_ok_iff (q := q) rfl rfl
    (show Datum.elements? (.list [_]) = some [_] from rfl)).2 ⟨[_], .cons hgives .nil, rfl⟩
  exact ⟨hrat, q, _, hmade, hchange, by decide +kernel⟩

end Query

end CatalogQuery
