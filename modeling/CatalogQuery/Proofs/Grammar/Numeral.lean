import CatalogQuery.Proofs.Decimal
import CatalogQuery.Proofs.Grammar.Token
import Mathlib.Data.List.TakeWhile

/-!
# Numbers as tokens

The text of an integer and the text of a finite number are read by `number?` as what they were
written from, before anything that does not continue a number.

An integer is its digits. A number is laid out around its point, in one of five ways; whatever the
way, the parts that `number?` finds denote the same decimal, and that is enough by
`Binary64.ofDecimal_congr`. So the layout is undone in general (`number?_layout`) and only then does
the number come in (`number?_magnitudeText`).

A number is written without regard to what follows, but it is read up to what does not continue it.
So every statement here is about a text with an arbitrary **rest**, and the one thing that is asked
of the rest is `stops`: that it does not begin with a letter, a digit, a point or a quotation mark.
The same condition serves for names and strings, which is why it asks for more than numbers need.

## How the layouts are undone

A numeral is given by its whole part, the digits behind its point and its exponent, and each of
these may be missing. `number?_append` reads it from those parts, whatever they are. Two special
cases are all that is written: a positional numeral, which has a fraction and no exponent
(`number?_positional`), and one in exponent notation, which has one digit before its point
(`number?_scientific`).

Where the digits of a number do not reach its point, zeros fill the gap, on either side. They change
the digits that are read and the number of digits behind the point in such a way that the value
stays, since a zero at the end is a factor of ten and a zero in front is none. That is the content
of `number?_layout_far_before` and `number?_layout_after`; in the two other positions nothing is
filled.
-/

namespace CatalogQuery.Grammar

open Binary64

variable {ds rest : List Char}

/-! ### What a number can end before

`stops` is what is known of the rest of a text. The parts of a number ask for less, each for its
own: a run of digits that no digit follows, a fraction that no point is next, and the whole that
nothing follows which would continue it. The lemmas below take `stops` apart into these.
-/

/-- A text before which every token can end. -/
def stops : List Char → Bool
  | [] => true
  | c :: _ => !isNameContinue c && c != '.' && c != '"'

/-- A text that does not begin with a digit. -/
def startsNoDigit (cs : List Char) : Bool :=
  cs.head?.all fun c ↦ !c.isDigit

theorem isNameContinue_of_isDigit {c : Char} (h : c.isDigit = true) : isNameContinue c = true := by
  simp [isNameContinue, Char.isAlphanum, h]

theorem isNameContinue_of_isNameStart {c : Char} (h : isNameStart c = true) :
    isNameContinue c = true := by
  simp only [isNameStart, isNameContinue, Char.isAlphanum, Bool.or_eq_true] at h ⊢
  exact h.imp_left .inl

/-- Where a token can end, a run of digits ends. -/
theorem startsNoDigit_of_stops (h : stops rest = true) : startsNoDigit rest = true := by
  cases rest with
  | nil => rfl
  | cons c cs =>
    simp only [stops, Bool.and_eq_true, Bool.not_eq_true'] at h
    by_contra hdigit
    simp only [startsNoDigit, List.head?_cons, Option.all_some, Bool.not_eq_true',
      Bool.not_eq_false] at hdigit
    simp [isNameContinue_of_isDigit hdigit] at h

theorem continuesNumber_of_stops (h : stops rest = true) : continuesNumber rest = false := by
  cases rest with
  | nil => rfl
  | cons c cs =>
    simp only [stops, Bool.and_eq_true, Bool.not_eq_true', bne_iff_ne] at h
    simp [continuesNumber, h.1.1, h.1.2]

/-- The run of digits at the start of a text is found whole, and nothing more. -/
theorem takeWhile_isDigit_append (hds : ∀ c ∈ ds, c.isDigit = true)
    (hrest : startsNoDigit rest = true) : (ds ++ rest).takeWhile Char.isDigit = ds := by
  rw [List.takeWhile_append_of_pos hds]
  cases rest with
  | nil => simp
  | cons c cs => simp [by simpa [startsNoDigit] using hrest]

theorem dropWhile_isDigit_append (hds : ∀ c ∈ ds, c.isDigit = true)
    (hrest : startsNoDigit rest = true) : (ds ++ rest).dropWhile Char.isDigit = rest := by
  rw [List.dropWhile_append_of_pos hds]
  cases rest with
  | nil => simp
  | cons c cs => simp [by simpa [startsNoDigit] using hrest]

/-! ### The parts of a number

A number is read in three steps, the whole part, the fraction and the exponent, and then what
follows is looked at. `number?_append` is the only lemma that goes through all of them; all later
ones choose the parts.
-/

/-- A fraction with its point; an empty one has none. -/
def pointed : List Char → List Char
  | [] => []
  | ds => '.' :: ds

/-- A fraction is found behind its point. An empty one has no point, and then what follows must not
look like one. -/
theorem fraction?_pointed (hds : ∀ c ∈ ds, c.isDigit = true) (hrest : startsNoDigit rest = true)
    (hpoint : rest.head? ≠ some '.') : fraction? (pointed ds ++ rest) = some (ds, rest) := by
  cases ds with
  | nil =>
    cases rest with
    | nil => rfl
    | cons c cs =>
      have hne : c ≠ '.' := by simpa using hpoint
      simp [pointed, fraction?, hne]
  | cons d ds =>
    have htake := takeWhile_isDigit_append hds hrest
    have hdrop := dropWhile_isDigit_append hds hrest
    rw [List.cons_append] at htake hdrop
    simp only [pointed, List.cons_append, fraction?, htake, hdrop]

/-- A number is read from its parts. -/
theorem number?_append (negative : Bool) {whole fraction tail : List Char} {exponent : Option Int}
    (hwhole : isWhole whole = true) (hdigits : ∀ c ∈ whole, c.isDigit = true)
    (hfraction : ∀ c ∈ fraction, c.isDigit = true) (htail : startsNoDigit tail = true)
    (hpoint : tail.head? ≠ some '.') (hexponent : exponent? tail = some (exponent, rest))
    (hrest : stops rest = true) :
    number? negative (whole ++ (pointed fraction ++ tail)) =
      some (numberToken negative whole fraction exponent, rest) := by
  -- The whole part ends before the point, or before the tail if there is no fraction.
  have hstart : startsNoDigit (pointed fraction ++ tail) = true := by
    cases fraction with
    | nil => exact htail
    | cons d ds => rfl
  simp only [number?, takeWhile_isDigit_append hdigits hstart, hwhole, if_true,
    dropWhile_isDigit_append hdigits hstart, fraction?_pointed hfraction htail hpoint, hexponent,
    continuesNumber_of_stops hrest, Bool.false_eq_true, if_false]

/-- Where a token can end there is no exponent. -/
theorem exponent?_of_stops (hstops : stops rest = true) : exponent? rest = some (none, rest) := by
  cases rest with
  | nil => rfl
  | cons c cs =>
    have hletter : ¬ (c = 'e' ∨ c = 'E') := by
      rintro (rfl | rfl) <;> simp [stops, isNameContinue] at hstops
    simp [exponent?, hletter]

theorem head?_ne_point_of_stops (hstops : stops rest = true) : rest.head? ≠ some '.' := by
  cases rest with
  | nil => simp
  | cons c cs =>
    simp only [stops, Bool.and_eq_true, bne_iff_ne] at hstops
    simpa using hstops.1.2

/-! ### Digits of natural numbers -/

theorem isDigit_of_mem_toDigits {n : Nat} {c : Char} (h : c ∈ Nat.toDigits 10 n) :
    c.isDigit = true :=
  Nat.isDigit_of_mem_toDigits (by decide) (by decide) h

/-- The digits of a positive number do not begin with a zero. -/
theorem head?_toDigits_ne_zero {n : Nat} (hn : 0 < n) : (Nat.toDigits 10 n).head? ≠ some '0' := by
  -- By strong induction: the first digit of a number of several digits is that of a tenth of it.
  induction n using Nat.strongRecOn with
  | ind n ih =>
    rcases Nat.lt_or_ge n 10 with hlt | hge
    · rw [Nat.toDigits_of_lt_base hlt, List.head?_cons]
      intro h
      have : n = 0 := Nat.digitChar_eq_zero.1 (Option.some.inj h)
      omega
    · have hhead := ih (n / 10) (by omega) (by omega)
      rw [Nat.toDigits_of_base_le (by decide) hge,
        List.head?_append_of_ne_nil _ Nat.toDigits_ne_nil]
      exact hhead

/-- Digits that do not begin with a zero are a whole part. -/
theorem isWhole_of_head? (hne : ds ≠ []) (hhead : ds.head? ≠ some '0') : isWhole ds = true := by
  unfold isWhole
  split
  · exact absurd rfl hne
  · simp at hhead
  · rfl

theorem isWhole_toDigits (n : Nat) : isWhole (Nat.toDigits 10 n) = true := by
  rcases Nat.eq_zero_or_pos n with rfl | hn
  · rw [Nat.toDigits_zero]
    rfl
  · exact isWhole_of_head? Nat.toDigits_ne_nil (head?_toDigits_ne_zero hn)

/-! ### Integers -/

/-- The digits of a natural number are read as the integer, with the sign that was read before
them. -/
theorem number?_toDigits (negative : Bool) (n : Nat) (hrest : stops rest = true) :
    number? negative (Nat.toDigits 10 n ++ rest) =
      some (.int (if negative then -n else n), rest) := by
  have hnone : ∀ c ∈ ([] : List Char), c.isDigit = true := by simp
  have h := number?_append negative (isWhole_toDigits n) (fun _ ↦ isDigit_of_mem_toDigits) hnone
    (startsNoDigit_of_stops hrest) (head?_ne_point_of_stops hrest) (exponent?_of_stops hrest) hrest
  simpa [pointed, numberToken] using h

/-! ### Exponents

An exponent is written with its sign and at least two digits. The zero that fills up a single digit
does not change what the digits denote.
-/

theorem ofDigitChars_cons_zero (ds : List Char) :
    Nat.ofDigitChars 10 ('0' :: ds) 0 = Nat.ofDigitChars 10 ds 0 := by
  rw [Nat.ofDigitChars_cons]
  rfl

/-- The digits of an exponent, of which there are at least two. -/
theorem exponentText_digits (n : Int) :
    ∃ ds : List Char, exponentText n = (if n < 0 then '-' else '+') :: ds ∧ ds ≠ [] ∧
      (∀ c ∈ ds, c.isDigit = true) ∧ Nat.ofDigitChars 10 ds 0 = n.natAbs := by
  have hdigits : ∀ c ∈ Nat.toDigits 10 n.natAbs, c.isDigit = true := fun _ ↦ isDigit_of_mem_toDigits
  refine ⟨_, rfl, ?_⟩
  split
  · refine ⟨by simp, by simpa using hdigits, ?_⟩
    rw [ofDigitChars_cons_zero, Nat.ofDigitChars_ten_toDigits]
  · exact ⟨Nat.toDigits_ne_nil, hdigits, Nat.ofDigitChars_ten_toDigits⟩

/-- An exponent is read as what it was written from. -/
theorem exponent?_exponentText (n : Int) (hrest : stops rest = true) :
    exponent? ('e' :: exponentText n ++ rest) = some (some n, rest) := by
  obtain ⟨ds, htext, hne, hdigits, hvalue⟩ := exponentText_digits n
  have htake := takeWhile_isDigit_append hdigits (startsNoDigit_of_stops hrest)
  have hdrop := dropWhile_isDigit_append hdigits (startsNoDigit_of_stops hrest)
  have hsign :
      sign ((if n < 0 then '-' else '+') :: (ds ++ rest)) = (decide (n < 0), ds ++ rest) := by
    split <;> simp [sign, *]
  rw [htext, List.cons_append, List.cons_append]
  simp only [exponent?, hsign, htake, hdrop, decide_true, Bool.true_or, if_true]
  obtain ⟨d, ds, rfl⟩ := List.exists_cons_of_ne_nil hne
  simp only [hvalue, decide_eq_true_eq]
  congr 3
  split <;> omega

/-! ### Layouts -/

/-- Zeros move over to the exponent. -/
theorem ofDecimal_mul_pow (negative : Bool) (a k : Nat) (e : Int) :
    ofDecimal negative (a * 10 ^ k) (e - k) = ofDecimal negative a e := by
  have hvalue : Decimal.value ⟨a * 10 ^ k, e - k⟩ = Decimal.value ⟨a, e⟩ := by
    simp only [Decimal.value, Nat.cast_mul, Nat.cast_pow, Nat.cast_ofNat]
    rw [zpow_sub₀ (by norm_num), zpow_natCast]
    field_simp
  exact ofDecimal_congr hvalue

theorem ofDigitChars_replicate_append (k : Nat) (ds : List Char) :
    Nat.ofDigitChars 10 (List.replicate k '0' ++ ds) 0 = Nat.ofDigitChars 10 ds 0 := by
  rw [Nat.ofDigitChars_append, Nat.ofDigitChars_replicate_zero, Nat.mul_zero]

/-- Each zero behind digits is a factor of ten. -/
theorem ofDigitChars_append_replicate (k : Nat) (ds : List Char) :
    Nat.ofDigitChars 10 (ds ++ List.replicate k '0') 0 = Nat.ofDigitChars 10 ds 0 * 10 ^ k := by
  rw [Nat.ofDigitChars_append, Nat.ofDigitChars_replicate_zero, Nat.mul_comm]

/-- A number with a fraction or an exponent is a number with a point, even if its value is whole. -/
theorem numberToken_of_fraction (negative : Bool) {whole fraction : List Char}
    {exponent : Option Int} (h : fraction ≠ [] ∨ exponent.isSome = true) :
    numberToken negative whole fraction exponent =
      .float (ofDecimal negative (Nat.ofDigitChars 10 (whole ++ fraction) 0)
        (exponent.getD 0 - fraction.length)) := by
  have hfalse : (fraction.isEmpty && exponent.isNone) = false := by
    rcases h with h | h
    · simp [h]
    · cases exponent with
      | none => cases h
      | some e => simp
  rw [numberToken, hfalse]
  rfl

/-- A positional numeral is read from its whole part and its fraction. -/
theorem number?_positional (negative : Bool) {whole fraction : List Char}
    (hwhole : isWhole whole = true)
    (hdigits : ∀ c ∈ whole ++ fraction, c.isDigit = true) (hne : fraction ≠ [])
    (hrest : stops rest = true) :
    number? negative (whole ++ '.' :: fraction ++ rest) =
      some (.float (ofDecimal negative (Nat.ofDigitChars 10 (whole ++ fraction) 0)
        (-(fraction.length : Int))), rest) := by
  have h := number?_append negative hwhole
    (fun c hc ↦ hdigits c (List.mem_append_left _ hc))
    (fun c hc ↦ hdigits c (List.mem_append_right _ hc)) (startsNoDigit_of_stops hrest)
    (head?_ne_point_of_stops hrest) (exponent?_of_stops hrest) hrest
  rw [numberToken_of_fraction negative (.inl hne)] at h
  obtain ⟨d, fraction, rfl⟩ := List.exists_cons_of_ne_nil hne
  simpa [pointed] using h

/-- A numeral with an exponent is read from its first digit, the others and the exponent. -/
theorem number?_scientific (negative : Bool) {d : Char} (hdigits : ∀ c ∈ d :: ds, c.isDigit = true)
    (e : Int) (hrest : stops rest = true) :
    number? negative (d :: (pointed ds ++ ('e' :: exponentText e ++ rest))) =
      some (.float (ofDecimal negative (Nat.ofDigitChars 10 (d :: ds) 0) (e - ds.length)),
        rest) := by
  have hwhole : isWhole [d] = true := by
    unfold isWhole
    split <;> simp_all
  have hfirst : ∀ c ∈ [d], c.isDigit = true := by simpa using hdigits d
  have hothers : ∀ c ∈ ds, c.isDigit = true := fun c hc ↦ hdigits c (List.mem_cons_of_mem _ hc)
  have h := number?_append negative hwhole hfirst hothers rfl (by simp)
    (exponent?_exponentText e hrest) hrest
  rw [numberToken_of_fraction negative (.inr rfl)] at h
  simpa using h

theorem isDigit_of_mem_replicate {k : Nat} {c : Char} (h : c ∈ List.replicate k '0') :
    c.isDigit = true := by
  rw [List.eq_of_mem_replicate h]
  rfl

/-- The point stands right before the digits. -/
theorem number?_layout_before (negative : Bool) (hne : ds ≠ [])
    (hdigits : ∀ c ∈ ds, c.isDigit = true) (hrest : stops rest = true) :
    number? negative ('0' :: '.' :: ds ++ rest) =
      some (.float (ofDecimal negative (Nat.ofDigitChars 10 ds 0) (-(ds.length : Int))), rest) := by
  have hzero : isWhole ['0'] = true := rfl
  have h := number?_positional negative hzero (by simpa using hdigits) hne hrest
  simpa [ofDigitChars_cons_zero] using h

/-- Zeros stand between the point and the digits. -/
theorem number?_layout_far_before (negative : Bool) (hne : ds ≠ [])
    (hdigits : ∀ c ∈ ds, c.isDigit = true) (k : Nat) (hrest : stops rest = true) :
    number? negative ('0' :: '.' :: (List.replicate k '0' ++ ds) ++ rest) =
      some (.float (ofDecimal negative (Nat.ofDigitChars 10 ds 0) (-(k : Int) - ds.length)),
        rest) := by
  have hall : ∀ c ∈ List.replicate k '0' ++ ds, c.isDigit = true := by
    intro c hc
    exact (List.mem_append.1 hc).elim isDigit_of_mem_replicate (hdigits c)
  have hplace : -((List.replicate k '0' ++ ds).length : Int) = -(k : Int) - ds.length := by
    rw [List.length_append, List.length_replicate]
    omega
  have h := number?_layout_before negative (by simp [hne]) hall hrest
  rwa [ofDigitChars_replicate_append, hplace] at h

/-- The point stands after the digits, and zeros fill the gap. -/
theorem number?_layout_after (negative : Bool) (hne : ds ≠ [])
    (hdigits : ∀ c ∈ ds, c.isDigit = true)
    (hhead : ds.head? ≠ some '0') (k : Nat) (hrest : stops rest = true) :
    number? negative (ds ++ List.replicate k '0' ++ ['.', '0'] ++ rest) =
      some (.float (ofDecimal negative (Nat.ofDigitChars 10 ds 0) k), rest) := by
  have hwhole : isWhole (ds ++ List.replicate k '0') = true :=
    isWhole_of_head? (by simp [hne]) (by rwa [List.head?_append_of_ne_nil _ hne])
  have hzeros : ds ++ List.replicate k '0' ++ ['0'] = ds ++ List.replicate (k + 1) '0' := by
    rw [List.append_assoc, List.replicate_succ']
  have hall : ∀ c ∈ ds ++ List.replicate k '0' ++ ['0'], c.isDigit = true := by
    rw [hzeros]
    intro c hc
    exact (List.mem_append.1 hc).elim (hdigits c) isDigit_of_mem_replicate
  have hexponent : -((['0'] : List Char).length : Int) = (k : Int) - (k + 1 : Nat) := by
    rw [List.length_singleton]
    omega
  have h := number?_positional negative hwhole hall (by simp) hrest
  rw [hzeros, ofDigitChars_append_replicate, hexponent, ofDecimal_mul_pow] at h
  simpa using h

/-- The point stands between the digits. -/
theorem number?_layout_between (negative : Bool) (hdigits : ∀ c ∈ ds, c.isDigit = true)
    (hhead : ds.head? ≠ some '0') {k : Nat} (hpos : 0 < k) (hlt : k < ds.length)
    (hrest : stops rest = true) :
    number? negative (ds.take k ++ '.' :: ds.drop k ++ rest) =
      some (.float (ofDecimal negative (Nat.ofDigitChars 10 ds 0) ((k : Int) - ds.length)),
        rest) := by
  -- The digits before the point are some, and do not begin with a zero.
  have hwhole : isWhole (ds.take k) = true := by
    refine isWhole_of_head? ?_ ?_
    · intro h
      have := congrArg List.length h
      rw [List.length_take, List.length_nil] at this
      omega
    · rwa [List.head?_take, if_neg (Nat.ne_of_gt hpos)]
  have hexponent : -((ds.drop k).length : Int) = (k : Int) - ds.length := by
    rw [List.length_drop]
    omega
  have h := number?_positional negative hwhole (by rwa [List.take_append_drop])
    (by simpa using hlt) hrest
  rwa [List.take_append_drop, hexponent] at h

/-- **Every layout of digits denotes the digits with the point at its place.** -/
theorem number?_layout (negative : Bool) (hne : ds ≠ []) (hdigits : ∀ c ∈ ds, c.isDigit = true)
    (hhead : ds.head? ≠ some '0') (place : Int) (hrest : stops rest = true) :
    number? negative (layout ds place ++ rest) =
      some (.float (ofDecimal negative (Nat.ofDigitChars 10 ds 0) (place - ds.length)), rest) := by
  unfold layout
  split
  · -- Positional notation: the place of the point is at the digits, behind or among them, or before
    -- them.
    rcases place with (_ | k) | k
    · have hplace : Int.ofNat 0 - ds.length = -(ds.length : Int) := Int.zero_sub _
      rw [hplace]
      exact number?_layout_before negative hne hdigits hrest
    · simp only
      split
      · next hle =>
        have hplace : (Int.ofNat (k + 1)) - ds.length = (k + 1 - ds.length : Nat) := by
          rw [Int.ofNat_eq_natCast]
          omega
        rw [hplace]
        exact number?_layout_after negative hne hdigits hhead _ hrest
      · next hlt =>
        exact number?_layout_between negative hdigits hhead (Nat.succ_pos k) (Nat.lt_of_not_le hlt)
          hrest
    · exact number?_layout_far_before negative hne hdigits (k + 1) hrest
  · -- Exponent notation. One digit has no point behind it, several have.
    split
    · exact absurd rfl hne
    · next d =>
      have h := number?_scientific negative hdigits (place - 1) hrest
      simpa [pointed] using h
    · next d ds hmore =>
      have h := number?_scientific negative hdigits (place - 1) hrest
      obtain ⟨d', ds, rfl⟩ := List.exists_cons_of_ne_nil hmore
      have hplace : place - 1 - ((d' :: ds).length : Int) = place - (d :: d' :: ds).length := by
        simp only [List.length_cons]
        omega
      rw [hplace] at h
      simpa [pointed] using h

/-! ### The text of a number

The digits that are laid out are the shortest ones without the zeros at their end. These zeros are a
power of ten and go to the exponent (`normalDigits_spec`), so the value is not changed by dropping
them. Zero is written apart, since it would have no digit left.
-/

/-- Digits are the digits without the zeros at their end, and these zeros. -/
theorem exists_append_replicate (ds : List Char) :
    ∃ k, ds = (ds.reverse.dropWhile (· == '0')).reverse ++ List.replicate k '0' := by
  have hzeros : ds.reverse.takeWhile (· == '0') =
      List.replicate (ds.reverse.takeWhile (· == '0')).length '0' := by
    refine List.eq_replicate_iff.2 ⟨rfl, fun c hc ↦ ?_⟩
    simpa using List.mem_takeWhile_imp hc
  refine ⟨(ds.reverse.takeWhile (· == '0')).length, ?_⟩
  calc ds = (ds.reverse.takeWhile (· == '0') ++ ds.reverse.dropWhile (· == '0')).reverse := by
        rw [List.takeWhile_append_dropWhile, List.reverse_reverse]
    _ = (ds.reverse.dropWhile (· == '0')).reverse ++ (ds.reverse.takeWhile (· == '0')).reverse :=
        List.reverse_append
    _ = _ := by rw [hzeros, List.reverse_replicate, List.length_replicate]

/-- What the digits without the zeros at their end are, for a positive decimal. -/
theorem normalDigits_spec (negative : Bool) {d : Decimal} (hpos : 0 < d.digits) :
    ∃ kept place, normalDigits d = (kept, place) ∧ kept ≠ [] ∧
      (∀ c ∈ kept, c.isDigit = true) ∧ kept.head? ≠ some '0' ∧
      ofDecimal negative (Nat.ofDigitChars 10 kept 0) (place - kept.length) =
        ofDecimal negative d.digits d.exponent := by
  obtain ⟨k, hk⟩ := exists_append_replicate (Nat.toDigits 10 d.digits)
  generalize hkept : ((Nat.toDigits 10 d.digits).reverse.dropWhile (· == '0')).reverse = kept at hk
  -- The zeros that were dropped are a power of ten, which goes to the exponent.
  have hvalue : d.digits = Nat.ofDigitChars 10 kept 0 * 10 ^ k := by
    rw [← ofDigitChars_append_replicate, ← hk, Nat.ofDigitChars_ten_toDigits]
  have hne : kept ≠ [] := by
    rintro rfl
    rw [Nat.ofDigitChars_nil, Nat.zero_mul] at hvalue
    omega
  refine ⟨kept, (Nat.toDigits 10 d.digits).length + d.exponent, ?_, hne, ?_, ?_, ?_⟩
  · simp only [normalDigits, hkept]
  · intro c hc
    exact isDigit_of_mem_toDigits (hk ▸ List.mem_append_left _ hc)
  · have hhead := head?_toDigits_ne_zero hpos
    rwa [hk, List.head?_append_of_ne_nil _ hne] at hhead
  · have hplace : ((Nat.toDigits 10 d.digits).length : Int) + d.exponent - kept.length =
        d.exponent + k := by
      rw [hk, List.length_append, List.length_replicate]
      omega
    rw [hplace, hvalue, ← ofDecimal_mul_pow negative _ k (d.exponent + k), Int.add_sub_cancel]

/-- **The text of the magnitude of a number is read as the number.** -/
theorem number?_magnitudeText {negative : Bool} {m e : Nat} (h : IsCanonical m e)
    (hrest : stops rest = true) :
    number? negative (magnitudeText m e ++ rest) = some (.float (finite negative m e h), rest) := by
  rcases Nat.eq_zero_or_pos m with rfl | hm
  · obtain rfl : e = 0 := h.full.resolve_right (by decide)
    have hzero : isWhole ['0'] = true := rfl
    have hdigits : ∀ c ∈ ['0'] ++ ['0'], c.isDigit = true := List.all_eq_true.1 rfl
    exact number?_positional negative hzero hdigits (by decide) hrest
  · -- The digits of a positive number are not all zeros, since zero would read back as zero.
    have hback := ofDecimal_shortestDigits negative h
    have hpos : 0 < (shortestDigits m e).digits := by
      refine Nat.pos_of_ne_zero fun hzero ↦ ?_
      rw [hzero] at hback
      cases hback
      omega
    obtain ⟨kept, place, hnormal, hne, hdigits, hhead, hvalue⟩ := normalDigits_spec negative hpos
    simp only [magnitudeText, Nat.ne_of_gt hm, if_false, hnormal]
    rw [number?_layout negative hne hdigits hhead place hrest, hvalue, hback]

end CatalogQuery.Grammar
