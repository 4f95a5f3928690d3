import CatalogQuery.Number.Shortest
import Mathlib.Algebra.Order.Field.Rat
import Mathlib.Data.Nat.Log
import Mathlib.Tactic.FieldSimp
import Mathlib.Tactic.Positivity
import Mathlib.Tactic.Ring

/-!
# Decimal numbers and the number nearest to them

`Binary64.ofDecimal` rounds a decimal number once, with two early answers for exponents that are far
out. `Binary64.ofDecimal_congr` says that the answer depends on nothing but the **value** of the
decimal: digits may move over to the exponent and back. It rests on `ofRatio_congr`, that rounding a
ratio does not see a common factor, and on the early answers being what rounding would have answered
(`ofDecimal_eq_ofRatio`). The value alone also tells whether the number is finite: it has to be
below the midpoint above the largest one (`ofDecimal_isFinite_iff`).

The second half is the text of a number read the other way: the digits that `shortestDigits` finds
read back as the number (`ofDecimal_shortestDigits`). This is the test that the search itself makes,
except where it falls back to the exact expansion; there it is `ofRatio_ratio`, and this is where it
is used that a number keeps its mantissa and its exponent in canonical form.

## What is rounded when

Two facts carry the first half. A quotient is rounded to an odd number or less exactly if it is
below the midpoint above that number (`roundDiv_le_iff_of_odd`), because halves go to the even side.
And the exponent that is chosen for a ratio depends on the number of bits of its integer part only,
which a common factor does not change (`roundingExponent_mul_right`).

## What the canonical form is for

A mantissa and an exponent are stored so that no two pairs stand for one number: either the exponent
is the least one, or the mantissa has all its bits. Scaling such a pair and counting its bits finds
the exponent again (`log2_sub_of_isCanonical`), and then the quotient is the mantissa itself and
nothing is rounded at all (`ofRatio_scaled`). For a pair in any other form this fails: the same
number would be found, but under the canonical pair.
-/

namespace CatalogQuery

/-! ### Rounding a quotient

Halves are rounded to the even side, so a midpoint is rounded up exactly if the number below it is
odd.
-/

variable {a b c d k : Nat}

/-- Rounding a quotient does not see a common factor. -/
theorem roundDiv_mul_right (hk : 0 < k) (a b : Nat) : roundDiv (a * k) (b * k) = roundDiv a b := by
  have htwice : 2 * (a % b * k) = 2 * (a % b) * k := (Nat.mul_assoc ..).symm
  simp only [roundDiv, Nat.mul_div_mul_right _ _ hk, Nat.mul_mod_mul_right, htwice,
    Nat.mul_lt_mul_right hk]

theorem roundDiv_mul_self (hb : 0 < b) (a : Nat) : roundDiv (a * b) b = a := by
  simp [roundDiv, Nat.mul_div_cancel _ hb, hb]

/-- A midpoint above an odd number is rounded up, so a quotient is rounded to at most that number
exactly if it is below the midpoint. -/
theorem roundDiv_le_iff_of_odd {n : Nat} (hb : 0 < b) (hn : n % 2 = 1) :
    roundDiv a b ≤ n ↔ 2 * a < (2 * n + 1) * b := by
  have hdivMod : b * (a / b) + a % b = a := Nat.div_add_mod a b
  have hmod : a % b < b := Nat.mod_lt a hb
  have hlow := div_le_roundDiv a b
  have hhigh := roundDiv_le a b
  have hmidpoint : (2 * n + 1) * b = 2 * (b * n) + b := by ring
  rw [hmidpoint]
  -- Rounding moves the quotient up by at most one, so the midpoint matters only where the quotient
  -- is `n` itself; there the remainder is compared with half of the divisor.
  rcases Nat.lt_trichotomy (a / b) n with hlt | heq | hgt
  · have hmul : b * (a / b + 1) ≤ b * n := Nat.mul_le_mul_left b hlt
    rw [Nat.mul_add_one] at hmul
    omega
  · have hround : roundDiv a b ≤ n ↔ 2 * (a % b) < b := by
      simp only [roundDiv, heq]
      split_ifs <;> omega
    rw [hround]
    rw [heq] at hdivMod
    omega
  · have hmul : b * (n + 1) ≤ b * (a / b) := Nat.mul_le_mul_left b hgt
    rw [Nat.mul_add_one] at hmul
    omega

/-- What is below a half is rounded to zero. -/
theorem roundDiv_of_two_mul_lt (h : 2 * a < b) : roundDiv a b = 0 := by
  have hlt : a < b := by omega
  simp [roundDiv, Nat.mod_eq_of_lt hlt, Nat.div_eq_of_lt hlt, h]

namespace Binary64

variable {negative : Bool}

/-! ### Rounding a ratio

An exponent is chosen for a ratio, the ratio is scaled by it and rounded to a mantissa, and the two
are packed. The exponent depends on the number of bits of the quotient alone, so it does not see a
common factor, and then neither does the mantissa.
-/

/-- Rounding a ratio, with its two halves named: the mantissa and the exponent that are packed. -/
theorem ofRatio_eq (a b : Nat) : ofRatio negative a b =
    pack negative (roundedMantissa (a * 2 ^ unitScale) b) (roundingExponent (a * 2 ^ unitScale) b)
      (roundedMantissa_le _ b) (roundingExponent_eq_zero_or_le _ b) := by
  simp only [ofRatio, Nat.pow_eq]

theorem roundedMantissa_eq (a b : Nat) :
    roundedMantissa a b = roundDiv a (b * 2 ^ roundingExponent a b) := by
  simp only [roundedMantissa, Nat.pow_eq]

/-- A common factor does not change the exponent that a ratio is rounded at. -/
theorem roundingExponent_mul_right (hk : 0 < k) (a b : Nat) :
    roundingExponent (a * k) (b * k) = roundingExponent a b := by
  rw [roundingExponent, roundingExponent, Nat.mul_div_mul_right _ _ hk]

theorem roundedMantissa_mul_right (hk : 0 < k) (a b : Nat) :
    roundedMantissa (a * k) (b * k) = roundedMantissa a b := by
  rw [roundedMantissa_eq, roundedMantissa_eq, roundingExponent_mul_right hk, Nat.mul_right_comm,
    roundDiv_mul_right hk]

/-- A common factor does not change the number nearest to a ratio. -/
theorem ofRatio_mul_right (hk : 0 < k) (a b : Nat) :
    ofRatio negative (a * k) (b * k) = ofRatio negative a b := by
  have hscaled : a * k * 2 ^ unitScale = a * 2 ^ unitScale * k := Nat.mul_right_comm ..
  simp only [ofRatio_eq, hscaled, roundedMantissa_mul_right hk, roundingExponent_mul_right hk]

/-- Equal ratios have the same nearest number. -/
theorem ofRatio_congr (hb : 0 < b) (hd : 0 < d) (h : a * d = c * b) :
    ofRatio negative a b = ofRatio negative c d := by
  calc ofRatio negative a b
      = ofRatio negative (a * d) (b * d) := (ofRatio_mul_right hd a b).symm
    _ = ofRatio negative (c * b) (d * b) := by rw [h, Nat.mul_comm b d]
    _ = ofRatio negative c d := ofRatio_mul_right hb c d

/-- A ratio below one unit is rounded at the least exponent. -/
theorem roundingExponent_of_div_eq_zero (h : a / b = 0) : roundingExponent a b = 0 := by
  rw [roundingExponent, h, Nat.log2_zero]

/-- A quotient that rounds to zero is too small to be scaled. -/
theorem ofRatio_of_roundDiv_eq_zero (hquotient : a * 2 ^ unitScale / b = 0)
    (hround : roundDiv (a * 2 ^ unitScale) b = 0) : ofRatio negative a b = zero negative := by
  have hexponent := roundingExponent_of_div_eq_zero hquotient
  have hmantissa : roundedMantissa (a * 2 ^ unitScale) b = 0 := by
    rw [roundedMantissa_eq, hexponent, Nat.pow_zero, Nat.mul_one, hround]
  simp only [ofRatio_eq, hexponent, hmantissa]
  rfl

theorem ofRatio_zero_num (b : Nat) : ofRatio negative 0 b = zero negative :=
  ofRatio_of_roundDiv_eq_zero (by simp) (by simp [roundDiv])

/-- A ratio below half of the least positive number. -/
theorem ofRatio_eq_zero (h : 2 * (a * 2 ^ unitScale) < b) :
    ofRatio negative a b = zero negative :=
  ofRatio_of_roundDiv_eq_zero (Nat.div_eq_of_lt (by omega)) (roundDiv_of_two_mul_lt h)

/-- A quotient has more than `n` bits exactly if the dividend is at least `2 ^ n` times the divisor.
Zero counts as having no bits, which is why `n` has to be positive. -/
theorem le_log2_div_iff {n : Nat} (hb : 0 < b) (hn : 0 < n) :
    n ≤ Nat.log2 (a / b) ↔ 2 ^ n * b ≤ a := by
  rw [← Nat.le_div_iff_mul_le hb]
  rcases Nat.eq_zero_or_pos (a / b) with hzero | hpos
  · have := Nat.two_pow_pos n
    rw [hzero, Nat.log2_zero]
    omega
  · exact Nat.le_log2 (Nat.ne_of_gt hpos)

theorem pack_of_isCanonical {m e : Nat} (h : IsCanonical m e) :
    pack negative m e (Nat.le_of_lt h.lt) h.full = .finite negative m e h := by
  rw [pack, dif_neg (Nat.ne_of_lt h.lt), dif_pos h.le]

/-- An exponent beyond the largest one gives an infinity, whatever the mantissa. -/
theorem pack_of_maxExponent_lt {m e : Nat} {hm : m ≤ Nat.pow 2 53}
    {he : e = 0 ∨ Nat.pow 2 52 ≤ m} (h : maxExponent < e) :
    pack negative m e hm he = .inf negative := by
  rw [pack]
  split_ifs
  · omega
  · rfl
  · omega
  · rfl

/-- A ratio beyond the largest finite number. -/
theorem ofRatio_eq_inf {k : Nat} (hk : 1024 ≤ k) (hb : 0 < b) (h : b * 2 ^ k ≤ a) :
    ofRatio negative a b = .inf negative := by
  have hlog : k + unitScale ≤ Nat.log2 (a * 2 ^ unitScale / b) := by
    rw [le_log2_div_iff hb (by omega), Nat.pow_add, Nat.mul_right_comm, Nat.mul_comm (2 ^ k)]
    exact Nat.mul_le_mul_right _ h
  rw [ofRatio_eq]
  refine pack_of_maxExponent_lt ?_
  have hsum : maxExponent + 53 = 1024 + unitScale := rfl
  rw [roundingExponent]
  omega

/-! ### Rounding a decimal

The early answers avoid powers of ten that are too large to be written down. That they are the right
ones needs a comparison of powers of ten with powers of two, and a rough one is enough.
-/

/-- Ten has more than three bits. This is all that is used of how the two bases compare. -/
theorem two_pow_three_mul_le (n : Nat) : 2 ^ (3 * n) ≤ 10 ^ n := by
  rw [Nat.pow_mul]
  exact Nat.pow_le_pow_left (by decide) n

theorem one_mul_two_pow_le {digits k e : Nat} (hdigits : 0 < digits) (hk : k ≤ 3 * e) :
    1 * 2 ^ k ≤ digits * 10 ^ e := by
  calc 1 * 2 ^ k = 2 ^ k := Nat.one_mul _
    _ ≤ 2 ^ (3 * e) := Nat.pow_le_pow_right (by decide) hk
    _ ≤ 10 ^ e := two_pow_three_mul_le e
    _ ≤ digits * 10 ^ e := Nat.le_mul_of_pos_left _ hdigits

/-- The two early answers are what rounding answers. -/
theorem ofDecimal_eq_ofRatio (digits : Nat) (exponent : Int) :
    ofDecimal negative digits exponent =
      ofRatio negative (digits * 10 ^ exponent.toNat) (10 ^ (-exponent).toNat) := by
  rcases Nat.eq_zero_or_pos digits with rfl | hdigits
  · rw [Nat.zero_mul, ofRatio_zero_num]
    rfl
  rcases exponent with e | e
  · have hneg : (-(Int.ofNat e)).toNat = 0 := by simp
    simp only [ofDecimal, Nat.ne_of_gt hdigits, if_false, hneg, Nat.pow_zero]
    split
    · -- The first early answer: the exponent alone puts the number beyond the largest finite one.
      next hbig =>
      have hexponent : 1024 ≤ 3 * e := by omega
      exact (ofRatio_eq_inf hexponent Nat.one_pos (one_mul_two_pow_le hdigits le_rfl)).symm
    · rfl
  · have hpos : (Int.negSucc e).toNat = 0 := rfl
    have hneg : (-(Int.negSucc e)).toNat = e + 1 := rfl
    simp only [ofDecimal, Nat.ne_of_gt hdigits, if_false, hpos, hneg, Nat.pow_zero, Nat.mul_one]
    split
    · -- The second early answer: for its number of digits, the exponent puts the number below half
      -- of the least positive one.
      next hsmall =>
      refine (ofRatio_eq_zero ?_).symm
      have hlt : digits < 2 ^ (Nat.log2 digits + 1) := Nat.lt_log2_self
      calc 2 * (digits * 2 ^ unitScale)
          < 2 * (2 ^ (Nat.log2 digits + 1) * 2 ^ unitScale) := by
            have := Nat.mul_lt_mul_of_pos_right hlt (Nat.two_pow_pos unitScale)
            omega
        _ = 2 ^ (Nat.log2 digits + unitScale + 2) := by ring
        _ ≤ 2 ^ (3 * (e + 1)) := Nat.pow_le_pow_right (by decide) (by rw [unitScale]; omega)
        _ ≤ 10 ^ (e + 1) := two_pow_three_mul_le _
    · rfl

/-- The value of a decimal with a natural number of digits. -/
def Decimal.value (d : Decimal) : ℚ :=
  d.digits * 10 ^ d.exponent

/-- The value of a decimal as the ratio of natural numbers that is rounded for it. -/
theorem Decimal.value_eq_div (d : Decimal) :
    d.value = (d.digits * 10 ^ d.exponent.toNat : Nat) / (10 ^ (-d.exponent).toNat : Nat) := by
  rcases d with ⟨digits, e | e⟩
  · simp [value]
  · simp [value, zpow_negSucc, div_eq_mul_inv]

/-- **Equal decimals have the same nearest number.** -/
theorem ofDecimal_congr {d d' : Decimal} (h : d.value = d'.value) :
    ofDecimal negative d.digits d.exponent = ofDecimal negative d'.digits d'.exponent := by
  rw [ofDecimal_eq_ofRatio, ofDecimal_eq_ofRatio]
  refine ofRatio_congr (by positivity) (by positivity) ?_
  rw [Decimal.value_eq_div, Decimal.value_eq_div,
    div_eq_div_iff (by positivity) (by positivity)] at h
  exact_mod_cast h

/-! ### The finite numbers -/

/-- The midpoint between the largest finite number and the power of two above it,
`2 ^ 1024 - 2 ^ 970`. -/
def overflowThreshold : Nat :=
  (2 ^ 54 - 1) * 2 ^ 970

/-- A pair is packed to a finite number exactly if its exponent is in range, and still is after a
mantissa that reached the power of two was halved. -/
theorem pack_isFinite_iff {m e : Nat} {hm : m ≤ Nat.pow 2 53}
    {he : e = 0 ∨ Nat.pow 2 52 ≤ m} :
    (pack negative m e hm he).isFinite = true ↔
      e < maxExponent ∨ e = maxExponent ∧ m ≠ 2 ^ 53 := by
  rw [pack]
  split_ifs <;> simp_all [isFinite] <;> omega

/-- **A ratio is rounded to a finite number exactly if it is below the midpoint.** The midpoint goes
to the even side, which is the infinity. -/
theorem ofRatio_isFinite_iff (hb : 0 < b) :
    (ofRatio negative a b).isFinite = true ↔ a < overflowThreshold * b := by
  -- The powers of two in the threshold are kept as unknowns `u` and `unit`: written out they are
  -- numbers of a thousand bits, which no step below needs.
  obtain ⟨u, unit, hmax, hthreshold, hunit⟩ : ∃ u unit, maxExponent = u + 1 ∧
      overflowThreshold = (2 ^ 54 - 1) * unit ∧ unit * 2 ^ unitScale = 2 ^ u :=
    ⟨970 + unitScale, 2 ^ 970, rfl, by rw [overflowThreshold], by rw [Nat.pow_add]⟩
  have hscale : a < overflowThreshold * b ↔ a * 2 ^ unitScale < (2 ^ 54 - 1) * (2 ^ u * b) := by
    rw [← Nat.mul_lt_mul_right (Nat.two_pow_pos unitScale) (b := a), hthreshold, ← hunit,
      Nat.mul_right_comm, Nat.mul_assoc (2 ^ 54 - 1), Nat.mul_assoc]
  rw [hscale, ofRatio_eq, pack_isFinite_iff, hmax, roundedMantissa_eq, roundingExponent]
  generalize a * 2 ^ unitScale = scaled
  have hbits (k : Nat) :
      u + 1 + k ≤ Nat.log2 (scaled / b) ↔ 2 ^ (k + 1) * (2 ^ u * b) ≤ scaled := by
    rw [le_log2_div_iff hb (by omega), Nat.add_assoc, Nat.add_comm 1 k, Nat.add_comm u, Nat.pow_add,
      Nat.mul_assoc]
  -- Only the number of bits of the quotient matters from here on; it is compared with that of the
  -- last binade.
  have hlower := hbits 52
  have hupper := hbits 53
  generalize Nat.log2 (scaled / b) = bits at *
  rcases Nat.lt_trichotomy bits (u + 53) with hlt | rfl | hgt
  · have hsmall : ¬ 2 ^ 53 * (2 ^ u * b) ≤ scaled := fun h ↦ by have := hlower.2 h; omega
    omega
  · -- The last binade: the number is finite unless its mantissa is rounded up to the next power of
    -- two.
    have hexponent : u + 53 - 52 = u + 1 := rfl
    have hden : b * 2 ^ (u + 1) = 2 * (2 ^ u * b) := by rw [Nat.pow_succ]; ring
    have hpos : 0 < 2 * (2 ^ u * b) := by positivity
    have hquotient : scaled / (2 * (2 ^ u * b)) < 2 ^ 53 := by
      rw [Nat.div_lt_iff_lt_mul hpos]
      omega
    have hround := roundDiv_le scaled (2 * (2 ^ u * b))
    have hmidpoint := roundDiv_le_iff_of_odd (a := scaled) (n := 2 ^ 53 - 1) hpos rfl
    rw [hexponent, hden]
    omega
  · have hlarge : 2 ^ 54 * (2 ^ u * b) ≤ scaled := hupper.1 (by omega)
    omega

/-- **A decimal is rounded to a finite number exactly if its value is below the midpoint.** -/
theorem ofDecimal_isFinite_iff (d : Decimal) :
    (ofDecimal negative d.digits d.exponent).isFinite = true ↔ d.value < overflowThreshold := by
  rw [ofDecimal_eq_ofRatio, ofRatio_isFinite_iff (by positivity), Decimal.value_eq_div,
    div_lt_iff₀ (by positivity)]
  norm_cast

/-- Bounding a number by the infinities changes none that it lets through. -/
theorem eq_of_bounded? {x y : Binary64} (h : x.bounded? = some y) : x = y := by
  cases x with
  | inf s => cases h
  | nan => exact Option.some.inj h
  | finite s m e => exact Option.some.inj h

/-! ### Reading back

A canonical number is the ratio of two natural numbers of which the second is a power of two. The
exact expansion of this ratio is found by multiplying with powers of five, and every other candidate
of the search is tested before it is answered.
-/

theorem log2_mul_two_pow {m : Nat} (hm : 0 < m) (e : Nat) :
    Nat.log2 (m * 2 ^ e) = Nat.log2 m + e := by
  have hne : m * 2 ^ e ≠ 0 := Nat.mul_ne_zero (Nat.ne_of_gt hm) (by positivity)
  refine (Nat.log2_eq_iff hne).2 ⟨?_, ?_⟩
  · rw [Nat.pow_add]
    exact Nat.mul_le_mul_right _ (Nat.log2_self_le (Nat.ne_of_gt hm))
  · rw [Nat.add_right_comm, Nat.pow_add]
    exact Nat.mul_lt_mul_of_pos_right Nat.lt_log2_self (Nat.two_pow_pos _)

/-- The exponent of a canonical number is found again. -/
theorem log2_sub_of_isCanonical {m e : Nat} (h : IsCanonical m e) :
    Nat.log2 (m * 2 ^ e) - 52 = e := by
  obtain ⟨hm, he, -⟩ := h
  rcases Nat.eq_zero_or_pos m with rfl | hpos
  · rw [Nat.zero_mul, Nat.log2_zero]
    -- A number of the least exponent may have fewer bits than a full mantissa; every other has all
    -- of them.
    rcases he with rfl | hge
    · rfl
    · exact absurd hge (by decide)
  · have hlow : Nat.log2 m < 53 := (Nat.log2_lt (Nat.ne_of_gt hpos)).2 hm
    rw [log2_mul_two_pow hpos]
    rcases he with rfl | hge
    · omega
    · have hhigh : 52 ≤ Nat.log2 m := (Nat.le_log2 (Nat.ne_of_gt hpos)).2 hge
      omega

/-- The ratio of a canonical number rounds to the number. -/
theorem ofRatio_scaled {m e : Nat} (h : IsCanonical m e) :
    ofRatio negative (m * 2 ^ e) (2 ^ unitScale) = finite negative m e h := by
  generalize hscaled : m * 2 ^ e * 2 ^ unitScale = scaled
  have hexponent : roundingExponent scaled (2 ^ unitScale) = e := by
    rw [← hscaled, roundingExponent, Nat.mul_div_cancel _ (Nat.two_pow_pos _),
      log2_sub_of_isCanonical h]
  have hmantissa : roundedMantissa scaled (2 ^ unitScale) = m := by
    rw [roundedMantissa_eq, hexponent, ← hscaled, Nat.mul_assoc, Nat.mul_comm (2 ^ e)]
    exact roundDiv_mul_self (by positivity) m
  simp only [ofRatio_eq, hscaled, hexponent, hmantissa]
  exact pack_of_isCanonical h

theorem ratio_of_le {e : Nat} (h : unitScale ≤ e) (m : Nat) :
    ratio m e = (m * 2 ^ (e - unitScale), 1) :=
  if_pos h

theorem ratio_of_lt {e : Nat} (h : e < unitScale) (m : Nat) :
    ratio m e = (m, 2 ^ (unitScale - e)) :=
  if_neg (Nat.not_le_of_lt h)

theorem ratio_den_pos (m e : Nat) : 0 < (ratio m e).2 := by
  rcases Nat.lt_or_ge e unitScale with h | h
  · rw [ratio_of_lt h]
    exact Nat.two_pow_pos _
  · rw [ratio_of_le h]
    exact Nat.one_pos

/-- The two halves of `ratio` make the ratio that `scaled` counts. -/
theorem ratio_mul (m e : Nat) :
    m * 2 ^ e * (ratio m e).2 = (ratio m e).1 * 2 ^ unitScale := by
  rcases Nat.lt_or_ge e unitScale with h | h
  · rw [ratio_of_lt h, Nat.mul_assoc, ← Nat.pow_add, Nat.add_sub_cancel' (Nat.le_of_lt h)]
  · rw [ratio_of_le h, Nat.mul_one, Nat.mul_assoc, ← Nat.pow_add, Nat.sub_add_cancel h]

/-- **A number is nearest to its own ratio**, which is where the canonical form is used. -/
theorem ofRatio_ratio {m e : Nat} (h : IsCanonical m e) :
    ofRatio negative (ratio m e).1 (ratio m e).2 = finite negative m e h := by
  rw [← ofRatio_scaled h]
  exact ofRatio_congr (ratio_den_pos m e) (by positivity) (ratio_mul m e).symm

/-- The denominator of a number is a power of two. -/
theorem ratio_den_eq_pow (m e : Nat) : (ratio m e).2 = 2 ^ Nat.log2 (ratio m e).2 := by
  rcases Nat.lt_or_ge e unitScale with h | h
  · rw [ratio_of_lt h, Nat.log2_two_pow]
  · rw [ratio_of_le h]
    rfl

/-- The exact expansion trades each factor of two in the denominator for a factor of five above and
a factor of ten below. -/
theorem exactDecimal_eq (m e : Nat) :
    exactDecimal m e =
      ⟨(ratio m e).1 * 5 ^ Nat.log2 (ratio m e).2, -(Nat.log2 (ratio m e).2 : Int)⟩ :=
  rfl

/-- The exact expansion reads back: a power of two divides a power of ten. -/
theorem ofDecimal_exactDecimal {m e : Nat} (h : IsCanonical m e) :
    ofDecimal negative (exactDecimal m e).digits (exactDecimal m e).exponent =
      finite negative m e h := by
  rw [ofDecimal_eq_ofRatio, ← ofRatio_ratio h, exactDecimal_eq]
  generalize hk : Nat.log2 (ratio m e).2 = k
  have hden : (ratio m e).2 = 2 ^ k := hk ▸ ratio_den_eq_pow m e
  refine ofRatio_congr (by positivity) (ratio_den_pos m e) ?_
  have hpos : (-(k : Int)).toNat = 0 := by simp
  have hneg : (- -(k : Int)).toNat = k := by simp
  simp only [hden, hpos, hneg, Nat.pow_zero, Nat.mul_one]
  rw [Nat.mul_assoc, ← Nat.mul_pow]

theorem pack_eq_finite_iff {m e m' e' : Nat} {hm : m ≤ Nat.pow 2 53}
    {he : e = 0 ∨ Nat.pow 2 52 ≤ m} {h : IsCanonical m' e'} :
    pack negative m e hm he = finite negative m' e' h ↔
      pack false m e hm he = finite false m' e' h := by
  simp only [pack]
  split_ifs <;> simp

/-- The sign of a decimal is the sign of the nearest number. -/
theorem ofDecimal_eq_finite_iff {digits m e : Nat} {exponent : Int} {h : IsCanonical m e} :
    ofDecimal negative digits exponent = finite negative m e h ↔
      ofDecimal false digits exponent = finite false m e h := by
  simp only [ofDecimal_eq_ofRatio, ofRatio_eq]
  exact pack_eq_finite_iff

/-- The test that the search makes of its digits says what it is meant to say. -/
theorem readsBack_iff {m e : Nat} {d : Decimal} (h : IsCanonical m e) :
    readsBack m e d = true ↔ ofDecimal false d.digits d.exponent = finite false m e h := by
  rw [readsBack]
  split
  · next hd => simp [hd]
  · next hne =>
    simp only [Bool.false_eq_true, false_iff]
    exact fun hd ↦ hne _ _ _ hd

/-- The search answers no digits that it has not tested. -/
theorem readsBack_of_onGrid? {m e : Nat} {g : Int} {d : Decimal} (h : onGrid? m e g = some d) :
    readsBack m e d = true := by
  simp only [onGrid?] at h
  split_ifs at h with hnear hfar
  all_goals cases h; assumption

/-- **The digits of a number read back as the number.** -/
theorem ofDecimal_shortestDigits (negative : Bool) {m e : Nat} (h : IsCanonical m e) :
    ofDecimal negative (shortestDigits m e).digits (shortestDigits m e).exponent =
      finite negative m e h := by
  simp only [shortestDigits]
  rcases hsome : (List.range 17).findSome? fun (n : Nat) ↦
    onGrid? m e (magnitude (ratio m e).1 (ratio m e).2 - (n + 1)) with - | d
  · -- No number of digits up to seventeen was enough; this never happens, but the exact expansion
    -- that is used then reads back as well, so it need not be shown here.
    exact ofDecimal_exactDecimal h
  · obtain ⟨n, -, hgrid⟩ := List.exists_of_findSome?_eq_some hsome
    exact ofDecimal_eq_finite_iff.2 ((readsBack_iff h).1 (readsBack_of_onGrid? hgrid))

end Binary64

end CatalogQuery
