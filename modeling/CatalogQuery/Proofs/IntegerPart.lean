import CatalogQuery.Number.Binary64
import Mathlib.Algebra.Order.Field.Basic
import Mathlib.Data.Rat.Cast.Order
import Mathlib.Tactic.FieldSimp
import Mathlib.Tactic.Linarith
import Mathlib.Tactic.NormNum
import Mathlib.Tactic.Positivity

/-!
# Integer parts of numbers

A finite number is a rational (`Binary64.toRat?`). To cut it to an integer leaves what lies between
zero and the number and is nearest to the number (`IsIntegerPart`); the two are equal exactly if the
number is whole. So `Binary64.truncate?` answers for every finite number, and `Binary64.toInt?` for
the whole ones.

## How cutting relates to dividing

A finite number is kept here as a multiple of the smallest unit, so it is a fraction with a power of
two below. Cutting it is division of integers toward zero (`IsIntegerPart.of_tdiv`), and the sign
needs no case of its own. `IsIntegerPart` says in rationals what comes out, without division and
without units; there is one such integer at most (`IsIntegerPart.unique`), which turns both
characterizations into equivalences.
-/

namespace CatalogQuery

/-- An integer is what is left of a number when its fraction is cut off: it is not further from
zero, and off by less than one. -/
def IsIntegerPart (r : ℚ) (n : ℤ) : Prop :=
  |(n : ℚ)| ≤ |r| ∧ |r - n| < 1

namespace IsIntegerPart

variable {r : ℚ} {n m : ℤ}

/-- Nothing is cut off an integer. -/
theorem of_int (n : ℤ) : IsIntegerPart n n := by
  refine ⟨le_rfl, ?_⟩
  rw [sub_self, abs_zero]
  exact one_pos

/-- A fraction is cut by dividing toward zero. -/
theorem of_tdiv (a : ℤ) {b : ℕ} (hb : 0 < b) : IsIntegerPart (a / b) (a.tdiv b) := by
  have hb' : (0 : ℚ) < b := by exact_mod_cast hb
  constructor
  · have hmul : a.natAbs / b * b ≤ a.natAbs := Nat.div_mul_le_self a.natAbs b
    have habs : |a.tdiv b| * b ≤ |a| := by
      rw [Int.abs_eq_natAbs, Int.abs_eq_natAbs, Int.natAbs_tdiv, Int.natAbs_natCast]
      exact_mod_cast hmul
    rw [abs_div, abs_of_pos hb', le_div_iff₀ hb']
    exact_mod_cast habs
  · have hsplit : (a : ℚ) / b - (a.tdiv b : ℤ) = (a.tmod b : ℤ) / b := by
      have hdiv : (a : ℚ) = b * (a.tdiv b : ℤ) + (a.tmod b : ℤ) := by
        exact_mod_cast (Int.mul_tdiv_add_tmod a b).symm
      rw [eq_div_iff hb'.ne', sub_mul, div_mul_cancel₀ _ hb'.ne']
      linarith
    have hlt : |a.tmod b| < b := by
      rw [Int.abs_eq_natAbs, Int.natAbs_tmod, Int.natAbs_natCast]
      exact_mod_cast Nat.mod_lt a.natAbs hb
    rw [hsplit, abs_div, abs_of_pos hb', div_lt_one hb']
    exact_mod_cast hlt

/-- There is one integer part. -/
theorem unique (h : IsIntegerPart r n) (h' : IsIntegerPart r m) : n = m := by
  obtain ⟨hn, hrn⟩ := h
  obtain ⟨hm, hrm⟩ := h'
  rw [abs_lt] at hrn hrm
  -- Both are on the side of zero on which the number is.
  have hclose : |(n : ℚ) - m| < 1 := by
    rw [abs_lt]
    rcases le_total 0 r with hr | hr
    · rw [abs_of_nonneg hr, abs_le] at hn hm
      constructor <;> linarith
    · rw [abs_of_nonpos hr, abs_le] at hn hm
      constructor <;> linarith
  have hzero : |n - m| < 1 := by exact_mod_cast hclose
  exact sub_eq_zero.1 (Int.abs_lt_one_iff.1 hzero)

/-- Nothing is cut off exactly if the number is whole. -/
theorem eq_iff (h : IsIntegerPart r n) : (n : ℚ) = r ↔ ∃ k : ℤ, (k : ℚ) = r := by
  constructor
  · intro hn
    exact ⟨n, hn⟩
  · rintro ⟨k, rfl⟩
    rw [h.unique (of_int k)]

end IsIntegerPart

namespace Binary64

variable {x : Binary64} {r : ℚ} {n : ℤ}

/-- The number, if it is finite. -/
def toRat? : Binary64 → Option ℚ
  | .finite s m e _ => some (scaled s m e / (2 ^ unitScale : ℕ))
  | _ => none

/-- A number is cut to its integer part, if it is finite. -/
theorem truncate?_eq_some_iff :
    x.truncate? = some n ↔ ∃ r, x.toRat? = some r ∧ IsIntegerPart r n := by
  cases x with
  | nan => simp [truncate?, toRat?]
  | inf s => simp [truncate?, toRat?]
  | finite s m e =>
    have hpart := IsIntegerPart.of_tdiv (scaled s m e) (Nat.two_pow_pos unitScale)
    simp only [truncate?, toRat?, Option.some.injEq, exists_eq_left', Nat.pow_eq]
    generalize 2 ^ unitScale = b at hpart ⊢
    constructor
    · rintro rfl
      exact hpart
    · exact hpart.unique

/-- A number is an integer exactly if it is finite and whole. -/
theorem toInt?_eq_some_iff : x.toInt? = some n ↔ x.toRat? = some (n : ℚ) := by
  cases x with
  | nan => simp [toInt?, toRat?]
  | inf s => simp [toInt?, toRat?]
  | finite s m e =>
    have hpos := Nat.two_pow_pos unitScale
    simp only [toInt?, toRat?, Nat.pow_eq, Option.some.injEq]
    -- What follows is about a fraction; the units do not matter any more.
    generalize scaled s m e = a
    generalize 2 ^ unitScale = b at hpos ⊢
    have hne : (b : ℤ) ≠ 0 := by exact_mod_cast hpos.ne'
    rw [div_eq_iff (by exact_mod_cast hne)]
    norm_cast
    constructor
    · intro h
      split at h
      · next hmod => rw [← Option.some.inj h, Int.tdiv_mul_cancel (Int.dvd_of_emod_eq_zero hmod)]
      · cases h
    · rintro rfl
      rw [if_pos (Int.mul_emod_left n b), Int.mul_tdiv_cancel n hne]

end Binary64

end CatalogQuery
