/-!
# Binary64 numbers

Amounts, weights and timeouts are never added or multiplied here: they are read, compared, cut to an
integer and written. So a number is kept as sign, mantissa and exponent, and each of those
operations is exact arithmetic on natural numbers, with one rounding rule (`roundDiv`: to nearest, a
half goes to the even neighbour) in the one place that rounds (`ofRatio`).

A finite number `finite s m e` stands for `± m * 2 ^ e / 2 ^ 1074`, and its constructor takes the
proof that mantissa and exponent are in the canonical form (`IsCanonical`): `m < 2 ^ 53`, and
`2 ^ 52 ≤ m` unless `e = 0`. So no number has two representations, and equality of representations
is equality of numbers, the two zeros apart. What the one rounding place owes to the form are two
bounds on the mantissa that it rounds to (`roundedMantissa_le`, `roundingExponent_eq_zero_or_le`).
-/

namespace CatalogQuery

/-- The quotient of two natural numbers rounded to nearest, a half to the even neighbour. -/
def roundDiv (a b : Nat) : Nat :=
  let q := a / b
  let r := a % b
  if 2 * r < b then q
  else if b < 2 * r then q + 1
  else q + q % 2

theorem div_le_roundDiv (a b : Nat) : a / b ≤ roundDiv a b := by
  simp only [roundDiv]
  split
  · exact Nat.le_refl _
  · split <;> omega

theorem roundDiv_le (a b : Nat) : roundDiv a b ≤ a / b + 1 := by
  simp only [roundDiv]
  split
  · omega
  · split <;> omega

/-- The largest exponent of a finite number. -/
def maxExponent : Nat := 2045

/-- The canonical form of a mantissa with its exponent: the mantissa has at most 53 bits, and it has
exactly 53 unless the exponent is the least one. -/
structure IsCanonical (mantissa exponent : Nat) : Prop where
  /-- The mantissa has at most 53 bits. -/
  lt : mantissa < Nat.pow 2 53
  /-- No bit of it is given away, as long as the exponent could be less. -/
  full : exponent = 0 ∨ Nat.pow 2 52 ≤ mantissa
  /-- The exponent is one of a finite number. -/
  le : exponent ≤ maxExponent

instance (mantissa exponent : Nat) : Decidable (IsCanonical mantissa exponent) :=
  decidable_of_iff
    (mantissa < Nat.pow 2 53 ∧ (exponent = 0 ∨ Nat.pow 2 52 ≤ mantissa) ∧ exponent ≤ maxExponent)
    ⟨fun h ↦ ⟨h.1, h.2.1, h.2.2⟩, fun h ↦ ⟨h.lt, h.full, h.le⟩⟩

/-- A binary64 number. -/
inductive Binary64 where
  /-- No number. -/
  | nan
  /-- An infinity. -/
  | inf (negative : Bool)
  /-- The number `± mantissa * 2 ^ exponent / 2 ^ 1074`. -/
  | finite (negative : Bool) (mantissa exponent : Nat)
      (canonical : IsCanonical mantissa exponent := by decide)
  deriving DecidableEq, Repr, Inhabited

namespace Binary64

/-- The power of two that scales every finite number to an integer. -/
def unitScale : Nat := 1074

/-- Zero with a sign. -/
def zero (negative : Bool) : Binary64 :=
  .finite negative 0 0

/-- One. -/
def one : Binary64 :=
  .finite false (Nat.pow 2 52) 1022

/-- A mantissa of at most 53 bits with its exponent, in canonical form, or an infinity. A mantissa
that was rounded up to the power of two is halved. -/
def pack (negative : Bool) (mantissa exponent : Nat) (hm : mantissa ≤ Nat.pow 2 53)
    (he : exponent = 0 ∨ Nat.pow 2 52 ≤ mantissa) : Binary64 :=
  if hcarry : mantissa = Nat.pow 2 53 then
    if hmax : exponent + 1 ≤ maxExponent then
      .finite negative (Nat.pow 2 52) (exponent + 1) ⟨by decide, .inr (Nat.le_refl _), hmax⟩
    else .inf negative
  else if hmax : exponent ≤ maxExponent then
    .finite negative mantissa exponent ⟨Nat.lt_of_le_of_ne hm hcarry, he, hmax⟩
  else .inf negative

/-! ### Rounding -/

/-- The exponent at which a quotient is rounded: what is left of it then has 53 bits, if it has as
many. -/
def roundingExponent (a b : Nat) : Nat :=
  Nat.log2 (a / b) - 52

/-- The quotient at its exponent, rounded. -/
def roundedMantissa (a b : Nat) : Nat :=
  roundDiv a (b * Nat.pow 2 (roundingExponent a b))

theorem div_mul_roundingExponent (a b : Nat) :
    a / (b * Nat.pow 2 (roundingExponent a b)) = a / b / Nat.pow 2 (roundingExponent a b) :=
  (Nat.div_div_eq_div_mul a b _).symm

/-- The rounded mantissa has at most 53 bits, or is the power of two above them. -/
theorem roundedMantissa_le (a b : Nat) : roundedMantissa a b ≤ Nat.pow 2 53 := by
  have hround := roundDiv_le a (b * Nat.pow 2 (roundingExponent a b))
  rw [div_mul_roundingExponent] at hround
  have hlt : a / b / 2 ^ roundingExponent a b < 2 ^ 53 := by
    rw [Nat.div_lt_iff_lt_mul (Nat.two_pow_pos _), ← Nat.pow_add]
    refine Nat.lt_of_lt_of_le Nat.lt_log2_self (Nat.pow_le_pow_right (by decide) ?_)
    simp only [roundingExponent]
    omega
  exact Nat.le_trans hround hlt

/-- Unless the exponent is the least one, the rounded mantissa has all its bits. -/
theorem roundingExponent_eq_zero_or_le (a b : Nat) :
    roundingExponent a b = 0 ∨ Nat.pow 2 52 ≤ roundedMantissa a b := by
  rcases Nat.lt_or_ge (Nat.log2 (a / b)) 53 with hlog | hlog
  · exact .inl (by simp only [roundingExponent]; omega)
  · have hne : a / b ≠ 0 := by
      intro hzero
      rw [hzero, Nat.log2_zero] at hlog
      exact absurd hlog (by decide)
    have hge : 2 ^ 52 ≤ a / b / 2 ^ roundingExponent a b := by
      rw [Nat.le_div_iff_mul_le (Nat.two_pow_pos _), ← Nat.pow_add]
      refine (Nat.le_log2 hne).1 ?_
      simp only [roundingExponent]
      omega
    have hround := div_le_roundDiv a (b * Nat.pow 2 (roundingExponent a b))
    rw [div_mul_roundingExponent] at hround
    exact .inr (Nat.le_trans hge hround)

/-- The number nearest to `± num / den`. -/
def ofRatio (negative : Bool) (num den : Nat) : Binary64 :=
  let scaled := num * Nat.pow 2 unitScale
  pack negative (roundedMantissa scaled den) (roundingExponent scaled den)
    (roundedMantissa_le scaled den) (roundingExponent_eq_zero_or_le scaled den)

/-- The number nearest to `± digits * 10 ^ exponent`. The two early answers only keep the powers of
ten small: such a number is beyond the largest finite one, or below half of the least positive
one. -/
def ofDecimal (negative : Bool) (digits : Nat) (exponent : Int) : Binary64 :=
  if digits = 0 then zero negative
  else
    match exponent with
    | .ofNat e => if 400 < e then .inf negative else ofRatio negative (digits * Nat.pow 10 e) 1
    | .negSucc e =>
      if Nat.log2 digits + 1200 < 3 * (e + 1) then zero negative
      else ofRatio negative digits (Nat.pow 10 (e + 1))

/-- The number, unless it is an infinity. -/
def bounded? : Binary64 → Option Binary64
  | .inf _ => none
  | x => some x

/-- The number nearest to an integer, if that is finite. -/
def ofInt? (n : Int) : Option Binary64 :=
  (ofRatio (n < 0) n.natAbs 1).bounded?

/-- The number is finite. -/
def isFinite : Binary64 → Bool
  | .finite .. => true
  | _ => false

/-- The number is no number. -/
def isNan : Binary64 → Bool
  | .nan => true
  | _ => false

/-- The number is zero, of either sign. -/
def isZero : Binary64 → Bool
  | .finite _ m _ _ => m == 0
  | _ => false

/-- A finite number times `2 ^ 1074`, which is an integer. -/
def scaled : (negative : Bool) → (mantissa exponent : Nat) → Int
  | true, m, e => -(m * Nat.pow 2 e : Nat)
  | false, m, e => (m * Nat.pow 2 e : Nat)

/-- The integer part of a finite number, toward zero. -/
def truncate? : Binary64 → Option Int
  | .finite s m e _ => some (Int.tdiv (scaled s m e) (Nat.pow 2 unitScale))
  | _ => none

/-- The number as an integer, if it is one. -/
def toInt? : Binary64 → Option Int
  | .finite s m e _ =>
    if scaled s m e % Nat.pow 2 unitScale = 0 then
      some (Int.tdiv (scaled s m e) (Nat.pow 2 unitScale))
    else none
  | _ => none

/-- Numerical equality: no number equals itself, the two zeros are equal. -/
def numEq : Binary64 → Binary64 → Bool
  | .finite s m e _, .finite s' m' e' _ => scaled s m e == scaled s' m' e'
  | .inf s, .inf s' => s == s'
  | _, _ => false

/-- Numerical equality with an integer. -/
def eqInt (x : Binary64) (n : Int) : Bool :=
  match x with
  | .finite s m e _ => scaled s m e == n * Nat.pow 2 unitScale
  | _ => false

/-- The number is greater than zero. -/
def isPositive : Binary64 → Bool
  | .finite s m _ _ => !s && m != 0
  | .inf s => !s
  | .nan => false

/-- The sign bit; no number has none. -/
def isNegative : Binary64 → Bool
  | .finite s _ _ _ => s
  | .inf s => s
  | .nan => false

/-- The magnitude of a finite number as a ratio of natural numbers. -/
def ratio (mantissa exponent : Nat) : Nat × Nat :=
  if unitScale ≤ exponent then (mantissa * Nat.pow 2 (exponent - unitScale), 1)
  else (mantissa, Nat.pow 2 (unitScale - exponent))

end Binary64

end CatalogQuery
