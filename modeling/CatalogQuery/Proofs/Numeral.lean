import CatalogQuery.Scalar
import Mathlib.Algebra.Group.Nat.Defs
import Mathlib.Data.List.Basic
import Mathlib.Data.List.Induction
import Mathlib.Data.List.TakeWhile

/-!
# What numerals are read as

The leaves of the readers of numerals: the value of a run of digits, and what is left of a numeral
once blanks, scripts and underscores are out of the way.

An amount is accepted by its **form**, over digits of any script and with one line break allowed at
its end, before it is read as a number. `Numeral.toAscii` replaces the digits of other scripts; the
form is seen through it (`Numeral.isUnsigned_map_toAscii`), and for a text of that form it is all
that preparing a numeral does (`Money.prepare_eq_map_dropLineBreak`).

## Why the form is looked at first

Two readers see the same text. The form is a check on code points which admits digits of every
script, and the reader of numbers replaces those digits before it reads. The lemmas here show that
the two agree on what they see: replacing the digits changes neither where a run of digits ends
(`takeWhile_map_toAscii`) nor which characters are signs, points and letters (`toAscii_beq`),
because nothing but a digit is replaced, and nothing but a digit becomes one (`isDigit_toAscii`,
`toAscii_eq_iff`).

Blanks around a numeral are dropped, and underscores between its digits. A text of the form
has neither, up to the line break at its end, and that break is dropped with the blanks. That no
digit of any script is a blank is checked on the two tables (`isBlank_eq_false_of_isDigit`).
-/

namespace CatalogQuery

/-! ### Runs of digits

The value of a run is below the power of ten of its length. This is how a limit on digits becomes
one on integers.
-/

theorem ofDigitValues_concat (ds : List Nat) (d : Nat) :
    ofDigitValues (ds ++ [d]) = 10 * ofDigitValues ds + d := by
  simp [ofDigitValues]

/-- A number with as many digits as there are is below the power of ten of that many digits. -/
theorem ofDigitValues_lt {ds : List Nat} (h : ∀ d ∈ ds, d < 10) :
    ofDigitValues ds < 10 ^ ds.length := by
  induction ds using List.reverseRecOn with
  | nil => simp [ofDigitValues]
  | append_singleton ds d ih =>
    have hds : ofDigitValues ds < 10 ^ ds.length := ih fun x hx ↦ h x (by simp [hx])
    have hd : d < 10 := h d (by simp)
    rw [ofDigitValues_concat, List.length_append, List.length_singleton, pow_succ]
    omega

namespace Numeral

/-- The values of ASCII digits are below ten. -/
theorem lt_ten_of_mem_values {ps : List Nat} (h : ∀ p ∈ ps, isDigit p = true) :
    ∀ d ∈ values ps, d < 10 := by
  intro d hd
  obtain ⟨p, hp, rfl⟩ := List.mem_map.1 hd
  have hdigit := h p hp
  simp only [isDigit, Bool.and_eq_true, decide_eq_true_eq] at hdigit
  omega

/-- A run of at most as many digits as the limit allows denotes an integer that has a text. -/
theorem integerFits_of_length_le {ps : List Nat} (h : ∀ p ∈ ps, isDigit p = true)
    (hlen : ps.length ≤ integerDigitLimit) (negative : Bool) :
    integerFits (if negative then -((ofDigitValues (values ps) : Nat) : Int)
      else ((ofDigitValues (values ps) : Nat) : Int)) = true := by
  unfold integerFits
  generalize integerDigitLimit = limit at hlen ⊢
  have hlt : ofDigitValues (values ps) < 10 ^ limit :=
    calc ofDigitValues (values ps)
        < 10 ^ (values ps).length := ofDigitValues_lt (lt_ten_of_mem_values h)
      _ = 10 ^ ps.length := by rw [values, List.length_map]
      _ ≤ 10 ^ limit := Nat.pow_le_pow_right (by decide) hlen
  cases negative <;> simpa using hlt

/-! ### Digits of other scripts

Every script with decimal digits has ten of them in a row, and the table of their zeros is all that
is known of scripts.
-/

/-- The ASCII digit with the value of a digit of any script; any other code point is kept. -/
def toAscii (p : Nat) : Nat :=
  match CodePoint.digitValue? p with
  | some d => 0x30 + d
  | none => p

theorem lt_ten_of_digitValue? {p d : Nat} (h : CodePoint.digitValue? p = some d) : d < 10 := by
  simp only [CodePoint.digitValue?, Option.map_eq_some_iff] at h
  obtain ⟨z, hz, rfl⟩ := h
  have := List.find?_some hz
  simp only [Bool.and_eq_true, decide_eq_true_eq] at this
  omega

theorem isDigit_of_ascii {p : Nat} (h : isDigit p = true) : CodePoint.isDigit p = true := by
  simp only [isDigit, Bool.and_eq_true, decide_eq_true_eq] at h
  simp only [CodePoint.isDigit, CodePoint.digitValue?, Option.isSome_map, List.find?_isSome]
  exact ⟨0x30, by decide, by simp; omega⟩

/-- Exactly the digits become ASCII digits. -/
theorem isDigit_toAscii (p : Nat) : isDigit (toAscii p) = CodePoint.isDigit p := by
  rw [toAscii, CodePoint.isDigit]
  rcases h : CodePoint.digitValue? p with - | d
  · -- A code point without a digit value is kept, and it is no ASCII digit either.
    by_contra hne
    have hdigit : isDigit p = true := by simpa using hne
    have hsome := isDigit_of_ascii hdigit
    simp [CodePoint.isDigit, h] at hsome
  · have hd := lt_ten_of_digitValue? h
    simp only [isDigit, Option.isSome_some, Bool.and_eq_true, decide_eq_true_eq]
    omega

theorem toAscii_of_not_isDigit {p : Nat} (h : CodePoint.isDigit p = false) : toAscii p = p := by
  simp only [CodePoint.isDigit, Option.isSome_eq_false_iff, Option.isNone_iff_eq_none] at h
  rw [toAscii, h]

/-- Nothing else becomes a character that is no digit. -/
theorem toAscii_eq_iff {p c : Nat} (hc : CodePoint.isDigit c = false) : toAscii p = c ↔ p = c := by
  constructor
  · rintro rfl
    rcases hp : CodePoint.isDigit p with - | -
    · exact (toAscii_of_not_isDigit hp).symm
    · rw [isDigit_of_ascii ((isDigit_toAscii p).trans hp)] at hc
      cases hc
  · rintro rfl
    exact toAscii_of_not_isDigit hc

/-- What is replaced by a digit was one. -/
theorem codePoint_isDigit_toAscii (p : Nat) :
    CodePoint.isDigit (toAscii p) = CodePoint.isDigit p := by
  rcases hp : CodePoint.isDigit p with - | -
  · rw [toAscii_of_not_isDigit hp, hp]
  · exact isDigit_of_ascii ((isDigit_toAscii p).trans hp)

theorem toAscii_of_lt {p : Nat} (h : p < 0x80) : toAscii p = p := by
  have htable : ∀ q < 0x80, toAscii q = q := by decide
  exact htable p h

/-- A digit that has been replaced is an ASCII digit. -/
theorem isDigit_of_mem_map_toAscii {ps : List Nat} {p : Nat} (hp : p ∈ ps.map toAscii)
    (h : CodePoint.isDigit p = true) : isDigit p = true := by
  obtain ⟨q, -, rfl⟩ := List.mem_map.1 hp
  rwa [codePoint_isDigit_toAscii, ← isDigit_toAscii] at h

/-- Replacing digits does not change where a run of digits ends. -/
theorem takeWhile_map_toAscii (ps : List Nat) :
    (ps.map toAscii).takeWhile CodePoint.isDigit =
    (ps.takeWhile CodePoint.isDigit).map toAscii := by
  rw [List.takeWhile_map]
  congr 2
  exact funext codePoint_isDigit_toAscii

theorem dropWhile_map_toAscii (ps : List Nat) :
    (ps.map toAscii).dropWhile CodePoint.isDigit =
    (ps.dropWhile CodePoint.isDigit).map toAscii := by
  rw [List.dropWhile_map]
  congr 2
  exact funext codePoint_isDigit_toAscii

theorem all_map_toAscii (ps : List Nat) :
    (ps.map toAscii).all CodePoint.isDigit = ps.all CodePoint.isDigit := by
  rw [List.all_map]
  congr 1
  exact funext codePoint_isDigit_toAscii

theorem toAscii_beq {c : Nat} (hc : CodePoint.isDigit c = false) (p : Nat) :
    (toAscii p == c) = (p == c) := by
  rw [Bool.eq_iff_iff, beq_iff_eq, beq_iff_eq]
  exact toAscii_eq_iff hc

/-! ### Characters of a numeral

The characters that a numeral can be made of are neither blanks nor underscores. For digits of all
scripts this is a comparison of two tables; for the other characters it is decided for each.
-/

/-- A code point that a decimal numeral is made of: a digit, a sign, the point, or the letter of the
exponent. -/
def IsPart (p : Nat) : Prop :=
  CodePoint.isDigit p = true ∨ p ∈ [0x2B, 0x2D, 0x2E, 0x45, 0x65]

/-- A digit is within ten of the zero of its script. -/
theorem exists_zero_of_isDigit {p : Nat} (h : CodePoint.isDigit p = true) :
    ∃ z ∈ CodePoint.decimalZeros, z ≤ p ∧ p < z + 10 := by
  simp only [CodePoint.isDigit, CodePoint.digitValue?, Option.isSome_map, List.find?_isSome] at h
  obtain ⟨z, hz, hp⟩ := h
  exact ⟨z, hz, by simpa using hp⟩

/-- No digit of any script is a blank: the two tables have no code point in common. -/
theorem isBlank_eq_false_of_isDigit {p : Nat} (h : CodePoint.isDigit p = true) :
    CodePoint.isBlank p = false := by
  have htables : ∀ z ∈ CodePoint.decimalZeros, ∀ r ∈ CodePoint.blankRanges,
      r.2 < z ∨ z + 9 < r.1 := by decide
  obtain ⟨z, hz, hlo, hhi⟩ := exists_zero_of_isDigit h
  by_contra hne
  have hblank : CodePoint.isBlank p = true := by simpa using hne
  simp only [CodePoint.isBlank, CodePoint.inRanges, List.any_eq_true, Bool.and_eq_true,
    decide_eq_true_eq] at hblank
  obtain ⟨r, hr, hrlo, hrhi⟩ := hblank
  have := htables z hz r hr
  omega

/-- No character of a numeral is a blank. -/
theorem IsPart.not_isNumeralBlank {p : Nat} (h : IsPart p) :
    CodePoint.isNumeralBlank p = false := by
  rcases h with hdigit | hmem
  · simp [CodePoint.isNumeralBlank, isBlank_eq_false_of_isDigit hdigit]
  · revert p
    decide

/-- No character of a numeral is or becomes an underscore. -/
theorem IsPart.toAscii_ne_underscore {p : Nat} (h : IsPart p) : toAscii p ≠ 0x5F := by
  rcases h with hdigit | hmem
  · have := isDigit_toAscii p
    rw [hdigit] at this
    simp only [isDigit, Bool.and_eq_true, decide_eq_true_eq] at this
    omega
  · revert p
    decide

/-- What becomes a character of a numeral was one. -/
theorem IsPart.of_toAscii {p : Nat} (h : IsPart (toAscii p)) : IsPart p := by
  rcases h with hdigit | hmem
  · rw [codePoint_isDigit_toAscii] at hdigit
    exact .inl hdigit
  · have hnone : ∀ c ∈ [0x2B, 0x2D, 0x2E, 0x45, 0x65], CodePoint.isDigit c = false := by decide
    rw [← (toAscii_eq_iff (hnone _ hmem)).1 rfl] at hmem
    exact .inr hmem

/-! ### Preparing a numeral

To prepare a numeral means to drop the blanks around it and to replace its digits. Underscores are
dropped later, by the readers.
-/

theorem dropWhile_eq_self_of_forall {α : Type} {f : α → Bool} {xs : List α}
    (h : ∀ x ∈ xs, f x = false) : xs.dropWhile f = xs := by
  cases xs with
  | nil => rfl
  | cons x xs => rw [List.dropWhile_cons, if_neg (by simp [h x (by simp)])]

/-- Blanks around are dropped, and the digits in between are replaced. -/
theorem prepare_surrounded {before ps after : List Nat}
    (hbefore : ∀ p ∈ before, CodePoint.isNumeralBlank p = true)
    (hafter : ∀ p ∈ after, CodePoint.isNumeralBlank p = true)
    (h : ∀ p ∈ ps, CodePoint.isNumeralBlank p = false) :
    prepare (before ++ ps ++ after) = ps.map toAscii := by
  have hreverse : ∀ p ∈ ps.reverse, CodePoint.isNumeralBlank p = false := by simpa using h
  have hafterReverse : ∀ p ∈ after.reverse, CodePoint.isNumeralBlank p = true := by
    simpa using hafter
  show List.map toAscii _ = _
  rw [List.append_assoc, List.dropWhile_append_of_pos hbefore]
  cases ps with
  | nil =>
    rw [List.nil_append, List.dropWhile_eq_nil_iff.2 hafter]
    rfl
  | cons p ps =>
    rw [List.cons_append, List.dropWhile_cons, if_neg (by simp [h p (by simp)]), ← List.cons_append,
      List.reverse_append, List.dropWhile_append_of_pos hafterReverse,
      dropWhile_eq_self_of_forall hreverse, List.reverse_reverse]

/-- Every text is prepared so: it has blanks around, and what is in between is all that is looked
at. -/
theorem exists_surrounded (ps : List Nat) :
    ∃ before bare after, ps = before ++ bare ++ after ∧
      (∀ p ∈ before, CodePoint.isNumeralBlank p = true) ∧
      (∀ p ∈ after, CodePoint.isNumeralBlank p = true) ∧ prepare ps = bare.map toAscii := by
  let rest := ps.dropWhile CodePoint.isNumeralBlank
  refine ⟨ps.takeWhile CodePoint.isNumeralBlank,
    (rest.reverse.dropWhile CodePoint.isNumeralBlank).reverse,
    (rest.reverse.takeWhile CodePoint.isNumeralBlank).reverse, ?_, ?_, ?_, rfl⟩
  · rw [List.append_assoc, ← List.reverse_append, List.takeWhile_append_dropWhile,
      List.reverse_reverse]
    exact List.takeWhile_append_dropWhile.symm
  · exact fun p hp ↦ List.mem_takeWhile_imp hp
  · exact fun p hp ↦ List.mem_takeWhile_imp (List.mem_reverse.1 hp)

/-- A text of the characters of a numeral is prepared digit by digit. -/
theorem prepare_eq_map {ps : List Nat} (h : ∀ p ∈ ps, IsPart p) : prepare ps = ps.map toAscii := by
  have hblank : ∀ p ∈ ps, CodePoint.isNumeralBlank p = false :=
    fun p hp ↦ (h p hp).not_isNumeralBlank
  simpa using prepare_surrounded (List.forall_mem_nil _) (List.forall_mem_nil _) hblank

/-- A line break after a numeral is dropped with the blanks. -/
theorem prepare_append_lineBreak {ps : List Nat} (h : ∀ p ∈ ps, IsPart p) :
    prepare (ps ++ [0x0A]) = ps.map toAscii :=
  prepare_surrounded (List.forall_mem_nil _) (by decide) fun p hp ↦ (h p hp).not_isNumeralBlank

/-- A text without underscores has none to drop. -/
theorem dropUnderscores_eq_some {ps : List Nat} (h : ∀ p ∈ ps, p ≠ 0x5F) (b : Bool) :
    dropUnderscores b ps = some ps := by
  induction ps generalizing b with
  | nil => rfl
  | cons p ps ih =>
    unfold dropUnderscores
    rw [if_neg (h p (by simp)), ih fun q hq ↦ h q (by simp [hq])]
    rfl

theorem sign_of_ne {p : Nat} {ps : List Nat} (hminus : p ≠ 0x2D) (hplus : p ≠ 0x2B) :
    sign (p :: ps) = (false, p :: ps) := by
  unfold sign
  split
  · next h => exact absurd (List.cons.inj h).1 hminus
  · next h => exact absurd (List.cons.inj h).1 hplus
  · rfl

/-- The sign is seen through the scripts of the digits. -/
theorem sign_map_toAscii (ps : List Nat) :
    sign (ps.map toAscii) = ((sign ps).1, (sign ps).2.map toAscii) := by
  cases ps with
  | nil => rfl
  | cons p ps =>
    by_cases hminus : p = 0x2D
    · subst hminus
      rw [List.map_cons, (toAscii_eq_iff (by decide)).2 rfl]
      rfl
    · by_cases hplus : p = 0x2B
      · subst hplus
        rw [List.map_cons, (toAscii_eq_iff (by decide)).2 rfl]
        rfl
      · rw [sign_of_ne hminus hplus, List.map_cons,
          sign_of_ne (fun h ↦ hminus ((toAscii_eq_iff (by decide)).1 h))
            (fun h ↦ hplus ((toAscii_eq_iff (by decide)).1 h))]

end Numeral

/-! ### The form of an amount

The form is a check in code points that cuts the text at the point and at the letter of the
exponent. Each lemma here has one of the two cases that it distinguishes.
-/

namespace Money

variable {ps rest : List Nat}

/-- The form of an unsigned amount with a point: digits on one side of it at least, and then an
exponent or nothing. -/
theorem isUnsigned_of_point (h : ps.dropWhile CodePoint.isDigit = 0x2E :: rest) :
    isUnsigned ps =
      (!((ps.takeWhile CodePoint.isDigit).isEmpty && (rest.takeWhile CodePoint.isDigit).isEmpty) &&
      isExponent (rest.dropWhile CodePoint.isDigit)) := by
  rw [isUnsigned, h]
  rfl

/-- The form of an unsigned amount without a point: digits, and then an exponent or nothing. -/
theorem isUnsigned_of_no_point (h : ∀ rest, ps.dropWhile CodePoint.isDigit ≠ 0x2E :: rest) :
    isUnsigned ps =
      (!(ps.takeWhile CodePoint.isDigit).isEmpty &&
        isExponent (ps.dropWhile CodePoint.isDigit)) := by
  rw [isUnsigned]
  split
  · next rest heq => exact absurd heq (h rest)
  · rfl

end Money

namespace Numeral

/-- The form of an exponent is seen through the scripts of its digits. -/
theorem isExponent_map_toAscii (ps : List Nat) :
    Money.isExponent (ps.map toAscii) = Money.isExponent ps := by
  cases ps with
  | nil => rfl
  | cons p ps =>
    simp only [List.map_cons, Money.isExponent, sign_map_toAscii, all_map_toAscii, List.isEmpty_map,
      toAscii_beq (c := 0x65) (by decide), toAscii_beq (c := 0x45) (by decide)]

/-- The form of an amount is seen through the scripts of its digits. -/
theorem isUnsigned_map_toAscii (ps : List Nat) :
    Money.isUnsigned (ps.map toAscii) = Money.isUnsigned ps := by
  by_cases hpoint : ∃ rest, ps.dropWhile CodePoint.isDigit = 0x2E :: rest
  · obtain ⟨rest, hrest⟩ := hpoint
    have hmap : (ps.map toAscii).dropWhile CodePoint.isDigit = 0x2E :: rest.map toAscii := by
      rw [dropWhile_map_toAscii, hrest, List.map_cons, (toAscii_eq_iff (by decide)).2 rfl]
    rw [Money.isUnsigned_of_point hrest, Money.isUnsigned_of_point hmap]
    simp only [takeWhile_map_toAscii, dropWhile_map_toAscii, List.isEmpty_map,
      isExponent_map_toAscii]
  · have hmap : ∀ rest, (ps.map toAscii).dropWhile CodePoint.isDigit ≠ 0x2E :: rest := by
      intro rest hrest
      rw [dropWhile_map_toAscii] at hrest
      obtain ⟨p, qs, hps, hp, -⟩ := List.map_eq_cons_iff.1 hrest
      exact hpoint ⟨qs, by rw [hps, (toAscii_eq_iff (by decide)).1 hp]⟩
    rw [Money.isUnsigned_of_no_point (not_exists.1 hpoint), Money.isUnsigned_of_no_point hmap]
    simp only [takeWhile_map_toAscii, dropWhile_map_toAscii, List.isEmpty_map,
      isExponent_map_toAscii]

end Numeral

/-- A text of the parts of a numeral, one line break at its end apart, is prepared digit by
digit. -/
theorem Money.prepare_eq_map_dropLineBreak {ps : List Nat}
    (h : ∀ p ∈ Money.dropLineBreak ps, Numeral.IsPart p) :
    Numeral.prepare ps = (Money.dropLineBreak ps).map Numeral.toAscii := by
  unfold Money.dropLineBreak at h ⊢
  split
  · next hlast =>
    rw [if_pos hlast] at h
    obtain ⟨qs, rfl⟩ : ∃ qs, ps = qs ++ [0x0A] := List.getLast?_eq_some_iff.1 hlast
    rw [List.dropLast_concat] at h ⊢
    exact Numeral.prepare_append_lineBreak h
  · next hlast =>
    rw [if_neg hlast] at h
    exact Numeral.prepare_eq_map h

end CatalogQuery
