import CatalogQuery.Proofs.IntegerNumeral
import CatalogQuery.Validation.Coerce

/-!
# Texts that a number field takes

A number field reads a text in its own way (`Coerce.floatOfText`): it drops the blanks around, and
if that leaves no number it drops the underscores, wherever they stand inside. The reader of
numerals drops blanks and underscores too, but an underscore only between two digits.

So what the field reads as it stands is read as the same number by the reader of numerals
(`Coerce.float?_of_decimal?`), and so is what is left without the underscores. The two agree
wherever both read something (`Coerce.eq_of_dropUnderscores?`), and the field alone reads the texts
with an underscore elsewhere.

## Bare characters

The comparison goes through the characters. A reader that has no rule for blanks and underscores can
accept a text only if it has none of them (`Numeral.isBare_of_unsigned?`), which is proved along the
grammar of numerals: digits, the signs, the point, the letter of the exponent, and the letters of
the words for infinities and for no number. All of these are ASCII, so the preparation of digits of
other scripts does nothing either. For a bare text the steps by which the two readers differ are all
without effect (`Coerce.float?_eq_decimal?`).

## What comes of underscores

The field drops all underscores, the reader of numerals only those that stand between digits, and
refuses the others. Either leaves the text without its underscores
(`Coerce.eq_filter_of_dropUnderscores`, `Coerce.eq_filter_of_dropUnderscores?`). Hence they cannot
read two different numbers: where both go on, they go on with the same characters.
-/

namespace CatalogQuery

/-! ### Characters of numerals -/

namespace Numeral

variable {p : Nat} {ps : List Nat}

/-- An ASCII character that is neither a blank nor an underscore. -/
def IsBare (p : Nat) : Prop :=
  p < 0x80 ∧ p ≠ 0x5F ∧ CodePoint.isNumeralBlank p = false

instance (p : Nat) : Decidable (IsBare p) :=
  inferInstanceAs (Decidable (_ ∧ _ ∧ _))

theorem isBare_of_isDigit (h : isDigit p = true) : IsBare p := by
  have hpart : IsPart p := .inl (isDigit_of_ascii h)
  simp only [isDigit, Bool.and_eq_true, decide_eq_true_eq] at h
  exact ⟨by omega, by omega, hpart.not_isNumeralBlank⟩

/-- What holds of the characters after the sign, and of the signs, holds of all. -/
theorem forall_mem_of_sign {Good : Nat → Prop} (hplus : Good 0x2B) (hminus : Good 0x2D)
    (h : ∀ p ∈ (sign ps).2, Good p) : ∀ p ∈ ps, Good p := by
  obtain ⟨s, hs, -⟩ := exists_sign_points ps
  rw [hs]
  refine List.forall_mem_append.2 ⟨?_, h⟩
  cases s <;> simp [Sign.points, hplus, hminus]

/-- An exponent is made of bare characters. -/
theorem isBare_of_exponent? {e : Int} (h : exponent? ps = some e) : ∀ p ∈ ps, IsBare p := by
  cases ps with
  | nil => exact List.forall_mem_nil _
  | cons p ps =>
    simp only [exponent?] at h
    split at h
    · next hletter =>
      have hp : IsBare p := by
        simp only [Bool.or_eq_true, decide_eq_true_eq] at hletter
        rcases hletter with rfl | rfl <;> decide
      split at h
      · cases h
      · next hform =>
        simp only [Bool.or_eq_true, not_or, Bool.not_eq_true', Bool.not_eq_false,
          List.all_eq_true] at hform
        have hdigits : ∀ q ∈ (sign ps).2, IsBare q := fun q hq ↦ isBare_of_isDigit (hform.2 q hq)
        exact List.forall_mem_cons.2 ⟨hp, forall_mem_of_sign (by decide) (by decide) hdigits⟩
    · cases h

/-- A decimal numeral is made of bare characters. -/
theorem isBare_of_decimal? {d : Nat × Int} (h : decimal? ps = some d) : ∀ p ∈ ps, IsBare p := by
  have hrun (qs : List Nat) : ∀ p ∈ qs.takeWhile isDigit, IsBare p :=
    fun p hp ↦ isBare_of_isDigit (List.mem_takeWhile_imp hp)
  rw [← List.takeWhile_append_dropWhile (p := isDigit) (l := ps)]
  refine List.forall_mem_append.2 ⟨hrun ps, ?_⟩
  simp only [decimal?] at h
  split at h
  · next after hdrop =>
    -- After the point come the digits of the fraction and the exponent.
    rw [hdrop]
    split at h
    · cases h
    · obtain ⟨e, he, -⟩ := Option.map_eq_some_iff.1 h
      rw [← List.takeWhile_append_dropWhile (p := isDigit) (l := after)]
      exact List.forall_mem_cons.2
        ⟨by decide, List.forall_mem_append.2 ⟨hrun after, isBare_of_exponent? he⟩⟩
  · split at h
    · cases h
    · obtain ⟨e, he, -⟩ := Option.map_eq_some_iff.1 h
      exact isBare_of_exponent? he

/-- The letters of the words for an infinity and for no number. -/
theorem isBare_of_lower (h : lower p ∈ codePoints ['i', 'n', 'f', 't', 'y', 'a']) : IsBare p := by
  -- The lower letter is at least the character itself, so both are ASCII and a table of ASCII will
  -- do.
  have htable : ∀ q < 0x80, lower q ∈ codePoints ['i', 'n', 'f', 't', 'y', 'a'] → IsBare q := by
    decide
  have hsmall : ∀ q ∈ codePoints ['i', 'n', 'f', 't', 'y', 'a'], q < 0x80 := by decide
  have hle : p ≤ lower p := by
    rw [lower]
    split <;> omega
  exact htable p (Nat.lt_of_le_of_lt hle (hsmall _ h)) h

/-- **A text that is read without blanks and underscores has none.** -/
theorem isBare_of_unsigned? {negative : Bool} {x : Binary64} (h : unsigned? negative ps = some x) :
    ∀ p ∈ ps, IsBare p := by
  have hword : ∀ word : List Nat, (∀ q ∈ word, q ∈ codePoints ['i', 'n', 'f', 't', 'y', 'a']) →
      ps.map lower = word → ∀ p ∈ ps, IsBare p := by
    rintro _ hletters rfl p hp
    exact isBare_of_lower (hletters _ (List.mem_map_of_mem hp))
  simp only [unsigned?] at h
  split at h
  · next hinf =>
    simp only [Bool.or_eq_true, decide_eq_true_eq] at hinf
    rcases hinf with hinf | hinf
    · exact hword _ (by decide) hinf
    · exact hword _ (by decide) hinf
  · split at h
    · next hnan => exact hword _ (by decide) hnan
    · obtain ⟨d, hd, -⟩ := Option.map_eq_some_iff.1 h
      exact isBare_of_decimal? hd

end Numeral

/-! ### The field and the reader of numerals -/

namespace Coerce

variable {ps bare : List Nat} {x y : Binary64}

/-- What the field reads as it stands is made of bare characters. -/
theorem isBare_of_decimal? (h : decimal? ps = some x) : ∀ p ∈ ps, Numeral.IsBare p :=
  Numeral.forall_mem_of_sign (by decide) (by decide) (Numeral.isBare_of_unsigned? h)

/-- A text of bare characters is read alike, once the blanks around are dropped. -/
theorem float?_eq_decimal? (h : ∀ p ∈ trim ps, Numeral.IsBare p) :
    Numeral.float? ps = decimal? (trim ps) := by
  have hprepare : Numeral.prepare ps = trim ps :=
    (List.map_congr_left fun p hp ↦ Numeral.toAscii_of_lt (h p hp).1).trans (List.map_id _)
  rw [Numeral.float?, hprepare, Numeral.dropUnderscores_eq_some fun p hp ↦ (h p hp).2.1]
  rfl

theorem trim_eq_self (h : ∀ p ∈ ps, CodePoint.isNumeralBlank p = false) : trim ps = ps := by
  have hreverse : ∀ p ∈ ps.reverse, CodePoint.isNumeralBlank p = false := by simpa using h
  rw [trim, Numeral.dropWhile_eq_self_of_forall h, Numeral.dropWhile_eq_self_of_forall hreverse,
    List.reverse_reverse]

/-- What the field reads without its blanks is read alike by the reader of numerals. -/
theorem float?_of_decimal?_trim (h : decimal? (trim ps) = some x) : Numeral.float? ps = some x :=
  (float?_eq_decimal? (isBare_of_decimal? h)).trans h

/-- **What the field reads as it stands is read alike by the reader of numerals.** -/
theorem float?_of_decimal? (h : decimal? ps = some x) : Numeral.float? ps = some x := by
  have htrim : trim ps = ps := trim_eq_self fun p hp ↦ (isBare_of_decimal? h p hp).2.2
  exact float?_of_decimal?_trim (htrim.symm ▸ h)

/-- Underscores that may be dropped leave the other characters. -/
theorem eq_filter_of_dropUnderscores {afterDigit : Bool}
    (h : Numeral.dropUnderscores afterDigit ps = some bare) :
    bare = ps.filter (· != 0x5F) := by
  induction ps generalizing afterDigit bare with
  | nil =>
    cases h
    rfl
  | cons p ps ih =>
    by_cases hp : p = 0x5F
    · subst hp
      -- An underscore is dropped only where a digit follows it.
      cases ps with
      | nil => cases h
      | cons q qs =>
        rw [Numeral.dropUnderscores_line] at h
        split at h
        · exact ih h
        · cases h
    · rw [Numeral.dropUnderscores_cons_of_ne hp] at h
      obtain ⟨rest, hrest, rfl⟩ := Option.map_eq_some_iff.1 h
      rw [List.filter_cons_of_pos (by simpa using hp), ih hrest]

/-- The field leaves the other characters, too. -/
theorem eq_filter_of_dropUnderscores? (h : dropUnderscores? ps = some bare) :
    bare = ps.filter (· != 0x5F) := by
  rw [dropUnderscores?] at h
  split at h
  · cases h
  · split at h
    · cases h
    · exact (Option.some.inj h).symm

/-- **Where the reader of numerals and the field without underscores both read something, they read
the same.** -/
theorem eq_of_dropUnderscores? (hbare : dropUnderscores? ps = some bare)
    (hx : decimal? bare = some x) (hy : Numeral.float? ps = some y) : y = x := by
  -- Every character is an underscore or is left without them, and what is left is bare.
  have hchars : ∀ p ∈ ps, p < 0x80 ∧ CodePoint.isNumeralBlank p = false := by
    intro p hp
    by_cases hline : p = 0x5F
    · subst hline
      decide
    · have hmem : p ∈ bare := by
        rw [eq_filter_of_dropUnderscores? hbare]
        exact List.mem_filter.2 ⟨hp, by simpa using hline⟩
      obtain ⟨hascii, -, hblank⟩ := isBare_of_decimal? hx p hmem
      exact ⟨hascii, hblank⟩
  have hprepare : Numeral.prepare ps = ps := by
    show (trim ps).map Numeral.toAscii = ps
    rw [trim_eq_self fun p hp ↦ (hchars p hp).2]
    exact (List.map_congr_left fun p hp ↦ Numeral.toAscii_of_lt (hchars p hp).1).trans
      (List.map_id _)
  rw [Numeral.float?, hprepare] at hy
  obtain ⟨kept, hkept, hy⟩ := Option.bind_eq_some_iff.1 hy
  obtain rfl : kept = bare :=
    (eq_filter_of_dropUnderscores hkept).trans (eq_filter_of_dropUnderscores? hbare).symm
  exact Option.some.inj (hy.symm.trans hx)

end Coerce

/-! ### Integers -/

namespace Numeral

/-- Digits alone are read as the number nearest to the integer that they denote. -/
theorem unsigned?_of_digits {ds : List Nat} (hne : ds ≠ []) (h : ∀ p ∈ ds, isDigit p = true)
    (negative : Bool) :
    unsigned? negative ds = some (.ofRatio negative (ofDigitValues (values ds)) 1) := by
  -- Digits alone are a numeral without a fraction and without an exponent.
  let a : DecimalNumeral :=
    { whole := ds
      digits_ne_nil := by simpa using hne
      isDigit_of_mem := by simpa using h }
  have hpoints : a.unsignedPoints = ds := by
    simp [DecimalNumeral.unsignedPoints, DecimalNumeral.tailPoints, DecimalNumeral.exponentPoints,
      a]
  have hread := a.unsigned?_unsignedPoints negative
  rw [a.decimal?_unsignedPoints, hpoints, Option.map_some] at hread
  simpa [a, Binary64.ofDecimal_eq_ofRatio] using hread

/-- **A text that is read as an integer is read as the number nearest to it.** -/
theorem float?_of_integer? {ps : List Nat} {n : Int} (h : integer? ps = some n) :
    ∃ negative, float? ps = some (.ofRatio negative n.natAbs 1) ∧
      (n ≠ 0 → negative = decide (n < 0)) := by
  rw [integer?] at h
  obtain ⟨bare, hbare, h⟩ := Option.bind_eq_some_iff.1 h
  have hfloat : float? ps = unsigned? (sign bare).1 (sign bare).2 := by
    rw [float?, hbare]
    rfl
  -- The sign is read alike by both, so only the digits after it need a look.
  generalize sign bare = signed at h hfloat
  obtain ⟨negative, ds⟩ := signed
  dsimp only at h hfloat
  split at h
  · cases h
  · next hform =>
    simp only [Bool.or_eq_true, not_or, List.isEmpty_iff, Bool.not_eq_true', Bool.not_eq_false,
      List.all_eq_true] at hform
    obtain ⟨⟨hne, hdigits⟩, -⟩ := hform
    rw [unsigned?_of_digits hne hdigits] at hfloat
    generalize ofDigitValues (values ds) = m at h hfloat
    obtain rfl := Option.some.inj h
    refine ⟨negative, ?_, ?_⟩
    · cases negative <;> simpa using hfloat
    · cases negative with
      | false => simp
      | true =>
        simp
        omega

end Numeral

/-- A decimal numeral is read as it stands. -/
theorem Coerce.decimal?_points (a : DecimalNumeral) : decimal? a.points = some a.value := by
  show Numeral.unsigned? (Numeral.sign a.points).1 (Numeral.sign a.points).2 = some a.value
  rw [a.sign_points, a.unsigned?_unsignedPoints, a.decimal?_unsignedPoints]
  rfl

/-- The digits of a numeral are among its characters. -/
theorem DecimalNumeral.mem_points_of_mem (a : DecimalNumeral) {p : Nat}
    (h : p ∈ a.whole ++ a.fraction.getD []) : p ∈ a.points := by
  simp only [points, unsignedPoints, tailPoints, List.mem_append] at h ⊢
  rcases h with hwhole | hfraction
  · exact .inr (.inl hwhole)
  · cases hds : a.fraction with
    | none =>
      rw [hds] at hfraction
      cases hfraction
    | some ds =>
      rw [hds] at hfraction
      exact .inr (.inr (.inl (List.mem_cons_of_mem _ hfraction)))

end CatalogQuery
