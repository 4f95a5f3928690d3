import CatalogQuery.Proofs.Decimal
import CatalogQuery.Proofs.WireValue

/-!
# The texts that are read as amounts

`Money.parse` looks at a text twice: at its form, over digits of any script and with one line break
allowed at the end, and then at the number that the reader of numerals makes of it. Both looks see
only what is left when the line break is dropped and each digit is replaced by the ASCII digit of
its value (`Numeral.isUnsigned_map_toAscii`, `Money.float?_of_spelledBy`), and what is left has the
form exactly if it is a `DecimalNumeral` (`Money.isAmountText_iff`). So the accepted texts are the
spellings of decimal numerals below the midpoint at which numbers are rounded to an infinity.

This is more than the decimal numerals themselves: a line break at the end and digits of other
scripts are let through. On texts of ASCII characters that end in no line break, nothing but a
numeral is.

## Both directions

That a numeral has the form and is read as its value was shown where numerals are described. Here it
is the other direction that takes work: from a text of the form to a numeral that it spells. The
form is a check and yields no parts, so they are cut out of the text again where the check has cut
it, at the end of the first run of digits, at the point, and at the end of the second run. Which
script a digit belongs to no longer matters by then, because the cutting is done on the text with
its digits replaced.

## The limit

A numeral may have any exponent, and whether the number nearest to it is finite depends on its value
alone (`DecimalNumeral.isFinite_value_iff`). The limit is the midpoint between the largest finite
number and the next power of two, not the largest number itself: everything below the midpoint is
rounded down to it.
-/

namespace CatalogQuery

/-! ### From the form to a numeral

The text has ASCII digits only, so that a digit for the form is one for a numeral. What is cut out
of it becomes the parts of the numeral, and the conditions on the parts are what the form has
checked.
-/

/-- A text is a sign and the rest, where the sign may be none. -/
theorem Numeral.exists_sign_points (ps : List Nat) :
    ∃ s : Sign, ps = s.points ++ (sign ps).2 ∧ (sign ps).1 = s.isMinus := by
  unfold sign
  split
  · exact ⟨.minus, rfl, rfl⟩
  · exact ⟨.plus, rfl, rfl⟩
  · exact ⟨.none, rfl, rfl⟩

/-- An exponent in ASCII digits is one as it is written. -/
theorem Exponent.exists_points {ps : List Nat} (h : Money.isExponent ps = true)
    (hascii : ∀ p ∈ ps, CodePoint.isDigit p = true → Numeral.isDigit p = true) :
    ∃ e : Option Exponent, ps = e.elim [] Exponent.points := by
  cases ps with
  | nil => exact ⟨none, rfl⟩
  | cons p ps =>
    simp only [Money.isExponent, Bool.and_eq_true, Bool.or_eq_true, beq_iff_eq, Bool.not_eq_true',
      List.isEmpty_eq_false_iff, List.all_eq_true] at h
    obtain ⟨hletter, hne, hdigits⟩ := h
    obtain ⟨s, hs, -⟩ := Numeral.exists_sign_points ps
    have hmem : ∀ q ∈ (Numeral.sign ps).2, q ∈ p :: ps := by
      intro q hq
      rw [hs]
      exact List.mem_cons_of_mem _ (List.mem_append_right _ hq)
    let e : Exponent :=
      { capital := p = 0x45
        sign := s
        digits := (Numeral.sign ps).2
        digits_ne_nil := hne
        isDigit_of_mem := fun q hq ↦ hascii q (hmem q hq) (hdigits q hq) }
    have hcapital : (if e.capital then 0x45 else 0x65) = p := by
      rcases hletter with rfl | rfl <;> rfl
    refine ⟨some e, ?_⟩
    show p :: ps = (if e.capital then 0x45 else 0x65) :: (s.points ++ (Numeral.sign ps).2)
    rw [hcapital, ← hs]

namespace DecimalNumeral

/-- A text in the form of an unsigned amount, in ASCII digits, is a numeral as it is written. -/
theorem exists_unsignedPoints {ps : List Nat} (h : Money.isUnsigned ps = true)
    (hascii : ∀ p ∈ ps, CodePoint.isDigit p = true → Numeral.isDigit p = true) :
    ∃ a : DecimalNumeral, ps = a.unsignedPoints := by
  have hsplit := List.takeWhile_append_dropWhile (p := CodePoint.isDigit) (l := ps)
  have hwhole : ∀ p ∈ ps.takeWhile CodePoint.isDigit, Numeral.isDigit p = true := by
    intro p hp
    exact hascii p (List.takeWhile_subset _ hp) (List.mem_takeWhile_imp hp)
  have hrest : ∀ p ∈ ps.dropWhile CodePoint.isDigit, CodePoint.isDigit p = true →
      Numeral.isDigit p = true :=
    fun p hp ↦ hascii p (List.dropWhile_subset _ hp)
  -- The form has two cases. With a point, one of the two runs of digits may be empty; without one,
  -- there is a single run, and it is not.
  by_cases hpoint : ∃ rest, ps.dropWhile CodePoint.isDigit = 0x2E :: rest
  · obtain ⟨rest, hdrop⟩ := hpoint
    rw [Money.isUnsigned_of_point hdrop, Bool.and_eq_true] at h
    rw [hdrop] at hrest hsplit
    have hfraction : ∀ p ∈ rest.takeWhile CodePoint.isDigit, Numeral.isDigit p = true := by
      intro p hp
      exact hrest p (List.mem_cons_of_mem _ (List.takeWhile_subset _ hp))
        (List.mem_takeWhile_imp hp)
    obtain ⟨e, he⟩ := Exponent.exists_points h.2 fun p hp ↦
      hrest p (List.mem_cons_of_mem _ (List.dropWhile_subset _ hp))
    refine ⟨⟨.none, ps.takeWhile CodePoint.isDigit, some (rest.takeWhile CodePoint.isDigit), e,
      ?_, ?_⟩, ?_⟩
    · intro hnil
      obtain ⟨hwholeNil, hfractionNil⟩ := List.append_eq_nil_iff.1 hnil
      rw [Option.getD_some] at hfractionNil
      rw [hwholeNil, hfractionNil] at h
      exact absurd h.1 (by decide)
    · exact List.forall_mem_append.2 ⟨hwhole, hfraction⟩
    · show ps = ps.takeWhile CodePoint.isDigit ++
        (0x2E :: rest.takeWhile CodePoint.isDigit ++ e.elim [] Exponent.points)
      rw [← he, List.cons_append, List.takeWhile_append_dropWhile, hsplit]
  · rw [Money.isUnsigned_of_no_point (not_exists.1 hpoint), Bool.and_eq_true] at h
    obtain ⟨e, he⟩ := Exponent.exists_points h.2 hrest
    refine ⟨⟨.none, ps.takeWhile CodePoint.isDigit, none, e, ?_, ?_⟩, ?_⟩
    · simpa using h.1
    · simpa using hwhole
    · show ps = ps.takeWhile CodePoint.isDigit ++ ([] ++ e.elim [] Exponent.points)
      rw [← he, List.nil_append, hsplit]

/-- The decimal number that a numeral denotes, without its sign. -/
def decimal (a : DecimalNumeral) : Binary64.Decimal :=
  ⟨ofDigitValues (Numeral.values (a.whole ++ a.fraction.getD [])),
    a.exponent.elim 0 Exponent.value - (a.fraction.getD []).length⟩

variable {a : DecimalNumeral} {ps : List Nat}

/-- A numeral stands for a finite number exactly if what it denotes is below the midpoint. -/
theorem isFinite_value_iff :
    a.value.isFinite = true ↔ a.decimal.value < Binary64.overflowThreshold :=
  Binary64.ofDecimal_isFinite_iff a.decimal

/-! ### Spellings

A numeral has many spellings, one for each choice of scripts for its digits, with and without a line
break at the end. A text spells at most one numeral.
-/

/-- A text spells a numeral: its digits may be of any script, and one line break may end it. -/
def SpelledBy (a : DecimalNumeral) (ps : List Nat) : Prop :=
  ∃ qs, (ps = qs ∨ ps = qs ++ [0x0A]) ∧ qs.map Numeral.toAscii = a.points

/-- Spelling is decided by dropping the line break and replacing the digits. -/
theorem spelledBy_iff :
    a.SpelledBy ps ↔ (Money.dropLineBreak ps).map Numeral.toAscii = a.points := by
  constructor
  · rintro ⟨qs, rfl | rfl, hqs⟩
    · have hlast : ps.getLast? ≠ some 0x0A := by
        intro hlast
        have hmem : Numeral.toAscii 0x0A ∈ ps.map Numeral.toAscii :=
          List.mem_map_of_mem (List.mem_of_getLast? hlast)
        rw [hqs] at hmem
        exact absurd (a.isDigit_or_mem_of_mem hmem) (by decide)
      rwa [Money.dropLineBreak, if_neg hlast]
    · rwa [Money.dropLineBreak, if_pos (by simp), List.dropLast_concat]
  · intro h
    refine ⟨Money.dropLineBreak ps, ?_, h⟩
    rw [Money.dropLineBreak]
    split
    · next hlast =>
      obtain ⟨qs, rfl⟩ := List.getLast?_eq_some_iff.1 hlast
      right
      rw [List.dropLast_concat]
    · exact .inl rfl

/-- A text of ASCII characters that ends in no line break spells itself alone. -/
theorem spelledBy_iff_of_ascii (hascii : ∀ p ∈ ps, p < 0x80) (hlast : ps.getLast? ≠ some 0x0A) :
    a.SpelledBy ps ↔ ps = a.points := by
  have hmap : ps.map Numeral.toAscii = ps :=
    (List.map_congr_left fun p hp ↦ Numeral.toAscii_of_lt (hascii p hp)).trans (List.map_id _)
  rw [spelledBy_iff, Money.dropLineBreak, if_neg hlast, hmap]

/-- A text with any other code point is no numeral. -/
theorem ne_points_of_mem {p : Nat} (hmem : p ∈ ps)
    (hp : ¬ (Numeral.isDigit p = true ∨ p ∈ [0x2B, 0x2D, 0x2E, 0x45, 0x65])) : ps ≠ a.points := by
  rintro rfl
  exact hp (a.isDigit_or_mem_of_mem hmem)

end DecimalNumeral

namespace Money

variable {raw : Datum} {t : Text} {ps : List Nat}

/-- **A text has the form of an amount exactly if it spells a decimal numeral.** -/
theorem isAmountText_iff : isAmountText ps = true ↔ ∃ a : DecimalNumeral, a.SpelledBy ps := by
  have hmap : isAmountText ps =
      isUnsigned (Numeral.sign ((dropLineBreak ps).map Numeral.toAscii)).2 := by
    rw [isAmountText, Numeral.sign_map_toAscii, Numeral.isUnsigned_map_toAscii]
  simp only [hmap, DecimalNumeral.spelledBy_iff]
  constructor
  · intro h
    obtain ⟨s, hs, -⟩ := Numeral.exists_sign_points ((dropLineBreak ps).map Numeral.toAscii)
    have hascii : ∀ p ∈ (Numeral.sign ((dropLineBreak ps).map Numeral.toAscii)).2,
        CodePoint.isDigit p = true → Numeral.isDigit p = true := by
      intro p hp hdigit
      have hmem : p ∈ (dropLineBreak ps).map Numeral.toAscii := by
        rw [hs]
        exact List.mem_append_right _ hp
      exact Numeral.isDigit_of_mem_map_toAscii hmem hdigit
    obtain ⟨a, ha⟩ := DecimalNumeral.exists_unsignedPoints h hascii
    refine ⟨{ a with sign := s }, ?_⟩
    rw [hs, ha]
    rfl
  · rintro ⟨a, ha⟩
    rw [ha, a.sign_points]
    exact a.isUnsigned_unsignedPoints

/-- A text that spells a numeral is read as what the numeral denotes. -/
theorem float?_of_spelledBy {a : DecimalNumeral} (h : a.SpelledBy ps) :
    Numeral.float? ps = some a.value := by
  have hbare : (dropLineBreak ps).map Numeral.toAscii = a.points := DecimalNumeral.spelledBy_iff.1 h
  have hparts : ∀ p ∈ dropLineBreak ps, Numeral.IsPart p := by
    intro p hp
    have hmem : Numeral.toAscii p ∈ a.points := hbare ▸ List.mem_map_of_mem hp
    exact (a.isPart_of_mem _ hmem).of_toAscii
  have hprepare : Numeral.prepare ps = Numeral.prepare a.points := by
    rw [prepare_eq_map_dropLineBreak hparts, hbare, Numeral.prepare_eq_map a.isPart_of_mem,
      a.map_toAscii_points]
  rw [← a.float?_points, Numeral.float?, Numeral.float?, hprepare]

/-- A text that spells a numeral is refused only if the number is not finite. -/
theorem parse_of_spelledBy (htext : raw.asText? = some t) {a : DecimalNumeral}
    (h : a.SpelledBy t.points) : parse raw = ofFloat raw a.value := by
  simp only [parse, htext, isAmountText_iff.2 ⟨a, h⟩, float?_of_spelledBy h, if_true]

/-- A text that is refused is shown as what it is. -/
theorem scalar_of_asText? (htext : raw.asText? = some t) :
    Failure.scalar raw "Money" = .invalidScalar raw "Money" := by
  simp [Failure.scalar, Failure.showing, Datum.hasText_of_asText? htext]

/-- A text that spells no numeral is refused. -/
theorem parse_of_not_spelledBy (htext : raw.asText? = some t)
    (h : ¬ ∃ a : DecimalNumeral, a.SpelledBy t.points) :
    parse raw = .error (.invalidScalar raw "Money") := by
  have hform : isAmountText t.points = false := by simpa using mt isAmountText_iff.1 h
  simp [parse, htext, hform, scalar_of_asText? htext]

/-- The texts that are read as amounts, and as which. -/
theorem parse_eq_ok_iff (htext : raw.asText? = some t) {m : Money} :
    parse raw = .ok m ↔ ∃ a : DecimalNumeral, a.SpelledBy t.points ∧
      a.decimal.value < Binary64.overflowThreshold ∧ m = ⟨a.value⟩ := by
  constructor
  · intro h
    by_cases hspelled : ∃ a : DecimalNumeral, a.SpelledBy t.points
    · obtain ⟨a, ha⟩ := hspelled
      rw [parse_of_spelledBy htext ha, ofFloat] at h
      split at h
      · next hfinite =>
        cases h
        exact ⟨a, ha, DecimalNumeral.isFinite_value_iff.1 hfinite, rfl⟩
      · cases h
    · rw [parse_of_not_spelledBy htext hspelled] at h
      cases h
  · rintro ⟨a, ha, hsmall, rfl⟩
    rw [parse_of_spelledBy htext ha, ofFloat, if_pos (DecimalNumeral.isFinite_value_iff.2 hsmall)]

/-! ### Public contract -/

/-- **The texts that are read as amounts are the spellings of decimal numerals below the midpoint**
between the largest finite number and the power of two above it, each read as the number nearest to
what the numeral denotes; every other text is refused. On texts of ASCII characters that end in no
line break, these are the decimal numerals themselves. -/
theorem parse_spellings (htext : raw.asText? = some t) :
    (∀ m, parse raw = .ok m ↔ ∃ a : DecimalNumeral, a.SpelledBy t.points ∧
      a.decimal.value < Binary64.overflowThreshold ∧ m = ⟨a.value⟩) ∧
    ((¬ ∃ a : DecimalNumeral, a.SpelledBy t.points ∧ a.decimal.value < Binary64.overflowThreshold) →
      parse raw = .error (.invalidScalar raw "Money")) ∧
    ((∀ p ∈ t.points, p < 0x80) → t.points.getLast? ≠ some 0x0A →
      ((∃ m, parse raw = .ok m) ↔
        ∃ a : DecimalNumeral, t.points = a.points ∧
          a.decimal.value < Binary64.overflowThreshold)) := by
  refine ⟨fun _ ↦ parse_eq_ok_iff htext, fun h ↦ ?_, fun hascii hlast ↦ ?_⟩
  · by_cases hspelled : ∃ a : DecimalNumeral, a.SpelledBy t.points
    · -- The form is right, so it is the value that is beyond the finite numbers.
      obtain ⟨a, ha⟩ := hspelled
      have hlarge : ¬ a.value.isFinite = true := fun hfinite ↦
        h ⟨a, ha, DecimalNumeral.isFinite_value_iff.1 hfinite⟩
      rw [parse_of_spelledBy htext ha, ofFloat, if_neg hlarge, scalar_of_asText? htext]
    · exact parse_of_not_spelledBy htext hspelled
  · simp only [parse_eq_ok_iff htext, DecimalNumeral.spelledBy_iff_of_ascii hascii hlast]
    constructor
    · rintro ⟨m, a, ha, hsmall, -⟩
      exact ⟨a, ha, hsmall⟩
    · rintro ⟨a, ha, hsmall⟩
      exact ⟨_, a, ha, hsmall, rfl⟩

/-- A numeral with a sign, a point and an exponent; a low line between digits; an exponent that is
too large. -/
theorem parse_spellings_signed :
    (∃ m, parse (.str "-12.50E+1") = .ok m) ∧
      parse (.str "1_000") = .error (.invalidScalar (.str "1_000") "Money") ∧
      parse (.str "1e309") = .error (.invalidScalar (.str "1e309") "Money") := by
  let signed : DecimalNumeral :=
    { sign := .minus
      whole := [0x31, 0x32]
      fraction := some [0x35, 0x30]
      exponent := some ⟨true, .plus, [0x31], by decide, by decide⟩
      digits_ne_nil := by decide
      isDigit_of_mem := by decide }
  have hsmall : signed.decimal.value < Binary64.overflowThreshold :=
    DecimalNumeral.isFinite_value_iff.1 (by decide +kernel)
  refine ⟨?_, ?_, ?_⟩
  · exact ((parse_spellings rfl).2.2 (by decide) (by decide)).2 ⟨signed, rfl, hsmall⟩
  · refine (parse_spellings rfl).2.1 ?_
    rintro ⟨a, ha, -⟩
    rw [DecimalNumeral.spelledBy_iff_of_ascii (by decide) (by decide)] at ha
    exact DecimalNumeral.ne_points_of_mem (p := 0x5F) (by decide) (by decide) ha
  · refine (parse_spellings rfl).2.1 ?_
    rintro ⟨a, ha, hlt⟩
    have hread : Numeral.float? (codePoints "1e309".toList) = some (.inf false) := by decide +kernel
    have hfinite := DecimalNumeral.isFinite_value_iff.2 hlt
    rw [← Option.some.inj (hread.symm.trans (float?_of_spelledBy ha))] at hfinite
    cases hfinite

/-- A line break after a numeral and a digit of another script are let through, though neither text
is a decimal numeral. -/
theorem parse_not_strict :
    (parse (.str "5\n")).isOk = true ∧ (∀ a : DecimalNumeral, codePoints "5\n".toList ≠ a.points) ∧
      (parse (.str "\u0665")).isOk = true ∧
        ∀ a : DecimalNumeral, codePoints "\u0665".toList ≠ a.points :=
  ⟨by decide +kernel, fun _ ↦ DecimalNumeral.ne_points_of_mem (p := 0x0A) (by decide) (by decide),
    by decide +kernel, fun _ ↦ DecimalNumeral.ne_points_of_mem (p := 0x665) (by decide) (by decide)⟩

end Money

end CatalogQuery
