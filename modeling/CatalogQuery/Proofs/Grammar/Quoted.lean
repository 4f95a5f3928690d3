import CatalogQuery.Json.StringLiteral
import CatalogQuery.Proofs.Grammar.Token
import Mathlib.Tactic.IntervalCases

/-!
# String literals as tokens

No text ends its own literal early: the ASCII literal of a text is read by `string?` as exactly that
text, whatever follows.

A code point is written in one of three ways, and each is read back as its code units
(`units?_escapeAscii`): by a short escape, as itself, or by numeric escapes, of which a code point
beyond `0xFFFF` needs two. The units of a text of characters join to its code points again
(`joinPairs?_codeUnits`), since no character is half of a surrogate pair.

## Which texts

The hypothesis everywhere is that code points are scalar (`Text.isScalar`): in range, and no half of
a surrogate pair. Characters are (`isScalar_toNat`), so a literal of a text of characters has it for
free. A text that holds half of a pair has a literal too, but one that the grammar refuses, because
`joinPairs?` asks for the other half.
-/

namespace CatalogQuery.Grammar

open Json

variable {p : Nat} {cs rest : List Char}

/-- The units that name a code point. -/
def codeUnits (p : Nat) : List Nat :=
  if p < 0x10000 then [p] else [0xD800 + (p - 0x10000) / 0x400, 0xDC00 + (p - 0x10000) % 0x400]

/-! ### One code point

The three ways of writing a code point are the cases of the writer, and each has a lemma on what the
reader makes of it, whatever follows.
-/

/-- A hexadecimal digit has the value that it was written for. -/
theorem hexValue?_digitChar {d : Nat} (h : d < 16) :
    hexValue? (Nat.digitChar d).toNat = some d := by
  interval_cases d <;> rfl

theorem hexDigits_four (n : Nat) :
    hexDigits 4 n = [Nat.digitChar (n / 16 / 16 / 16 % 16), Nat.digitChar (n / 16 / 16 % 16),
      Nat.digitChar (n / 16 % 16), Nat.digitChar (n % 16)] := by
  simp [hexDigits]

/-- A numeric escape names its unit. -/
theorem units?_unitEscape (hp : p < 0x10000) (cs : List Char) :
    units? (unitEscape p ++ cs) = (units? cs).map fun (us, rest) ↦ (p :: us, rest) := by
  have hsum : p / 16 / 16 / 16 % 16 * 0x1000 + p / 16 / 16 % 16 * 0x100 +
      p / 16 % 16 * 0x10 + p % 16 = p := by omega
  have hunit : hexUnit? (Nat.digitChar (p / 16 / 16 / 16 % 16)).toNat
      (Nat.digitChar (p / 16 / 16 % 16)).toNat (Nat.digitChar (p / 16 % 16)).toNat
      (Nat.digitChar (p % 16)).toNat = some p := by
    simp [hexUnit?, hexValue?_digitChar, Nat.mod_lt, hsum]
  simp only [unitEscape, hexDigits_four, List.cons_append, List.nil_append, units?, hunit]

/-- A short escape names its code point. -/
theorem units?_short {e : List Char} (h : shortEscape? p = some e) (cs : List Char) :
    units? (e ++ cs) = (units? cs).map fun (us, rest) ↦ (p :: us, rest) := by
  unfold shortEscape? at h
  split at h <;> cases h <;> rfl

/-- A character that is no mark, no backslash and no line end names itself. -/
theorem units?_plain {c : Char} (hmark : c ≠ '"') (hescape : c ≠ '\\') (hline : isLineEnd c = false)
    (cs : List Char) :
    units? (c :: cs) = (units? cs).map fun (us, rest) ↦ (c.toNat :: us, rest) := by
  rw [units?]
  · simp [hline, hescape]
  · exact hmark
  all_goals simp [hescape]

/-- The characters that a string cannot hold as they are all have a short escape. -/
theorem shortEscape?_eq_none (h : shortEscape? p = none) :
    p ≠ 0x22 ∧ p ≠ 0x5C ∧ p ≠ 0x0A ∧ p ≠ 0x0D := by
  refine ⟨?_, ?_, ?_, ?_⟩ <;> rintro rfl <;> cases h

/-- **A code point in a literal is read as its units.** -/
theorem units?_escapeAscii (hp : Text.isScalar p = true) (cs : List Char) :
    units? (escapeAscii p ++ cs) =
      (units? cs).map fun (us, rest) ↦ (codeUnits p ++ us, rest) := by
  have hlt : p < 0x110000 := by
    simp only [Text.isScalar, Bool.and_eq_true, decide_eq_true_eq] at hp
    exact hp.1
  unfold escapeAscii
  split
  · next e he =>
    -- Every code point with a short escape is an ASCII one.
    have hsmall : p < 0x10000 := by
      unfold shortEscape? at he
      split at he <;> first | omega | cases he
    simp only [units?_short he, codeUnits, hsmall, if_true, List.cons_append, List.nil_append]
  · next hnone =>
    obtain ⟨hmark, hescape, hfeed, hreturn⟩ := shortEscape?_eq_none hnone
    have hnat : (Char.ofNat p).toNat = p := Text.toNat_ofNat_of_isScalar hp
    have hne {c : Char} (h : p ≠ c.toNat) : Char.ofNat p ≠ c := by
      rintro rfl
      exact h hnat.symm
    split
    · next hprint =>
      have hsmall : p < 0x10000 := by
        simp only [Bool.and_eq_true, decide_eq_true_eq] at hprint
        omega
      have hline : isLineEnd (Char.ofNat p) = false := by
        simp [isLineEnd, hne (c := '\n') hfeed, hne (c := '\r') hreturn]
      rw [List.singleton_append, units?_plain (hne hmark) (hne hescape) hline]
      simp only [hnat, codeUnits, hsmall, if_true, List.cons_append, List.nil_append]
    · split
      · next hsmall =>
        simp only [units?_unitEscape hsmall, codeUnits, hsmall, if_true, List.cons_append,
          List.nil_append]
      · -- Beyond `0xFFFF` two numeric escapes are written, one for each half of the pair.
        next hbig =>
        rw [List.append_assoc, units?_unitEscape (by omega), units?_unitEscape (by omega)]
        simp only [codeUnits, hbig, if_false, Option.map_map]
        rfl

/-! ### Texts

Units are read first and joined afterwards. Both steps go along the text, and each code point is
joined before the next one is looked at, because its units are complete.
-/

/-- The body of a literal is read as the units of its code points, up to the closing mark and not
beyond. -/
theorem units?_literal {ps : List Nat} (hps : ∀ p ∈ ps, Text.isScalar p = true)
    (rest : List Char) :
    units? (ps.flatMap escapeAscii ++ '"' :: rest) = some (ps.flatMap codeUnits, rest) := by
  induction ps with
  | nil => rfl
  | cons p ps ih =>
    rw [List.flatMap_cons, List.append_assoc, units?_escapeAscii (hps p (by simp)),
      ih fun q hq ↦ hps q (by simp [hq])]
    rfl

/-- The units of one code point are joined to it again, and what follows is joined as before. -/
theorem joinPairs?_codeUnits_append (hp : Text.isScalar p = true) (us : List Nat) :
    joinPairs? (codeUnits p ++ us) = (joinPairs? us).map (p :: ·) := by
  simp only [Text.isScalar, CodePoint.isSurrogate, Bool.and_eq_true, decide_eq_true_eq,
    Bool.not_eq_true', Bool.and_eq_false_iff, decide_eq_false_iff_not] at hp
  unfold codeUnits
  split
  · -- One unit: it is neither half of a pair, since the code point is scalar.
    have hhigh : Encoding.isHigh p = false := by
      simp only [Encoding.isHigh, Bool.and_eq_false_iff, decide_eq_false_iff_not]
      omega
    have hlow : Encoding.isLow p = false := by
      simp only [Encoding.isLow, Bool.and_eq_false_iff, decide_eq_false_iff_not]
      omega
    rw [List.singleton_append, joinPairs?.eq_def]
    simp only [hhigh, hlow, Bool.false_eq_true, if_false]
  · -- Two units: they are a high half and a low half, in this order.
    have hhigh : Encoding.isHigh (0xD800 + (p - 0x10000) / 0x400) = true := by
      simp only [Encoding.isHigh, Bool.and_eq_true, decide_eq_true_eq]
      omega
    have hlow : Encoding.isLow (0xDC00 + (p - 0x10000) % 0x400) = true := by
      simp only [Encoding.isLow, Bool.and_eq_true, decide_eq_true_eq]
      omega
    have hjoin : Encoding.joinPair (0xD800 + (p - 0x10000) / 0x400)
        (0xDC00 + (p - 0x10000) % 0x400) = p := by
      unfold Encoding.joinPair
      omega
    rw [List.cons_append, List.singleton_append, joinPairs?.eq_def]
    simp only [hhigh, hlow, hjoin, if_true]

theorem joinPairs?_codeUnits {ps : List Nat} (hps : ∀ p ∈ ps, Text.isScalar p = true) :
    joinPairs? (ps.flatMap codeUnits) = some ps := by
  induction ps with
  | nil => rfl
  | cons p ps ih =>
    rw [List.flatMap_cons, joinPairs?_codeUnits_append (hps p (by simp)),
      ih fun q hq ↦ hps q (by simp [hq])]
    rfl

/-- Every character is a scalar code point. -/
theorem isScalar_toNat (c : Char) : Text.isScalar c.toNat = true := by
  have h := c.valid
  simp only [UInt32.isValidChar, Nat.isValidChar, Char.toNat] at h ⊢
  simp only [Text.isScalar, CodePoint.isSurrogate, Bool.and_eq_true, decide_eq_true_eq,
    Bool.not_eq_true', Bool.and_eq_false_iff, decide_eq_false_iff_not]
  omega

theorem isScalar_of_mem_codePoints (s : String) :
    ∀ p ∈ codePoints s.toList, Text.isScalar p = true := by
  intro p hp
  obtain ⟨c, -, rfl⟩ := List.mem_map.1 hp
  exact isScalar_toNat c

/-- **A string literal is read as its text, whatever follows.** -/
theorem string?_asciiLiteral (s : String) (rest : List Char) :
    string? ((codePoints s.toList).flatMap escapeAscii ++ '"' :: rest) =
      some (.string s, rest) := by
  have hscalar := isScalar_of_mem_codePoints s
  have hback : (codePoints s.toList).map Char.ofNat = s.toList := by
    simp [codePoints, Function.comp_def]
  simp only [string?, units?_literal hscalar, joinPairs?_codeUnits hscalar, Option.map_some, hback,
    String.ofList_toList]

end CatalogQuery.Grammar
