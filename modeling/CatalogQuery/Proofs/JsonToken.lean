import CatalogQuery.Json.Writer
import CatalogQuery.Proofs.Grammar.Lexes

/-!
# Strings and numbers that are written as JSON

What is written of a text and of a number is read as the same, whatever follows.

A text is written character by character. A character that must be escaped has a short escape or a
numeric one, and the reader takes either for its code point (`Json.units_escapePlain`); it joins the
halves of a surrogate pair, but no character is one (`Json.joinNamed_eq_map`).

The numerals of JSON and those of documents have the same form, and a document is stricter about
what may follow. So a number that is read there is read here (`Json.number_of_number?`), and nothing
about the layout of its digits has to be shown again. Only the digits of an integer are limited in
number.

## One description of numerals

The layout of the digits of a number was described once, where documents are written, and shown to
be read by the lexical grammar. JSON is read by another reader, over code points and with other
names for its steps. Each step of it is compared with the step of the grammar on the code points of
characters (`wholePart?_codePoints`, `fractionPart_codePoints`, `exponentPart_codePoints`), so that
the comparison of the readers is their composition.

## Characters only

Half of a surrogate pair is no character, and what is written for it is a replacement. So the
statements about strings assume that all code points are those of characters (`Text.isScalar`). A
pair of characters that look like halves cannot arise, and nothing is joined.
-/

namespace CatalogQuery

open Grammar

theorem Numeral.isDigit_toNat (c : Char) : Numeral.isDigit c.toNat = c.isDigit := by
  rw [Bool.eq_iff_iff]
  simp [Numeral.isDigit, Char.isDigit, UInt32.le_iff_toNat_le]

theorem codePoints_append (cs ds : List Char) :
    codePoints (cs ++ ds) = codePoints cs ++ codePoints ds :=
  List.map_append

/-- The code points begin with that of a character only if the characters begin with it. -/
theorem codePoints_ne_cons {cs : List Char} {c : Char} (h : ∀ ds, cs = c :: ds → False)
    (ps : List Nat) (hps : codePoints cs = c.toNat :: ps) : False := by
  obtain ⟨d, ds, rfl, hd, -⟩ := List.map_eq_cons_iff.1 hps
  exact h ds (by rw [Char.toNat_inj.1 hd])

/-- A text without surrogates is the text of its characters. -/
theorem Text.ofPoints_codePoints (cs : List Char) :
    ofPoints (codePoints cs) = .str (String.ofList cs) := by
  have hall : (codePoints cs).all isScalar = true := by
    simp [codePoints, Grammar.isScalar_toNat]
  rw [ofPoints, if_pos hall, codePoints, List.map_map,
    show Char.ofNat ∘ Char.toNat = id from funext Char.ofNat_toNat, List.map_id]

namespace Json

variable {p : Nat} {ps : List Nat} {cs ds rest : List Char} {negative : Bool} {u : StringUnit}
  {us : List StringUnit}

/-! ### Strings

A literal is read into units first, each with a mark that says if it was named by a numeric escape,
and the units are joined afterwards. So the proof has the same two parts: what the units of a
literal are (`units_flatMap`), and that joining leaves them as they are (`joinNamed_eq_map`).
-/

/-- A numeric escape names its code point. -/
theorem units_unitEscape (hp : p < 0x10000) (before : List StringUnit) (ps : List Nat) :
    units before (codePoints (unitEscape p) ++ ps) = units (⟨p, true⟩ :: before) ps := by
  have hunit :
      hexUnit? (Nat.digitChar (p / 16 / 16 / 16 % 16)).toNat
        (Nat.digitChar (p / 16 / 16 % 16)).toNat (Nat.digitChar (p / 16 % 16)).toNat
        (Nat.digitChar (p % 16)).toNat = some p := by
    have hsum : p / 16 / 16 / 16 % 16 * 0x1000 + p / 16 / 16 % 16 * 0x100 + p / 16 % 16 * 0x10 +
        p % 16 = p := by
      omega
    simp [hexUnit?, hexValue?_digitChar, Nat.mod_lt, hsum]
  rw [unitEscape, hexDigits_four]
  show units before (0x5C :: 0x75 :: _ :: _ :: _ :: _ :: ps) = _
  rw [units, hunit]

theorem units_short {e : List Char} (h : shortEscape? p = some e) (before : List StringUnit)
    (ps : List Nat) :
    units before (codePoints e ++ ps) = units (⟨p, false⟩ :: before) ps := by
  unfold shortEscape? at h
  split at h <;> cases h <;> rfl

/-- A character that needs no escape is read as itself. -/
theorem units_plain (hmark : p ≠ 0x22) (hescape : p ≠ 0x5C) (hcontrol : 0x20 ≤ p)
    (before : List StringUnit) (ps : List Nat) :
    units before (p :: ps) = units (⟨p, false⟩ :: before) ps := by
  rw [units]
  · have hlt : ¬ p < 0x20 := by omega
    simp [hlt, hescape]
  · exact hmark
  all_goals simp [hescape]

/-- **A character in a literal is read as its code point.** -/
theorem units_escapePlain (hp : Text.isScalar p = true) (before : List StringUnit) (ps : List Nat) :
    ∃ named, units before (codePoints (escapePlain p) ++ ps) = units (⟨p, named⟩ :: before) ps := by
  unfold escapePlain
  split
  · next e he => exact ⟨false, units_short he before ps⟩
  · next hnone =>
    obtain ⟨hmark, hescape, -, -⟩ := shortEscape?_eq_none hnone
    split
    · exact ⟨true, units_unitEscape (by omega) before ps⟩
    · refine ⟨false, ?_⟩
      show units before ((Text.shown p).toNat :: ps) = _
      rw [Text.toNat_shown hp]
      exact units_plain hmark hescape (by omega) before ps

/-- A text is read character by character up to the closing mark. -/
theorem units_flatMap {ps : List Nat} (hps : ∀ p ∈ ps, Text.isScalar p = true)
    (before : List StringUnit) (rest : List Nat) :
    ∃ us : List StringUnit, us.map StringUnit.point = ps ∧
      units before (codePoints (ps.flatMap escapePlain) ++ 0x22 :: rest) =
        .ok (before.reverse ++ us, rest) := by
  induction ps generalizing before with
  | nil =>
    refine ⟨[], rfl, ?_⟩
    rw [List.append_nil]
    rfl
  | cons p ps ih =>
    rw [List.forall_mem_cons] at hps
    obtain ⟨named, hfirst⟩ :=
      units_escapePlain hps.1 before (codePoints (ps.flatMap escapePlain) ++ 0x22 :: rest)
    obtain ⟨us, hus, hrest⟩ := ih hps.2 (⟨p, named⟩ :: before)
    refine ⟨⟨p, named⟩ :: us, by rw [List.map_cons, hus], ?_⟩
    rw [List.flatMap_cons, codePoints_append, List.append_assoc, hfirst, hrest, List.reverse_cons,
      List.append_assoc]
    rfl

/-- No two characters are joined. -/
theorem joinNamed_eq_map (hus : ∀ u ∈ us, Text.isScalar u.point = true) :
    joinNamed us = us.map StringUnit.point := by
  induction us with
  | nil => rfl
  | cons u us ih =>
    rw [List.forall_mem_cons] at hus
    cases us with
    | nil => rfl
    | cons v us =>
      -- Only the first half of a pair is joined, and a character is no half.
      have hhigh : Encoding.isHigh u.point = false := by
        have hu := hus.1
        simp only [Text.isScalar, CodePoint.isSurrogate, Bool.and_eq_true, decide_eq_true_eq,
          Bool.not_eq_true', Bool.and_eq_false_iff, decide_eq_false_iff_not] at hu
        simp only [Encoding.isHigh, Bool.and_eq_false_iff, decide_eq_false_iff_not]
        omega
      rw [joinNamed, hhigh, Bool.and_false, Bool.false_and, if_neg Bool.false_ne_true, ih hus.2]
      rfl

/-- **A text in quotation marks is read as the text.** -/
theorem string_plainLiteral {ps : List Nat} (hps : ∀ p ∈ ps, Text.isScalar p = true)
    (rest : List Nat) :
    string (codePoints (ps.flatMap escapePlain) ++ 0x22 :: rest) = .ok (.ofPoints ps, rest) := by
  obtain ⟨us, hus, hunits⟩ := units_flatMap hps [] rest
  have hjoined : joinNamed us = ps := by
    rw [joinNamed_eq_map fun u hu ↦ hps _ (hus ▸ List.mem_map_of_mem hu), hus]
  rw [string, hunits, ← hjoined]
  rfl

/-! ### Numbers

The grammar reads characters and JSON reads code points. Each lemma below compares one step of the
two on the code points of characters, and takes over whatever the grammar has found.
-/

theorem isDigit_comp_toNat : Numeral.isDigit ∘ Char.toNat = Char.isDigit :=
  funext Numeral.isDigit_toNat

/-- Both readers take the same digits. -/
theorem takeWhile_codePoints (cs : List Char) :
    (codePoints cs).takeWhile Numeral.isDigit = codePoints (cs.takeWhile Char.isDigit) := by
  rw [codePoints, List.takeWhile_map, isDigit_comp_toNat, codePoints]

theorem dropWhile_codePoints (cs : List Char) :
    (codePoints cs).dropWhile Numeral.isDigit = codePoints (cs.dropWhile Char.isDigit) := by
  rw [codePoints, List.dropWhile_map, isDigit_comp_toNat, codePoints]

/-- Both readers give digits the same value. -/
theorem ofDigitValues_codePoints (ds : List Char) :
    ofDigitValues (Numeral.values (codePoints ds)) = Nat.ofDigitChars 10 ds 0 := by
  rw [ofDigitValues, Numeral.values, codePoints, List.foldl_map, List.foldl_map,
    Nat.ofDigitChars_eq_foldl]
  rfl

/-- Both readers take the same integer part. -/
theorem wholePart?_codePoints (h : isWhole (cs.takeWhile Char.isDigit) = true) :
    wholePart? (codePoints cs) =
      some (codePoints (cs.takeWhile Char.isDigit), codePoints (cs.dropWhile Char.isDigit)) := by
  cases cs with
  | nil => cases h
  | cons c cs =>
    -- A leading zero is the whole integer part, in both readers; any other digit begins a run.
    by_cases hzero : c = '0'
    · subst hzero
      rw [List.takeWhile_cons_of_pos rfl] at h
      have hnil : cs.takeWhile Char.isDigit = [] := List.isEmpty_iff.1 h
      have hall : cs.dropWhile Char.isDigit = cs := by
        simpa [hnil] using List.takeWhile_append_dropWhile (p := Char.isDigit) (l := cs)
      rw [List.takeWhile_cons_of_pos rfl, List.dropWhile_cons_of_pos rfl, hnil, hall]
      rfl
    · have hne : c.toNat ≠ 0x30 := fun hc ↦ hzero (Char.toNat_inj.1 hc)
      have hsome : (c :: cs).takeWhile Char.isDigit ≠ [] := by
        intro hnil
        rw [hnil] at h
        cases h
      obtain ⟨d, ds, hds⟩ := List.exists_cons_of_ne_nil hsome
      rw [wholePart?, takeWhile_codePoints, dropWhile_codePoints, hds]
      · rfl
      · intro rest hrest
        exact hne (List.cons.inj hrest).1

/-- Both readers take the same fraction. -/
theorem fractionPart_codePoints (h : fraction? cs = some (ds, rest)) :
    fractionPart (codePoints cs) = (codePoints ds, codePoints rest) := by
  unfold fraction? at h
  split at h
  · next after =>
    show fractionPart (0x2E :: codePoints after) = _
    rw [fractionPart, takeWhile_codePoints, dropWhile_codePoints]
    split at h
    · cases h
    · next hne =>
      cases h
      obtain ⟨d, ds, hds⟩ := List.exists_cons_of_ne_nil hne
      rw [hds]
      rfl
  · next hpoint =>
    cases h
    rw [fractionPart]
    · rfl
    · exact codePoints_ne_cons (c := '.') hpoint

/-- Both readers take the same sign. -/
theorem sign_codePoints (cs : List Char) :
    Numeral.sign (codePoints cs) = ((Grammar.sign cs).1, codePoints (Grammar.sign cs).2) := by
  unfold Grammar.sign
  split
  · rfl
  · rfl
  · next hminus hplus =>
    rw [Numeral.sign]
    · exact codePoints_ne_cons (c := '-') hminus
    · exact codePoints_ne_cons (c := '+') hplus

/-- Both readers take the same exponent. -/
theorem exponentPart_codePoints {e : Option Int} (h : exponent? cs = some (e, rest)) :
    exponentPart (codePoints cs) = (e, codePoints rest) := by
  cases cs with
  | nil =>
    cases h
    rfl
  | cons c cs =>
    have hletter : (c.toNat = 0x65 ∨ c.toNat = 0x45) ↔ (c = 'e' ∨ c = 'E') := by
      rw [← Char.toNat_inj, ← Char.toNat_inj]
      rfl
    show exponentPart (c.toNat :: codePoints cs) = _
    rw [exponent?] at h
    rw [exponentPart]
    simp only [Bool.or_eq_true, decide_eq_true_eq, hletter] at h ⊢
    split at h
    · next hc =>
      rw [if_pos hc, sign_codePoints]
      simp only [takeWhile_codePoints, dropWhile_codePoints]
      split at h
      · cases h
      · next hne =>
        cases h
        obtain ⟨d, ds, hds⟩ := List.exists_cons_of_ne_nil hne
        rw [hds, ← ofDigitValues_codePoints]
        rfl
    · next hc =>
      cases h
      rw [if_neg hc]
      rfl

/-- The value of a number of a document. -/
def ofNumber? : Token → Option Datum
  | .int n => some (.int n)
  | .float x => some (.float x)
  | _ => none

/-- **A number of a document is a number of JSON**; only an integer must be within the digit
limit. -/
theorem number_of_number? {t : Token} (h : number? negative cs = some (t, rest))
    (hlimit : ∀ n, t = .int n → (cs.takeWhile Char.isDigit).length ≤ integerDigitLimit) :
    ∃ d, ofNumber? t = some d ∧ number negative (codePoints cs) = .ok (d, codePoints rest) := by
  -- The grammar has read a number, so each of its steps has succeeded, and the steps of the other
  -- reader follow one by one.
  rw [number?] at h
  generalize hw : cs.takeWhile Char.isDigit = whole at h hlimit
  split at h
  · next hwhole =>
    split at h
    · cases h
    · next fraction after hfraction =>
      split at h
      · cases h
      · next exponent rest' hexponent =>
        split at h
        · cases h
        · cases h
          have hlength : (codePoints whole).length = whole.length := List.length_map _
          have hempty : (codePoints fraction).isEmpty = fraction.isEmpty := List.isEmpty_map
          have hplaces : (codePoints fraction).length = fraction.length := List.length_map _
          rw [number, wholePart?_codePoints (hw ▸ hwhole)]
          simp only [fractionPart_codePoints hfraction, exponentPart_codePoints hexponent, hw,
            hlength, hempty, hplaces, ← codePoints_append, ofDigitValues_codePoints]
          -- A numeral without fraction and exponent is an integer, and only then the limit counts.
          rw [numberToken] at hlimit ⊢
          split
          · next hinteger =>
            rw [if_pos hinteger] at hlimit
            rw [if_neg (Nat.not_lt.2 (hlimit _ rfl))]
            exact ⟨_, rfl, rfl⟩
          · exact ⟨_, rfl, rfl⟩
  · cases h

/-- The integer that was written is read. -/
theorem number_toDigits (negative : Bool) {n : Nat} (hfits : n < 10 ^ integerDigitLimit)
    (hrest : stops rest = true) :
    number negative (codePoints (Nat.toDigits 10 n ++ rest)) =
      .ok (.int (if negative then -n else n), codePoints rest) := by
  have hlength :
      ((Nat.toDigits 10 n ++ rest).takeWhile Char.isDigit).length ≤ integerDigitLimit := by
    -- The digits that the reader counts are those that were written: what follows is no digit.
    rw [takeWhile_isDigit_append (fun _ ↦ isDigit_of_mem_toDigits) (startsNoDigit_of_stops hrest)]
    exact (Nat.length_toDigits_le_iff (by decide) (by decide)).2 hfits
  obtain ⟨d, hd, hnumber⟩ := number_of_number? (number?_toDigits negative n hrest) fun _ _ ↦ hlength
  cases hd
  exact hnumber

/-- The decimal number that was written is read. -/
theorem number_magnitudeText {m e : Nat} (h : IsCanonical m e) (hrest : stops rest = true) :
    number negative (codePoints (Binary64.magnitudeText m e ++ rest)) =
      .ok (.float (.finite negative m e h), codePoints rest) := by
  obtain ⟨d, hd, hnumber⟩ := number_of_number? (number?_magnitudeText h hrest) fun _ hint ↦ by
    cases hint
  cases hd
  exact hnumber

end Json

end CatalogQuery
