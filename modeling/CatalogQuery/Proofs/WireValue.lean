import CatalogQuery.Entities
import CatalogQuery.Proofs.Numeral

/-!
# Well-typed values of replies

The values that a shop answers with, described from the outside: by what they are made of, and not
by what the readers of this library accept. `GlobalId` is an identifier of one entity type with a
number and a namespace, `Amount` a decimal numeral of ASCII digits with a finite value, `Weight` a
finite number with or without a fraction, `Digits` a run of ASCII digits.

For each of them one theorem says that it is read, and as what: `GlobalId.readEntityId_gid`,
`Amount.parse_text`, `Weight.float_datum`, `Digits.count_text`. The words of the vocabularies are
read back from their wire forms (`readWord_wire`).

## Described from the outside

Each of the four is a structure that carries the proof of its own form, so a shop cannot hold an
amount that is no numeral or an identifier of the wrong type. None of the conditions mentions a
reader. A statement that "every well-typed reply is decoded" would otherwise be empty: with "well
typed" as "accepted by the reader" it would say nothing about the reader.

A decimal numeral is given by its parts, and written by putting them together. Reading goes the
other way, and the parts come back because of what they end before: digits end before a point or the
letter of an exponent, and the exponent begins with its letter. The lemmas of "The parts of a
numeral" say this for any class of characters that holds the digits and not the others, since the
form and the reader of numbers use different classes.
-/

namespace CatalogQuery

/-! ### Leading runs -/

/-- A run ends before the first element that does not belong to it. -/
theorem takeWhile_append_of_head {α : Type} {p : α → Bool} {xs ys : List α}
    (hxs : ∀ x ∈ xs, p x = true) (hys : ∀ y, ys.head? = some y → p y = false) :
    (xs ++ ys).takeWhile p = xs ∧ (xs ++ ys).dropWhile p = ys := by
  rw [List.takeWhile_append_of_pos hxs, List.dropWhile_append_of_pos hxs]
  cases ys with
  | nil => simp
  | cons y ys => simp [hys y rfl]

/-! ### Words -/

/-- A vocabulary whose words are read back from their wire forms. -/
class Vocabulary.IsLawful (α : Type) [Vocabulary α] : Prop where
  /-- The wire form of a word stands for the word. -/
  ofWire?_wire : ∀ w : α, ofWire? (wire w) = some w

instance : Vocabulary.IsLawful EntityType := ⟨fun w ↦ by cases w <;> rfl⟩

instance : Vocabulary.IsLawful RootField := ⟨fun w ↦ by cases w <;> rfl⟩

instance : Vocabulary.IsLawful WeightUnit := ⟨fun w ↦ by cases w <;> rfl⟩

instance : Vocabulary.IsLawful ProductStatus := ⟨fun w ↦ by cases w <;> rfl⟩

instance : Vocabulary.IsLawful BulkStatus := ⟨fun w ↦ by cases w <;> rfl⟩

/-- A word is read back from its wire form. -/
theorem readWord_wire {α : Type} [Vocabulary α] [Vocabulary.IsLawful α] (w : α) :
    readWord α (.str (Vocabulary.wire w)) = .ok w := by
  simp only [readWord, Vocabulary.read, Vocabulary.ofDatum?, Datum.asText?,
    Vocabulary.IsLawful.ofWire?_wire]

/-! ### Identifiers -/

namespace Id

/-- The number consists of ASCII digits, the namespace of its own characters; neither is empty. -/
structure IsWellFormed (i : Id) : Prop where
  /-- The number is one. -/
  number : isNumber (codePoints i.number.toList) = true
  /-- There is a namespace. -/
  space_ne_nil : codePoints i.space.toList ≠ []
  /-- The namespace has no other characters. -/
  space : ∀ p ∈ codePoints i.space.toList, isSpacePoint p = true

theorem ofAscii_codePoints (s : String) : ofAscii (codePoints s.toList) = s := by
  rw [ofAscii, codePoints, List.map_map]
  have hid : Char.ofNat ∘ Char.toNat = id := funext fun c ↦ Char.ofNat_toNat c
  rw [hid, List.map_id, String.ofList_toList]

/-- A segment ends before the slash behind it. -/
theorem segment?_append {member : Nat → Bool} {ps rest : List Nat} (hne : ps ≠ [])
    (hps : ∀ p ∈ ps, member p = true) (hslash : member 0x2F = false) :
    segment? member (ps ++ 0x2F :: rest) = some (ps, rest) := by
  have hhead : ∀ q, (0x2F :: rest).head? = some q → member q = false := by
    rintro _ ⟨⟩
    exact hslash
  obtain ⟨htake, hdrop⟩ := takeWhile_append_of_head hps hhead
  obtain ⟨p, qs, rfl⟩ := List.exists_cons_of_ne_nil hne
  rw [segment?, htake, hdrop]
  rfl

theorem after?_append (start ps : List Nat) : after? start (start ++ ps) = some ps := by
  induction start with
  | nil => rfl
  | cons s start ih => rw [List.cons_append, after?, if_pos rfl, ih]

/-- The canonical text of an identifier from its parts. -/
theorem codePoints_gid (i : Id) :
    codePoints i.gid.toList = codePoints "gid://".toList ++ (codePoints i.space.toList ++ 0x2F ::
      (codePoints (Vocabulary.wire i.entityType).toList ++ 0x2F ::
        codePoints i.number.toList)) := by
  simp [gid, codePoints]

/-- **A well-formed identifier is read back from its canonical text.** -/
theorem ofPoints_gid {i : Id} (h : i.IsWellFormed) :
    ofPoints (codePoints i.gid.toList) = .ok i := by
  have htype : ∀ w : EntityType, codePoints (Vocabulary.wire w).toList ≠ [] ∧
      ∀ p ∈ codePoints (Vocabulary.wire w).toList, isLetter p = true := by
    intro w
    cases w <;> decide
  -- The number is all that stands behind the third slash; as digits it holds no slash and no
  -- question mark.
  have hnumber : ((codePoints i.number.toList).any fun p ↦ p == 0x2F || p == 0x3F) = false := by
    have hdigits := h.number
    simp only [isNumber, Bool.and_eq_true, List.all_eq_true] at hdigits
    simp only [List.any_eq_false]
    intro p hp hpart
    have hdigit := hdigits.2 p hp
    simp only [isDigit, Bool.and_eq_true, decide_eq_true_eq, Bool.or_eq_true,
      beq_iff_eq] at hdigit hpart
    omega
  have hsplit : split? (codePoints i.gid.toList) = some (codePoints i.space.toList,
      codePoints (Vocabulary.wire i.entityType).toList, codePoints i.number.toList) := by
    rw [split?, codePoints_gid, after?_append]
    simp only [Option.bind_eq_bind, Option.bind_some,
      segment?_append h.space_ne_nil h.space (by decide),
      segment?_append (htype _).1 (htype _).2 (by decide), hnumber]
    rfl
  rw [ofPoints, hsplit]
  simp only [ofAscii_codePoints, Vocabulary.IsLawful.ofWire?_wire, h.number]
  rfl

end Id

/-- An identifier of an entity of a given type. -/
structure GlobalId (type : EntityType) where
  /-- The identifier. -/
  id : Id
  /-- It is of the type. -/
  entityType_eq : id.entityType = type
  /-- Its parts are well formed. -/
  isWellFormed : id.IsWellFormed

/-- **An identifier of an entity is read as what it is.** -/
theorem GlobalId.readEntityId_gid {type : EntityType} (i : GlobalId type) :
    readEntityId type (.str i.id.gid) = .ok i.id := by
  have hparse : Id.parse (.str i.id.gid) = .ok i.id := by
    simp only [Id.parse, Datum.asText?, Text.points_str, Id.ofPoints_gid i.isWellFormed]
  rw [readEntityId, hparse]
  simp [bind, Except.bind, i.entityType_eq, pure, Except.pure]

/-! ### Amounts -/

/-- The sign in front of digits. -/
inductive Sign where
  | none | plus | minus
  deriving DecidableEq, Repr

/-- The sign as it is written. -/
def Sign.points : Sign → List Nat
  | .none => []
  | .plus => [0x2B]
  | .minus => [0x2D]

/-- The sign is a minus. -/
def Sign.isMinus (s : Sign) : Bool :=
  s = .minus

/-- The exponent of a decimal numeral. -/
structure Exponent where
  /-- The letter is a capital. -/
  capital : Bool
  /-- The sign of the digits. -/
  sign : Sign
  /-- The digits. -/
  digits : List Nat
  /-- There are digits. -/
  digits_ne_nil : digits ≠ []
  /-- They are ASCII digits. -/
  isDigit_of_mem : ∀ p ∈ digits, Numeral.isDigit p = true

namespace Exponent

/-- The exponent as it is written. -/
def points (e : Exponent) : List Nat :=
  (if e.capital then 0x45 else 0x65) :: (e.sign.points ++ e.digits)

/-- The power of ten that the exponent stands for. -/
def value (e : Exponent) : Int :=
  if e.sign.isMinus then -(ofDigitValues (Numeral.values e.digits) : Int)
  else ofDigitValues (Numeral.values e.digits)

end Exponent

/-- A decimal numeral: an optional sign, digits with at most one point among them, and an optional
exponent. -/
structure DecimalNumeral where
  /-- The sign. -/
  sign : Sign := .none
  /-- The digits before the point. -/
  whole : List Nat
  /-- The digits after the point, if there is one. -/
  fraction : Option (List Nat) := none
  /-- The exponent. -/
  exponent : Option Exponent := none
  /-- There is a digit. -/
  digits_ne_nil : whole ++ fraction.getD [] ≠ []
  /-- They are ASCII digits. -/
  isDigit_of_mem : ∀ p ∈ whole ++ fraction.getD [], Numeral.isDigit p = true

namespace DecimalNumeral

variable (a : DecimalNumeral)

/-- What follows the digits. -/
def exponentPoints : List Nat :=
  a.exponent.elim [] Exponent.points

/-- What follows the digits before the point. -/
def tailPoints : List Nat :=
  a.fraction.elim [] (0x2E :: ·) ++ a.exponentPoints

/-- The numeral as it is written, without its sign. -/
def unsignedPoints : List Nat :=
  a.whole ++ a.tailPoints

/-- The numeral as it is written. -/
def points : List Nat :=
  a.sign.points ++ a.unsignedPoints

/-- The number nearest to what the numeral denotes: the digits, scaled by the exponent and by the
number of digits after the point. -/
def value : Binary64 :=
  .ofDecimal a.sign.isMinus (ofDigitValues (Numeral.values (a.whole ++ a.fraction.getD [])))
    (a.exponent.elim 0 Exponent.value - (a.fraction.getD []).length)

/-! #### The parts of a numeral -/

theorem isDigit_whole : ∀ p ∈ a.whole, Numeral.isDigit p = true :=
  fun p hp ↦ a.isDigit_of_mem p (List.mem_append_left _ hp)

theorem isDigit_fraction {ds : List Nat} (h : a.fraction = some ds) :
    ∀ p ∈ ds, Numeral.isDigit p = true :=
  fun p hp ↦ a.isDigit_of_mem p (List.mem_append_right _ (by rwa [h, Option.getD_some]))

/-- An exponent begins with its letter. -/
theorem head?_exponentPoints {p : Nat} (h : a.exponentPoints.head? = some p) :
    p ∈ [0x45, 0x65] := by
  unfold exponentPoints at h
  rcases hexponent : a.exponent with - | e
  · rw [hexponent] at h
    cases h
  · rw [hexponent] at h
    obtain rfl : (if e.capital then 0x45 else 0x65) = p := by simpa [Exponent.points] using h
    cases e.capital <;> decide

/-- What follows the digits before the point begins with the point or with the letter of the
exponent. -/
theorem head?_tailPoints {p : Nat} (h : a.tailPoints.head? = some p) : p ∈ [0x2E, 0x45, 0x65] := by
  unfold tailPoints at h
  rcases hfraction : a.fraction with - | ds
  · rw [hfraction] at h
    exact List.mem_cons_of_mem _ (a.head?_exponentPoints h)
  · rw [hfraction] at h
    obtain rfl : 0x2E = p := by simpa using h
    decide

/-- A numeral without its sign starts with a digit or with the point. -/
theorem exists_cons_unsignedPoints :
    ∃ p ps, a.unsignedPoints = p :: ps ∧ (Numeral.isDigit p = true ∨ p = 0x2E) := by
  rcases hwhole : a.whole with - | ⟨p, ps⟩
  · rcases hfraction : a.fraction with - | ds
    · exact absurd (by rw [hwhole, hfraction]; rfl) a.digits_ne_nil
    · exact ⟨0x2E, _, by rw [unsignedPoints, tailPoints, hwhole, hfraction]; rfl, .inr rfl⟩
  · exact ⟨p, _, by rw [unsignedPoints, hwhole]; rfl, .inl (a.isDigit_whole p (by simp [hwhole]))⟩

/-- The digits before the point end there. -/
theorem takeWhile_unsignedPoints {member : Nat → Bool}
    (hdigit : ∀ p, Numeral.isDigit p = true → member p = true)
    (hother : ∀ p ∈ [0x2E, 0x45, 0x65], member p = false) :
    a.unsignedPoints.takeWhile member = a.whole ∧ a.unsignedPoints.dropWhile member =
      a.tailPoints :=
  takeWhile_append_of_head (fun p hp ↦ hdigit p (a.isDigit_whole p hp))
    fun _ hp ↦ hother _ (a.head?_tailPoints hp)

/-- The digits after the point end before the exponent. -/
theorem takeWhile_fraction {member : Nat → Bool} {ds : List Nat} (hds : a.fraction = some ds)
    (hdigit : ∀ p, Numeral.isDigit p = true → member p = true)
    (hother : ∀ p ∈ [0x2E, 0x45, 0x65], member p = false) :
    (ds ++ a.exponentPoints).takeWhile member = ds ∧
      (ds ++ a.exponentPoints).dropWhile member = a.exponentPoints :=
  takeWhile_append_of_head (fun p hp ↦ hdigit p (a.isDigit_fraction hds p hp))
    fun _ hp ↦ hother _ (List.mem_cons_of_mem _ (a.head?_exponentPoints hp))

/-- Without a point, what follows the digits is no point. -/
theorem exponentPoints_ne_point (rest : List Nat) : a.exponentPoints ≠ 0x2E :: rest := by
  intro h
  have := a.head?_exponentPoints (p := 0x2E) (by rw [h]; rfl)
  simp at this

/-- A sign is found in front of what does not begin with one. -/
theorem sign_append {ps : List Nat} (s : Sign) (h : ∀ p, ps.head? = some p → p ≠ 0x2D ∧ p ≠ 0x2B) :
    Numeral.sign (s.points ++ ps) = (s.isMinus, ps) := by
  cases s with
  | none =>
    cases ps with
    | nil => rfl
    | cons p ps => exact Numeral.sign_of_ne (h p rfl).1 (h p rfl).2
  | plus => rfl
  | minus => rfl

theorem ne_sign_of_isDigit {p : Nat} (h : Numeral.isDigit p = true) : p ≠ 0x2D ∧ p ≠ 0x2B := by
  constructor <;> rintro rfl <;> cases h

/-- A numeral is its sign and what follows. -/
theorem sign_points : Numeral.sign a.points = (a.sign.isMinus, a.unsignedPoints) := by
  refine sign_append a.sign fun p hp ↦ ?_
  obtain ⟨q, qs, hqs, hq⟩ := a.exists_cons_unsignedPoints
  rw [hqs] at hp
  cases hp
  rcases hq with hdigit | rfl
  · exact ne_sign_of_isDigit hdigit
  · decide

end DecimalNumeral

namespace Exponent

variable (e : Exponent)

theorem sign_digits : Numeral.sign (e.sign.points ++ e.digits) = (e.sign.isMinus, e.digits) := by
  refine DecimalNumeral.sign_append e.sign fun p hp ↦ ?_
  exact DecimalNumeral.ne_sign_of_isDigit (e.isDigit_of_mem p (List.mem_of_mem_head? hp))

/-- An exponent has the form of one. -/
theorem isExponent_points : Money.isExponent e.points = true := by
  have hall : e.digits.all CodePoint.isDigit = true :=
    List.all_eq_true.2 fun p hp ↦ Numeral.isDigit_of_ascii (e.isDigit_of_mem p hp)
  have hne : e.digits.isEmpty = false := by simpa using e.digits_ne_nil
  simp only [points, Money.isExponent, sign_digits, hall, hne]
  cases e.capital <;> rfl

/-- An exponent is read as its value. -/
theorem exponent?_points : Numeral.exponent? e.points = some e.value := by
  have hall : e.digits.all Numeral.isDigit = true := List.all_eq_true.2 e.isDigit_of_mem
  have hne : e.digits.isEmpty = false := by simpa using e.digits_ne_nil
  have hletter : (decide ((if e.capital then 0x45 else 0x65) = 0x65) ||
      decide ((if e.capital then 0x45 else 0x65) = 0x45)) = true := by
    cases e.capital <;> rfl
  simp only [points, Numeral.exponent?, hletter, sign_digits, hall, hne, if_true]
  rfl

end Exponent

namespace DecimalNumeral

variable (a : DecimalNumeral)

/-! #### Numerals are amounts -/

/-- An exponent that is missing has the form of one as well. -/
theorem isExponent_exponentPoints : Money.isExponent a.exponentPoints = true := by
  rw [exponentPoints]
  rcases a.exponent with - | e
  · rfl
  · exact e.isExponent_points

/-- A numeral without its sign has the form of an unsigned amount. -/
theorem isUnsigned_unsignedPoints : Money.isUnsigned a.unsignedPoints = true := by
  have hdigit : ∀ p, Numeral.isDigit p = true → CodePoint.isDigit p = true :=
    fun _ ↦ Numeral.isDigit_of_ascii
  have hother : ∀ p ∈ [0x2E, 0x45, 0x65], CodePoint.isDigit p = false := by decide
  obtain ⟨htake, hdrop⟩ := a.takeWhile_unsignedPoints hdigit hother
  have hne := a.digits_ne_nil
  simp only [Money.isUnsigned, htake, hdrop, tailPoints]
  -- Without a point the digits are all in front, and what follows them is the exponent; with one,
  -- there are digits on one side at least.
  rcases hfraction : a.fraction with - | ds
  · rw [hfraction] at hne
    rw [Option.elim_none, List.nil_append]
    split
    · next rest heq => exact absurd heq (a.exponentPoints_ne_point rest)
    · simpa [a.isExponent_exponentPoints] using hne
  · rw [hfraction] at hne
    obtain ⟨htake', hdrop'⟩ := a.takeWhile_fraction hfraction hdigit hother
    simp only [Option.elim_some, List.cons_append, htake', hdrop', a.isExponent_exponentPoints]
    simpa [or_iff_not_imp_left] using hne

/-- An exponent that is missing is read as zero. -/
theorem exponent?_exponentPoints :
    Numeral.exponent? a.exponentPoints = some (a.exponent.elim 0 Exponent.value) := by
  rw [exponentPoints]
  rcases a.exponent with - | e
  · rfl
  · exact e.exponent?_points

/-- A numeral without its sign is read as its digits and their power of ten. -/
theorem decimal?_unsignedPoints : Numeral.decimal? a.unsignedPoints =
    some (ofDigitValues (Numeral.values (a.whole ++ a.fraction.getD [])),
      a.exponent.elim 0 Exponent.value - (a.fraction.getD []).length) := by
  have hother : ∀ p ∈ [0x2E, 0x45, 0x65], Numeral.isDigit p = false := by decide
  obtain ⟨htake, hdrop⟩ := a.takeWhile_unsignedPoints (fun _ ↦ id) hother
  have hne := a.digits_ne_nil
  simp only [Numeral.decimal?, htake, hdrop, tailPoints]
  rcases hfraction : a.fraction with - | ds
  · rw [hfraction] at hne
    rw [Option.elim_none, List.nil_append]
    split
    · next rest heq => exact absurd heq (a.exponentPoints_ne_point rest)
    · simpa [a.exponent?_exponentPoints] using hne
  · rw [hfraction] at hne
    obtain ⟨htake', hdrop'⟩ := a.takeWhile_fraction hfraction (fun _ ↦ id) hother
    simp only [Option.elim_some, List.cons_append, htake', hdrop', a.exponent?_exponentPoints]
    simpa using hne

/-- What a numeral starts with is not the first letter of a word. -/
theorem unsigned?_unsignedPoints (negative : Bool) : Numeral.unsigned? negative a.unsignedPoints =
    (Numeral.decimal? a.unsignedPoints).map fun (digits, exponent) ↦
      .ofDecimal negative digits exponent := by
  obtain ⟨p, ps, hps, hp⟩ := a.exists_cons_unsignedPoints
  have hle : p ≤ 0x39 := by
    rcases hp with hdigit | rfl
    · simp only [Numeral.isDigit, Bool.and_eq_true, decide_eq_true_eq] at hdigit
      exact hdigit.2
    · decide
  have hlower : Numeral.lower p = p := by
    rw [Numeral.lower, if_neg]
    simp only [Bool.and_eq_true, decide_eq_true_eq]
    omega
  have hword (w : Nat) (ws : List Nat) (hw : 0x39 < w) :
      a.unsignedPoints.map Numeral.lower ≠ w :: ws := by
    rw [hps, List.map_cons, hlower]
    intro heq
    have := (List.cons.inj heq).1
    omega
  rw [Numeral.unsigned?, if_neg, if_neg]
  · exact hword _ _ (by decide)
  · rw [Bool.or_eq_true, decide_eq_true_eq, decide_eq_true_eq]
    rintro (heq | heq)
    · exact hword _ _ (by decide) heq
    · exact hword _ _ (by decide) heq

theorem mem_sign_points {s : Sign} {p : Nat} (h : p ∈ s.points) :
    p ∈ [0x2B, 0x2D, 0x2E, 0x45, 0x65] := by
  cases s with
  | none => cases h
  | plus => exact List.mem_cons.2 (.inl (List.mem_singleton.1 h))
  | minus => exact List.mem_cons_of_mem _ (List.mem_cons.2 (.inl (List.mem_singleton.1 h)))

/-- An exponent is written in its letter, a sign and digits. -/
theorem mem_exponent_points {e : Exponent} {p : Nat} (h : p ∈ e.points) :
    Numeral.isDigit p = true ∨ p ∈ [0x2B, 0x2D, 0x2E, 0x45, 0x65] := by
  rcases List.mem_cons.1 h with rfl | h
  · right
    cases e.capital <;> decide
  · rcases List.mem_append.1 h with hsign | hdigit
    · exact .inr (mem_sign_points hsign)
    · exact .inl (e.isDigit_of_mem p hdigit)

/-- A numeral is written in ASCII digits, signs, the point and the letter of its exponent. -/
theorem isDigit_or_mem_of_mem {p : Nat} (h : p ∈ a.points) :
    Numeral.isDigit p = true ∨ p ∈ [0x2B, 0x2D, 0x2E, 0x45, 0x65] := by
  simp only [points, unsignedPoints, tailPoints, List.mem_append] at h
  rcases h with hsign | hwhole | hfraction | hexponent
  · exact .inr (mem_sign_points hsign)
  · exact .inl (a.isDigit_whole p hwhole)
  · rcases hds : a.fraction with - | ds
    · rw [hds] at hfraction
      cases hfraction
    · rw [hds] at hfraction
      rcases List.mem_cons.1 hfraction with rfl | hp
      · exact .inr (by decide)
      · exact .inl (a.isDigit_fraction hds p hp)
  · rw [exponentPoints] at hexponent
    rcases he : a.exponent with - | e
    · rw [he] at hexponent
      cases hexponent
    · rw [he] at hexponent
      exact mem_exponent_points hexponent

/-- Everything that a numeral is written in is part of a numeral. -/
theorem isPart_of_mem : ∀ p ∈ a.points, Numeral.IsPart p :=
  fun _ hp ↦ (a.isDigit_or_mem_of_mem hp).imp_left Numeral.isDigit_of_ascii

/-- Nothing in a numeral is replaced. -/
theorem toAscii_of_mem : ∀ p ∈ a.points, Numeral.toAscii p = p := by
  intro p hp
  rcases a.isDigit_or_mem_of_mem hp with hdigit | hother
  · have hdigits : ∀ q < 0x3A, Numeral.isDigit q = true → Numeral.toAscii q = q := by decide
    refine hdigits p ?_ hdigit
    simp only [Numeral.isDigit, Bool.and_eq_true, decide_eq_true_eq] at hdigit
    omega
  · have hothers : ∀ q ∈ [0x2B, 0x2D, 0x2E, 0x45, 0x65], Numeral.toAscii q = q := by decide
    exact hothers p hother

theorem map_toAscii_points : a.points.map Numeral.toAscii = a.points :=
  (List.map_congr_left a.toAscii_of_mem).trans (List.map_id _)

/-- No line break ends a numeral. -/
theorem dropLineBreak_points : Money.dropLineBreak a.points = a.points := by
  rw [Money.dropLineBreak, if_neg]
  intro hlast
  have hblank := (a.isPart_of_mem 0x0A (List.mem_of_getLast? hlast)).not_isNumeralBlank
  exact absurd hblank (by decide)

/-- **A numeral has the form of an amount.** -/
theorem isAmountText_points : Money.isAmountText a.points = true := by
  rw [Money.isAmountText, a.dropLineBreak_points, a.sign_points]
  exact a.isUnsigned_unsignedPoints

/-- A numeral is left as it is before it is read. -/
theorem dropUnderscores_prepare :
    Numeral.dropUnderscores false (Numeral.prepare a.points) = some a.points := by
  have hprepare : Numeral.prepare a.points = a.points := by
    rw [Numeral.prepare_eq_map a.isPart_of_mem, a.map_toAscii_points]
  rw [hprepare]
  refine Numeral.dropUnderscores_eq_some (fun p hp ↦ ?_) false
  have := (a.isPart_of_mem p hp).toAscii_ne_underscore
  rwa [a.toAscii_of_mem p hp] at this

/-- **A numeral is read as the number that it denotes.** -/
theorem float?_points : Numeral.float? a.points = some a.value := by
  rw [Numeral.float?, a.dropUnderscores_prepare, Option.bind_eq_bind, Option.bind_some,
    a.sign_points]
  simp only [unsigned?_unsignedPoints, decimal?_unsignedPoints, Option.map_some]
  rfl

end DecimalNumeral

/-- An amount of money: a decimal numeral with a finite value. -/
structure Amount extends DecimalNumeral where
  /-- The value is finite. -/
  isFinite_value : toDecimalNumeral.value.isFinite = true

namespace Amount

variable (a : Amount)

/-- The text of the amount. -/
def text : Text :=
  .ofPoints a.points

/-- What the amount stands for. -/
def money : Money :=
  ⟨a.value⟩

/-- **An amount is read as what its numeral denotes.** -/
theorem parse_text : Money.parse (.text a.text) = .ok a.money := by
  unfold Money.parse
  simp only [Datum.asText?, text, Text.points_ofPoints, a.isAmountText_points, a.float?_points,
    if_true]
  exact if_pos a.isFinite_value

end Amount

/-! ### Weights -/

/-- A weight: a number with or without a fraction, that is finite. -/
structure Weight where
  /-- The number as it stands in a reply. -/
  datum : Datum
  /-- Its value. -/
  value : Binary64
  /-- The number is written with a fraction or an exponent, or it is an integer. -/
  isNumber : datum = .float value ∨ ∃ n, datum = .int n ∧ Binary64.ofInt? n = some value
  /-- The value is finite. -/
  isFinite_value : value.isFinite = true

/-- **A weight is read as its value.** -/
theorem Weight.float_datum (w : Weight) : Coerce.float w.datum = .ok w.value := by
  rcases w.isNumber with h | ⟨n, h, hn⟩
  · rw [h]
    rfl
  · rw [h, Coerce.float, hn]
    rfl

/-! ### Counts of objects -/

/-- An unsigned number as a run of ASCII digits within the digit limit. -/
structure Digits where
  /-- The digits. -/
  points : List Nat
  /-- There is a digit, and nothing else. -/
  isNumber : Id.isNumber points = true
  /-- They are within the limit. -/
  length_le : points.length ≤ integerDigitLimit

namespace Digits

variable (d : Digits)

/-- The text of the number. -/
def text : Text :=
  .ofPoints d.points

/-- The number. -/
def value : Nat :=
  ofDigitValues (Numeral.values d.points)

theorem points_ne_nil : d.points ≠ [] := by
  have := d.isNumber
  simp only [Id.isNumber, Bool.and_eq_true] at this
  simpa using this.1

theorem all_isDigit : d.points.all Numeral.isDigit = true := by
  have := d.isNumber
  simp only [Id.isNumber, Bool.and_eq_true] at this
  exact this.2

/-- The digits are a numeral without sign, point and exponent. -/
def toNumeral : DecimalNumeral where
  whole := d.points
  digits_ne_nil := by simpa using d.points_ne_nil
  isDigit_of_mem p hp := List.all_eq_true.1 d.all_isDigit p (by simpa using hp)

/-- Digits alone are a numeral without point and exponent. -/
theorem unsignedPoints_toNumeral : d.toNumeral.unsignedPoints = d.points :=
  List.append_nil _

/-- **A count is read as its number.** -/
theorem count_text : ObjectCount.count (.text d.text) = .ok (d.value : Int) := by
  have hdigits : (d.points.isEmpty || !d.points.all Numeral.isDigit ||
      decide (integerDigitLimit < d.points.length)) = false := by
    simpa [d.all_isDigit] using ⟨d.points_ne_nil, d.length_le⟩
  have hinteger : Numeral.integer? d.points = some (d.value : Int) := by
    have hprepare := d.toNumeral.dropUnderscores_prepare
    have hsign := d.toNumeral.sign_points
    have hpoints : d.toNumeral.points = d.points := d.unsignedPoints_toNumeral
    rw [hpoints] at hprepare hsign
    rw [unsignedPoints_toNumeral] at hsign
    rw [Numeral.integer?, hprepare, Option.bind_eq_bind, Option.bind_some, hsign]
    simp only [hdigits]
    rfl
  rw [ObjectCount.count, text, Text.points_ofPoints, hinteger]

end Digits

end CatalogQuery
