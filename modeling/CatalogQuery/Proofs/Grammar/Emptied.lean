import CatalogQuery.Proofs.Grammar.Lexes

/-!
# Documents with their strings emptied

`withoutStrings` leaves a document as it is, except that nothing stands between the marks of its
string literals. What is left is everything that a value can do to a document outside of its own
literal; the lexical grammar can be asked about it even where the text of a string is no text of
characters, since half of a surrogate pair has an escape that no string of the grammar may hold.

`Empties s s'` says that `s` becomes `s'` wherever it stands outside of strings. It passes to texts
that are put together (`Empties.append`, `Empties.joinWith`), a text without marks stays
(`empties_of_not_mem`), and the literal of **every** text becomes the literal of the empty one
(`empties_asciiLiteral`): no escape in it ends the literal early.

## What an escape has to spare

A scan that empties strings knows two characters: the mark, which ends the string, and the
backslash, which takes the character after it along. A character of a text is written in one of four
ways, namely as itself, as a short escape, as one escape with its code, or as two of them.
`emptyStrings_escapeAscii` goes through these and says that each is skipped as a whole. Nothing more
is needed about what an escape means, and this is why the result covers texts that the lexical
grammar refuses.

## What stays

Outside of strings a document consists of names, punctuation and numbers. Names have no mark by
their definition. For numbers the characters are listed (`isNumeric`), and every step of writing a
number is shown to stay inside of the list.
-/

namespace CatalogQuery.Grammar

open Binary64

/-- The characters of a document with every string emptied; `inside` if a string is open at the
start. -/
def emptyStrings : (inside : Bool) → List Char → List Char
  | _, [] => []
  | false, c :: cs => c :: emptyStrings (c == '"') cs
  | true, '"' :: cs => '"' :: emptyStrings false cs
  | true, '\\' :: _ :: cs => emptyStrings true cs
  | true, _ :: cs => emptyStrings true cs

/-- A document with every string emptied. -/
def withoutStrings (s : String) : String :=
  String.ofList (emptyStrings false s.toList)

/-- A text becomes another one wherever it stands outside of strings. -/
def Empties (s s' : String) : Prop :=
  ∀ rest, emptyStrings false (s.toList ++ rest) = s'.toList ++ emptyStrings false rest

variable {s s' t t' g : String}

namespace Empties

/-- A document that becomes another one has that one left when its strings are emptied. -/
theorem withoutStrings_eq (h : Empties s s') : withoutStrings s = s' := by
  have := h []
  rw [List.append_nil, emptyStrings, List.append_nil] at this
  rw [withoutStrings, this, String.ofList_toList]

theorem append (h : Empties s s') (h' : Empties t t') : Empties (s ++ t) (s' ++ t') := by
  intro rest
  rw [String.toList_append, List.append_assoc, h, h', String.toList_append, List.append_assoc]

/-- The texts may be put in a row, with something between them that stays. -/
theorem joinWith (hg : Empties g g) {parts parts' : List String}
    (h : List.Forall₂ Empties parts parts') : Empties (joinWith g parts) (joinWith g parts') := by
  induction h with
  | nil => exact fun _ ↦ rfl
  | @cons part part' parts parts' hpart hparts ih =>
    cases hparts with
    | nil => exact hpart
    | cons => exact (hpart.append hg).append ih

end Empties

/-- A text without marks stays as it is. -/
theorem empties_of_not_mem (h : '"' ∉ s.toList) : Empties s s := by
  intro rest
  generalize s.toList = cs at h
  induction cs with
  | nil => rfl
  | cons c cs ih =>
    rw [List.mem_cons, not_or] at h
    have hmark : (c == '"') = false := beq_eq_false_iff_ne.2 (Ne.symm h.1)
    rw [List.cons_append, emptyStrings, hmark, ih h.2, List.cons_append]

/-! ### String literals

The literal is made of escapes of single characters, and each of them is skipped without ending the
string. Whether the characters make up a text of characters is never asked.
-/

/-- A character that is neither a mark nor a backslash is skipped in a string. -/
theorem emptyStrings_plain {c : Char} (hmark : c ≠ '"') (hescape : c ≠ '\\') (cs : List Char) :
    emptyStrings true (c :: cs) = emptyStrings true cs := by
  rw [emptyStrings]
  · exact hmark
  · rintro _ _ rfl
    exact absurd rfl hescape

theorem digitChar_ne {d : Nat} (h : d < 16) : Nat.digitChar d ≠ '"' ∧ Nat.digitChar d ≠ '\\' := by
  interval_cases d <;> decide

/-- The escape of a code unit is skipped in a string. -/
theorem emptyStrings_unitEscape (n : Nat) (cs : List Char) :
    emptyStrings true (Json.unitEscape n ++ cs) = emptyStrings true cs := by
  have hdigit (k : Nat) (cs : List Char) :
      emptyStrings true (Nat.digitChar (k % 16) :: cs) = emptyStrings true cs :=
    have hne := digitChar_ne (Nat.mod_lt k (by decide))
    emptyStrings_plain hne.1 hne.2 cs
  simp only [Json.unitEscape, hexDigits_four, List.cons_append, List.nil_append, emptyStrings,
    hdigit]

/-- However a character is written in a literal, it is skipped as a whole. -/
theorem emptyStrings_escapeAscii (p : Nat) (cs : List Char) :
    emptyStrings true (Json.escapeAscii p ++ cs) = emptyStrings true cs := by
  unfold Json.escapeAscii
  split
  · next e he =>
    unfold Json.shortEscape? at he
    split at he <;> cases he <;> rfl
  · next hnone =>
    obtain ⟨hmark, hescape, -, -⟩ := shortEscape?_eq_none hnone
    split
    · next hprint =>
      -- A character that is printed as it is lies below the surrogates, so it keeps its code.
      have hlt : p < 0xD800 := by
        simp only [Bool.and_eq_true, decide_eq_true_eq] at hprint
        omega
      have hne {c : Char} (h : p ≠ c.toNat) : Char.ofNat p ≠ c := by
        rintro rfl
        exact h (Text.toNat_ofNat_of_lt hlt).symm
      exact emptyStrings_plain (hne hmark) (hne hescape) cs
    · split
      · -- Beyond the characters of one unit there are two escapes.
        exact emptyStrings_unitEscape p cs
      · rw [List.append_assoc, emptyStrings_unitEscape, emptyStrings_unitEscape]

/-- **The literal of every text is emptied as a whole**, halves of surrogate pairs included. -/
theorem empties_asciiLiteral (ps : List Nat) : Empties (Json.asciiLiteral ps) "\"\"" := by
  have hinside (rest : List Char) :
      emptyStrings true (ps.flatMap Json.escapeAscii ++ '"' :: rest) =
        '"' :: emptyStrings false rest := by
    induction ps with
    | nil => rfl
    | cons p ps ih => rw [List.flatMap_cons, List.append_assoc, emptyStrings_escapeAscii, ih]
  -- The opening mark is met outside, everything up to the closing one inside.
  intro rest
  simp only [Json.asciiLiteral, String.toList_ofList, List.cons_append, List.append_assoc,
    List.nil_append, emptyStrings]
  exact congrArg ('"' :: ·) (hinside rest)

/-! ### Names, integers and numbers

A text without a mark stays as it is. For numbers this is shown through the list of the characters
that they are written with, including those of `inf` and `nan`, which have no literal but do have a
text.
-/

/-- A name stays as it is. -/
theorem empties_name (h : isName s = true) : Empties s s := by
  unfold isName at h
  split at h
  · cases h
  · next c cs hs =>
    rw [Bool.and_eq_true, List.all_eq_true] at h
    refine empties_of_not_mem fun hmark ↦ ?_
    rw [hs, List.mem_cons] at hmark
    rcases hmark with rfl | hmark
    · exact absurd h.1 (by decide)
    · exact absurd (h.2 _ hmark) (by decide)

/-- A character that numbers are written with. -/
def isNumeric (c : Char) : Bool :=
  c.isDigit || ['-', '+', '.', 'e', 'n', 'a', 'i', 'f'].contains c

/-- A text of such characters has no mark, and stays as it is. -/
theorem empties_of_isNumeric (h : ∀ c ∈ s.toList, isNumeric c = true) : Empties s s :=
  empties_of_not_mem fun hmark ↦ absurd (h _ hmark) (by decide)

theorem isNumeric_of_mem_toDigits {n : Nat} {c : Char} (h : c ∈ Nat.toDigits 10 n) :
    isNumeric c = true := by
  rw [isNumeric, isDigit_of_mem_toDigits h, Bool.true_or]

/-- An integer stays as it is. -/
theorem empties_integerText (n : Int) : Empties (integerText n) (integerText n) := by
  refine empties_of_isNumeric fun c hc ↦ ?_
  cases n with
  | ofNat m => exact isNumeric_of_mem_toDigits (by simpa [integerText] using hc)
  | negSucc m =>
    have hsplit : c = '-' ∨ c ∈ Nat.toDigits 10 (m + 1) := by simpa [integerText] using hc
    rcases hsplit with rfl | hdigit
    · rfl
    · exact isNumeric_of_mem_toDigits hdigit

/-- Exponents are written with digits and signs. -/
theorem isNumeric_of_mem_exponentText {e : Int} {c : Char} (h : c ∈ exponentText e) :
    isNumeric c = true := by
  obtain ⟨ds, htext, -, hdigits, -⟩ := exponentText_digits e
  rw [htext, List.mem_cons] at h
  rcases h with rfl | hdigit
  · split <;> rfl
  · rw [isNumeric, hdigits c hdigit, Bool.true_or]

/-- A layout adds zeros, a point and an exponent to the digits, and nothing else. -/
theorem isNumeric_of_mem_layout {ds : List Char} (hds : ∀ c ∈ ds, isNumeric c = true) {place : Int}
    {c : Char} (h : c ∈ layout ds place) : isNumeric c = true := by
  have hzero {n : Nat} (hc : c ∈ List.replicate n '0') : isNumeric c = true := by
    rw [List.eq_of_mem_replicate hc]
    rfl
  unfold layout at h
  -- Without an exponent the point is before the digits, behind them with zeros to fill the gap, or
  -- among them.
  split at h
  · split at h
    · simp only [List.mem_cons] at h
      obtain rfl | rfl | h := h
      · rfl
      · rfl
      · exact hds c h
    · split at h
      · simp only [List.mem_append, List.mem_cons, List.not_mem_nil, or_false] at h
        obtain (h | h) | rfl | rfl := h
        · exact hds c h
        · exact hzero h
        · rfl
        · rfl
      · simp only [List.mem_append, List.mem_cons] at h
        obtain h | rfl | h := h
        · exact hds c (List.mem_of_mem_take h)
        · rfl
        · exact hds c (List.mem_of_mem_drop h)
    · simp only [List.mem_cons, List.mem_append] at h
      obtain rfl | rfl | h | h := h
      · rfl
      · rfl
      · exact hzero h
      · exact hds c h
  · split at h
    · cases h
    · simp only [List.mem_cons] at h
      obtain rfl | rfl | h := h
      · exact hds c (by simp)
      · rfl
      · exact isNumeric_of_mem_exponentText h
    · next d rest _ =>
      simp only [List.mem_append, List.mem_cons] at h
      obtain (rfl | rfl | h) | rfl | h := h
      · exact hds c (by simp)
      · rfl
      · exact hds c (List.mem_cons_of_mem d h)
      · rfl
      · exact isNumeric_of_mem_exponentText h

/-- The text of a magnitude is made of such characters. -/
theorem isNumeric_of_mem_magnitudeText {m e : Nat} {c : Char} (h : c ∈ magnitudeText m e) :
    isNumeric c = true := by
  unfold magnitudeText at h
  split at h
  · exact List.all_eq_true.1 (by decide : ['0', '.', '0'].all isNumeric = true) c h
  · refine isNumeric_of_mem_layout (fun d hd ↦ ?_) h
    have hsub :=
      (List.dropWhile_sublist (l := (Nat.toDigits 10 (shortestDigits m e).digits).reverse)
      (· == '0')).subset
    exact isNumeric_of_mem_toDigits (List.mem_reverse.1 (hsub (List.mem_reverse.1 hd)))

/-- No number has a mark in its text, finite or not. -/
theorem empties_display (x : Binary64) : Empties x.display x.display := by
  refine empties_of_isNumeric ?_
  cases x with
  | nan => exact List.all_eq_true.1 (by decide)
  | inf negative => cases negative <;> exact List.all_eq_true.1 (by decide)
  | finite negative m e =>
    intro c hc
    simp only [Binary64.display, String.toList_ofList, List.mem_append] at hc
    rcases hc with hc | hc
    · cases negative
      · cases hc
      · rw [List.mem_singleton.1 hc]
        rfl
    · exact isNumeric_of_mem_magnitudeText hc

end CatalogQuery.Grammar
