import CatalogQuery.Proofs.JsonWriter

/-!
# A value that is written as JSON is one line

Between quotation marks every control character is escaped (`Json.noControl_quote`), and the rest of
what is written is names, numerals and punctuation. So there is no control character in the text of
a value (`Json.noControl_text`), and no end of a line in particular: a text that holds one cannot
begin a line of its own.

## Two kinds of characters

Characters that are not quoted are chosen by the writer, and each of these is above the control
characters; that is decided by evaluation. Quoted characters come from a value. A control character
among them has an escape, since everything below the blank has one, and half of a surrogate pair is
replaced.

Values are written by recursion, and so the proof is a recursion on the value, on its items and on
its members.
-/

namespace CatalogQuery.Json

open Grammar

variable {cs : List Char}

/-! ### Characters

That there is no control character is a property of every single character, so it composes without
conditions.
-/

/-- There is no control character among the characters. -/
def NoControl (cs : List Char) : Prop :=
  ∀ c ∈ cs, 0x20 ≤ c.toNat

instance (cs : List Char) : Decidable (NoControl cs) :=
  decidable_of_iff (cs.all fun c ↦ decide (0x20 ≤ c.toNat)) (by simp [NoControl])

theorem NoControl.append {ds : List Char} (hcs : NoControl cs) (hds : NoControl ds) :
    NoControl (cs ++ ds) :=
  List.forall_mem_append.2 ⟨hcs, hds⟩

theorem NoControl.cons {c : Char} (hc : 0x20 ≤ c.toNat) (hcs : NoControl cs) :
    NoControl (c :: cs) :=
  List.forall_mem_cons.2 ⟨hc, hcs⟩

theorem noControl_of_isDigit (h : ∀ c ∈ cs, c.isDigit = true) : NoControl cs := by
  intro c hc
  obtain ⟨n, -, hn⟩ := exists_toNat_of_isDigit (h c hc)
  omega

/-! ### Texts and numbers

What is between quotation marks depends on the value, and every code point has to be looked at.
Numbers are laid out from their digits with a few characters that are fixed.
-/

/-- However a character is written between quotation marks, it is no control character. -/
theorem noControl_escapePlain (p : Nat) : NoControl (escapePlain p) := by
  unfold escapePlain
  split
  · next e he =>
    unfold shortEscape? at he
    split at he <;> cases he <;> decide
  · split
    · have hdigit (n : Nat) : 0x20 ≤ (Nat.digitChar (n % 16)).toNat :=
        (show ∀ d < 16, 0x20 ≤ (Nat.digitChar d).toNat by decide) _ (Nat.mod_lt n (by decide))
      rw [unitEscape, hexDigits_four]
      exact .cons (by decide)
        (.cons (by decide) (.cons (hdigit _) (.cons (hdigit _) (.cons (hdigit _)
          (.cons (hdigit _) (List.forall_mem_nil _))))))
    · intro c hc
      rw [List.mem_singleton.1 hc]
      by_cases hp : Text.isScalar p = true
      · rw [Text.toNat_shown hp]
        omega
      · rw [Text.shown, if_neg hp]
        decide

/-- **No control character stands in a text that is quoted.** -/
theorem noControl_quote (t : Text) : NoControl (quote t).toList := by
  rw [toList_quote]
  refine .cons (by decide) (.append (fun c hc ↦ ?_) (by decide))
  obtain ⟨p, -, hc⟩ := List.mem_flatMap.1 hc
  exact noControl_escapePlain p c hc

theorem noControl_exponentText (n : Int) : NoControl (Binary64.exponentText n) := by
  obtain ⟨ds, htext, -, hds, -⟩ := exponentText_digits n
  rw [htext]
  exact .cons (by split <;> decide) (noControl_of_isDigit hds)

theorem noControl_replicate (n : Nat) : NoControl (List.replicate n '0') :=
  noControl_of_isDigit fun _ ↦ isDigit_of_mem_replicate

/-- A layout puts zeros, a point and an exponent to the digits, none of which is a control
character. -/
theorem noControl_layout (h : NoControl cs) (place : Int) :
    NoControl (Binary64.layout cs place) := by
  unfold Binary64.layout
  split
  · split
    · exact .cons (by decide) (.cons (by decide) h)
    · split
      · exact (h.append (noControl_replicate _)).append (by decide)
      · exact .append (fun c hc ↦ h c (List.mem_of_mem_take hc))
          (.cons (by decide) fun c hc ↦ h c (List.mem_of_mem_drop hc))
    · exact .cons (by decide) (.cons (by decide) ((noControl_replicate _).append h))
  · split
    · exact List.forall_mem_nil _
    · exact h.append (.cons (by decide) (noControl_exponentText _))
    · next c cs _ =>
      obtain ⟨hc, hcs⟩ := List.forall_mem_cons.1 h
      exact .cons hc (.append (.cons (by decide) hcs)
        (.cons (by decide) (noControl_exponentText _)))

/-- No control character stands in the text of a magnitude. -/
theorem noControl_magnitudeText (m e : Nat) : NoControl (Binary64.magnitudeText m e) := by
  unfold Binary64.magnitudeText
  split
  · decide
  · refine noControl_layout (noControl_of_isDigit fun c hc ↦ ?_) _
    have hmem : c ∈ Nat.toDigits 10 (Binary64.shortestDigits m e).digits :=
      List.mem_reverse.1 ((List.dropWhile_sublist _).subset (List.mem_reverse.1 hc))
    exact isDigit_of_mem_toDigits hmem

theorem noControl_signText (negative : Bool) : NoControl (signText negative) := by
  cases negative <;> decide

/-- No control character stands in the text of a number, finite or not. -/
theorem noControl_numberText (x : Binary64) : NoControl (numberText x).toList := by
  cases x with
  | nan => decide
  | inf negative => cases negative <;> decide
  | finite negative m e =>
    rw [numberText, Binary64.display, String.toList_ofList]
    · exact (noControl_signText negative).append (noControl_magnitudeText m e)
    all_goals simp

theorem noControl_integerText (n : Int) : NoControl (integerText n).toList := by
  obtain ⟨c, ds, hds, -, htext⟩ := exists_integerText n
  rw [htext, ← hds]
  exact (noControl_signText _).append (noControl_of_isDigit fun _ ↦ isDigit_of_mem_toDigits)

/-! ### Values

The writer of values only joins what it is given with commas, colons and brackets.
-/

/-- Texts without control characters have none when they are put in a row. -/
theorem noControl_joinWith {parts : List String} (h : ∀ part ∈ parts, NoControl part.toList) :
    NoControl (joinWith ", " parts).toList := by
  induction parts with
  | nil => decide
  | cons part parts ih =>
    rw [List.forall_mem_cons] at h
    cases parts with
    | nil => exact h.1
    | cons next parts =>
      rw [joinWith_cons]
      exact h.1.append (.cons (by decide) (.cons (by decide) (ih h.2)))

theorem noControl_keyText (k : Datum) : NoControl ((keyText? k).getD "").toList := by
  rw [keyText?_eq]
  cases keyName? k with
  | none => decide
  | some t => exact noControl_quote t

mutual

/-- **No control character stands in the text of a value.** -/
theorem noControl_text : ∀ d : Datum, NoControl (text d).toList
  | .null => by decide
  | .bool b => by cases b <;> decide
  | .int n => by
    rw [text]
    exact noControl_integerText n
  | .float x => by
    rw [text]
    exact noControl_numberText x
  | .text _ | .word _ | .octets _ | .id _ | .money _ | .foreign _ _ => by
    rw [text]
    · exact noControl_quote _
    all_goals simp
  | .list xs | .tuple xs => by
    rw [text, String.toList_append, String.toList_append]
    exact .append (.append (by decide) (noControl_joinWith (noControl_itemTexts xs))) (by decide)
  | .dict es => by
    rw [text, String.toList_append, String.toList_append]
    exact .append (.append (by decide) (noControl_joinWith (noControl_memberTexts es))) (by decide)

/-- No control character stands in the text of an item. -/
theorem noControl_itemTexts : ∀ xs : List Datum, ∀ part ∈ itemTexts xs, NoControl part.toList
  | [] => by
    rw [itemTexts]
    exact List.forall_mem_nil _
  | x :: xs => by
    rw [itemTexts, List.forall_mem_cons]
    exact ⟨noControl_text x, noControl_itemTexts xs⟩

/-- No control character stands in the text of a member. -/
theorem noControl_memberTexts : ∀ es : List (Datum × Datum),
    ∀ part ∈ memberTexts es, NoControl part.toList
  | [] => by
    rw [memberTexts]
    exact List.forall_mem_nil _
  | (k, v) :: es => by
    rw [memberTexts, List.forall_mem_cons, String.toList_append, String.toList_append]
    refine ⟨((noControl_keyText k).append (by decide)).append (noControl_text v), ?_⟩
    exact noControl_memberTexts es

end

end CatalogQuery.Json
