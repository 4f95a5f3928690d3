import CatalogQuery.Proofs.Log.Rewriting
import Mathlib.Data.List.Infix

/-!
# Texts in which masking finds nothing

Whatever form of a credential a rule looks for, the form has one of a few words in it:
`Masking.telltales`. A text in which none of them occurs is quiet (`Masking.IsQuiet`), and every
rule leaves it as it is (`MaskRule.apply_eq_self_of_isQuiet`).

Two quiet texts need not be quiet together, since a telltale may lie across the place where they
meet. It cannot if one of them meets the other with an inert character, which is in no telltale
(`Masking.IsQuiet.append`): a blank, a brace, a mark or a digit. Texts that are put together from
names with such characters between them are quiet if the names are.

## What makes telltales enough

The forms of credentials are lists of parts, and it is a finite question whether each of them has a
part that asks for letters with a telltale in them; `Masking.exists_telltale` is decided by
evaluation over the rules. That a match shows its telltale follows for any rule of which this is
true. A rule that is added has to bring a telltale with it, and then nothing else here changes.

## Letters of either case

Some parts take letters of either case and some do not. All comparisons are made in small letters,
which can only make more texts count as not quiet.
-/

namespace CatalogQuery

namespace Masking

variable {s t glue : String} {cs taken rest : List Char} {parts : List Part} {part : Part}
  {c : Char}

/-! ### Telltales -/

/-- What shows that a credential may follow, in small letters. -/
def telltales : List String :=
  ["-", "_", "api", "token", "secret", "bearer", "http"]

/-- The letters that a part asks for, in small letters. -/
def Part.letters : Part → List Char
  | .exact w => w.toList.map small
  | .word w => w.toList
  | _ => []

/-- **Every form of what is kept has a telltale.** -/
theorem exists_telltale :
    ∀ r ∈ rules, ∀ parts ∈ r.kept, ∃ part ∈ parts, ∃ w ∈ telltales, w.toList <:+: part.letters := by
  decide

/-- The characters of a word in letters of either case are its letters. -/
theorem map_small_of_takeWord : ∀ {word cs taken : List Char},
    takeWord (fun a b ↦ a == small b) word cs = some (taken, rest) → taken.map small = word
  | [], _, _, h => by
    cases h
    rfl
  | _ :: _, [], _, h => nomatch h
  | w :: word, c :: cs, _, h => by
    rw [takeWord] at h
    split at h
    · rename_i hc
      obtain ⟨⟨more, _⟩, hmore, hpair⟩ := Option.map_eq_some_iff.1 h
      cases hpair
      rw [List.map_cons, map_small_of_takeWord hmore, ← eq_of_beq hc]
    · cases h

/-- What a part takes has its letters. -/
theorem Part.letters_infix_of_take? (h : part.take? cs = some (taken, rest)) :
    part.letters <:+: taken.map small := by
  cases part with
  | exact w =>
    rw [eq_of_takeWord_exact h]
    exact List.infix_rfl
  | word w =>
    rw [map_small_of_takeWord h]
    exact List.infix_rfl
  | _ => exact List.nil_infix

/-- What parts take has the letters of each of them. -/
theorem letters_infix_of_takeAll? (hmem : part ∈ parts)
    (h : takeAll? parts cs = some (taken, rest)) : part.letters <:+: taken.map small := by
  induction parts generalizing cs taken with
  | nil => cases hmem
  | cons first parts ih =>
    obtain ⟨taken, middle, more, hfirst, hmore, rfl⟩ := takeAll?_cons_eq_some h
    rw [List.map_append]
    rcases List.mem_cons.1 hmem with rfl | hmem
    · exact (Part.letters_infix_of_take? hfirst).trans (List.prefix_append ..).isInfix
    · exact (ih hmem hmore).trans (List.suffix_append ..).isInfix

/-! ### Quiet texts -/

/-- No telltale occurs in a text, in letters of either case. -/
def IsQuiet (s : String) : Prop :=
  ∀ w ∈ telltales, ¬ w.toList <:+: s.toList.map small

instance (s : String) : Decidable (IsQuiet s) :=
  List.decidableBAll _ telltales

end Masking

namespace MaskRule

open Masking

variable {r : MaskRule} {s : String}

/-- A match shows a telltale. -/
theorem Matches.exists_telltale {before : Option Char} {cs kept hidden rest : List Char}
    (hr : r ∈ rules) (h : r.Matches before cs kept hidden rest) :
    ∃ w ∈ telltales, w.toList <:+: cs.map small := by
  obtain ⟨parts, hparts, hkept⟩ := h.kept
  -- One of the parts asks for a telltale, and the parts take the start of the text.
  obtain ⟨part, hpart, w, hw, hletters⟩ := Masking.exists_telltale r hr parts hparts
  refine ⟨w, hw, (hletters.trans (letters_infix_of_takeAll? hpart hkept)).trans ?_⟩
  rw [eq_append_of_takeAll? hkept, List.map_append]
  exact (List.prefix_append ..).isInfix

/-- **A rule leaves a quiet text as it is.** -/
theorem apply_eq_self_of_isQuiet (hr : r ∈ rules) (hs : IsQuiet s) :
    r.apply s.toList = s.toList := by
  refine apply_eq_self fun before after before' hcs ↦ ?_
  by_contra hfind
  obtain ⟨⟨kept, rest⟩, hfound⟩ := Option.ne_none_iff_exists'.1 hfind
  obtain ⟨hidden, hmatch⟩ := matches_of_find? hfound
  obtain ⟨w, hw, htelltale⟩ := hmatch.exists_telltale hr
  refine hs w hw (htelltale.trans ?_)
  rw [hcs, List.map_append]
  exact (List.suffix_append ..).isInfix

end MaskRule

namespace Masking

variable {s t glue : String} {c : Char}

/-- A quiet text is its own masked text. -/
theorem apply_eq_self (hs : IsQuiet s) : apply s = s := by
  have hfold : ∀ rs ⊆ rules, rs.foldl (fun cs r ↦ r.apply cs) s.toList = s.toList := by
    intro rs hrs
    induction rs with
    | nil => rfl
    | cons r rs ih =>
      rw [List.foldl_cons, MaskRule.apply_eq_self_of_isQuiet (hrs List.mem_cons_self) hs]
      exact ih fun r hr ↦ hrs (List.mem_cons_of_mem _ hr)
  rw [apply, hfold rules (List.Subset.refl rules), String.ofList_toList]

/-! ### Inert characters -/

/-- A character of no telltale. -/
def isInert (c : Char) : Bool :=
  telltales.all fun w ↦ !w.toList.contains (small c)

/-- An inert character is in no telltale, in either case. -/
theorem not_mem_of_isInert (hc : isInert c = true) {w : String} (hw : w ∈ telltales) :
    small c ∉ w.toList := by
  simpa using List.all_eq_true.1 hc w hw

/-- What holds of the ten digits holds of every digit. -/
theorem of_isDigit {P : Char → Prop} (h : ∀ p ∈ List.range' 48 10, P (Char.ofNat p))
    (hc : c.isDigit = true) : P c := by
  simp only [Char.isDigit, Bool.and_eq_true, decide_eq_true_eq, ge_iff_le,
    UInt32.le_iff_toNat_le] at hc
  change 48 ≤ c.toNat ∧ c.toNat ≤ 57 at hc
  have hdigit := h c.toNat (List.mem_range'_1.2 ⟨hc.1, by omega⟩)
  rwa [Char.ofNat_toNat] at hdigit

/-- Digits are inert. -/
theorem isInert_of_isDigit (hc : c.isDigit = true) : isInert c = true :=
  of_isDigit (P := fun c ↦ isInert c = true) (by decide) hc

/-- A text of inert characters is quiet. -/
theorem isQuiet_of_forall_isInert (h : ∀ c ∈ s.toList, isInert c = true) : IsQuiet s := by
  intro w hw hoccurs
  have hne : w.toList ≠ [] := (by decide : ∀ w ∈ telltales, w.toList ≠ []) w hw
  obtain ⟨d, ds, hd⟩ := List.exists_cons_of_ne_nil hne
  have hmem : d ∈ w.toList := by simp [hd]
  obtain ⟨c, hc, rfl⟩ := List.mem_map.1 (hoccurs.subset hmem)
  exact not_mem_of_isInert (h c hc) hw hmem

/-- A text does not lie across a character that it does not have. -/
theorem infix_or_infix_of_not_mem {α : Type} {a : α} {w xs ys : List α} (ha : a ∉ w)
    (h : w <:+: xs ++ a :: ys) : w <:+: xs ∨ w <:+: ys := by
  obtain ⟨before, after, heq⟩ := h
  -- The word ends before the character, or it begins behind it; otherwise the character is one of
  -- its own.
  rw [List.append_assoc, List.append_eq_append_iff] at heq
  obtain ⟨middle, rfl, heq⟩ | ⟨middle, rfl, heq⟩ := heq
  · rw [List.append_eq_append_iff] at heq
    obtain ⟨more, rfl, -⟩ | ⟨more, rfl, heq⟩ := heq
    · exact .inl ⟨before, more, by rw [List.append_assoc]⟩
    · cases more with
      | nil => exact .inl ⟨before, [], by simp⟩
      | cons b more =>
        obtain ⟨rfl, -⟩ := List.cons.inj heq
        exact absurd (by simp) ha
  · cases middle with
    | nil =>
      cases w with
      | nil => exact .inl List.nil_infix
      | cons b w =>
        obtain ⟨rfl, -⟩ := List.cons.inj heq
        exact absurd List.mem_cons_self ha
    | cons b middle =>
      obtain ⟨rfl, rfl⟩ := List.cons.inj heq
      exact .inr ⟨middle, after, List.append_assoc ..⟩

/-- A text begins with an inert character. -/
def BeginsInert (s : String) : Prop :=
  s.toList.head?.any isInert = true

/-- A text ends with an inert character. -/
def EndsInert (s : String) : Prop :=
  s.toList.getLast?.any isInert = true

instance (s : String) : Decidable (BeginsInert s) :=
  inferInstanceAs (Decidable (_ = _))

instance (s : String) : Decidable (EndsInert s) :=
  inferInstanceAs (Decidable (_ = _))

/-- **Quiet texts are quiet together where an inert character stands between them.** -/
theorem IsQuiet.append (hs : IsQuiet s) (ht : IsQuiet t) (h : EndsInert s ∨ BeginsInert t) :
    IsQuiet (s ++ t) := by
  intro w hw hoccurs
  rw [String.toList_append, List.map_append] at hoccurs
  rcases h with hend | hbegin
  · obtain ⟨c, hlast, hc⟩ := (Option.any_eq_true _ _).1 hend
    obtain ⟨cs, hcs⟩ := List.getLast?_eq_some_iff.1 hlast
    rw [hcs, List.map_append, List.append_assoc] at hoccurs
    rcases infix_or_infix_of_not_mem (not_mem_of_isInert hc hw) hoccurs with hleft | hright
    · refine hs w hw (hleft.trans ?_)
      rw [hcs, List.map_append]
      exact (List.prefix_append ..).isInfix
    · exact ht w hw hright
  · obtain ⟨c, hhead, hc⟩ := (Option.any_eq_true _ _).1 hbegin
    obtain ⟨cs, hcs⟩ := List.head?_eq_some_iff.1 hhead
    rw [hcs, List.map_cons] at hoccurs
    rcases infix_or_infix_of_not_mem (not_mem_of_isInert hc hw) hoccurs with hleft | hright
    · exact hs w hw hleft
    · refine ht w hw (hright.trans ?_)
      rw [hcs, List.map_cons]
      exact (List.suffix_cons ..).isInfix

/-- A quiet text that begins and ends with inert characters: it stands between any two quiet
texts. -/
structure IsGlue (glue : String) : Prop where
  /-- No telltale occurs in it. -/
  quiet : IsQuiet glue
  /-- It begins with an inert character. -/
  begins : BeginsInert glue
  /-- It ends with an inert character. -/
  ends : EndsInert glue

instance (glue : String) : Decidable (IsGlue glue) :=
  decidable_of_iff (IsQuiet glue ∧ BeginsInert glue ∧ EndsInert glue)
    ⟨fun ⟨hquiet, hbegins, hends⟩ ↦ ⟨hquiet, hbegins, hends⟩, fun h ↦ ⟨h.quiet, h.begins, h.ends⟩⟩

theorem endsInert_append (s : String) (ht : EndsInert t) : EndsInert (s ++ t) := by
  obtain ⟨c, hlast, hc⟩ := (Option.any_eq_true _ _).1 ht
  rw [EndsInert, String.toList_append, List.getLast?_append, hlast]
  exact hc

theorem beginsInert_append (hs : BeginsInert s) (t : String) : BeginsInert (s ++ t) := by
  obtain ⟨c, hhead, hc⟩ := (Option.any_eq_true _ _).1 hs
  rw [BeginsInert, String.toList_append, List.head?_append, hhead]
  exact hc

theorem IsGlue.append_right (hglue : IsGlue glue) (hs : IsQuiet s) : IsQuiet (glue ++ s) :=
  hglue.quiet.append hs (.inl hglue.ends)

theorem IsGlue.append_left (hglue : IsGlue glue) (hs : IsQuiet s) : IsQuiet (s ++ glue) :=
  hs.append hglue.quiet (.inr hglue.begins)

theorem IsQuiet.between (hs : IsQuiet s) (hglue : IsGlue glue) (ht : IsQuiet t) :
    IsQuiet (s ++ glue ++ t) :=
  (hglue.append_left hs).append ht (.inl (endsInert_append s hglue.ends))

/-- Quiet texts are quiet in a row, with glue between them. -/
theorem IsQuiet.joinWith {parts : List String} (hglue : IsGlue glue) (h : ∀ p ∈ parts, IsQuiet p) :
    IsQuiet (joinWith glue parts) := by
  induction parts with
  | nil => exact (by decide : IsQuiet "")
  | cons part parts ih =>
    have hpart : IsQuiet part := h part (by simp)
    have hparts := ih fun p hp ↦ h p (List.mem_cons_of_mem part hp)
    cases parts with
    | nil => exact hpart
    | cons next rest => exact hpart.between hglue hparts

end Masking

end CatalogQuery
