import CatalogQuery.Log.Masking
import Mathlib.Data.List.Basic

/-!
# What a rule makes of a text

A rule of masking walks through a text once. `MaskRule.Rewrites` is that walk without its
bookkeeping: at each place either nothing is found and a character is kept, or a match is found,
what it keeps stays, its credential becomes the mask, and the walk goes on behind the match.
Statements on masked texts are by induction on it (`MaskRule.rewrites_apply`).

A match is made of the characters that its parts took one after the other
(`Masking.eq_append_of_takeAll?`), and no character of the class of a run stands right behind it
(`Masking.head?_of_takeAll?`). A text in which a rule finds nothing anywhere is left as it is
(`MaskRule.apply_eq_self`).

## The walk and its bookkeeping

The rule walks with a count of characters that were masked and have to be passed over, so that it
recurses one character at a time. The relation `MaskRule.Rewrites` goes in larger steps, from match
to match, and has no count. That the two agree rests on matches not being empty
(`MaskRule.Progresses`): a match that was empty would be found again at the same place.

Each place is looked at with the character before it, since a rule may ask that a word begins or
ends there. Behind a match this is the last character of the match, not of the mask that replaced
it.

## What is not used here

Nothing of this depends on which rules there are, except for the last section. A rule is a list of
forms of what is kept, a form of the credential, and a mask.
-/

namespace CatalogQuery

namespace Masking

variable {cs taken rest : List Char} {parts : List Part}

/-! ### What parts take

A part takes characters from the start of a text or nothing. A run takes as many as it can, which is
the one place where taking depends on what comes after: no character of its class is left behind it
(`head?_of_takeAll?`).
-/

/-- A word takes the start of a text. -/
theorem eq_append_of_takeWord {same : Char → Char → Bool} :
    ∀ {word cs taken : List Char}, takeWord same word cs = some (taken, rest) → cs = taken ++ rest
  | [], _, _, h => by
    cases h
    rfl
  | _ :: _, [], _, h => nomatch h
  | w :: word, c :: cs, _, h => by
    rw [takeWord] at h
    split at h
    · obtain ⟨⟨more, _⟩, hmore, hpair⟩ := Option.map_eq_some_iff.1 h
      cases hpair
      rw [eq_append_of_takeWord hmore, List.cons_append]
    · cases h

/-- The characters of a word stand for themselves where case is not passed over. -/
theorem eq_of_takeWord_exact : ∀ {word cs taken : List Char},
    takeWord (· == ·) word cs = some (taken, rest) → taken = word
  | [], _, _, h => by
    cases h
    rfl
  | _ :: _, [], _, h => nomatch h
  | w :: word, c :: cs, _, h => by
    rw [takeWord] at h
    split at h
    · rename_i hc
      obtain ⟨⟨more, _⟩, hmore, hpair⟩ := Option.map_eq_some_iff.1 h
      cases hpair
      rw [eq_of_takeWord_exact hmore, eq_of_beq hc]
    · cases h

/-- A word takes itself where it stands. -/
theorem takeWord_exact_append (cs : List Char) : ∀ word : List Char,
    takeWord (· == ·) word (word ++ cs) = some (word, cs)
  | [] => rfl
  | w :: word => by
    rw [List.cons_append, takeWord, if_pos (beq_self_eq_true w), takeWord_exact_append cs word]
    rfl

/-- A part takes the start of a text. -/
theorem Part.eq_append_of_take? {part : Part} (h : part.take? cs = some (taken, rest)) :
    cs = taken ++ rest := by
  cases part with
  | exact word | word word => exact eq_append_of_takeWord h
  | optional p =>
    cases cs with
    | nil =>
      cases h
      rfl
    | cons c cs =>
      simp only [take?] at h
      split at h <;> cases h <;> rfl
  | one p =>
    cases cs with
    | nil => cases h
    | cons c cs =>
      simp only [take?] at h
      split at h
      · cases h
        rfl
      · cases h
  | run least p =>
    simp only [take?] at h
    split at h
    · cases h
    · cases h
      exact List.takeWhile_append_dropWhile.symm

/-- The first part takes the start, and the others go on behind it. -/
theorem takeAll?_cons_eq_some {part : Part} (h : takeAll? (part :: parts) cs = some (taken, rest)) :
    ∃ first middle more, part.take? cs = some (first, middle) ∧
      takeAll? parts middle = some (more, rest) ∧ taken = first ++ more := by
  rw [takeAll?, Option.bind_eq_some_iff] at h
  obtain ⟨⟨first, middle⟩, hfirst, h⟩ := h
  obtain ⟨⟨more, _⟩, hmore, hpair⟩ := Option.map_eq_some_iff.1 h
  cases hpair
  exact ⟨first, middle, more, hfirst, hmore, rfl⟩

/-- **Parts take the start of a text.** -/
theorem eq_append_of_takeAll? (h : takeAll? parts cs = some (taken, rest)) :
    cs = taken ++ rest := by
  induction parts generalizing cs taken with
  | nil =>
    cases h
    rfl
  | cons part parts ih =>
    obtain ⟨first, middle, more, hfirst, hmore, rfl⟩ := takeAll?_cons_eq_some h
    rw [Part.eq_append_of_take? hfirst, ih hmore, List.append_assoc]

/-- The last part takes the end of what all parts take. -/
theorem exists_of_takeAll?_concat {part : Part}
    (h : takeAll? (parts ++ [part]) cs = some (taken, rest)) :
    ∃ before middle last, taken = before ++ last ∧ part.take? middle = some (last, rest) := by
  induction parts generalizing cs taken with
  | nil =>
    obtain ⟨last, _, _, hlast, hnil, rfl⟩ := takeAll?_cons_eq_some h
    cases hnil
    exact ⟨[], cs, last, List.append_nil last, hlast⟩
  | cons part parts ih =>
    obtain ⟨first, _, _, -, hmore, rfl⟩ := takeAll?_cons_eq_some h
    obtain ⟨before, middle, last, rfl, hlast⟩ := ih hmore
    exact ⟨first ++ before, middle, last, (List.append_assoc ..).symm, hlast⟩

/-- No character of the class of a run stands behind what it took. -/
theorem head?_of_takeAll? {least : Nat} {p : Char → Bool}
    (h : takeAll? (parts ++ [.run least p]) cs = some (taken, rest)) :
    ∀ c ∈ rest.head?, p c = false := by
  obtain ⟨before, middle, last, -, hlast⟩ := exists_of_takeAll?_concat h
  simp only [Part.take?] at hlast
  split at hlast
  · cases hlast
  · cases hlast
    intro c hc
    have hstop := List.head?_dropWhile_not p middle
    rw [Option.mem_def.1 hc] at hstop
    exact hstop

/-- A part that takes at least one character of every text in which it is found. -/
def Part.TakesSome (part : Part) : Prop :=
  ∀ cs taken rest, part.take? cs = some (taken, rest) → taken ≠ []

/-- A run that needs at least one character takes at least one. -/
theorem Part.takesSome_run {least : Nat} (p : Char → Bool) (hleast : 0 < least) :
    (Part.run least p).TakesSome := by
  intro cs taken rest h
  simp only [take?] at h
  split at h
  · cases h
  · rename_i hlength
    cases h
    exact List.ne_nil_of_length_pos (by omega)

/-- Parts take something if one of them always does. -/
theorem ne_nil_of_takeAll? {part : Part} (hmem : part ∈ parts) (hsome : part.TakesSome)
    (h : takeAll? parts cs = some (taken, rest)) : taken ≠ [] := by
  induction parts generalizing cs taken with
  | nil => cases hmem
  | cons first parts ih =>
    obtain ⟨taken, middle, more, hfirst, hmore, rfl⟩ := takeAll?_cons_eq_some h
    rcases List.mem_cons.1 hmem with rfl | hmem
    · exact List.append_ne_nil_of_left_ne_nil (hsome _ _ _ hfirst) more
    · exact List.append_ne_nil_of_right_ne_nil taken (ih hmem hmore)

end Masking

namespace MaskRule

open Masking

variable {r : MaskRule} {before : Option Char} {c : Char} {cs out kept hidden rest : List Char}

/-! ### Matches

A match consists of what is kept and of the credential, each taken by parts, and it may stand only
where the words around it begin and end as the rule demands. Finding one and there being one are the
same, in both directions.
-/

/-- A match at the start of a text, after the character `before`: what is kept, the credential, and
what follows. -/
structure Matches (r : MaskRule) (before : Option Char) (cs kept hidden rest : List Char) :
    Prop where
  /-- The match begins where a word begins or ends, if it has to. -/
  boundary : r.atBoundary = true → isBoundary before cs = true
  /-- One of the forms takes what is kept. -/
  kept : ∃ parts ∈ r.kept, takeAll? parts cs = some (kept, hidden ++ rest)
  /-- The credential follows. -/
  hidden : takeAll? r.hidden (hidden ++ rest) = some (hidden, rest)

theorem Matches.eq_append (h : r.Matches before cs kept hidden rest) :
    cs = kept ++ hidden ++ rest := by
  obtain ⟨parts, -, hkept⟩ := h.kept
  rw [eq_append_of_takeAll? hkept, List.append_assoc]

/-- What is found at a place is a match. -/
theorem matches_of_find? (h : r.find? before cs = some (kept, rest)) :
    ∃ hidden, r.Matches before cs kept hidden rest := by
  rw [find?] at h
  split at h
  · cases h
  · rename_i hboundary
    obtain ⟨parts, hparts, h⟩ := List.exists_of_findSome?_eq_some h
    rw [Option.bind_eq_some_iff] at h
    obtain ⟨⟨kept, middle⟩, hkept, h⟩ := h
    obtain ⟨⟨hidden, _⟩, hhidden, hpair⟩ := Option.map_eq_some_iff.1 h
    cases hpair
    obtain rfl : middle = hidden ++ rest := eq_append_of_takeAll? hhidden
    refine ⟨hidden, fun hat ↦ ?_, ⟨parts, hparts, hkept⟩, hhidden⟩
    simpa [hat] using hboundary

/-- Where nothing is found there is no match. -/
theorem not_matches_of_find? (h : r.find? before cs = none) :
    ¬ r.Matches before cs kept hidden rest := by
  rintro ⟨hboundary, ⟨parts, hparts, hkept⟩, hhidden⟩
  rw [find?, if_neg] at h
  · have hnone := List.findSome?_eq_none_iff.1 h parts hparts
    simp [hkept, hhidden] at hnone
  · rw [Bool.and_eq_true, not_and, Bool.not_eq_true', Bool.not_eq_false]
    exact hboundary

/-! ### The walk through a text

The rule itself passes over a match character by character, since its recursion is on the text.
`applyFrom_append` does this at once, and with it the rule goes the way of `Rewrites`.
-/

/-- What a rule makes of a text that stands after the character `before`. -/
inductive Rewrites (r : MaskRule) : (before : Option Char) → (cs out : List Char) → Prop
  /-- Nothing is made of the empty text. -/
  | nil {before : Option Char} : Rewrites r before [] []
  /-- A character at which nothing matches is kept. -/
  | keep {before : Option Char} {c : Char} {cs out : List Char} :
      r.find? before (c :: cs) = none → Rewrites r (some c) cs out →
        Rewrites r before (c :: cs) (c :: out)
  /-- A match is replaced by what it keeps and the mask, and the rewriting goes on behind it. -/
  | mask {before : Option Char} {cs kept hidden rest out : List Char} :
      r.Matches before cs kept hidden rest →
        Rewrites r ((kept ++ hidden).getLast?.or before) rest out →
        Rewrites r before cs (kept ++ r.mask.toList ++ out)

/-- A rule whose credentials have at least one character. -/
def Progresses (r : MaskRule) : Prop :=
  ∃ part ∈ r.hidden, part.TakesSome

/-- The last character of a text, or the one before it, character by character. -/
theorem getLast?_cons_or (x : Char) (xs : List Char) (before : Option Char) :
    (x :: xs).getLast?.or before = xs.getLast?.or (some x) := by
  rw [List.getLast?_cons]
  cases xs.getLast? <;> rfl

/-- The characters of a match that was masked are passed over. -/
theorem applyFrom_append (r : MaskRule) (rest : List Char) :
    ∀ (xs : List Char) (before : Option Char),
    r.applyFrom xs.length before (xs ++ rest) = r.applyFrom 0 (xs.getLast?.or before) rest
  | [], before => rfl
  | x :: xs, before => by
    rw [getLast?_cons_or]
    exact applyFrom_append r rest xs (some x)

/-- The walk of a rule is the walk without its bookkeeping. -/
theorem rewrites_applyFrom (hr : r.Progresses) : ∀ (before : Option Char) (cs : List Char),
    r.Rewrites before cs (r.applyFrom 0 before cs)
  | before, [] => by
    rw [applyFrom]
    exact .nil
  | before, c :: cs => by
    rw [applyFrom]
    cases hfind : r.find? before (c :: cs) with
    | none => exact .keep hfind (rewrites_applyFrom hr (some c) cs)
    | some found =>
      obtain ⟨kept, rest⟩ := found
      obtain ⟨hidden, hmatch⟩ := matches_of_find? hfind
      obtain ⟨part, hpart, hsome⟩ := id hr
      -- A match is not empty: its first character is the one that the walk stands at.
      obtain ⟨x, xs, hx⟩ := List.exists_cons_of_ne_nil
        (List.append_ne_nil_of_right_ne_nil kept (ne_nil_of_takeAll? hpart hsome hmatch.hidden))
      have hcs := hmatch.eq_append
      rw [hx, List.cons_append, List.cons.injEq] at hcs
      obtain ⟨rfl, rfl⟩ := hcs
      have hskip : r.applyFrom ((xs ++ rest).length - rest.length) (some c) (xs ++ rest) =
          r.applyFrom 0 ((kept ++ hidden).getLast?.or before) rest := by
        rw [List.length_append, Nat.add_sub_cancel, applyFrom_append, hx, getLast?_cons_or]
      show r.Rewrites before _ (kept ++ r.mask.toList ++
          r.applyFrom ((xs ++ rest).length - rest.length) _ _)
      rw [hskip]
      exact .mask hmatch (rewrites_applyFrom hr _ rest)
termination_by _ cs => cs.length

/-- **What a rule makes of a text.** -/
theorem rewrites_apply (hr : r.Progresses) (cs : List Char) : r.Rewrites none cs (r.apply cs) :=
  rewrites_applyFrom hr none cs

/-- A text in which a rule finds nothing is left as it is. -/
theorem apply_eq_self
    (h : ∀ before after before', cs = before ++ after → r.find? before' after = none) :
    r.apply cs = cs := by
  have hfrom : ∀ (cs : List Char) (before : Option Char),
      (∀ xs after before', cs = xs ++ after → r.find? before' after = none) →
        r.applyFrom 0 before cs = cs := by
    intro cs
    induction cs with
    | nil =>
      intro before _
      rw [applyFrom]
    | cons c cs ih =>
      intro before hnone
      rw [applyFrom, hnone [] (c :: cs) before rfl]
      show c :: r.applyFrom 0 (some c) cs = c :: cs
      rw [ih (some c) fun xs after before' hcs ↦ hnone (c :: xs) after before' (hcs ▸ rfl)]
  exact hfrom cs none h

/-! ### The five rules

This is the one statement about the rules that there are: each of them has a part in its credential
that takes at least one character.
-/

/-- Every rule ends with a run or with a character, so that its credentials are not empty. -/
theorem progresses_of_mem (hr : r ∈ rules) : r.Progresses := by
  simp only [rules, List.mem_cons, List.not_mem_nil, or_false] at hr
  rcases hr with rfl | rfl | rfl | rfl | rfl
  · exact ⟨_, List.mem_singleton_self _, Part.takesSome_run _ (by decide)⟩
  · exact ⟨_, List.mem_singleton_self _, Part.takesSome_run _ (by decide)⟩
  · exact ⟨.run 20 fun c ↦ isSecret c || c == '_', by simp [namedRule],
      Part.takesSome_run _ (by decide)⟩
  · exact ⟨_, List.mem_singleton_self _, Part.takesSome_run _ (by decide)⟩
  · exact ⟨.run 1 fun c ↦ !(c == '@' || isBlank c), by simp [addressRule],
      Part.takesSome_run _ (by decide)⟩

end MaskRule

end CatalogQuery
