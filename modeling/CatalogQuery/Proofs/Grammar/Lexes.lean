import CatalogQuery.Proofs.Grammar.Numeral
import CatalogQuery.Proofs.Grammar.Quoted

/-!
# Texts that are read as given tokens

`Lexes s ts` says that `s` is read as the tokens `ts` wherever it stands, as long as what follows
does not run on into its last token (`stops`). Documents are put together from such texts with
**glue** between them: separators and punctuators, which run on into nothing. So three lemmas are
enough for every document, one for glue before a text (`Lexes.glue_append`), one for glue after it
(`Lexes.append_glue`) and one for glue between two (`Lexes.join`).

The texts that glue holds together are names, string literals, integers and numbers, one lemma each.

## What is asked of the rest

`Lexes` quantifies over everything that can follow, so it composes: a text is read as its tokens in
the middle of a document exactly as at its end. That it asks `stops` of what follows is needed for
the texts whose last token could go on, such as names and numbers. Glue needs nothing of the kind
(`tokens?_glue_append`), and gives `stops` to whatever stands before it (`stops_glue_append`).

Glue that consists of punctuators contributes tokens (`glueTokens`); separators contribute none,
which is what `Lexes.joinWith` asks of them.
-/

namespace CatalogQuery.Grammar

variable {c : Char} {cs rest : List Char} {t : Token} {s s' g : String} {ts us : List Token}

/-- The text is read as the tokens, before everything that a token can end before. -/
def Lexes (s : String) (ts : List Token) : Prop :=
  ∀ rest, stops rest = true → tokens? (s.toList ++ rest) = (tokens? rest).map (ts ++ ·)

/-! ### One step

Reading a text into tokens passes over separators and takes one token at a time. The lemmas of this
section are its equations.
-/

theorem tokens?_of_isIgnored (h : isIgnored c = true) (cs : List Char) :
    tokens? (c :: cs) = tokens? cs := by
  rw [tokens?, if_pos h]

/-- Where a token starts, it is read, and the reading goes on behind it. -/
theorem tokens?_of_token? (hignored : isIgnored c = false) (hcomment : c ≠ '#')
    (h : token? (c :: cs) = some (t, rest)) :
    tokens? (c :: cs) = (tokens? rest).map (t :: ·) := by
  rw [tokens?, if_neg (by simp [hignored]), if_neg hcomment]
  split
  · next hnone => exact absurd (hnone.symm.trans h) (by simp)
  · next hsome =>
    cases hsome.symm.trans h
    rfl

/-- A text that starts with the start of a token is read if its first token is. -/
theorem lexes_of_token? (hs : s.toList = c :: cs) (hignored : isIgnored c = false)
    (hcomment : c ≠ '#')
    (h : ∀ rest, stops rest = true → token? (c :: cs ++ rest) = some (t, rest)) : Lexes s [t] := by
  intro rest hrest
  rw [hs]
  exact tokens?_of_token? hignored hcomment (h rest hrest)

/-- The whole of a text is read. -/
theorem Lexes.tokens?_eq (h : Lexes s ts) : tokens? s.toList = some ts := by
  have := h [] rfl
  rw [List.append_nil, tokens?] at this
  simpa using this

/-! ### Glue

Separators and punctuators are told apart from all other characters by two short lists, so facts
about them are decided by going through the lists.
-/

/-- A character that runs on into nothing. -/
def isGlueChar (c : Char) : Bool :=
  isIgnored c || isPunctuator c

/-- A text of separators and punctuators. -/
def isGlue (s : String) : Bool :=
  s.toList.all isGlueChar

/-- The tokens of a text of separators and punctuators. -/
def glueTokens (s : String) : List Token :=
  (s.toList.filter isPunctuator).map .punctuator

theorem isIgnored_cases (h : isIgnored c = true) :
    c ∈ [' ', '\t', '\n', '\r', ',', '\uFEFF'] := by
  simpa [isIgnored, isSpace, isLineEnd, or_assoc] using h

theorem isPunctuator_iff : isPunctuator c = true ↔
    c ∈ ['!', '$', '&', '(', ')', ':', '=', '@', '[', ']', '\x7b', '|', '\x7d'] :=
  List.contains_iff_mem

/-- A property of each member of a list is decided by going through the list, not through all
characters. -/
theorem forall_mem_of_all {p : Char → Prop} [DecidablePred p] {cs : List Char}
    (h : (cs.all fun c ↦ decide (p c)) = true) : ∀ c ∈ cs, p c := by
  simpa using h

/-- A token can end before a separator or a punctuator. -/
theorem stops_of_isGlueChar (h : isGlueChar c = true) (cs : List Char) :
    stops (c :: cs) = true := by
  have hall : ∀ d ∈ [' ', '\t', '\n', '\r', ',', '\uFEFF', '!', '$', '&', '(', ')', ':', '=', '@',
      '[', ']', '\x7b', '|', '\x7d'], stops [d] = true := List.all_eq_true.1 (by decide)
  refine hall c ?_
  simp only [isGlueChar, Bool.or_eq_true] at h
  rcases h with h | h
  · exact List.mem_append_left _ (isIgnored_cases h)
  · exact List.mem_append_right [' ', '\t', '\n', '\r', ',', '\uFEFF'] (isPunctuator_iff.1 h)

theorem isIgnored_eq_false_of_isPunctuator (h : isPunctuator c = true) : isIgnored c = false := by
  have hall : ∀ d ∈ ['!', '$', '&', '(', ')', ':', '=', '@', '[', ']', '\x7b', '|', '\x7d'],
      isIgnored d = false := forall_mem_of_all (by decide)
  exact hall c (isPunctuator_iff.1 h)

/-- A punctuator is a token of its own. -/
theorem token?_of_isPunctuator (h : isPunctuator c = true) (cs : List Char) :
    token? (c :: cs) = some (.punctuator c, cs) := by
  have hall : ∀ d ∈ ['!', '$', '&', '(', ')', ':', '=', '@', '[', ']', '\x7b', '|', '\x7d'],
      d ≠ '"' ∧ d ≠ '.' ∧ d ≠ '-' := forall_mem_of_all (by decide)
  obtain ⟨hmark, hpoint, hminus⟩ := hall c (isPunctuator_iff.1 h)
  rw [token?]
  · rw [if_pos h]
  all_goals simp_all

theorem tokens?_of_isPunctuator (h : isPunctuator c = true) (cs : List Char) :
    tokens? (c :: cs) = (tokens? cs).map (.punctuator c :: ·) := by
  refine tokens?_of_token? (isIgnored_eq_false_of_isPunctuator h) ?_ (token?_of_isPunctuator h cs)
  rintro rfl
  cases h

/-- Glue is read as its punctuators, whatever follows. -/
theorem tokens?_glue_append (h : isGlue g = true) (rest : List Char) :
    tokens? (g.toList ++ rest) = (tokens? rest).map (glueTokens g ++ ·) := by
  simp only [isGlue, glueTokens] at h ⊢
  generalize g.toList = cs at h
  induction cs with
  | nil => simp
  | cons c cs ih =>
    rw [List.all_cons, Bool.and_eq_true] at h
    by_cases hpunct : isPunctuator c = true
    · rw [List.cons_append, tokens?_of_isPunctuator hpunct, ih h.2, List.filter_cons_of_pos hpunct]
      simp [Function.comp_def]
    · have hignored : isIgnored c = true := by simpa [isGlueChar, hpunct] using h.1
      rw [List.cons_append, tokens?_of_isIgnored hignored, ih h.2, List.filter_cons_of_neg hpunct]

/-- Glue before a text that tokens can end before is such a text, even if the glue is empty. -/
theorem stops_glue_append (h : isGlue g = true) (hrest : stops rest = true) :
    stops (g.toList ++ rest) = true := by
  rw [isGlue] at h
  cases hg : g.toList with
  | nil => exact hrest
  | cons c cs =>
    rw [hg, List.all_cons, Bool.and_eq_true] at h
    exact stops_of_isGlueChar h.1 _

/-- Glue that is not empty is such a text before anything at all. -/
theorem stops_glue_append_of_ne (h : isGlue g = true) (hne : g ≠ "") (rest : List Char) :
    stops (g.toList ++ rest) = true := by
  rw [isGlue] at h
  cases hg : g.toList with
  | nil => exact absurd (String.toList_eq_nil_iff.1 hg) hne
  | cons c cs =>
    rw [hg, List.all_cons, Bool.and_eq_true] at h
    exact stops_of_isGlueChar h.1 _

namespace Lexes

theorem empty : Lexes "" [] := by
  intro rest _
  simp

/-- Glue before a text. -/
theorem glue_append (hg : isGlue g = true) (h : Lexes s ts) :
    Lexes (g ++ s) (glueTokens g ++ ts) := by
  intro rest hrest
  rw [String.toList_append, List.append_assoc, tokens?_glue_append hg, h rest hrest]
  simp [Function.comp_def]

/-- Glue after a text. -/
theorem append_glue (h : Lexes s ts) (hg : isGlue g = true) :
    Lexes (s ++ g) (ts ++ glueTokens g) := by
  intro rest hrest
  rw [String.toList_append, List.append_assoc, h _ (stops_glue_append hg hrest),
    tokens?_glue_append hg]
  simp [Function.comp_def]

/-- Glue between two texts. -/
theorem join (h : Lexes s ts) (hg : isGlue g = true) (hne : g ≠ "") (h' : Lexes s' us) :
    Lexes (s ++ g ++ s') (ts ++ glueTokens g ++ us) := by
  intro rest hrest
  rw [String.toList_append, String.toList_append, List.append_assoc, List.append_assoc,
    h _ (stops_glue_append_of_ne hg hne _), tokens?_glue_append hg, h' rest hrest]
  simp [Function.comp_def]

/-- Texts with a separator between neighbours are read one after the other. -/
theorem joinWith (hg : isGlue g = true) (hne : g ≠ "") (hsep : glueTokens g = [])
    {parts : List String} {tss : List (List Token)} (h : List.Forall₂ Lexes parts tss) :
    Lexes (joinWith g parts) tss.flatten := by
  -- By induction on the pairs of a part and its tokens; `joinWith` has a case of its own for one
  -- part.
  induction h with
  | nil => exact empty
  | @cons part ts parts tss hpart hparts ih =>
    cases hparts with
    | nil => simpa [CatalogQuery.joinWith] using hpart
    | cons hnext hrest => simpa [CatalogQuery.joinWith, hsep] using hpart.join hg hne ih

/-! ### Names -/

end Lexes

/-- A name. -/
def isName (s : String) : Bool :=
  match s.toList with
  | [] => false
  | c :: cs => isNameStart c && cs.all isNameContinue

theorem isNameContinue_eq_false_of_stops (h : stops (c :: cs) = true) :
    isNameContinue c = false := by
  simp only [stops, Bool.and_eq_true, Bool.not_eq_true'] at h
  exact h.1.1

/-- A name is taken whole, and nothing behind it. -/
theorem takeWhile_isNameContinue_append (hcs : cs.all isNameContinue = true)
    (hrest : stops rest = true) :
    (cs ++ rest).takeWhile isNameContinue = cs ∧ (cs ++ rest).dropWhile isNameContinue = rest := by
  have hmem : ∀ d ∈ cs, isNameContinue d = true := List.all_eq_true.1 hcs
  rw [List.takeWhile_append_of_pos hmem, List.dropWhile_append_of_pos hmem]
  cases rest with
  | nil => simp
  | cons d ds => simp [isNameContinue_eq_false_of_stops hrest]

/-- A character that starts a name starts nothing else. -/
theorem isNameStart_cases (h : isNameStart c = true) :
    isIgnored c = false ∧ isPunctuator c = false ∧ c ≠ '#' ∧ c ≠ '"' ∧ c ≠ '.' ∧ c ≠ '-' := by
  have hcontinue := isNameContinue_of_isNameStart h
  -- It cannot be glue, since names do not end before it, but everything ends before glue.
  have hglue : isGlueChar c = false := by
    by_contra hglue
    have := isNameContinue_eq_false_of_stops
      (stops_of_isGlueChar (by simpa using hglue) [])
    simp [hcontinue] at this
  rw [isGlueChar, Bool.or_eq_false_iff] at hglue
  refine ⟨hglue.1, hglue.2, ?_, ?_, ?_, ?_⟩ <;> rintro rfl <;> cases h

/-- **A name is read as the name.** -/
theorem lexes_name (h : isName s = true) : Lexes s [.name s] := by
  unfold isName at h
  split at h
  · cases h
  · next c cs hs =>
    rw [Bool.and_eq_true] at h
    obtain ⟨hignored, hpunct, hcomment, hmark, hpoint, hminus⟩ := isNameStart_cases h.1
    refine lexes_of_token? hs hignored hcomment fun rest hrest ↦ ?_
    obtain ⟨htake, hdrop⟩ := takeWhile_isNameContinue_append h.2 hrest
    rw [List.cons_append, token?]
    · rw [if_neg (by simp [hpunct]), if_pos h.1, htake, hdrop, ← hs, String.ofList_toList]
    all_goals simp_all

/-! ### Integers and numbers

A number that starts with a sign and one that starts with a digit are read by one and the same
function, and `lexes_of_number?` is about both.
-/

/-- A digit starts a number and nothing else. -/
theorem isDigit_cases (h : c.isDigit = true) :
    isIgnored c = false ∧ isPunctuator c = false ∧ isNameStart c = false ∧
      c ≠ '#' ∧ c ≠ '"' ∧ c ≠ '.' ∧ c ≠ '-' := by
  have hcontinue := isNameContinue_of_isDigit h
  have hglue : isGlueChar c = false := by
    by_contra hglue
    have := isNameContinue_eq_false_of_stops
      (stops_of_isGlueChar (by simpa using hglue) [])
    simp [hcontinue] at this
  rw [isGlueChar, Bool.or_eq_false_iff] at hglue
  -- Digits, letters and the low line lie in ranges that do not meet.
  have hstart : isNameStart c = false := by
    simp only [Char.isDigit, Bool.and_eq_true, decide_eq_true_eq, ge_iff_le,
      UInt32.le_iff_toNat_le] at h
    by_contra hstart
    rw [Bool.not_eq_false] at hstart
    change (decide (c.val ≥ 'A'.val ∧ c.val ≤ 'Z'.val) ||
      (decide (c.val ≥ 'a'.val) && decide (c.val ≤ 'z'.val)) || c == '_') = true at hstart
    simp only [Bool.or_eq_true, Bool.and_eq_true, decide_eq_true_eq, beq_iff_eq, ge_iff_le,
      UInt32.le_iff_toNat_le] at hstart
    change 48 ≤ c.toNat ∧ c.toNat ≤ 57 at h
    change ((65 ≤ c.toNat ∧ c.toNat ≤ 90) ∨ 97 ≤ c.toNat ∧ c.toNat ≤ 122) ∨ c = '_' at hstart
    rcases hstart with (hupper | hlower) | rfl
    · omega
    · omega
    · exact absurd h (by decide)
  refine ⟨hglue.1, hglue.2, hstart, ?_, ?_, ?_, ?_⟩ <;> rintro rfl <;> cases h

theorem token?_of_isDigit (h : c.isDigit = true) (cs : List Char) :
    token? (c :: cs) = number? false (c :: cs) := by
  obtain ⟨-, hpunct, hstart, -, hmark, hpoint, hminus⟩ := isDigit_cases h
  rw [token?]
  · rw [if_neg (by simp [hpunct]), if_neg (by simp [hstart])]
  all_goals simp_all

/-- A text that starts with a digit, or with a sign before one, is read if its number is. -/
theorem lexes_of_number? (negative : Bool) {ds : List Char}
    (hs : s.toList = (if negative then ['-'] else []) ++ c :: ds) (hdigit : c.isDigit = true)
    (h : ∀ rest, stops rest = true → number? negative (c :: ds ++ rest) = some (t, rest)) :
    Lexes s [t] := by
  cases negative with
  | true => exact lexes_of_token? hs (by decide) (by decide) h
  | false =>
    obtain ⟨hignored, -, -, hcomment, -⟩ := isDigit_cases hdigit
    refine lexes_of_token? hs hignored hcomment fun rest hrest ↦ ?_
    rw [List.cons_append, token?_of_isDigit hdigit]
    exact h rest hrest

/-- The digits of a natural number begin with a digit: there is at least one. -/
theorem exists_isDigit_cons_toDigits (n : Nat) :
    ∃ d ds, Nat.toDigits 10 n = d :: ds ∧ d.isDigit = true := by
  obtain ⟨d, ds, hds⟩ := List.exists_cons_of_ne_nil (Nat.toDigits_ne_nil (n := n) (b := 10))
  exact ⟨d, ds, hds, isDigit_of_mem_toDigits (hds ▸ List.mem_cons_self)⟩

/-- **The text of an integer is read as the integer.** -/
theorem lexes_integerText (n : Int) : Lexes (integerText n) [.int n] := by
  cases n with
  | ofNat m =>
    obtain ⟨d, ds, hds, hdigit⟩ := exists_isDigit_cons_toDigits m
    have htext : (integerText (.ofNat m)).toList = d :: ds := by simp [integerText, hds]
    refine lexes_of_number? false htext hdigit fun rest hrest ↦ ?_
    rw [← hds, number?_toDigits false m hrest]
    rfl
  | negSucc m =>
    obtain ⟨d, ds, hds, hdigit⟩ := exists_isDigit_cons_toDigits (m + 1)
    have htext : (integerText (.negSucc m)).toList = '-' :: d :: ds := by simp [integerText, hds]
    refine lexes_of_number? true htext hdigit fun rest hrest ↦ ?_
    rw [← hds, number?_toDigits true (m + 1) hrest]
    rfl

theorem exists_isDigit_cons_of_number? {negative : Bool}
    (h : number? negative cs = some (t, rest)) :
    ∃ d ds, cs = d :: ds ∧ d.isDigit = true := by
  simp only [number?] at h
  split at h
  · next hwhole =>
    cases cs with
    | nil => cases hwhole
    | cons d ds =>
      refine ⟨d, ds, rfl, ?_⟩
      by_contra hdigit
      rw [List.takeWhile_cons_of_neg hdigit] at hwhole
      cases hwhole
  · cases h

/-- **The text of a finite number is read as the number.** -/
theorem lexes_display (negative : Bool) {m e : Nat} (h : IsCanonical m e) :
    Lexes (Binary64.display (.finite negative m e h)) [.float (.finite negative m e h)] := by
  have hwhole : number? negative (Binary64.magnitudeText m e ++ []) = _ :=
    number?_magnitudeText h rfl
  rw [List.append_nil] at hwhole
  obtain ⟨d, ds, hds, hdigit⟩ := exists_isDigit_cons_of_number? hwhole
  have htext : (Binary64.display (.finite negative m e h)).toList =
      (if negative then ['-'] else []) ++ d :: ds := by simp [Binary64.display, hds]
  refine lexes_of_number? negative htext hdigit fun rest hrest ↦ ?_
  rw [← hds]
  exact number?_magnitudeText h hrest

/-! ### String literals

A quotation mark may begin a string or a block. Three marks in a row begin a block, and an empty
literal is two; what follows it must not begin with a third, which is what `stops` says of quotation
marks.
-/

/-- A quotation mark opens a string unless two more follow, which would open a block. -/
theorem token?_of_string? {cs : List Char} (h : ∀ rest, cs ≠ '"' :: '"' :: rest) :
    token? ('"' :: cs) = string? cs := by
  rw [token?]
  exact h

/-- The literal of a character does not start with the mark that ends a literal. -/
theorem exists_cons_escapeAscii (p : Nat) : ∃ c cs, Json.escapeAscii p = c :: cs ∧ c ≠ '"' := by
  unfold Json.escapeAscii
  split
  · next e he =>
    unfold Json.shortEscape? at he
    split at he <;> cases he <;> exact ⟨_, _, rfl, by decide⟩
  · next hnone =>
    split
    · next hprint =>
      refine ⟨_, _, rfl, fun hmark ↦ (shortEscape?_eq_none hnone).1 ?_⟩
      have hlt : p < 0xD800 := by
        simp only [Bool.and_eq_true, decide_eq_true_eq] at hprint
        omega
      rw [← Text.toNat_ofNat_of_lt hlt, hmark]
      rfl
    · split <;> exact ⟨_, _, rfl, by decide⟩

/-- **The literal of a text is read as the text.** -/
theorem lexes_asciiLiteral (s : String) :
    Lexes (Json.asciiLiteral (codePoints s.toList)) [.string s] := by
  have htext : (Json.asciiLiteral (codePoints s.toList)).toList =
      '"' :: ((codePoints s.toList).flatMap Json.escapeAscii ++ ['"']) := by
        simp [Json.asciiLiteral]
  refine lexes_of_token? htext (by decide) (by decide) fun rest hrest ↦ ?_
  -- The literal of the empty text is two marks; they open no block because what follows does not
  -- begin with a mark. In any other literal the first character is not one.
  have hblock : ∀ rest', (codePoints s.toList).flatMap Json.escapeAscii ++ '"' :: rest ≠
      '"' :: '"' :: rest' := by
    intro rest' heq
    cases hps : codePoints s.toList with
    | nil =>
      rw [hps, List.flatMap_nil, List.nil_append, List.cons.injEq] at heq
      rw [heq.2] at hrest
      cases hrest
    | cons p ps =>
      obtain ⟨c, cs, hp, hc⟩ := exists_cons_escapeAscii p
      rw [hps, List.flatMap_cons, hp, List.cons_append, List.cons_append, List.cons.injEq] at heq
      exact hc heq.1
  rw [List.cons_append, List.append_assoc, List.singleton_append, token?_of_string? hblock]
  exact string?_asciiLiteral s rest

end CatalogQuery.Grammar
