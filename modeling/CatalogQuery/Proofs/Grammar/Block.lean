import CatalogQuery.Document
import CatalogQuery.Proofs.Grammar.Lexes

/-!
# Block strings as tokens

No line ends its own block string early: unless the line ends in a quotation mark or in a backslash,
its block string is read as exactly the line, whatever follows (`lexes_blockString`).

A run of three marks is escaped from left to right, so what is left of a longer run may stand in
front of the marks of the next escape, or of those that close the block. `block?_escapeBlock` rests
on one fact about where marks can come from (`exists_mark_of_escapeBlock`): a mark at the start of
an escaped text stands at the start of the text as well, and there it starts no run of three.

## Why the last character matters

`EndsOpen` is not an artefact of the proof. A text that ends in a mark has that mark run together
with the closing three, and the reader would close the block one character early; a text that ends
in a backslash turns the closing marks into an escape. Both are excluded, and nothing else has to
be.

## Why only one line

The reader of blocks drops common indentation and blank lines at both ends, so the text of a block
is in general not the text that was written. For one line that is not blank there is nothing to drop
(`blockText_of_line`), and this is the only case in which blocks are written.
-/

namespace CatalogQuery.Grammar

variable {c : Char} {cs rest close : List Char}

/-! ### The raw text -/

theorem escapeBlock_run (cs : List Char) :
    escapeBlock ('"' :: '"' :: '"' :: cs) = '\\' :: '"' :: '"' :: '"' :: escapeBlock cs := by
  rw [escapeBlock]

theorem escapeBlock_cons (h : ∀ ds, c :: cs ≠ '"' :: '"' :: '"' :: ds) :
    escapeBlock (c :: cs) = c :: escapeBlock cs := by
  rw [escapeBlock]
  rintro ds rfl rfl
  exact h ds rfl

/-- A mark at the start of an escaped text stands at the start of the text, and starts no run of
three. -/
theorem exists_mark_of_escapeBlock (hne : cs ≠ []) (h : escapeBlock cs ++ close = '"' :: rest) :
    ∃ ds, cs = '"' :: ds ∧ escapeBlock ds ++ close = rest ∧ ∀ es, ds ≠ '"' :: '"' :: es := by
  obtain ⟨d, ds, rfl⟩ := List.exists_cons_of_ne_nil hne
  by_cases hrun : ∃ es, d :: ds = '"' :: '"' :: '"' :: es
  · obtain ⟨es, hes⟩ := hrun
    rw [hes, escapeBlock_run, List.cons_append, List.cons.injEq] at h
    exact absurd h.1 (by decide)
  · have hrun' : ∀ es, d :: ds ≠ '"' :: '"' :: '"' :: es := fun es hes ↦ hrun ⟨es, hes⟩
    rw [escapeBlock_cons hrun', List.cons_append, List.cons.injEq] at h
    obtain ⟨rfl, hrest⟩ := h
    exact ⟨ds, rfl, hrest, fun es hes ↦ hrun' es (by rw [hes])⟩

/-- A text does not end in a mark or in a backslash, which would run on into the closing marks. -/
def EndsOpen (cs : List Char) : Prop :=
  ∀ c, cs.getLast? = some c → c ≠ '"' ∧ c ≠ '\\'

theorem EndsOpen.tail (h : EndsOpen (c :: cs)) : EndsOpen cs := by
  cases cs with
  | nil => simp [EndsOpen]
  | cons d ds => exact fun e he ↦ h e (by rwa [List.getLast?_cons_cons])

/-- A mark or a backslash is not the last character. -/
theorem EndsOpen.ne_nil (h : EndsOpen (c :: cs)) (hc : c = '"' ∨ c = '\\') : cs ≠ [] := by
  rintro rfl
  exact hc.elim (h c rfl).1 (h c rfl).2

/-- An escaped text that starts with two marks starts with them before it is escaped, and no third
follows. -/
theorem exists_marks_of_escapeBlock (hcs : EndsOpen cs) (hne : cs ≠ [])
    (h : escapeBlock cs ++ close = '"' :: '"' :: rest) :
    ∃ ds, cs = '"' :: '"' :: ds ∧ escapeBlock ds ++ close = rest ∧ ds ≠ [] ∧
      ∀ es, ds ≠ '"' :: es := by
  obtain ⟨ds, rfl, hds, hrun⟩ := exists_mark_of_escapeBlock hne h
  obtain ⟨es, rfl, hes, -⟩ := exists_mark_of_escapeBlock (hcs.ne_nil (.inl rfl)) hds
  exact ⟨es, rfl, hes, hcs.tail.ne_nil (.inl rfl), fun fs hfs ↦ hrun fs (by rw [hfs])⟩

/-- A character that begins neither a run of three marks nor an escape is part of the block. -/
theorem block?_cons (hmarks : ∀ ds, c :: cs ≠ '"' :: '"' :: '"' :: ds)
    (hescape : ∀ ds, c :: cs ≠ '\\' :: '"' :: '"' :: '"' :: ds) :
    block? (c :: cs) = (block? cs).map fun (raw, rest) ↦ (c :: raw, rest) := by
  rw [block?]
  · rintro ds rfl rfl
    exact hmarks ds rfl
  · rintro ds rfl rfl
    exact hescape ds rfl

/-- **No text ends its own block early.** -/
theorem block?_escapeBlock (hcs : EndsOpen cs) (rest : List Char) :
    block? (escapeBlock cs ++ '"' :: '"' :: '"' :: rest) = some (cs, rest) := by
  -- By recursion on the escaping. In the second case two things could go wrong at the first
  -- character: it could become the first of three marks, or a backslash before three, by what
  -- follows it in the escaped text.
  fun_induction escapeBlock cs with
  | case1 cs ih =>
    rw [List.cons_append, List.cons_append, List.cons_append, List.cons_append, block?,
      ih hcs.tail.tail.tail]
    rfl
  | case2 c cs hrun ih =>
    have hrun' : ∀ ds, c :: cs ≠ '"' :: '"' :: '"' :: ds := by
      rintro ds heq
      obtain ⟨rfl, rfl⟩ := List.cons.inj heq
      exact hrun ds rfl rfl
    rw [List.cons_append, block?_cons, ih hcs.tail]
    · rfl
    · intro ds heq
      obtain ⟨rfl, hmarks⟩ := List.cons.inj heq
      obtain ⟨es, rfl, -⟩ := exists_marks_of_escapeBlock hcs.tail (hcs.ne_nil (.inl rfl)) hmarks
      exact hrun' es rfl
    · intro ds heq
      obtain ⟨rfl, hmarks⟩ := List.cons.inj heq
      obtain ⟨es, rfl, hes, hne, hthird⟩ :=
        exists_marks_of_escapeBlock hcs.tail (hcs.ne_nil (.inr rfl)) hmarks
      -- A backslash before three marks: the third cannot be escaped, so it was there, and three
      -- were escaped.
      obtain ⟨fs, hfs, -⟩ := exists_mark_of_escapeBlock hne hes
      exact hthird fs hfs
  | case3 =>
    rw [List.nil_append, block?]

/-! ### The text of one line -/

/-- A text in which no line ends is one line. -/
theorem splitLines_eq_singleton (h : ∀ c ∈ cs, isLineEnd c = false) : splitLines cs = [cs] := by
  induction cs with
  | nil => rfl
  | cons c cs ih =>
    have hc : isLineEnd c = false := h c (by simp)
    rw [splitLines]
    · rw [if_neg (by simp [hc]), ih fun d hd ↦ h d (List.mem_cons_of_mem c hd)]
    · rintro ds rfl -
      cases hc

/-- A block of one line that is not blank denotes that line. -/
theorem blockText_of_line (h : ∀ c ∈ cs, isLineEnd c = false) (hblank : isBlankLine cs = false) :
    blockText cs = String.ofList cs := by
  rw [blockText, splitLines_eq_singleton h]
  simp [trimLines, hblank, joinWith]

/-- **The block string of a line is read as the line.** -/
theorem lexes_blockString {s : String} (hlast : EndsOpen s.toList)
    (hline : ∀ c ∈ s.toList, isLineEnd c = false) (hblank : isBlankLine s.toList = false) :
    Lexes (blockString s) [.string s] := by
  have htext : (blockString s).toList =
      '"' :: '"' :: '"' :: (escapeBlock s.toList ++ ['"', '"', '"']) := by simp [blockString]
  refine lexes_of_token? htext (by decide) (by decide) fun rest _ ↦ ?_
  have hblock := block?_escapeBlock hlast rest
  simp only [List.cons_append, List.append_assoc, List.nil_append]
  rw [token?, hblock, Option.map_some]
  simp only [blockText_of_line hline hblank, String.ofList_toList]

end CatalogQuery.Grammar
