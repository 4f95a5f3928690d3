import CatalogQuery.Literal
import CatalogQuery.Proofs.Grammar.Lexes
import CatalogQuery.Proofs.Grammar.Operation

/-!
# Literals are read as their values

`Datum.value?` is the value that a datum stands for in a document, as a tree: a word is an
enumeration value, an identifier the string of its canonical form, an amount its number, a tuple a
list, a mapping with names as keys an object. A text with half of a surrogate pair, octets and
objects of other classes stand for nothing.

`Datum.literal_lexes` is the round trip: the literal of a datum that stands for a value is read as
the tokens of that value, whatever the texts in it. It goes by recursion on the datum. Besides a
value, the numbers at every depth have to have texts (`Datum.HasNumbers`): integers are within the
digit limit, other numbers are finite.

## How the recursion goes

`Datum.literal` and `Datum.value?` are recursive in the same way, over a datum, the items of a list
and the entries of a mapping, and so is the round trip. What the two rows carry along is gathered in
`ReadAs` and `ReadAsEntries`: the texts of the row are read one by one as the tokens of their
values. Brackets, separators and names are then put around them by the lemmas about glue.

That a value is read **as a tree** takes one more fact than that its tokens are found: no word in it
may be one that the grammar takes for a truth value or for nothing. The words of the vocabularies
are none of these (`Word.wire_spec`), and nothing else in a datum is written as a bare word.

## What has no value

A text that holds half of a surrogate pair has a literal, but the grammar reads no string from it;
so it stands for no value (`Text.toString?`), and the round trip does not speak of it. Octets and
objects of other classes have no literal either.
-/

namespace CatalogQuery

open Grammar

/-- The wire form of a word is a name, and none that denotes a value of another kind. -/
theorem Word.wire_spec (w : Word) : isName w.wire = true ∧ nameValue w.wire = .enum w.wire := by
  -- All words of all vocabularies, one by one.
  cases w with
  | entityType w => cases w <;> exact ⟨by decide, rfl⟩
  | entityKind w => cases w <;> exact ⟨by decide, rfl⟩
  | operationType w => cases w <;> exact ⟨by decide, rfl⟩
  | operationKind w => cases w <;> exact ⟨by decide, rfl⟩
  | rootField w => cases w <;> exact ⟨by decide, rfl⟩
  | weightUnit w => cases w <;> exact ⟨by decide, rfl⟩
  | productStatus w => cases w <;> exact ⟨by decide, rfl⟩
  | bulkStatus w => cases w <;> exact ⟨by decide, rfl⟩
  | logLevel w => cases w <;> exact ⟨by decide, rfl⟩
  | authType w =>
    cases w
    exact ⟨by decide, rfl⟩

namespace Datum

/-! ### What a datum stands for -/

mutual

/-- The value that a datum stands for in a document. -/
def value? : Datum → Option Value
  | .null => some .null
  | .bool b => some (.bool b)
  | .int n => some (.int n)
  | .float x => some (.float x)
  | .text t => t.toString?.map .string
  | .word w => some (.enum w.wire)
  | .id i => some (.string i.gid)
  | .money m => some (.float m.amount)
  | .list xs => (values? xs).map .list
  | .tuple xs => (values? xs).map .list
  | .dict es => (entryValues? es).map .object
  | .octets _ => none
  | .foreign .. => none

/-- The values that data stand for. -/
def values? : List Datum → Option (List Value)
  | [] => some []
  | x :: xs =>
    match value? x with
    | none => none
    | some v => (values? xs).map (v :: ·)

/-- The named values that entries stand for; every key is a name. -/
def entryValues? : List (Datum × Datum) → Option (List (String × Value))
  | [] => some []
  | (key, x) :: es =>
    match key with
    | .str n =>
      match value? x with
      | none => none
      | some v => if isName n then (entryValues? es).map ((n, v) :: ·) else none
    | _ => none

end

/-- A number that has a text which denotes it: a finite one. -/
def HasNumeral (x : Binary64) : Prop :=
  x.isFinite = true

mutual

/-- Every number in a datum has a text which denotes it. -/
def HasNumbers : Datum → Prop
  | .int n => integerFits n = true
  | .float x => HasNumeral x
  | .money m => HasNumeral m.amount
  | .list xs => HaveNumbers xs
  | .tuple xs => HaveNumbers xs
  | .dict es => EntriesHaveNumbers es
  | _ => True

/-- Every number in data has a text. -/
def HaveNumbers : List Datum → Prop
  | [] => True
  | x :: xs => HasNumbers x ∧ HaveNumbers xs

/-- Every number in the values of entries has a text. -/
def EntriesHaveNumbers : List (Datum × Datum) → Prop
  | [] => True
  | (_, x) :: es => HasNumbers x ∧ EntriesHaveNumbers es

end

/-! ### Leaves -/

/-- An outcome is a text that is read as a value. -/
def ReadsAs (o : Outcome String) (v : Value) : Prop :=
  ∃ l, o = .ok l ∧ Lexes l v.tokens ∧ v.IsProper

theorem lexes_textLiteral (s : String) : Lexes (textLiteral (.str s)) [.string s] :=
  lexes_asciiLiteral s

/-- The text of a finite number is read as the number. -/
theorem lexes_number {x : Binary64} (h : HasNumeral x) : Lexes x.display [.float x] := by
  cases x with
  | finite negative m e hcanonical => exact lexes_display negative hcanonical
  | nan => cases h
  | inf negative => cases h

/-! ### Lists and mappings -/

/-- Texts are read as values in a row. -/
structure ReadAs (ls : List String) (vs : List Value) : Prop where
  /-- Each text is read as the tokens of its value. -/
  lexes : List.Forall₂ Lexes ls (vs.map Value.tokens)
  /-- The values are proper. -/
  proper : AreProper vs

theorem flatten_map_tokens (vs : List Value) : (vs.map Value.tokens).flatten = itemTokens vs := by
  induction vs with
  | nil => rfl
  | cons v vs ih => rw [List.map_cons, List.flatten_cons, ih, itemTokens]

theorem lexes_list {ls : List String} {vs : List Value} (h : ReadAs ls vs) :
    Lexes ("[" ++ joinWith ", " ls ++ "]") (Value.list vs).tokens := by
  have hitems := Lexes.joinWith (g := ", ") rfl (by decide) rfl h.lexes
  rw [flatten_map_tokens] at hitems
  exact (hitems.glue_append (g := "[") rfl).append_glue (g := "]") rfl

/-- The tokens of one named value. -/
def entryToken (e : String × Value) : List Token :=
  .name e.1 :: .punctuator ':' :: e.2.tokens

theorem flatten_map_entryToken (es : List (String × Value)) :
    (es.map entryToken).flatten = entryTokens es := by
  induction es with
  | nil => rfl
  | cons e es ih =>
    rw [List.map_cons, List.flatten_cons, ih, entryTokens]
    rfl

/-- Texts are read as named values in a row. -/
structure ReadAsEntries (ls : List String) (es : List (String × Value)) : Prop where
  /-- Each text is read as its name and the tokens of its value. -/
  lexes : List.Forall₂ Lexes ls (es.map entryToken)
  /-- The values are proper. -/
  proper : EntriesAreProper es

theorem lexes_entry {n l : String} {v : Value} (hn : isName n = true) (hl : Lexes l v.tokens) :
    Lexes (n ++ ": " ++ l) (entryToken (n, v)) :=
  (lexes_name hn).join (g := ": ") rfl (by decide) hl

/-- Entries are read from their texts, with or without braces around them. -/
theorem lexes_entries {ls : List String} {es : List (String × Value)} (h : ReadAsEntries ls es) :
    Lexes (joinWith ", " ls) (entryTokens es) := by
  have hentries := Lexes.joinWith (g := ", ") rfl (by decide) rfl h.lexes
  rwa [flatten_map_entryToken] at hentries

theorem lexes_object {ls : List String} {es : List (String × Value)} (h : ReadAsEntries ls es) :
    Lexes ("\x7b " ++ joinWith ", " ls ++ " \x7d") (Value.object es).tokens :=
  ((lexes_entries h).glue_append (g := "\x7b ") rfl).append_glue (g := " \x7d") rfl

mutual

/-- **The literal of a datum is read as the value that it stands for.** -/
theorem literal_lexes : ∀ {d : Datum} {v : Value}, d.value? = some v → d.HasNumbers →
    ReadsAs d.literal v
  | .null, _, rfl, _ => ⟨_, rfl, lexes_name (by decide), trivial⟩
  | .bool true, _, rfl, _ => ⟨_, rfl, lexes_name (by decide), trivial⟩
  | .bool false, _, rfl, _ => ⟨_, rfl, lexes_name (by decide), trivial⟩
  | .int n, _, rfl, h => by
    simp only [HasNumbers] at h
    exact ⟨integerText n, by rw [literal, if_pos h], lexes_integerText n, trivial⟩
  | .float x, _, rfl, h => ⟨x.display, if_pos h, lexes_number h, trivial⟩
  | .text (.str s), _, rfl, _ => ⟨_, rfl, lexes_textLiteral s, trivial⟩
  | .word w, _, rfl, _ => ⟨_, rfl, lexes_name w.wire_spec.1, w.wire_spec.2⟩
  | .id i, _, rfl, _ => ⟨_, rfl, lexes_textLiteral i.gid, trivial⟩
  | .money m, _, rfl, h => ⟨_, rfl, lexes_number h, trivial⟩
  | .list xs, _, h, hnumbers => by
    obtain ⟨vs, hvs, rfl⟩ := Option.map_eq_some_iff.1 h
    obtain ⟨ls, hls, hread⟩ := literals_lexes hvs hnumbers
    exact ⟨_, by rw [literal, hls]; rfl, lexes_list hread, hread.proper⟩
  | .tuple xs, _, h, hnumbers => by
    obtain ⟨vs, hvs, rfl⟩ := Option.map_eq_some_iff.1 h
    obtain ⟨ls, hls, hread⟩ := literals_lexes hvs hnumbers
    exact ⟨_, by rw [literal, hls]; rfl, lexes_list hread, hread.proper⟩
  | .dict es, _, h, hnumbers => by
    obtain ⟨vs, hvs, rfl⟩ := Option.map_eq_some_iff.1 h
    obtain ⟨ls, hls, hread⟩ := entryLiterals_lexes hvs hnumbers
    exact ⟨_, by rw [literal, hls]; rfl, lexes_object hread, hread.proper⟩

/-- The literals of the items of a list are read as their values. -/
theorem literals_lexes : ∀ {xs : List Datum} {vs : List Value}, values? xs = some vs →
    HaveNumbers xs → ∃ ls, literals xs = .ok ls ∧ ReadAs ls vs
  | [], _, rfl, _ => ⟨[], rfl, .nil, trivial⟩
  | x :: xs, vs, h, hnumbers => by
    rw [values?] at h
    split at h
    · cases h
    · next v hv =>
      obtain ⟨vs, hvs, rfl⟩ := Option.map_eq_some_iff.1 h
      obtain ⟨l, hl, hlexes, hproper⟩ := literal_lexes hv hnumbers.1
      obtain ⟨ls, hls, hread⟩ := literals_lexes hvs hnumbers.2
      exact ⟨l :: ls, by rw [literals, hl]; simp only [hls]; rfl, .cons hlexes hread.lexes,
        hproper, hread.proper⟩

/-- The literals of the entries of a mapping are read as their names and values. -/
theorem entryLiterals_lexes : ∀ {es : List (Datum × Datum)} {vs : List (String × Value)},
    entryValues? es = some vs → EntriesHaveNumbers es →
    ∃ ls, entryLiterals es = .ok ls ∧ ReadAsEntries ls vs
  | [], _, rfl, _ => ⟨[], rfl, .nil, trivial⟩
  | (key, x) :: es, vs, h, hnumbers => by
    unfold entryValues? at h
    split at h
    · next n =>
      split at h
      · cases h
      · next v hv =>
        split at h
        · -- A key is written bare, so it has to be a name; this is the only place where that is
          -- asked.
          next hname =>
          obtain ⟨vs, hvs, rfl⟩ := Option.map_eq_some_iff.1 h
          obtain ⟨l, hl, hlexes, hproper⟩ := literal_lexes hv hnumbers.1
          obtain ⟨ls, hls, hread⟩ := entryLiterals_lexes hvs hnumbers.2
          refine ⟨(n ++ ": " ++ l) :: ls, ?_, .cons (lexes_entry hname hlexes) hread.lexes,
            hproper, hread.proper⟩
          rw [entryLiterals, show keyLiteral (.str n) = .ok n from rfl]
          simp only [hl, hls]
          rfl
        · cases h
    · cases h

end

end Datum

end CatalogQuery
