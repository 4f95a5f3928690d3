import CatalogQuery.Proofs.Literal

/-!
# Literals in a document

What a document sees of a literal. `Grammar.readValue?` reads one value at the start of a text and
gives back the tokens after it; `Datum.readValue?_literal` says that the literal of a datum is read
as the value that it stands for, alone and before whatever a document puts after it. A string
literal stays between its marks (`Grammar.IsEnclosed`): every mark or backslash inside it stands
after a backslash, and nothing in it is outside of printable ASCII.

What has no literal is refused, at any depth. `Datum.written_literal` names the three ends of
writing: a text, in which nothing refused was left out; the refusal of a part that occurs in the
datum (`Datum.Occurs`, `Datum.IsRefused`); or a fault at an integer beyond the digit limit.
`Datum.literal_roundTrip` puts the two sides together.

## Reading a value out of the middle

In a document a literal is followed by something, and the lexer takes the longest token. So nothing
could be said about a literal before arbitrary text. `Grammar.stops` describes the texts that a
token can end before, and the separators and closing marks of documents are among them; this is the
only condition on what follows.

## The three ends

`Datum.Written parts hasText o` says how writing several parts ended in `o`. It has the parts as an
index because a list, a tuple and the values of a dictionary are written in the same way, one after
the other, so that `Written.cons` is the step of all three and `Written.whole` takes the parts to
the whole. Which refusal is reported is left open: it is of **some** refused part that occurs, and
of the first one that is come upon.
-/

namespace CatalogQuery

/-! ### Values at the start of a text -/

namespace Grammar

/-- The value at the start of a text, and the tokens after it. -/
def readValue? (cs : List Char) : Option (Value × List Token) :=
  (tokens? cs).bind fun ts ↦ value? ts.length ts

variable {s : String} {v : Value} {rest : List Char} {c : Char}

/-- A text that is read as the tokens of a value is read as the value, before everything that a
token can end before. -/
theorem Lexes.readValue?_append (h : Lexes s v.tokens) (hproper : v.IsProper)
    (hrest : stops rest = true) :
    readValue? (s.toList ++ rest) = (tokens? rest).map fun ts ↦ (v, ts) := by
  rw [readValue?, h rest hrest]
  cases tokens? rest with
  | none => rfl
  | some ts => exact value?_tokens v _ ts hproper (by simp)

/-- A text that is read as the tokens of a value is read as the value, with nothing left. -/
theorem Lexes.readValue?_eq (h : Lexes s v.tokens) (hproper : v.IsProper) :
    readValue? s.toList = some (v, []) := by
  have hread := h.readValue?_append hproper (show stops [] = true from rfl)
  rwa [List.append_nil, tokens?, Option.map_some] at hread

/-! ### What stays between marks -/

/-- A character of printable ASCII. -/
def isPrintable (c : Char) : Bool :=
  0x20 ≤ c.toNat && c.toNat ≤ 0x7E

/-- Printable characters, among which each quotation mark and each backslash stands after a
backslash that escapes it. -/
inductive IsEnclosed : List Char → Prop
  /-- No characters at all. -/
  | nil : IsEnclosed []
  /-- A printable character that is neither a quotation mark nor a backslash. -/
  | plain {c : Char} {cs : List Char} (hc : isPrintable c = true) (hmark : c ≠ '"')
      (hescape : c ≠ '\\') (h : IsEnclosed cs) : IsEnclosed (c :: cs)
  /-- A backslash and the character that it escapes. -/
  | escape {c : Char} {cs : List Char} (hc : isPrintable c = true)
      (h : IsEnclosed cs) : IsEnclosed ('\\' :: c :: cs)

namespace IsEnclosed

variable {cs ds : List Char}

theorem append (h : IsEnclosed cs) (h' : IsEnclosed ds) : IsEnclosed (cs ++ ds) := by
  induction h with
  | nil => exact h'
  | plain hc hmark hescape _ ih => exact .plain hc hmark hescape ih
  | escape hc _ ih => exact .escape hc ih

/-- A text is enclosed if what each of its code points is written as is. -/
theorem flatMap {f : Nat → List Char} (h : ∀ p, IsEnclosed (f p)) (ps : List Nat) :
    IsEnclosed (ps.flatMap f) := by
  induction ps with
  | nil => exact .nil
  | cons p ps ih =>
    rw [List.flatMap_cons]
    exact (h p).append ih

end IsEnclosed

/-- Digits of a code are enclosed. -/
theorem isEnclosed_hexDigits (width n : Nat) : IsEnclosed (hexDigits width n) := by
  induction width generalizing n with
  | zero => exact .nil
  | succ width ih =>
    have hdigit : ∀ d < 16, isPrintable (Nat.digitChar d) = true ∧ Nat.digitChar d ≠ '"' ∧
        Nat.digitChar d ≠ '\\' := by
      decide
    obtain ⟨hc, hmark, hescape⟩ := hdigit (n % 16) (Nat.mod_lt n (by decide))
    exact (ih (n / 16)).append (.plain hc hmark hescape .nil)

open Json in
/-- **No code point breaks out of its literal.** -/
theorem isEnclosed_escapeAscii (p : Nat) : IsEnclosed (escapeAscii p) := by
  have hunit : ∀ n, IsEnclosed (unitEscape n) :=
    fun n ↦ .escape (by decide) (isEnclosed_hexDigits 4 n)
  rw [escapeAscii]
  split
  · rename_i e he
    unfold shortEscape? at he
    split at he <;> cases he <;> exact .escape (by decide) .nil
  · rename_i hnone
    obtain ⟨hmark, hescape, -, -⟩ := shortEscape?_eq_none hnone
    split
    · rename_i hprint
      have hbounds : 0x20 ≤ p ∧ p ≤ 0x7E := by simpa using hprint
      have hnat : (Char.ofNat p).toNat = p := Text.toNat_ofNat_of_lt (by omega)
      have hne : ∀ c : Char, p ≠ c.toNat → Char.ofNat p ≠ c := by
        rintro _ hp rfl
        exact hp hnat.symm
      refine .plain ?_ (hne '"' hmark) (hne '\\' hescape) .nil
      rwa [isPrintable, hnat]
    · split
      · -- Beyond the characters that are written as they are, there are one or two escapes.
        exact hunit p
      · exact (hunit _).append (hunit _)

end Grammar

namespace Datum

open Grammar

/-! ### Parts of a datum -/

/-- A datum occurs in another: it is the other, or occurs in an element of it or in a value of its
entries. -/
inductive Occurs : Datum → Datum → Prop
  /-- The datum itself. -/
  | self (x : Datum) : Occurs x x
  /-- In an item of a list. -/
  | list {x y : Datum} {ys : List Datum} (hy : y ∈ ys) (h : Occurs x y) : Occurs x (.list ys)
  /-- In an item of a tuple. -/
  | tuple {x y : Datum} {ys : List Datum} (hy : y ∈ ys) (h : Occurs x y) : Occurs x (.tuple ys)
  /-- In a value of a mapping. -/
  | dict {x k y : Datum} {es : List (Datum × Datum)} (hy : (k, y) ∈ es)
      (h : Occurs x y) : Occurs x (.dict es)

/-- A number that is not finite, or an object of a class that has no literals. -/
def IsRefused : Datum → Prop
  | .float x => x.isFinite = false
  | .octets _ => True
  | .foreign o _ => o.literal? = none
  | _ => False

/-- How a refused datum is reported. -/
def refusal : Datum → Failure
  | .float x => .notFinite x
  | d => .noLiteral d

/-- How writing parts one after the other ends: all are written and nothing in them is refused, or
something in one of them is, or an integer in them has no text. -/
inductive Written {α : Type} (parts : List Datum) (hasText : Bool) : Outcome α → Prop
  /-- All parts are written, and nothing at any depth of them is refused. -/
  | done (a : α) (h : ∀ y ∈ parts, ∀ x, Occurs x y → ¬ x.IsRefused) : Written parts hasText (.ok a)
  /-- Something at some depth of a part is refused, and the refusal names it. -/
  | refused {x y : Datum} (hy : y ∈ parts) (hx : Occurs x y) (h : x.IsRefused) :
      Written parts hasText (.error x.refusal)
  /-- An integer has no text. -/
  | fault (h : hasText = false) : Written parts hasText (Outcome.fault .badValue)

namespace Written

variable {α β : Type} {parts : List Datum} {hasText hasText' : Bool} {o : Outcome α}
    {o' : Outcome β} {d : Datum}

theorem map (h : Written parts hasText o) (f : α → β) : Written parts hasText (o.map f) := by
  cases h with
  | done a h => exact .done (f a) h
  | refused hy hx h => exact .refused hy hx h
  | fault h => exact .fault h

/-- One part first, and then the others if it was written. -/
theorem cons {γ : Type} (h : Written [d] hasText o) (h' : Written parts hasText' o')
    (f : α → β → γ) :
    Written (d :: parts) (hasText && hasText')
      (o >>= fun a ↦ o'.map (f a)) := by
  cases h with
  | done a h =>
    cases h' with
    | done b h' =>
      exact .done (f a b) (List.forall_mem_cons.2 ⟨h d (List.mem_singleton_self d), h'⟩)
    | refused hy hx h' => exact .refused (List.mem_cons_of_mem d hy) hx h'
    | fault h' => exact .fault (by rw [h', Bool.and_false])
  | refused hy hx h => exact .refused (List.mem_cons.2 (.inl (List.mem_singleton.1 hy))) hx h
  | fault h => exact .fault (by rw [h, Bool.false_and])

/-- A datum is written if its parts are, unless it is refused itself. -/
theorem whole (h : Written parts hasText o) (hd : ¬ d.IsRefused)
    (hparts : ∀ x, Occurs x d ↔ x = d ∨ ∃ y ∈ parts, Occurs x y) : Written [d] hasText o := by
  cases h with
  | done a h =>
    refine .done a fun y hy x hx hrefused ↦ ?_
    obtain rfl := List.mem_singleton.1 hy
    rcases (hparts x).1 hx with rfl | ⟨z, hz, hxz⟩
    · exact hd hrefused
    · exact h z hz x hxz hrefused
  | refused hy hx h =>
    exact .refused (List.mem_singleton_self d) ((hparts _).2 (.inr ⟨_, hy, hx⟩)) h
  | fault h => exact .fault h

end Written

/-- What occurs in a list is the list, or occurs in an item. -/
theorem occurs_list {x : Datum} {ys : List Datum} :
    Occurs x (.list ys) ↔ x = .list ys ∨ ∃ y ∈ ys, Occurs x y := by
  constructor
  · intro h
    cases h with
    | self => exact .inl rfl
    | list hy h => exact .inr ⟨_, hy, h⟩
  · rintro (rfl | ⟨y, hy, h⟩)
    · exact .self _
    · exact .list hy h

/-- What occurs in a tuple is the tuple, or occurs in an item. -/
theorem occurs_tuple {x : Datum} {ys : List Datum} :
    Occurs x (.tuple ys) ↔ x = .tuple ys ∨ ∃ y ∈ ys, Occurs x y := by
  constructor
  · intro h
    cases h with
    | self => exact .inl rfl
    | tuple hy h => exact .inr ⟨_, hy, h⟩
  · rintro (rfl | ⟨y, hy, h⟩)
    · exact .self _
    · exact .tuple hy h

/-- What occurs in a dictionary is the dictionary, or occurs in one of its values. Keys do not
count: they are written as names. -/
theorem occurs_dict {x : Datum} {es : List (Datum × Datum)} :
    Occurs x (.dict es) ↔ x = .dict es ∨ ∃ y ∈ es.map Prod.snd, Occurs x y := by
  constructor
  · intro h
    cases h with
    | self => exact .inl rfl
    | dict hy h => exact .inr ⟨_, List.mem_map_of_mem hy, h⟩
  · rintro (rfl | ⟨y, hy, h⟩)
    · exact .self _
    · obtain ⟨e, he, rfl⟩ := List.mem_map.1 hy
      exact .dict he h

theorem literals_cons (x : Datum) (xs : List Datum) :
    literals (x :: xs) = x.literal >>= fun l ↦ (literals xs).map (l :: ·) := by
  rw [literals]
  cases x.literal <;> rfl

/-- The first value is written before the others, behind its key. -/
theorem entryLiterals_cons {k : Datum} {key : String} (hk : k.keyLiteral = .ok key) (x : Datum)
    (es : List (Datum × Datum)) :
    entryLiterals ((k, x) :: es) = x.literal >>=
      fun l ↦ (entryLiterals es).map ((key ++ ": " ++ l) :: ·) := by
  rw [entryLiterals]
  simp only [hk]
  cases x.literal <;> rfl

/-- A datum that is neither refused nor made of parts is written. -/
theorem written_leaf {l : String} {hasText : Bool} {d : Datum} (hd : ¬ d.IsRefused)
    (hleaf : ∀ x, Occurs x d → x = d) : Written [d] hasText (.ok l : Outcome String) := by
  have hnone : Written [] hasText (.ok l : Outcome String) := .done l nofun
  refine hnone.whole hd fun x ↦ ⟨fun hx ↦ .inl (hleaf x hx), ?_⟩
  rintro (rfl | ⟨y, hy, -⟩)
  · exact .self x
  · cases hy

/-- A datum without a literal is refused, unless it has no text to be shown. -/
theorem written_refuseLiteral {d : Datum} (hd : d.IsRefused) (hrefusal : d.refusal = .noLiteral d) :
    Written [d] d.hasText d.refuseLiteral := by
  rw [refuseLiteral, Failure.showing, List.all_cons, List.all_nil, Bool.and_true]
  split
  · rw [← hrefusal]
    exact .refused (List.mem_singleton_self d) (.self d) hd
  · rename_i htext
    exact .fault (by simpa using htext)

mutual

/-- **How writing a literal ends.** -/
theorem written_literal : ∀ d : Datum, Written [d] d.hasText d.literal
  | .null => written_leaf not_false fun x h ↦ by cases h; rfl
  | .bool b => written_leaf not_false fun x h ↦ by cases h; rfl
  | .int n => by
    rw [literal, hasText]
    split
    · exact written_leaf not_false fun x h ↦ by cases h; rfl
    · rename_i hfits
      exact .fault (by simpa using hfits)
  | .float x => by
    rw [literal]
    split
    · rename_i hfinite
      exact written_leaf (fun h ↦ by rw [IsRefused, hfinite] at h; cases h) fun x h ↦ by
        cases h; rfl
    · rename_i hfinite
      exact .refused (List.mem_singleton_self _) (.self _) (Bool.eq_false_iff.2 hfinite)
  | .text t => written_leaf not_false fun x h ↦ by cases h; rfl
  | .word w => written_leaf not_false fun x h ↦ by cases h; rfl
  | .id i => written_leaf not_false fun x h ↦ by cases h; rfl
  | .money m => written_leaf not_false fun x h ↦ by cases h; rfl
  | .octets bs => written_refuseLiteral trivial rfl
  | .foreign o elements => by
    rw [literal]
    split
    · rename_i l hl
      split
      · exact written_leaf (fun h ↦ by rw [IsRefused, hl] at h; cases h) fun x h ↦ by cases h; rfl
      · rename_i htext
        exact .fault (by simpa [hasText] using htext)
    · rename_i hl
      exact written_refuseLiteral hl rfl
  | .list xs => ((written_literals xs).map _).whole not_false fun _ ↦ occurs_list
  | .tuple xs => ((written_literals xs).map _).whole not_false fun _ ↦ occurs_tuple
  | .dict es => ((written_entryLiterals es).map _).whole not_false fun _ ↦ occurs_dict

/-- How writing the items of a list ends. -/
theorem written_literals : ∀ xs : List Datum, Written xs (hasTextItems xs) (literals xs)
  | [] => .done [] nofun
  | x :: xs => by
    rw [literals_cons, hasTextItems]
    exact (written_literal x).cons (written_literals xs) List.cons

/-- How writing the entries of a dictionary ends. -/
theorem written_entryLiterals : ∀ es : List (Datum × Datum),
    Written (es.map Prod.snd) (hasTextEntries es) (entryLiterals es)
  | [] => .done [] nofun
  | e :: es => by
    obtain ⟨k, x⟩ := e
    -- A key without a text ends the writing before its value is looked at.
    cases htext : k.hasText with
    | false =>
      rw [entryLiterals, keyLiteral, htext]
      exact .fault (by rw [hasTextEntries, htext]; rfl)
    | true =>
      have hkey : k.keyLiteral = .ok k.plain.toString := if_pos htext
      rw [entryLiterals_cons hkey, hasTextEntries, htext, Bool.true_and]
      exact (written_literal x).cons (written_entryLiterals es) fun l ls ↦
        (k.plain.toString ++ ": " ++ l) :: ls

end

/-! ### Public contract -/

/-- The literal of a text, and what is between its marks. -/
theorem literal_str (s : String) :
    (Datum.str s).literal = .ok
    (String.ofList ('"' :: ((codePoints s.toList).flatMap Json.escapeAscii ++ ['"']))) :=
  rfl

/-- The literal of a datum is read as its value, alone and before everything that a token can end
before. -/
theorem readValue?_literal {d : Datum} {v : Value} (h : d.value? = some v)
    (hnumbers : d.HasNumbers) :
    ∃ l, d.literal = .ok l ∧ readValue? l.toList = some (v, []) ∧
      ∀ rest, stops rest = true → readValue? (l.toList ++ rest) =
        (tokens? rest).map fun ts ↦ (v, ts) := by
  obtain ⟨l, hl, hlexes, hproper⟩ := literal_lexes h hnumbers
  exact ⟨l, hl, hlexes.readValue?_eq hproper,
    fun rest hrest ↦ hlexes.readValue?_append hproper hrest⟩

/-- What occurs in a datum and is refused is missed by no literal. -/
theorem literal_of_occurs {d x : Datum} (hx : Occurs x d) (h : x.IsRefused) :
    (∃ y, Occurs y d ∧ y.IsRefused ∧ d.literal = .error y.refusal) ∨
      d.hasText = false ∧ d.literal = Outcome.fault .badValue := by
  have hwritten := written_literal d
  cases hend : d.literal with
  | ok l =>
    -- A text would mean that nothing refused was left out.
    rw [hend] at hwritten
    cases hwritten with
    | done _ hnone => exact absurd h (hnone d (List.mem_singleton_self d) x hx)
  | error failure =>
    rw [hend] at hwritten
    cases hwritten with
    | refused hy hoccurs hrefused =>
      obtain rfl := List.mem_singleton.1 hy
      exact .inl ⟨_, hoccurs, hrefused, rfl⟩
    | fault htext => exact .inr ⟨htext, rfl⟩

/-- **Literals round trip.** The literal of a datum that stands for a value, and whose numbers have
texts, is read as exactly that value and nothing is left of it; a separator or a closing mark after
it changes nothing. The literal of a text is one string token, whose inside is printable and
enclosed, and to undo the escapes gives the text back. A datum in which a number that is not finite
or an object of another class occurs is refused for such a part, unless an integer in it is beyond
the digit limit and is come upon first. -/
theorem literal_roundTrip :
    (∀ (d : Datum) (v : Value), d.value? = some v → d.HasNumbers →
      ∃ l, d.literal = .ok l ∧ readValue? l.toList = some (v, []) ∧
        ∀ c ∈ [',', ' ', ']', '\x7d'], ∀ rest,
          readValue? (l.toList ++ c :: rest) = (tokens? (c :: rest)).map fun ts ↦ (v, ts)) ∧
    (∀ s : String, ∃ body, (Datum.str s).literal = .ok (String.ofList ('"' :: (body ++ ['"']))) ∧
      IsEnclosed body ∧
      tokens? ('"' :: (body ++ ['"'])) = some [.string s] ∧
      ((units? (body ++ ['"'])).bind fun (us, _) ↦ joinPairs? us) = some (codePoints s.toList)) ∧
    ∀ d x : Datum, Occurs x d → x.IsRefused →
      (∃ y, Occurs y d ∧ y.IsRefused ∧ d.literal = .error y.refusal) ∨
        d.hasText = false ∧ d.literal = Outcome.fault .badValue := by
  refine ⟨fun d v hv hnumbers ↦ ?_, fun s ↦ ?_, fun d x ↦ literal_of_occurs⟩
  · have hglue : ∀ c ∈ [',', ' ', ']', '\x7d'], isGlueChar c = true := forall_mem_of_all (by decide)
    obtain ⟨l, hl, halone, hbefore⟩ := readValue?_literal hv hnumbers
    exact ⟨l, hl, halone,
      fun c hc rest ↦ hbefore (c :: rest) (stops_of_isGlueChar (hglue c hc) rest)⟩
  · have hscalar := isScalar_of_mem_codePoints s
    have htokens := (lexes_asciiLiteral s).tokens?_eq
    rw [Json.asciiLiteral, String.toList_ofList] at htokens
    refine ⟨_, literal_str s, .flatMap isEnclosed_escapeAscii _, htokens, ?_⟩
    rw [units?_literal hscalar, Option.bind_some]
    exact joinPairs?_codeUnits hscalar

end Datum

end CatalogQuery
