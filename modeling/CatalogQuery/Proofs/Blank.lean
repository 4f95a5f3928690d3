import CatalogQuery.Proofs.Compile
import CatalogQuery.Proofs.Grammar.Emptied

/-!
# Queries apart from their texts

`Datum.blank` empties every text in a value and keeps everything else. The document of an update and
that of the update with its texts emptied go in lockstep: the one with its strings emptied **is**
the other (`Query.updateText_blank`). A text can therefore be asked what it does to a document
without being a text of characters, which is what separates this from the round trip of
`Query.text_reads`: a title with half of a surrogate pair has a literal, but no value that the
grammar reads.

`Datum.IsWritable` is what is left to ask of a value: it stands for a value once its texts are
empty, and its numbers have texts.

## The lockstep

Literals are written by recursion on the value, and so the comparison of the two literals
(`Datum.literal_blank`) has the same recursion, with one case for each kind of value. The values
that are no containers stay, but for texts and identifiers, whose literals become the empty one. It
is enough to know that the **blank** value stands for a value, because texts are the only part of a
value whose being one depends on what they hold; the keys of a dictionary are names on both sides.

Around the literals there is only the frame of an update operation, which has no string in it.
-/

namespace CatalogQuery

open Grammar

namespace Datum

/-! ### Values

Emptying follows the shape of a value, and the class of a value stays what it is, except that an
identifier becomes a text as it is one in a document. Keys are left alone. So the numbers of a value
and its standing for a value are kept, which are the two things that `IsWritable` asks for; every
plain value has them.
-/

mutual

/-- The value with every text in it emptied; an identifier stands in a document as a text. -/
def blank : Datum → Datum
  | .text _ => .str ""
  | .id _ => .str ""
  | .list xs => .list (blankItems xs)
  | .tuple xs => .tuple (blankItems xs)
  | .dict es => .dict (blankEntries es)
  | d => d

/-- The values with every text in them emptied. -/
def blankItems : List Datum → List Datum
  | [] => []
  | x :: xs => blank x :: blankItems xs

/-- The entries with every text in their values emptied. -/
def blankEntries : List (Datum × Datum) → List (Datum × Datum)
  | [] => []
  | (key, x) :: es => (key, blank x) :: blankEntries es

end

/-- A value that has a literal, whatever its texts are. -/
structure IsWritable (d : Datum) : Prop where
  /-- It stands for a value once its texts are empty. -/
  value : ∃ v, d.blank.value? = some v
  /-- Its numbers have texts. -/
  numbers : d.HasNumbers

mutual

/-- Emptying the texts of a value leaves its numbers alone. -/
theorem hasNumbers_blank : ∀ {d : Datum}, d.HasNumbers → d.blank.HasNumbers
  | .list _, h => haveNumbers_blankItems h
  | .tuple _, h => haveNumbers_blankItems h
  | .dict _, h => entriesHaveNumbers_blankEntries h
  | .text _, _ | .id _, _ => trivial
  | .null, h | .bool _, h | .int _, h | .float _, h | .octets _, h | .word _, h | .money _, h
  | .foreign .., h => h

/-- Emptying the texts of items leaves their numbers alone. -/
theorem haveNumbers_blankItems : ∀ {xs : List Datum}, HaveNumbers xs → HaveNumbers (blankItems xs)
  | [], _ => trivial
  | _ :: _, h => ⟨hasNumbers_blank h.1, haveNumbers_blankItems h.2⟩

/-- Emptying the texts of entries leaves their numbers alone. -/
theorem entriesHaveNumbers_blankEntries : ∀ {es : List (Datum × Datum)},
    EntriesHaveNumbers es → EntriesHaveNumbers (blankEntries es)
  | [], _ => trivial
  | (_, _) :: _, h => ⟨hasNumbers_blank h.1, entriesHaveNumbers_blankEntries h.2⟩

end

mutual

/-- What stands for a value still does when its texts are empty. -/
theorem value?_blank : ∀ {d : Datum} {v : Value}, d.value? = some v → ∃ w, d.blank.value? = some w
  | .list xs, _, h => by
    obtain ⟨vs, hvs, rfl⟩ := Option.map_eq_some_iff.1 h
    obtain ⟨ws, hws⟩ := values?_blankItems hvs
    exact ⟨.list ws, by rw [blank, value?, hws]; rfl⟩
  | .tuple xs, _, h => by
    obtain ⟨vs, hvs, rfl⟩ := Option.map_eq_some_iff.1 h
    obtain ⟨ws, hws⟩ := values?_blankItems hvs
    exact ⟨.list ws, by rw [blank, value?, hws]; rfl⟩
  | .dict es, _, h => by
    obtain ⟨vs, hvs, rfl⟩ := Option.map_eq_some_iff.1 h
    obtain ⟨ws, hws⟩ := entryValues?_blankEntries hvs
    exact ⟨.object ws, by rw [blank, value?, hws]; rfl⟩
  | .text _, _, _ | .id _, _, _ => ⟨_, rfl⟩
  | .null, _, h | .bool _, _, h | .int _, _, h | .float _, _, h | .octets _, _, h
  | .word _, _, h | .money _, _, h | .foreign .., _, h => ⟨_, h⟩

/-- Items that stand for values still do when their texts are empty. -/
theorem values?_blankItems : ∀ {xs : List Datum} {vs : List Value}, values? xs = some vs →
    ∃ ws, values? (blankItems xs) = some ws
  | [], _, _ => ⟨[], rfl⟩
  | x :: xs, vs, h => by
    rw [values?] at h
    split at h
    · cases h
    · next v hv =>
      obtain ⟨us, hus, rfl⟩ := Option.map_eq_some_iff.1 h
      obtain ⟨w, hw⟩ := value?_blank hv
      obtain ⟨ws, hws⟩ := values?_blankItems hus
      exact ⟨w :: ws, by rw [blankItems, values?, hw]; simp [hws]⟩

/-- Entries that stand for values still do when their texts are empty. -/
theorem entryValues?_blankEntries : ∀ {es : List (Datum × Datum)} {vs : List (String × Value)},
    entryValues? es = some vs → ∃ ws, entryValues? (blankEntries es) = some ws
  | [], _, _ => ⟨[], rfl⟩
  | (key, x) :: es, vs, h => by
    unfold entryValues? at h
    split at h
    · next n =>
      split at h
      · cases h
      · next v hv =>
        split at h
        · next hname =>
          obtain ⟨us, hus, rfl⟩ := Option.map_eq_some_iff.1 h
          obtain ⟨w, hw⟩ := value?_blank hv
          obtain ⟨ws, hws⟩ := entryValues?_blankEntries hus
          exact ⟨(n, w) :: ws, by rw [blankEntries, entryValues?]; simp [hw, hname, hws]⟩
        · cases h
    · cases h

end

/-- A plain value is writable. -/
theorem IsPlain.isWritable {d : Datum} (h : d.IsPlain) : d.IsWritable :=
  have ⟨_, hv⟩ := h.value
  ⟨value?_blank hv, h.numbers⟩

/-! ### Literals

`EmptiesTo` compares two outcomes of writing and demands that both are texts. The induction assumes
no more than that the emptied value stands for a value and that the numbers have texts; that the
value itself is not refused either is part of what it shows.
-/

/-- Both outcomes are texts, and the first becomes the second when its strings are emptied. -/
def EmptiesTo (o o' : Outcome String) : Prop :=
  ∃ l l', o = .ok l ∧ o' = .ok l' ∧ Empties l l'

/-- A literal without strings becomes itself. -/
theorem EmptiesTo.of_eq {o : Outcome String} {l : String} (ho : o = .ok l) (hl : Empties l l) :
    EmptiesTo o o :=
  ⟨l, l, ho, ho, hl⟩

/-- The literal of a text becomes that of the empty text. -/
theorem emptiesTo_textLiteral (t : Text) :
    EmptiesTo (.ok (textLiteral t)) (.ok (textLiteral (.str ""))) :=
  ⟨_, _, rfl, rfl, empties_asciiLiteral t.points⟩

/-- Lists are written in the same frame, whatever their items are. -/
theorem empties_list {ls ls' : List String} (h : List.Forall₂ Empties ls ls') :
    Empties ("[" ++ joinWith ", " ls ++ "]") ("[" ++ joinWith ", " ls' ++ "]") :=
  ((empties_of_not_mem (by decide)).append (.joinWith (empties_of_not_mem (by decide)) h)).append
    (empties_of_not_mem (by decide))

/-- Objects are written in the same frame, whatever their entries are. -/
theorem empties_object {ls ls' : List String} (h : List.Forall₂ Empties ls ls') :
    Empties ("\x7b " ++ joinWith ", " ls ++ " \x7d") ("\x7b " ++ joinWith ", " ls' ++ " \x7d") :=
  ((empties_of_not_mem (by decide)).append (.joinWith (empties_of_not_mem (by decide)) h)).append
    (empties_of_not_mem (by decide))

mutual

/-- **Emptying the strings of a literal gives the literal of the value with its texts emptied.** -/
theorem literal_blank : ∀ {d : Datum} {v : Value}, d.blank.value? = some v → d.HasNumbers →
    EmptiesTo d.literal d.blank.literal
  | .null, _, _, _ => .of_eq rfl (empties_name (by decide))
  | .bool true, _, _, _ => .of_eq rfl (empties_name (by decide))
  | .bool false, _, _, _ => .of_eq rfl (empties_name (by decide))
  | .int n, _, _, h => by
    simp only [HasNumbers] at h
    exact .of_eq (by rw [literal, if_pos h]) (empties_integerText n)
  -- Only a number that is finite gets past the literal; an amount is written without being looked
  -- at.
  | .float x, _, _, h => .of_eq (if_pos h) (empties_display x)
  | .text t, _, _, _ => emptiesTo_textLiteral t
  | .word w, _, _, _ => .of_eq rfl (empties_name w.wire_spec.1)
  | .id i, _, _, _ => emptiesTo_textLiteral (.str i.gid)
  | .money m, _, _, _ => .of_eq rfl (empties_display m.amount)
  | .list xs, _, h, hnumbers => by
    obtain ⟨vs, hvs, -⟩ := Option.map_eq_some_iff.1 h
    obtain ⟨ls, ls', hls, hls', hempties⟩ := literals_blankItems hvs hnumbers
    exact ⟨_, _, by rw [literal, hls]; rfl, by rw [blank, literal, hls']; rfl, empties_list
      hempties⟩
  | .tuple xs, _, h, hnumbers => by
    obtain ⟨vs, hvs, -⟩ := Option.map_eq_some_iff.1 h
    obtain ⟨ls, ls', hls, hls', hempties⟩ := literals_blankItems hvs hnumbers
    exact ⟨_, _, by rw [literal, hls]; rfl, by rw [blank, literal, hls']; rfl, empties_list
      hempties⟩
  | .dict es, _, h, hnumbers => by
    obtain ⟨vs, hvs, -⟩ := Option.map_eq_some_iff.1 h
    obtain ⟨ls, ls', hls, hls', hempties⟩ := entryLiterals_blankEntries hvs hnumbers
    exact ⟨_, _, by rw [literal, hls]; rfl, by rw [blank, literal, hls']; rfl,
      empties_object hempties⟩

/-- The literals of items become those of the items with their texts emptied, one by one. -/
theorem literals_blankItems : ∀ {xs : List Datum} {vs : List Value},
    values? (blankItems xs) = some vs → HaveNumbers xs →
      ∃ ls ls', literals xs = .ok ls ∧ literals (blankItems xs) = .ok ls' ∧
        List.Forall₂ Empties ls ls'
  | [], _, _, _ => ⟨[], [], rfl, rfl, .nil⟩
  | x :: xs, vs, h, hnumbers => by
    rw [blankItems, values?] at h
    split at h
    · cases h
    · next v hv =>
      obtain ⟨us, hus, -⟩ := Option.map_eq_some_iff.1 h
      obtain ⟨l, l', hl, hl', hempties⟩ := literal_blank hv hnumbers.1
      obtain ⟨ls, ls', hls, hls', hrest⟩ := literals_blankItems hus hnumbers.2
      refine ⟨l :: ls, l' :: ls', ?_, ?_, .cons hempties hrest⟩
      · rw [literals, hl]
        simp only [hls]
        rfl
      · rw [blankItems, literals, hl']
        simp only [hls']
        rfl

/-- The literals of entries become those of the entries with their texts emptied, one by one. -/
theorem entryLiterals_blankEntries : ∀ {es : List (Datum × Datum)} {vs : List (String × Value)},
    entryValues? (blankEntries es) = some vs → EntriesHaveNumbers es →
      ∃ ls ls', entryLiterals es = .ok ls ∧ entryLiterals (blankEntries es) = .ok ls' ∧
        List.Forall₂ Empties ls ls'
  | [], _, _, _ => ⟨[], [], rfl, rfl, .nil⟩
  | (key, x) :: es, vs, h, hnumbers => by
    unfold blankEntries entryValues? at h
    split at h
    · next n =>
      split at h
      · cases h
      · next v hv =>
        split at h
        · next hname =>
          obtain ⟨us, hus, -⟩ := Option.map_eq_some_iff.1 h
          obtain ⟨l, l', hl, hl', hempties⟩ := literal_blank hv hnumbers.1
          obtain ⟨ls, ls', hls, hls', hrest⟩ := entryLiterals_blankEntries hus hnumbers.2
          have hkey : keyLiteral (.str n) = .ok n := rfl
          refine ⟨(n ++ ": " ++ l) :: ls, (n ++ ": " ++ l') :: ls', ?_, ?_, .cons ?_ hrest⟩
          · rw [entryLiterals, hkey]
            simp only [hl, hls]
            rfl
          · rw [blankEntries, entryLiterals, hkey]
            simp only [hl', hls']
            rfl
          · exact ((empties_name hname).append (empties_of_not_mem (by decide))).append hempties
        · cases h
    · cases h

end

end Datum

/-! ### Selections

A selection is written from names, bounds and punctuation. None of these holds a mark, so a
selection becomes itself, and the lemmas for a field and for fields in a row follow the recursion of
writing.
-/

section Parts

variable {s s' name bound : String}

/-- Braces are no strings. -/
theorem empties_braced (h : Empties s s') : Empties (braced s) (braced s') :=
  ((empties_of_not_mem (by decide)).append h).append (empties_of_not_mem (by decide))

/-- The frame of a connection holds no string. -/
theorem empties_edgesOf (h : Empties s s') : Empties (edgesOf s) (edgesOf s') :=
  empties_braced ((empties_of_not_mem (by decide)).append
    (empties_braced ((empties_of_not_mem (by decide)).append (empties_braced h))))

/-- The head of a connection holds no string. -/
theorem Connection.empties_render (c : Connection) : Empties c.render c.render := by
  have hargument : '"' ∉ c.side.argument.toList := by
    cases c.side <;> decide
  exact ((empties_of_not_mem hargument).append (empties_of_not_mem (by decide))).append
    (empties_integerText c.count)

end Parts

namespace FieldToken

mutual

/-- A selection of names holds no string. -/
theorem empties_render : ∀ {x : FieldToken}, x.IsNamed → Empties x.render x.render
  | .leaf _, h => empties_name h
  | .node _ _ _ none, ⟨hname, _, hxs⟩ =>
    ((empties_name hname).append (empties_of_not_mem (by decide))).append
      (empties_braced (.joinWith (empties_of_not_mem (by decide)) (empties_renderAll hxs)))
  | .node _ _ _ (some c), ⟨hname, _, hxs⟩ =>
    ((((empties_name hname).append (empties_of_not_mem (by decide))).append c.empties_render).append
      (empties_of_not_mem (by decide))).append
      (empties_edgesOf (.joinWith (empties_of_not_mem (by decide)) (empties_renderAll hxs)))

/-- Selections of names hold no string. -/
theorem empties_renderAll : ∀ {xs : List FieldToken}, AreNamed xs →
    List.Forall₂ Empties (renderAll xs) (renderAll xs)
  | [], _ => .nil
  | _ :: _, ⟨hx, hxs⟩ => .cons (empties_render hx) (empties_renderAll hxs)

end

end FieldToken

/-! ### Updates

The frame of an update is the same on both sides and the assignments are written one behind the
other, so the comparison of the documents comes down to that of the literals, key by key.
-/

/-- The assignments with every text in their values emptied. -/
def Inputs.blank (i : Inputs) : Inputs :=
  ⟨i.entries.map fun e ↦ (e.1, e.2.blank)⟩

/-- The input with its texts emptied is the dictionary with its texts emptied. -/
theorem Inputs.toDatum_blank (i : Inputs) : i.blank.toDatum = i.toDatum.blank := by
  obtain ⟨es⟩ := i
  rw [toDatum, toDatum, Datum.blank]
  congr 1
  simp only [Inputs.blank]
  induction es with
  | nil => rfl
  | cons e es ih => rw [List.map_cons, List.map_cons, ih, List.map_cons, Datum.blankEntries]

namespace Query

variable {e : Entity} {q : Query e} {inputs : Inputs}

/-- The query with every text in its input emptied. -/
def blank (q : Query e) : Query e :=
  { q with inputs := q.inputs.map Inputs.blank }

/-- A query that has a text still has one when the texts in its input are empty. -/
theorem HasText.blank (h : q.HasText) : q.blank.HasText where
  named := h.named
  ne_nil := h.ne_nil
  bounds := h.bounds
  bound := h.bound
  numbers blanked hblanked := by
    obtain ⟨inputs, hinputs, rfl⟩ := Option.map_eq_some_iff.1 hblanked
    rw [Inputs.toDatum_blank]
    exact Datum.hasNumbers_blank (h.numbers inputs hinputs)

/-- An update operation becomes the one around what its assignments and its selection become. -/
theorem empties_updateOperation (e : Entity) (root : RootField) {as as' : List String}
    {body body' : String} (has : List.Forall₂ Empties as as') (hbody : Empties body body') :
    Empties (updateOperation (Vocabulary.wire root) as e.payloadField body)
      (updateOperation (Vocabulary.wire root) as' e.payloadField body') := by
  have hpayload : '"' ∉ e.payloadField.toList := by
    cases e <;> decide
  have hcall : Empties (Vocabulary.wire root ++ "(input: " ++ braced (joinWith ", " as) ++ ") ")
      (Vocabulary.wire root ++ "(input: " ++ braced (joinWith ", " as') ++ ") ") :=
    (((empties_name (isName_wire_rootField root)).append (empties_of_not_mem (by decide))).append
      (empties_braced (.joinWith (empties_of_not_mem (by decide)) has))).append
      (empties_of_not_mem (by decide))
  have hselection : Empties (braced (e.payloadField ++ " " ++ braced body))
      (braced (e.payloadField ++ " " ++ braced body')) :=
    empties_braced (((empties_of_not_mem hpayload).append (empties_of_not_mem (by decide))).append
      (empties_braced hbody))
  exact (empties_of_not_mem (by decide)).append (empties_braced (hcall.append hselection))

/-- **The document of an update with its strings emptied is that of the update with its texts
emptied.** -/
theorem updateText_blank (h : q.HasText) (hinputs : q.inputs = some inputs) {v : Value}
    (hv : inputs.blank.toDatum.value? = some v) :
    Datum.EmptiesTo q.updateText q.blank.updateText := by
  have hblank : q.blank.inputs = some inputs.blank := by rw [Query.blank, hinputs, Option.map_some]
  rw [Inputs.toDatum_blank] at hv
  obtain ⟨vs, hvs, -⟩ := Option.map_eq_some_iff.1 hv
  obtain ⟨ls, ls', hls, hls', hempties⟩ :=
    Datum.entryLiterals_blankEntries hvs (h.numbers inputs hinputs)
  -- The selection is the same on both sides; the assignments differ in their literals.
  have hbody : Empties q.fields.render q.fields.render :=
    .joinWith (empties_of_not_mem (by decide)) (FieldToken.empties_renderAll h.named)
  refine ⟨_, _, ?_, ?_, empties_updateOperation e q.operation hempties hbody⟩
  · rw [updateText, hinputs]
    simp only [assignmentTexts_eq, hls, h.fields_text]
    rfl
  · have hentries : inputs.blank.entries.map (fun e ↦ (Datum.str e.1, e.2)) =
        Datum.blankEntries (inputs.entries.map fun e ↦ (.str e.1, e.2)) :=
      Datum.dict.inj (Inputs.toDatum_blank inputs)
    rw [updateText, hblank]
    simp only [assignmentTexts_eq, hentries, hls', h.blank.fields_text]
    rfl

end Query

end CatalogQuery
