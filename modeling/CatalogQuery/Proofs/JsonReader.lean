import CatalogQuery.Datum.Display
import CatalogQuery.Json.Reader
import CatalogQuery.Proofs.Attempt
import CatalogQuery.Proofs.Keys
import CatalogQuery.Proofs.Numeral
import Mathlib.Data.List.Nodup

/-!
# Values that are read from a body

What holds of every value that the reader answers. `Json.Closed` is the form of such a property: the
values without parts have it, and it passes from the parts of a list or an object to the whole. One
induction over the readers shows that it then holds of whatever is read (`Json.Closed.of_read`).

There are two of them. A message may show any value that a body holds, and a value can be shown only
if no integer in it is beyond the digit limit (`Datum.hasText`); the reader refuses longer integers
where it meets them (`Json.hasText_of_read`). And no key occurs twice in an object, at any depth
(`Datum.HasDistinctKeys`), because a key that comes again takes the place of the first
(`Json.hasDistinctKeys_of_read`).

## The form of a property

`Json.Closed` has one field for each kind of value that the reader makes, and the induction needs
nothing else of the property. Two of the fields say more than the kind of the value. An integer
comes with the fact that it is within the digit limit, because only such integers are read. The
members of an object come with keys in the form in which texts are kept (`Text.ofPoints`); two keys
of that form are equal exactly if their code points are, which is how a lookup compares them.

The readers count down the steps that are left, and there is one statement for each of the three
that call each other.

## Objects

An object is built from its members one at a time (`Json.setEntry`), so what holds of it is shown by
the same induction (`Json.ofMembers_induction`): it holds of the empty object, and putting a member
in keeps it.
-/

open CatalogQuery.Attempt

namespace CatalogQuery

namespace Datum

theorem hasTextEntries_iff {es : List (Datum × Datum)} :
    hasTextEntries es = true ↔ ∀ e ∈ es, e.1.hasText = true ∧ e.2.hasText = true := by
  induction es with
  | nil => simp [hasTextEntries]
  | cons e es ih => simp [hasTextEntries, ih]

theorem hasTextItems_iff {xs : List Datum} :
    hasTextItems xs = true ↔ ∀ x ∈ xs, x.hasText = true := by
  induction xs with
  | nil => simp [hasTextItems]
  | cons x xs ih => simp [hasTextItems, ih]

/-- What is looked up in a mapping that can be shown can be shown. -/
theorem hasText_of_field? {key : String} {es : List (Datum × Datum)} {d : Datum}
    (hes : (Datum.dict es).hasText = true) (h : field? key es = some d) : d.hasText = true := by
  simp only [field?, get?, Option.map_eq_some_iff] at h
  obtain ⟨e, he, rfl⟩ := h
  exact (hasTextEntries_iff.1 hes e (List.mem_of_find?_eq_some he)).2

/-- In no mapping within the value do two keys have the same code points. -/
inductive HasDistinctKeys : Datum → Prop
  /-- A value that is no list and no mapping. -/
  | atom {d : Datum} (list : ∀ xs, d ≠ .list xs) (dict : ∀ es, d ≠ .dict es) : HasDistinctKeys d
  /-- A list. -/
  | list {xs : List Datum} (items : ∀ x ∈ xs, HasDistinctKeys x) : HasDistinctKeys (.list xs)
  /-- A mapping. -/
  | dict {es : List (Datum × Datum)} (keys : (es.map fun e ↦ e.1.keyPoints?).Nodup)
      (values : ∀ e ∈ es, HasDistinctKeys e.2) : HasDistinctKeys (.dict es)

end Datum

namespace Json

/-- The whole part of a number is read off digits. -/
theorem isDigit_of_wholePart? {ps whole rest : List Nat} (h : wholePart? ps = some (whole, rest)) :
    ∀ p ∈ whole, Numeral.isDigit p = true := by
  unfold wholePart? at h
  split at h
  · cases h
    simp [Numeral.isDigit]
  · split at h
    · cases h
    · cases h
      exact fun _ hp ↦ List.mem_takeWhile_imp hp

/-- A text that is read is in the form in which texts are kept. -/
theorem eq_ofPoints_of_string {ps rest : List Nat} {t : Text} (h : string ps = .ok (t, rest)) :
    ∃ qs, t = .ofPoints qs := by
  obtain ⟨⟨us, _⟩, -, heq⟩ := map_eq_ok_iff.1 h
  cases heq
  exact ⟨_, rfl⟩

/-! ### Values

A property of values that passes from the parts to the whole is established by reading: one
statement per reader, by induction on the steps that are left. -/

/-- A property of values that passes from the parts to the whole. -/
structure Closed (P : Datum → Prop) : Prop where
  /-- Null has it. -/
  null : P .null
  /-- Truth values have it. -/
  bool : ∀ b, P (.bool b)
  /-- Integers within the digit limit have it. -/
  int : ∀ {n : Int}, (Datum.int n).hasText = true → P (.int n)
  /-- Decimal numbers have it. -/
  float : ∀ x, P (.float x)
  /-- Texts have it. -/
  text : ∀ t, P (.text t)
  /-- A list has it if its items do. -/
  list : ∀ {xs : List Datum}, (∀ x ∈ xs, P x) → P (.list xs)
  /-- An object has it if the values of its members do. -/
  object : ∀ {ms : List (Text × Datum)},
    (∀ m ∈ ms, (∃ ps, m.1 = .ofPoints ps) ∧ P m.2) → P (ofMembers ms)

namespace Closed

variable {P : Datum → Prop}

/-- An integer is read only within the digit limit. -/
theorem of_number (closed : Closed P) {negative : Bool} {ps rest : List Nat} {d : Datum}
    (h : number negative ps = .ok (d, rest)) : P d := by
  simp only [number] at h
  split at h
  · cases h
  · next whole after hwhole =>
    split at h
    · split at h
      · cases h
      · next hlen =>
        cases h
        refine closed.int ?_
        exact Numeral.integerFits_of_length_le (isDigit_of_wholePart? hwhole) (by omega) negative
    · cases h
      exact closed.float _

/-- The values that are written as words have no parts. -/
theorem of_named? (closed : Closed P) {ps rest : List Nat} {d : Datum}
    (h : named? ps = some (d, rest)) : P d := by
  obtain ⟨⟨name, value⟩, hmem, hfound⟩ := List.exists_of_findSome?_eq_some h
  obtain ⟨_, -, heq⟩ := Option.map_eq_some_iff.1 hfound
  cases heq
  simp only [List.mem_cons, Prod.mk.injEq, List.not_mem_nil, or_false] at hmem
  rcases hmem with ⟨-, rfl⟩ | ⟨-, rfl⟩ | ⟨-, rfl⟩ | ⟨-, rfl⟩ | ⟨-, rfl⟩ | ⟨-, rfl⟩
  · exact closed.null
  · exact closed.bool true
  · exact closed.bool false
  · exact closed.float _
  · exact closed.float _
  · exact closed.float _

mutual

/-- A value that is read has the property. -/
theorem of_value (closed : Closed P) : ∀ {steps : Nat} {ps rest : List Nat} {d : Datum},
    value steps ps = .ok (d, rest) → P d
  | 0, _, _, _, h => by
    unfold value at h
    cases h
  | steps + 1, ps, rest, d, h => by
    unfold value at h
    split at h
    · obtain ⟨_, -, heq⟩ := map_eq_ok_iff.1 h
      cases heq
      exact closed.text _
    · split at h
      · cases h
        -- An empty object is read without its members being looked for.
        have hempty : P (ofMembers []) := closed.object nofun
        exact hempty
      · obtain ⟨⟨ms, _⟩, hms, heq⟩ := map_eq_ok_iff.1 h
        cases heq
        exact closed.object (of_members closed hms)
    · split at h
      · cases h
        exact closed.list nofun
      · obtain ⟨⟨xs, _⟩, hxs, heq⟩ := map_eq_ok_iff.1 h
        cases heq
        exact closed.list (of_elements closed hxs)
    · split at h
      · next hnamed =>
        cases h
        exact closed.of_named? hnamed
      · split at h
        · exact closed.of_number h
        · exact closed.of_number h

/-- The values of the members that are read have the property. -/
theorem of_members (closed : Closed P) :
    ∀ {steps : Nat} {ps rest : List Nat} {ms : List (Text × Datum)},
    members steps ps = .ok (ms, rest) → ∀ m ∈ ms, (∃ ps, m.1 = .ofPoints ps) ∧ P m.2
  | 0, _, _, _, h => by
    unfold members at h
    cases h
  | steps + 1, ps, rest, ms, h => by
    unfold members at h
    split at h
    · obtain ⟨⟨key, afterKey⟩, hkey, h⟩ := bind_eq_ok_iff.1 h
      dsimp only at h
      split at h
      · obtain ⟨⟨v, afterValue⟩, hv, h⟩ := bind_eq_ok_iff.1 h
        have hmember : (∃ ps, key = .ofPoints ps) ∧ P v :=
          ⟨eq_ofPoints_of_string hkey, of_value closed hv⟩
        dsimp only at h
        split at h
        · cases h
          simpa using hmember
        · obtain ⟨⟨more, _⟩, hmore, h⟩ := bind_eq_ok_iff.1 h
          cases h
          exact List.forall_mem_cons.2 ⟨hmember, of_members closed hmore⟩
        · cases h
      · cases h
    · cases h

/-- The elements that are read have the property. -/
theorem of_elements (closed : Closed P) : ∀ {steps : Nat} {ps rest : List Nat} {xs : List Datum},
    elements steps ps = .ok (xs, rest) → ∀ x ∈ xs, P x
  | 0, _, _, _, h => by
    unfold elements at h
    cases h
  | steps + 1, ps, rest, xs, h => by
    unfold elements at h
    obtain ⟨⟨x, after⟩, hx, h⟩ := bind_eq_ok_iff.1 h
    have hvalue : P x := of_value closed hx
    dsimp only at h
    split at h
    · cases h
      simpa using hvalue
    · obtain ⟨⟨more, _⟩, hmore, h⟩ := bind_eq_ok_iff.1 h
      cases h
      exact List.forall_mem_cons.2 ⟨hvalue, of_elements closed hmore⟩
    · cases h

end

/-- **Whatever is read has the property.** -/
theorem of_read (closed : Closed P) {body : List UInt8} {d : Datum} (h : read body = .ok d) :
    P d := by
  unfold read at h
  split at h
  · cases h
  · simp only [readPoints] at h
    split at h
    · cases h
    · next hvalue =>
      split at h
      · cases h
        exact closed.of_value hvalue
      · cases h

end Closed

/-! ### Objects

A member is put in under its key. If the key is there, the value is replaced and the entry stays
where it is; if not, the entry goes to the end. The lemmas are about objects under construction, and
`ofMembers_induction` takes what they show to the object that is read.
-/

/-- Putting an entry in adds nothing but that entry. -/
theorem mem_setEntry {t : Text} {d : Datum} {e : Datum × Datum} :
    ∀ {es : List (Datum × Datum)}, e ∈ setEntry (.text t) d es → e = (.text t, d) ∨ e ∈ es
  | [], h => .inl (by simpa [setEntry] using h)
  | (k, v) :: es, h => by
    have hrest (hmem : e ∈ (k, v) :: setEntry (.text t) d es) :
        e = (.text t, d) ∨ e ∈ (k, v) :: es := by
      rcases List.mem_cons.1 hmem with rfl | hmem
      · exact .inr (by simp)
      · exact (mem_setEntry hmem).imp_right (List.mem_cons_of_mem _)
    unfold setEntry at h
    split at h
    · next hkey =>
      cases hkey
      split at h
      · next heq =>
        rw [heq] at h
        exact (List.mem_cons.1 h).imp_right (List.mem_cons_of_mem _)
      · exact hrest h
    · exact hrest h

/-- Putting the members of an object in keeps what putting in one entry keeps. -/
theorem ofMembers_induction {Q : List (Datum × Datum) → Prop} {ms : List (Text × Datum)}
    (hnil : Q []) (hset : ∀ m ∈ ms, ∀ es, Q es → Q (setEntry (.text m.1) m.2 es)) :
    ∃ es, ofMembers ms = .dict es ∧ Q es := by
  refine ⟨_, rfl, ?_⟩
  induction ms using List.reverseRecOn with
  | nil => exact hnil
  | append_singleton ms m ih =>
    rw [List.foldl_append]
    exact hset m (by simp) _ (ih fun n hn ↦ hset n (by simp [hn]))

/-! ### Values can be shown

This is the property for which the reader has to be asked about integers: all other kinds of values
have it whatever they hold, or have it if their parts do.
-/

/-- That a value can be shown passes from its parts to the whole. -/
theorem closed_hasText : Closed fun d ↦ d.hasText = true where
  null := rfl
  bool _ := rfl
  int h := h
  float _ := rfl
  text _ := rfl
  list h := Datum.hasTextItems_iff.2 h
  object h := by
    obtain ⟨es, heq, hes⟩ := ofMembers_induction
      (Q := fun es ↦ ∀ e ∈ es, e.1.hasText = true ∧ e.2.hasText = true) nofun fun m hm es hes e
        he ↦ by
        rcases mem_setEntry he with rfl | he
        · exact ⟨rfl, (h m hm).2⟩
        · exact hes e he
    rw [heq]
    exact Datum.hasTextEntries_iff.2 hes

/-- **Every value of a body can be shown.** -/
theorem hasText_of_read {body : List UInt8} {d : Datum} (h : read body = .ok d) :
    d.hasText = true :=
  closed_hasText.of_read h

/-! ### Keys are distinct

`DistinctEntries` is the invariant of an object under construction. It asks more of the keys than
that they are distinct: they have the form in which texts are kept, without which different keys
could have the same code points. The keys within the values are part of it, as the property is about
all depths.
-/

/-- An entry takes the place of its key, or stands at the end. -/
theorem map_fst_setEntry {t : Text} {d : Datum} (es : List (Datum × Datum)) :
    (setEntry (.text t) d es).map Prod.fst = es.map Prod.fst ∨
      Datum.text t ∉ es.map Prod.fst ∧
        (setEntry (.text t) d es).map Prod.fst = es.map Prod.fst ++ [.text t] := by
  induction es with
  | nil => exact .inr ⟨by simp, rfl⟩
  | cons e es ih =>
    obtain ⟨k, v⟩ := e
    -- Behind a key that is another one, it goes on as the rest does.
    have hrest (hne : .text t ≠ k) :
        ((k, v) :: setEntry (.text t) d es).map Prod.fst = ((k, v) :: es).map Prod.fst ∨
          Datum.text t ∉ ((k, v) :: es).map Prod.fst ∧
            ((k, v) :: setEntry (.text t) d es).map Prod.fst =
              ((k, v) :: es).map Prod.fst ++ [.text t] := by
      rcases ih with h | ⟨hmem, h⟩
      · exact .inl (by simp [h])
      · exact .inr ⟨by simpa [hne] using hmem, by simp [h]⟩
    unfold setEntry
    split
    · next s t' heq =>
      cases heq
      split
      · exact .inl rfl
      · next hne => exact hrest fun heq ↦ hne (by cases heq; rfl)
    · next hne => exact hrest fun heq ↦ hne t t heq.symm rfl

/-- Entries of an object under construction: their keys are distinct texts in the form in which
texts are kept, and so are the keys within their values. -/
structure DistinctEntries (es : List (Datum × Datum)) : Prop where
  /-- The keys are distinct. -/
  keys : (es.map Prod.fst).Nodup
  /-- The keys are texts. -/
  texts : ∀ e ∈ es, ∃ ps, e.1 = .text (.ofPoints ps)
  /-- The keys within the values are distinct. -/
  values : ∀ e ∈ es, e.2.HasDistinctKeys

/-- Entries stay distinct when one is put in: its key is one of them, or it is new. -/
theorem DistinctEntries.setEntry {ps : List Nat} {d : Datum} {es : List (Datum × Datum)}
    (h : DistinctEntries es) (hd : d.HasDistinctKeys) :
    DistinctEntries (setEntry (.text (.ofPoints ps)) d es) where
  keys := by
    rcases map_fst_setEntry (t := .ofPoints ps) (d := d) es with hsame | ⟨hmem, hnew⟩
    · rw [hsame]
      exact h.keys
    · rw [hnew, ← List.concat_eq_append]
      exact List.Nodup.concat hmem h.keys
  texts e he := by
    rcases mem_setEntry he with rfl | he
    · exact ⟨ps, rfl⟩
    · exact h.texts e he
  values e he := by
    rcases mem_setEntry he with rfl | he
    · exact hd
    · exact h.values e he

/-- Texts in the form in which they are kept are told apart by their code points. -/
theorem DistinctEntries.hasDistinctKeys {es : List (Datum × Datum)} (h : DistinctEntries es) :
    (Datum.dict es).HasDistinctKeys := by
  have hpoints : es.map (fun e ↦ e.1.keyPoints?) = (es.map Prod.fst).map Datum.keyPoints? := by
    rw [List.map_map]
    rfl
  refine .dict ?_ h.values
  rw [hpoints]
  refine List.Nodup.map_on ?_ h.keys
  intro k hk k' hk' hsame
  obtain ⟨e, he, rfl⟩ := List.mem_map.1 hk
  obtain ⟨e', he', rfl⟩ := List.mem_map.1 hk'
  obtain ⟨ps, hps⟩ := h.texts e he
  obtain ⟨ps', hps'⟩ := h.texts e' he'
  rw [hps, hps'] at hsame ⊢
  simp only [Datum.keyPoints?, Datum.asText?, Option.map_some, Text.points_ofPoints,
    Option.some.injEq] at hsame
  rw [hsame]

/-- That keys are distinct passes from the parts to the whole. -/
theorem closed_hasDistinctKeys : Closed Datum.HasDistinctKeys where
  null := .atom nofun nofun
  bool _ := .atom nofun nofun
  int _ := .atom nofun nofun
  float _ := .atom nofun nofun
  text _ := .atom nofun nofun
  list := .list
  object h := by
    obtain ⟨es, heq, hes⟩ :=
      ofMembers_induction (Q := DistinctEntries) ⟨List.nodup_nil, nofun, nofun⟩
      fun m hm es hes ↦ by
        obtain ⟨⟨ps, hps⟩, hvalue⟩ := h m hm
        rw [hps]
        exact hes.setEntry hvalue
    rw [heq]
    exact hes.hasDistinctKeys

/-- **No key occurs twice in an object of a body.** -/
theorem hasDistinctKeys_of_read {body : List UInt8} {d : Datum} (h : read body = .ok d) :
    d.HasDistinctKeys :=
  closed_hasDistinctKeys.of_read h

end Json

end CatalogQuery
