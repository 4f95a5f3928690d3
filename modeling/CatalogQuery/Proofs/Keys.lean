import CatalogQuery.Proofs.KeyIdentity

/-!
# Entries under names

A name is a text, and a mapping is looked up by names (`Datum.field?`). Two names are the same key
only if they are the same name, so putting a value under one of them changes nothing under another
(`Datum.field?_put`), nor does it move the entries of any other key (`Datum.filter_put`).

Names are the keys of everything that this library builds: the attributes of a record, the members
of a decoded object, the settings of a file. A text is told apart by its code points and a word by
those of its wire form, so a word is found under its name and the other way round; but among names
as such, different texts are different keys (`Datum.equal_str`).
-/

namespace CatalogQuery

/-- Texts with the same code points are the same. -/
theorem codePoints_injective {cs ds : List Char} (h : codePoints cs = codePoints ds) : cs = ds :=
  List.map_injective_iff.2 (fun _ _ hc ↦ Char.ext (UInt32.toNat_inj.1 hc)) h

namespace Datum

variable {es : List (Datum × Datum)} {name : String} {key d : Datum}

/-! ### Names as keys -/

/-- The code points of a key that is a text. -/
def keyPoints? (key : Datum) : Option (List Nat) :=
  key.asText?.map Text.points

/-- A key equals a name exactly if it is a text with the same code points. -/
theorem equal_str_iff :
    key.equal (.str name) = true ↔ key.keyPoints? = some (codePoints name.toList) := by
  cases key <;> simp [Datum.equal, Datum.equalAtoms, Datum.asText?, keyPoints?]

/-- Two names are equal keys exactly if they are the same name. -/
theorem equal_str (s t : String) : (Datum.str s).equal (.str t) = (s == t) := by
  have hpoints : (codePoints s.toList == codePoints t.toList) = (s == t) := by
    rw [Bool.eq_iff_iff, beq_iff_eq, beq_iff_eq]
    exact ⟨fun h ↦ String.toList_inj.1 (codePoints_injective h), fun h ↦ h ▸ rfl⟩
  simpa [Datum.equal, Datum.equalAtoms, Datum.asText?] using hpoints

/-! ### Looking up -/

theorem field?_cons (name : String) (key d : Datum) (es : List (Datum × Datum)) :
    field? name ((key, d) :: es) = if key.equal (.str name) then some d else field? name es :=
  get?_cons (.str name) key d es

/-- What is put under a name is found there, and nothing else is found elsewhere. -/
theorem field?_put (a b : String) (d : Datum) (es : List (Datum × Datum)) :
    field? a (put (.str b) d es) = if b = a then some d else field? a es := by
  rw [field?, field?, get?_put rfl, equal_str]
  simp only [beq_iff_eq]

/-- What is put under a new name comes last. -/
theorem put_of_field?_eq_none {b : String} (h : field? b es = none) (d : Datum) :
    put (.str b) d es = es ++ [(.str b, d)] := by
  induction es with
  | nil => rfl
  | cons e es ih =>
    obtain ⟨k, v⟩ := e
    rw [field?_cons] at h
    split at h
    · cases h
    · rename_i hk
      rw [put, if_neg hk, ih h]
      rfl

/-- Entries whose keys are not the one that a value is put under stay as they are. -/
theorem filter_put (p : Datum → Bool) (b : String) (d : Datum) (es : List (Datum × Datum))
    (hp : ∀ k, k.equal (.str b) = true → p k = false) :
    (put (.str b) d es).filter (fun e ↦ p e.1) = es.filter fun e ↦ p e.1 := by
  induction es with
  | nil => simp [put, hp (.str b) (by rw [equal_str, beq_self_eq_true])]
  | cons e es ih =>
    obtain ⟨k, v⟩ := e
    rw [put]
    split
    · rename_i hk
      simp [hp k hk]
    · simp [List.filter_cons, ih]

end Datum

end CatalogQuery
