import CatalogQuery.Selection
import Mathlib.Data.List.Basic
import Mathlib.Data.List.Nodup

/-!
# Growing selections and inputs

What one addition does to a selection and one assignment does to an input.

Both containers compare before they grow, but not alike: `FieldSet.add` asks for an **equal token**,
`Inputs.assign` for an **equal key**. So an assignment never repeats a key (`nodup_keys_assign`),
while an addition may repeat a name; `nodup_names_add` says under which condition it does not. The
comparison of tokens is equality, on nested selections as well (`FieldToken.eq_of_beq_eq_true`).

What callers see of these containers is their order. A selection keeps its fields in the order of
their addition, and the identifier, which is there from the beginning, stays first
(`head?_tokens_add`). An assignment to a key that is there changes the value in its place and moves
nothing, so that the identifier of an update stays first as well (`head?_entries_assign`).

The facts here are about **one** step. What a whole list of additions or assignments amounts to is
said where lists of them are made, and what the steps preserve together is an invariant of queries.
Both rest on the two equations `tokens_add` and `keys_assign`, and on nothing else about the
definitions.
-/

namespace CatalogQuery

namespace FieldToken

/-! ### Comparison of fields is equality -/

mutual

/-- Tokens that compare as equal are equal, nested selections and bounds included. -/
theorem eq_of_beq_eq_true : ∀ {s t : FieldToken}, beq s t = true → s = t
  | .leaf _, .leaf _, h => by simpa [beq] using h
  | .node m k xs c, .node n l ys d, h => by
    simp only [beq, Bool.and_eq_true, beq_iff_eq] at h
    obtain ⟨⟨⟨hname, hkind⟩, hbelow⟩, hbound⟩ := h
    rw [hname, hkind, eq_of_beqList_eq_true hbelow, hbound]
  | .leaf _, .node .., h => by simp [beq] at h
  | .node .., .leaf _, h => by simp [beq] at h

/-- Selections that compare as equal are equal. -/
theorem eq_of_beqList_eq_true : ∀ {xs ys : List FieldToken}, beqList xs ys = true → xs = ys
  | [], [], _ => rfl
  | x :: xs, y :: ys, h => by
    simp only [beqList, Bool.and_eq_true] at h
    rw [eq_of_beq_eq_true h.1, eq_of_beqList_eq_true h.2]
  | [], _ :: _, h => by simp [beqList] at h
  | _ :: _, [], h => by simp [beqList] at h

end

mutual

theorem beq_self : ∀ t : FieldToken, beq t t = true
  | .leaf _ => by simp [beq]
  | .node _ _ xs _ => by simp [beq, beqList_self xs]

theorem beqList_self : ∀ xs : List FieldToken, beqList xs xs = true
  | [] => rfl
  | x :: xs => by simp [beqList, beq_self x, beqList_self xs]

end

instance : LawfulBEq FieldToken where
  eq_of_beq := eq_of_beq_eq_true
  rfl := beq_self _

/-! ### Kinds below a list of fields -/

/-- The kinds below a selection are those below its fields. -/
theorem mem_kindsOfList {k : EntityKind} :
    ∀ {xs : List FieldToken}, k ∈ kindsOfList xs ↔ ∃ x ∈ xs, k ∈ kinds x
  | [] => by simp [kindsOfList]
  | x :: xs => by
    have ih : k ∈ kindsOfList xs ↔ _ := mem_kindsOfList
    simp [kindsOfList, ih]

end FieldToken

namespace FieldSet

variable {s : FieldSet} {t u : FieldToken}

/-! ### Adding a field -/

/-- An addition appends the field unless it is there. -/
theorem tokens_add (s : FieldSet) (t : FieldToken) :
    (s.add t).tokens = if t ∈ s.tokens then s.tokens else s.tokens ++ [t] := by
  simp only [add, List.contains_iff_mem]
  split <;> rfl

/-- An addition loses no field and brings in no other. -/
theorem mem_tokens_add : u ∈ (s.add t).tokens ↔ u ∈ s.tokens ∨ u = t := by
  rw [tokens_add]
  split
  · next h => exact ⟨.inl, fun hu ↦ hu.elim id fun heq ↦ heq ▸ h⟩
  · simp

/-- A field that is there already is not added again. -/
theorem add_of_mem (h : t ∈ s.tokens) : s.add t = s := by
  simp [add, h]

/-- The first field stays first. -/
theorem head?_tokens_add (h : s.tokens.head? = some u) : (s.add t).tokens.head? = some u := by
  rw [tokens_add]
  split
  · exact h
  · rw [List.head?_append, h]
    rfl

/-- Names stay distinct if the added field is there already or brings a new name. -/
theorem nodup_names_add (hs : s.names.Nodup) (ht : t ∈ s.tokens ∨ t.name ∉ s.names) :
    (s.add t).names.Nodup := by
  rcases ht with hmem | hnew
  · rwa [add_of_mem hmem]
  · -- A field with a new name is itself new, so it is appended, and its name is apart from all
    -- others.
    have hmem : t ∉ s.tokens := fun h ↦ hnew (List.mem_map_of_mem h)
    rw [names, tokens_add, if_neg hmem, List.map_append, List.nodup_append]
    refine ⟨hs, by simp, ?_⟩
    intro a ha b hb
    rw [List.map_singleton, List.mem_singleton] at hb
    rintro rfl
    exact hnew (hb ▸ ha)

theorem name_mem_names (h : t ∈ s.tokens) : t.name ∈ s.names :=
  List.mem_map_of_mem h

theorem exists_of_mem_names {n : String} (h : n ∈ s.names) : ∃ t ∈ s.tokens, t.name = n :=
  List.mem_map.1 h

/-- Nothing is found under a name exactly when the name is new. -/
theorem find?_eq_none_iff {n : String} : s.find? n = none ↔ n ∉ s.names := by
  simp [find?, names]

theorem mem_of_find?_eq_some {n : String} (h : s.find? n = some t) :
    t ∈ s.tokens ∧ t.name = n :=
  ⟨List.mem_of_find?_eq_some h, by simpa using List.find?_some h⟩

end FieldSet

namespace Inputs

variable {i : Inputs} {key : String} {value : Datum}

/-! ### Assigning a value -/

theorem keys_assignEntries (es : List (String × Datum)) :
    (assignEntries key value es).map Prod.fst =
      if key ∈ es.map Prod.fst then es.map Prod.fst else es.map Prod.fst ++ [key] := by
  induction es with
  | nil => rfl
  | cons e es ih =>
    obtain ⟨k, v⟩ := e
    -- The key is found at the first entry that has it; before that place the entries stay.
    by_cases hk : k = key
    · simp [assignEntries, hk]
    · have hne : ¬ key = k := fun h ↦ hk h.symm
      simp only [assignEntries, if_neg hk, List.map_cons, ih, List.mem_cons, hne, false_or]
      split <;> rfl

/-- An assignment appends its key unless it is there. -/
theorem keys_assign (i : Inputs) :
    (i.assign key value).keys = if key ∈ i.keys then i.keys else i.keys ++ [key] :=
  keys_assignEntries i.entries

/-- An assignment never repeats a key. -/
theorem nodup_keys_assign (h : i.keys.Nodup) : (i.assign key value).keys.Nodup := by
  rw [keys_assign]
  split
  · exact h
  · next hkey =>
    rw [List.nodup_append]
    refine ⟨h, by simp, ?_⟩
    intro a ha b hb
    rw [List.mem_singleton] at hb
    rintro rfl
    exact hkey (hb ▸ ha)

/-- An assignment to another key leaves the first entry. -/
theorem head?_entries_assign {k : String} {v : Datum} (h : i.entries.head? = some (k, v))
    (hne : k ≠ key) : (i.assign key value).entries.head? = some (k, v) := by
  rcases hes : i.entries with - | ⟨e, es⟩
  · simp [hes] at h
  · obtain rfl : e = (k, v) := by simpa [hes] using h
    simp [assign, hes, assignEntries, hne]

/-- An entry of the result is the assigned one or was there before. -/
theorem mem_assignEntries {e : String × Datum} :
    ∀ {es : List (String × Datum)}, e ∈ assignEntries key value es → e = (key, value) ∨ e ∈ es
  | [], h => .inl (by simpa [assignEntries] using h)
  | (k, v) :: es, h => by
    by_cases hk : k = key
    · simp only [assignEntries, if_pos hk, List.mem_cons] at h
      exact h.imp_right (List.mem_cons_of_mem _)
    · simp only [assignEntries, if_neg hk, List.mem_cons] at h
      rcases h with h | h
      · exact .inr (h ▸ List.mem_cons_self)
      · exact (mem_assignEntries h).imp_right (List.mem_cons_of_mem _)

/-- An entry of an input after an assignment is the assigned one or was there before. -/
theorem mem_entries_assign {e : String × Datum} (h : e ∈ (i.assign key value).entries) :
    e = (key, value) ∨ e ∈ i.entries :=
  mem_assignEntries h

end Inputs

end CatalogQuery
