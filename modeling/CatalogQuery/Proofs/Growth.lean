import CatalogQuery.Proofs.Cycles
import Mathlib.Data.Finset.Card

/-!
# Selections and inputs from nothing

A selection to which fields were added one by one holds the fields in the order of their **first**
addition (`FieldSet.tokens_foldl_add`), and an input to which assignments were made one by one holds
the keys in the order of their first assignment (`Inputs.keys_foldl_assign`), each with its **last**
value (`Inputs.get?_foldl_assign`). The order is the same in both because both append what they do
not find. They differ in what they look for: a selection may hold different fields of one name, of
which the first is found, while an input is a map.

First occurrences are `List.eraseDups`; what it does to a list with one more element
(`eraseDups_append_singleton`) is what one more addition does to a selection and one more assignment
to the keys of an input.

## One argument for both

Both statements about the order are proved for a fold from any start that is free of repetitions,
since the induction needs it for the start that one addition makes. The start of the library is the
empty one.

## What is proved of a map

`Inputs` is a list of entries, and nothing in its type keeps keys apart. That they are is a
consequence of the order of the keys (`Inputs.keys_foldl_assign`), and it is used where a map needs
it: an entry of an input is what is found under its key (`Inputs.get?_of_mem`), and there are as
many entries as keys. That two assignments commute is not true when neither key is there yet,
because then the order of the keys is that of the assignments.
-/

namespace CatalogQuery

/-! ### First occurrences -/

section FirstOccurrences

variable {α : Type} [BEq α] [LawfulBEq α]

/-- One more element is kept if it is new. -/
theorem eraseDups_append_singleton (xs : List α) (x : α) :
    (xs ++ [x]).eraseDups = if x ∈ xs then xs.eraseDups else xs.eraseDups ++ [x] := by
  rw [List.eraseDups_append, List.removeAll]
  by_cases hx : x ∈ xs <;> simp [hx, List.eraseDups_cons]

/-- First occurrences are different. -/
theorem nodup_eraseDups (xs : List α) : xs.eraseDups.Nodup := by
  induction xs using List.reverseRecOn with
  | nil => simp
  | append_singleton xs x ih =>
    rw [eraseDups_append_singleton]
    split
    · exact ih
    · rename_i hx
      rw [← List.concat_eq_append]
      exact List.Nodup.concat (fun h ↦ hx (List.mem_eraseDups.1 h)) ih

/-- Repetitions do not matter for what is found first. -/
theorem find?_eraseDups (p : α → Bool) (xs : List α) : xs.eraseDups.find? p = xs.find? p := by
  induction xs using List.reverseRecOn with
  | nil => simp
  | append_singleton xs x ih =>
    rw [eraseDups_append_singleton, List.find?_append, ← ih]
    split
    · rename_i hx
      -- If the last element is looked for, an equal one was found before it.
      cases hfound : xs.eraseDups.find? p with
      | some y => rfl
      | none =>
        have hp : p x = false := by
          simpa using List.find?_eq_none.1 hfound x (List.mem_eraseDups.2 hx)
        simp [hp]
    · rw [List.find?_append]

end FirstOccurrences

/-! ### Fields added one by one

An addition looks for an equal field and not for one of the same name. So two fields of one name may
both be there, and the first of them is what a lookup by name finds.
-/

namespace FieldSet

variable {s : FieldSet} {t : FieldToken} {ts us : List FieldToken} {n : String} {k : EntityKind}

/-- The selection to which fields were added one after the other. -/
def ofTokens (ts : List FieldToken) : FieldSet :=
  ts.foldl add empty

/-- **Fields are kept in the order of their first addition.** -/
theorem tokens_foldl_add (hs : s.tokens.eraseDups = s.tokens) (ts : List FieldToken) :
    (ts.foldl add s).tokens = (s.tokens ++ ts).eraseDups := by
  induction ts using List.reverseRecOn with
  | nil => rw [List.append_nil, hs, List.foldl_nil]
  | append_singleton ts t ih =>
    rw [List.foldl_append, List.foldl_cons, List.foldl_nil, tokens_add, ih, ← List.append_assoc,
      eraseDups_append_singleton]
    simp only [List.mem_eraseDups]

/-- The fields of a selection from nothing are the first occurrences. -/
theorem tokens_ofTokens (ts : List FieldToken) : (ofTokens ts).tokens = ts.eraseDups :=
  tokens_foldl_add (s := empty) rfl ts

theorem mem_tokens_ofTokens : t ∈ (ofTokens ts).tokens ↔ t ∈ ts := by
  rw [tokens_ofTokens, List.mem_eraseDups]

/-- Fields that are all there are not added again. -/
theorem foldl_add_of_subset (h : ∀ t ∈ ts, t ∈ s.tokens) : ts.foldl add s = s := by
  induction ts with
  | nil => rfl
  | cons t ts ih =>
    rw [List.forall_mem_cons] at h
    rw [List.foldl_cons, add_of_mem h.1]
    exact ih h.2

/-- In a selection from nothing, the first field of a name among those that were added is found. -/
theorem find?_ofTokens (ts : List FieldToken) (n : String) :
    (ofTokens ts).find? n = ts.find? fun t ↦ t.name == n := by
  rw [find?, tokens_ofTokens, find?_eraseDups]

theorem contains_eq_isSome_find? (s : FieldSet) (n : String) :
    s.contains n = (s.find? n).isSome := by
  rw [contains, find?, Bool.eq_iff_iff, List.any_eq_true, List.find?_isSome]

/-- The kinds of a selection are those at which a chain of nested fields can end. -/
theorem mem_kinds_iff : k ∈ s.kinds ↔ ∃ ks, FieldToken.Chain s.tokens (ks ++ [k]) := by
  rw [kinds, FieldToken.kindsOfList_eq_map [], List.mem_map]
  constructor
  · rintro ⟨o, ho, rfl⟩
    obtain ⟨ks, hks, -⟩ := FieldToken.mem_occurrencesOfList.1 ho
    exact ⟨ks, hks⟩
  · rintro ⟨ks, hks⟩
    exact ⟨⟨k, ks.reverse ++ []⟩, FieldToken.mem_occurrencesOfList.2 ⟨ks, hks, rfl⟩, rfl⟩

/-- The kinds of a selection from nothing are the ends of the chains of what was added. -/
theorem mem_kinds_ofTokens : k ∈ (ofTokens ts).kinds ↔ ∃ ks, FieldToken.Chain ts (ks ++ [k]) := by
  rw [mem_kinds_iff]
  refine exists_congr fun ks ↦ ⟨fun h ↦ ?_, fun h ↦ ?_⟩
  · exact h.mono fun t ht ↦ mem_tokens_ofTokens.1 ht
  · exact h.mono fun t ht ↦ mem_tokens_ofTokens.2 ht

end FieldSet

/-! ### Assignments made one by one

An assignment replaces the value where the key stands, or puts key and value at the end. So the keys
of an input are the first occurrences of what was assigned to, as the fields of a selection are of
what was added.
-/

namespace Inputs

variable {i : Inputs} {key other : String} {value value' : Datum} {as : List (String × Datum)}

/-- The assignments that were made one after the other. -/
def ofAssignments (as : List (String × Datum)) : Inputs :=
  as.foldl (fun i a ↦ i.assign a.1 a.2) empty

/-- **Keys are kept in the order of their first assignment.** -/
theorem keys_foldl_assign (hi : i.keys.eraseDups = i.keys) (as : List (String × Datum)) :
    (as.foldl (fun i a ↦ i.assign a.1 a.2) i).keys = (i.keys ++ as.map Prod.fst).eraseDups := by
  induction as using List.reverseRecOn with
  | nil => rw [List.map_nil, List.append_nil, hi, List.foldl_nil]
  | append_singleton as a ih =>
    rw [List.foldl_append, List.foldl_cons, List.foldl_nil, keys_assign, ih, List.map_append,
      List.map_singleton, ← List.append_assoc, eraseDups_append_singleton]
    simp only [List.mem_eraseDups]

/-- The keys of an input from nothing are in the order of their first assignment. -/
theorem keys_ofAssignments (as : List (String × Datum)) :
    (ofAssignments as).keys = (as.map Prod.fst).eraseDups :=
  keys_foldl_assign (i := empty) rfl as

/-- What was assigned to a key is found there, and nothing else is found elsewhere. -/
theorem get?_assign (i : Inputs) (key : String) (value : Datum) (other : String) :
    (i.assign key value).get? other = if key = other then some value else i.get? other := by
  obtain ⟨es⟩ := i
  simp only [get?, assign]
  induction es with
  | nil => by_cases h : key = other <;> simp [assignEntries, h]
  | cons e es ih =>
    obtain ⟨k, v⟩ := e
    rw [assignEntries]
    -- Where the key stands, its value is replaced and what follows stays; before that, entries are
    -- passed over.
    by_cases hk : k = key
    · subst hk
      by_cases h : k = other <;> simp [h]
    · rw [if_neg hk]
      by_cases h : k = other
      · simp [h, show key ≠ other from fun heq ↦ hk (h.trans heq.symm)]
      · simp only [List.find?_cons, beq_false_of_ne h]
        exact ih

/-- **The last value of a key is found.** -/
theorem get?_foldl_assign (i : Inputs) (as : List (String × Datum)) (key : String) :
    (as.foldl (fun i a ↦ i.assign a.1 a.2) i).get? key =
      (as.reverse.lookup key).or (i.get? key) := by
  induction as using List.reverseRecOn with
  | nil => rfl
  | append_singleton as a ih =>
    obtain ⟨k, v⟩ := a
    rw [List.foldl_append, List.foldl_cons, List.foldl_nil, get?_assign, ih, List.reverse_append,
      List.reverse_singleton, List.singleton_append, List.lookup_cons]
    by_cases h : k = key
    · simp [h]
    · simp [h, beq_false_of_ne (Ne.symm h)]

theorem get?_ofAssignments (as : List (String × Datum)) (key : String) :
    (ofAssignments as).get? key = as.reverse.lookup key :=
  (get?_foldl_assign empty as key).trans (Option.or_none)

/-- What is found under a key is what a lookup in the entries finds. -/
theorem get?_eq_lookup (es : List (String × Datum)) (key : String) :
    get? ⟨es⟩ key = es.lookup key := by
  induction es with
  | nil => rfl
  | cons e es ih =>
    rw [List.lookup_cons, ← ih, get?, get?, List.find?_cons, BEq.comm (a := key)]
    cases e.1 == key <;> rfl

/-- What is found under a key is an entry. -/
theorem mem_of_get? (h : i.get? key = some value) : (key, value) ∈ i.entries := by
  obtain ⟨⟨k, v⟩, he, rfl⟩ := Option.map_eq_some_iff.1 h
  have hkey : k = key := by simpa using List.find?_some he
  exact hkey ▸ List.mem_of_find?_eq_some he

/-- An entry is found under its key, if no key is repeated. -/
theorem get?_of_mem (hi : i.keys.Nodup) {e : String × Datum} (he : e ∈ i.entries) :
    i.get? e.1 = some e.2 := by
  obtain ⟨es⟩ := i
  simp only [keys, get?] at hi he ⊢
  induction es with
  | nil => cases he
  | cons e' es ih =>
    rw [List.map_cons, List.nodup_cons] at hi
    rcases List.mem_cons.1 he with rfl | he
    · simp
    · have hne : e'.1 ≠ e.1 := fun h ↦ hi.1 (h ▸ List.mem_map_of_mem he)
      rw [List.find?_cons_of_neg (by simpa using hne)]
      exact ih hi.2 he

/-- An assignment neither moves nor changes the entry of another key. -/
theorem getElem?_entries_assign (i : Inputs) (value : Datum) {n : Nat} {e : String × Datum}
    (he : e.1 ≠ key) :
    (i.assign key value).entries[n]? = some e ↔ i.entries[n]? = some e := by
  obtain ⟨es⟩ := i
  simp only [assign]
  induction es generalizing n with
  | nil =>
    cases n with
    | zero => simp [assignEntries, Prod.ext_iff, Ne.symm he]
    | succ n => simp [assignEntries]
  | cons e' es ih =>
    rw [assignEntries]
    split
    · rename_i hk
      cases n with
      | zero =>
        have hne : e'.1 ≠ e.1 := fun h ↦ he (h ▸ hk)
        simp [Prod.ext_iff, Ne.symm he, hne]
      | succ n => simp
    · cases n with
      | zero => simp
      | succ n => simpa using ih

/-- Assignments to two keys commute if the first of them is there already. -/
theorem assignEntries_comm (hne : key ≠ other) :
    ∀ {es : List (String × Datum)}, key ∈ es.map Prod.fst →
      assignEntries other value' (assignEntries key value es) =
        assignEntries key value (assignEntries other value' es)
  | (k, v) :: es, hmem => by
    by_cases hk : k = key
    · simp [assignEntries, hk, hne]
    · have hes : key ∈ es.map Prod.fst := (List.mem_cons.1 hmem).resolve_left fun h ↦ hk h.symm
      by_cases hother : k = other
      · simp [assignEntries, hother, Ne.symm hne]
      · simp [assignEntries, hk, hother, assignEntries_comm hne hes]

/-- Two keys of which one is there may be assigned to in either order. -/
theorem assign_comm (hne : key ≠ other) (hkey : key ∈ i.keys) (value value' : Datum) :
    (i.assign key value).assign other value' = (i.assign other value').assign key value :=
  congrArg mk (assignEntries_comm hne hkey)

end Inputs

/-! ### Public contract -/

open FieldToken in
/-- **A selection keeps first occurrences.** Its fields are those that were added, in order and
without the later repetitions of an equal field, so no two are equal, and to add all of them again
changes nothing. Under a name the first field of that name is found; nothing is found exactly if the
name is not contained, which is to say that no field of that name was added. The kinds at any depth
are the ends of the chains of nested fields, whatever the order of the additions was. -/
theorem FieldSet.ofTokens_keeps_first (ts : List FieldToken) :
    (ofTokens ts).tokens = ts.eraseDups ∧ (ofTokens ts).tokens.Nodup ∧
    ts.foldl add (ofTokens ts) = ofTokens ts ∧
    (∀ n t, (ofTokens ts).find? n = some t ↔
      ∃ before after, ts = before ++ t :: after ∧ t.name = n ∧ ∀ u ∈ before, u.name ≠ n) ∧
    (∀ n, ((ofTokens ts).find? n = none ↔ (ofTokens ts).contains n = false) ∧
      ((ofTokens ts).contains n = true ↔ ∃ t ∈ ts, t.name = n)) ∧
    (∀ k, k ∈ (ofTokens ts).kinds ↔ ∃ ks, Chain ts (ks ++ [k])) ∧
    ∀ us, us.Perm ts → ∀ k, k ∈ (ofTokens us).kinds ↔ k ∈ (ofTokens ts).kinds := by
  refine ⟨tokens_ofTokens ts, ?_, ?_, fun n t ↦ ?_, fun n ↦ ⟨?_, ?_⟩, fun k ↦ mem_kinds_ofTokens,
    fun us hus k ↦ ?_⟩
  · rw [tokens_ofTokens]
    exact nodup_eraseDups ts
  · exact foldl_add_of_subset fun t ht ↦ mem_tokens_ofTokens.2 ht
  · rw [find?_ofTokens, List.find?_eq_some_iff_append]
    constructor
    · rintro ⟨hname, before, after, hsplit, hbefore⟩
      exact ⟨before, after, hsplit, by simpa using hname, by simpa using hbefore⟩
    · rintro ⟨before, after, hsplit, hname, hbefore⟩
      exact ⟨by simpa using hname, before, after, hsplit, by simpa using hbefore⟩
  · rw [contains_eq_isSome_find?, ← Option.not_isSome_iff_eq_none, Bool.not_eq_true]
  · rw [contains_eq_isSome_find?, find?_ofTokens, List.find?_isSome]
    simp
  · rw [mem_kinds_ofTokens, mem_kinds_ofTokens]
    refine exists_congr fun ks ↦ ⟨fun h ↦ ?_, fun h ↦ ?_⟩
    · exact h.mono fun t ht ↦ hus.mem_iff.1 ht
    · exact h.mono fun t ht ↦ hus.mem_iff.2 ht

/-- **An input is a map in the order of insertion.** Its keys are those that were assigned to, in
the order of their first assignment, and it has as many entries as there are different ones. Under a
key the last value that was assigned to it is found, and the entries pair the keys with their last
values. One more assignment leaves the entries of other keys in their places and with their values,
and assignments to two different keys that are there commute. -/
theorem Inputs.ofAssignments_ordered_map (as : List (String × Datum)) :
    (ofAssignments as).keys = (as.map Prod.fst).eraseDups ∧
    (∀ key default, ((ofAssignments as).get? key).getD default =
      (as.reverse.lookup key).getD default) ∧
    (ofAssignments as).size = (as.map Prod.fst).toFinset.card ∧
    ((ofAssignments as).entries.map fun e ↦ (e.1, some e.2)) =
      (as.map Prod.fst).eraseDups.map (fun key ↦ (key, as.reverse.lookup key)) ∧
    (∀ key value e, e.1 ≠ key → ∀ n : Nat,
      ((ofAssignments as).assign key value).entries[n]? = some e ↔
        (ofAssignments as).entries[n]? = some e) ∧
    ∀ key other value value', key ≠ other → key ∈ (ofAssignments as).keys →
      other ∈ (ofAssignments as).keys →
      ((ofAssignments as).assign key value).assign other value' =
        ((ofAssignments as).assign other value').assign key value := by
  have hnodup : (ofAssignments as).keys.Nodup := by
    rw [keys_ofAssignments]
    exact nodup_eraseDups _
  refine ⟨keys_ofAssignments as, fun key default ↦ by rw [get?_ofAssignments], ?_, ?_,
    fun key value e he n ↦ getElem?_entries_assign _ value he,
    fun key other value value' hne hkey _ ↦ assign_comm hne hkey value value'⟩
  · -- There are as many entries as keys, and the keys are different.
    have hsame : (ofAssignments as).keys.toFinset = (as.map Prod.fst).toFinset := by
      ext key
      rw [List.mem_toFinset, List.mem_toFinset, keys_ofAssignments, List.mem_eraseDups]
    rw [← hsame, List.toFinset_card_of_nodup hnodup, keys, List.length_map, size]
  · rw [← keys_ofAssignments, keys, List.map_map]
    refine List.map_congr_left fun e he ↦ ?_
    rw [Function.comp_apply, ← get?_ofAssignments, get?_of_mem hnodup he]

end CatalogQuery
