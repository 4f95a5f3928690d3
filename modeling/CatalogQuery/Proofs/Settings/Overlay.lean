import CatalogQuery.Proofs.Keys
import CatalogQuery.Proofs.Merging
import Mathlib.Data.List.Nodup

/-!
# A mapping laid over another one

The upper mapping has names for keys, each at most once (`Datum.HasNames`). Then what is found under
a name after the merge depends on what the two mappings hold under that name and on nothing else
(`Datum.field?_merge`), the keys of the lower mapping keep their places and are followed by the new
ones (`Datum.keys_merge`), and entries of other keys stay as they are (`Datum.filter_merge`).

A value is put at the end of a path of names. It is then found there (`Datum.at?_putAt_self`), and
no path that parts from this one leads to anything else than before (`Datum.at?_putAt_of_apart`).

## Names as keys

What environments give has texts for keys, and these texts are strings. `Datum.HasNames` lists them,
so that a statement about the keys of a mapping becomes one about a list of names without
repetitions, and equality of keys becomes equality of names. The general facts about a merge apply
because different names are keys apart (`Datum.HasNames.keysApart`). The lower mapping comes from a
file and may have keys of any kind.

## Paths that part

Two paths of names can differ in two ways: one may be the beginning of the other, or they part at
some name. Only in the second case does a value that is put at the end of one leave the end of the
other alone, and the settings of the library are all of this case.
-/

namespace CatalogQuery.Datum

variable {below above es : List (Datum × Datum)} {names : List String} {d : Datum}

/-! ### Merging -/

/-- The keys of a mapping are the given names, and no name occurs twice. -/
inductive HasNames : List String → List (Datum × Datum) → Prop
  /-- No names. -/
  | nil : HasNames [] []
  /-- A name that is not among the others. -/
  | cons {n : String} {names : List String} {es : List (Datum × Datum)} (v : Datum) (hn : n ∉ names)
      (h : HasNames names es) : HasNames (n :: names) ((.str n, v) :: es)

theorem HasNames.nodup (h : HasNames names es) : names.Nodup := by
  induction h with
  | nil => exact List.nodup_nil
  | cons v hn _ ih => exact List.nodup_cons.2 ⟨hn, ih⟩

/-- Something is found under the names of a mapping, and under no other. -/
theorem HasNames.field?_isSome_iff (h : HasNames names es) (a : String) :
    (field? a es).isSome = true ↔ a ∈ names := by
  induction h with
  | nil => simp [field?, get?]
  | @cons n names es v hn _ ih =>
    rw [field?_cons, equal_str, List.mem_cons, ← ih]
    by_cases hna : n = a
    · simp [hna]
    · simp [hna, Ne.symm hna]

/-- Under a name that a mapping has, another value stands after it was put there; a new name comes
last. -/
theorem HasNames.put (h : HasNames names es) (b : String) (d : Datum) :
    HasNames (if b ∈ names then names else names ++ [b]) (put (.str b) d es) := by
  induction h with
  | nil => exact .cons d List.not_mem_nil .nil
  | @cons n names es v hn h ih =>
    rw [Datum.put, equal_str]
    by_cases hnb : n = b
    · subst hnb
      rw [beq_self_eq_true, if_pos rfl, if_pos List.mem_cons_self]
      exact .cons d hn h
    · have hother : ¬ (n == b) = true := by simpa using hnb
      have hmem : b ∈ n :: names ↔ b ∈ names := by simp [Ne.symm hnb]
      simp only [if_neg hother, hmem]
      by_cases hb : b ∈ names
      · rw [if_pos hb] at ih ⊢
        exact .cons v hn ih
      · rw [if_neg hb] at ih ⊢
        exact .cons v (by simp [hn, hnb]) ih

theorem HasNames.map_fst (h : HasNames names es) : es.map Prod.fst = names.map .str := by
  induction h with
  | nil => rfl
  | cons v hn _ ih => rw [List.map_cons, List.map_cons, ih]

/-- Different names are keys apart. -/
theorem HasNames.keysApart (h : HasNames names es) : keysApart es = true := by
  induction h with
  | nil => rfl
  | @cons n names es v hn h ih =>
    have hnone : field? n es = none := by rwa [← Option.not_isSome_iff_eq_none, h.field?_isSome_iff]
    exact keysApart_cons_iff.2 ⟨rfl, hnone, ih⟩

/-- What is found under a name after a merge: the upper value, merged with the lower one if both are
mappings, or else the lower value. -/
theorem field?_merge (h : HasNames names above) (a : String) :
    field? a (merge below above) =
      match field? a above with
      | some v => some (mergeValue (field? a below) v)
      | none => field? a below :=
  get?_merge h.keysApart (.str a)

/-- The keys of a merge: those of the lower mapping in their places, and then the new names in their
order. -/
theorem keys_merge (h : HasNames names above) :
    (merge below above).map Prod.fst =
      below.map Prod.fst ++ (names.filter fun n ↦ (field? n below).isNone).map .str := by
  rw [map_fst_merge h.keysApart, h.map_fst, List.filter_map]
  rfl

/-- Entries of other keys than those of the upper mapping stay as they are. -/
theorem filter_merge (h : HasNames names above) (p : Datum → Bool)
    (hp : ∀ n ∈ names, ∀ k, k.equal (.str n) = true → p k = false) :
    (merge below above).filter (fun e ↦ p e.1) = below.filter fun e ↦ p e.1 := by
  induction h generalizing below with
  | nil => rw [merge]
  | cons v hn _ ih =>
    rw [merge, ih fun m hm ↦ hp m (List.mem_cons_of_mem _ hm)]
    exact filter_put p _ _ below (hp _ List.mem_cons_self)

/-- Laid over a mapping that lacks its names, a mapping follows it. -/
theorem merge_eq_append (h : HasNames names above) (hbelow : ∀ n ∈ names, field? n below = none) :
    merge below above = below ++ above := by
  induction h generalizing below with
  | nil => rw [merge, List.append_nil]
  | @cons n names rest v hn _ ih =>
    have habsent : field? n below = none := hbelow n List.mem_cons_self
    have hvalue : mergeValue (get? (.str n) below) v = v := by
      rw [show get? (.str n) below = none from habsent]
      cases v <;> rfl
    have hmore : ∀ m ∈ names, field? m (Datum.put (.str n) v below) = none := by
      intro m hm
      rw [field?_put, if_neg fun hnm : n = m ↦ hn (hnm ▸ hm)]
      exact hbelow m (List.mem_cons_of_mem _ hm)
    calc merge below ((.str n, v) :: rest)
        = merge (Datum.put (.str n) v below) rest := by rw [merge, hvalue]
      _ = Datum.put (.str n) v below ++ rest := ih hmore
      _ = below ++ (.str n, v) :: rest := by
        rw [put_of_field?_eq_none habsent, List.append_assoc]; rfl

/-- Laid over nothing, a mapping is itself. -/
theorem merge_nil (h : HasNames names above) : merge [] above = above :=
  merge_eq_append h fun _ _ ↦ rfl

/-! ### Paths -/

/-- What a path of names leads to. -/
def at? (path : List String) (es : List (Datum × Datum)) : Option Datum :=
  lookup? (path.map .str) es

theorem at?_singleton (a : String) (es : List (Datum × Datum)) : at? [a] es = field? a es :=
  rfl

/-- A longer path goes on in the mapping under its first name. -/
theorem at?_cons_cons (a b : String) (path : List String) (es : List (Datum × Datum)) :
    at? (a :: b :: path) es =
      match field? a es with
      | some (.dict inner) => at? (b :: path) inner
      | _ => none :=
  rfl

theorem at?_nil_mapping (a : String) (path : List String) : at? (a :: path) [] = none := by
  cases path <;> rfl

/-- The mapping that a value is put into on its way, when it is put further down than under `a`. -/
def inner (a : String) (es : List (Datum × Datum)) : List (Datum × Datum) :=
  match field? a es with
  | some (.dict inner) => inner
  | _ => []

/-- A path goes on in the inner mapping, where an empty one stands in for a missing one. -/
theorem at?_cons_cons_eq_inner (a b : String) (path : List String) (es : List (Datum × Datum)) :
    at? (a :: b :: path) es = at? (b :: path) (inner a es) := by
  rw [at?_cons_cons, inner]
  split <;> simp_all [at?_nil_mapping]

/-- A value that is put further down is put into the inner mapping. -/
theorem putAt_cons_cons (v : Datum) (a b : String) (path : List String)
    (es : List (Datum × Datum)) :
    putAt v ((a :: b :: path).map .str) es =
      put (.str a) (.dict (putAt v ((b :: path).map .str) (inner a es))) es := by
  rw [List.map_cons, List.map_cons, putAt, inner, field?]
  split <;> simp_all

/-- A value is found where it was put. -/
theorem at?_putAt_self (v : Datum) (a : String) (path : List String) (es : List (Datum × Datum)) :
    at? (a :: path) (putAt v ((a :: path).map .str) es) = some v := by
  induction path generalizing a es with
  | nil => exact (field?_put a a v es).trans (if_pos rfl)
  | cons b path ih =>
    rw [putAt_cons_cons, at?_cons_cons, field?_put, if_pos rfl]
    exact ih b _

/-- **Putting a value at the end of one path changes nothing at the end of another** that neither
begins with the first nor is the beginning of it. -/
theorem at?_putAt_of_apart (v : Datum) (p q : List String) (es : List (Datum × Datum))
    (hpq : ¬ p <+: q) (hqp : ¬ q <+: p) : at? q (putAt v (p.map .str) es) = at? q es := by
  induction p generalizing q es with
  | nil => exact absurd List.nil_prefix hpq
  | cons a p ih =>
    cases q with
    | nil => exact absurd List.nil_prefix hqp
    | cons b q =>
      -- What stands under the first name of `q` decides.
      have hput : ∃ d, putAt v ((a :: p).map .str) es = put (.str a) d es := by
        cases p with
        | nil => exact ⟨v, rfl⟩
        | cons a' p => exact ⟨_, putAt_cons_cons v a a' p es⟩
      by_cases hab : a = b
      · -- The paths begin alike, so they part further down, and both have a further name.
        subst hab
        rw [List.cons_prefix_cons] at hpq hqp
        have hpq' : ¬ p <+: q := fun h ↦ hpq ⟨rfl, h⟩
        have hqp' : ¬ q <+: p := fun h ↦ hqp ⟨rfl, h⟩
        cases p with
        | nil => exact absurd List.nil_prefix hpq'
        | cons a' p =>
          cases q with
          | nil => exact absurd List.nil_prefix hqp'
          | cons b' q =>
            rw [putAt_cons_cons, at?_cons_cons, field?_put, if_pos rfl, at?_cons_cons_eq_inner]
            exact ih (b' :: q) _ hpq' hqp'
      · obtain ⟨d, hd⟩ := hput
        have hsame : field? b (put (.str a) d es) = field? b es := by rw [field?_put, if_neg hab]
        rw [hd]
        cases q with
        | nil => exact hsame
        | cons b' q => rw [at?_cons_cons, at?_cons_cons, hsame]

end CatalogQuery.Datum
