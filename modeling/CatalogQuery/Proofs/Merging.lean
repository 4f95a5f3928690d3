import CatalogQuery.Datum.Merge
import CatalogQuery.Proofs.KeyIdentity

/-!
# What a merge holds

The keys of a mapping are apart when each of them is a key and none equals another
(`Datum.keysApart`); a value is nested if that holds of every mapping in it (`Datum.isNested`). Only
the upper one of two mappings need be so. The lower mapping is looked up and put into, never walked,
and neither asks anything of its keys.

What a merge holds under a key depends on what the two mappings hold under it (`Datum.get?_merge`),
and since both sides are descended together, the same equation holds at the end of every path whose
proper beginnings lead to mappings in both (`Datum.lookup?_merge`). A value that was merged once
absorbs a second merge of the same value, so merging is idempotent (`Datum.merge_merge`).

## Which keys are asked to be apart

In a mapping no two keys are equal, but the data here are lists of entries, in which the same key
could come twice. A merge goes through the upper entries one by one; if a key came again, the second
value would be merged into the result of the first. So the keys of the upper mapping have to be
apart, at every level at which it is descended. Nothing of the kind is needed below.

## The shape of the proofs

A merge recurses on the upper entries and, where two mappings meet, into the value. The facts about
one level (`Datum.get?_merge`, `Datum.map_fst_merge`) are inductions on the upper entries that leave
the values closed, and `Datum.mergeValue` is what a value comes to. Paths are then inductions on the
path, with one level at each key. That merging is idempotent cannot be read off the keys, since the
result has to be the same mapping and not just one with the same values; it recurses with the merge
itself.
-/

namespace CatalogQuery.Datum

variable {a b k d v : Datum} {es fs below above : List (Datum × Datum)}

/-! ### Mappings with keys apart -/

/-- The keys of the entries are keys of a mapping, and no two of them are equal. -/
def keysApart : List (Datum × Datum) → Bool
  | [] => true
  | (k, _) :: es => k.isKey && (get? k es).isNone && keysApart es

mutual

/-- In every mapping of the value, down to where it holds no mappings any more, the keys are
apart. -/
def isNested : Datum → Bool
  | .dict es => keysApart es && haveNested es
  | _ => true

/-- The values of the entries are nested. -/
def haveNested : List (Datum × Datum) → Bool
  | [] => true
  | (_, v) :: es => isNested v && haveNested es

end

/-- The keys of entries are apart if the first is new and the rest are apart. -/
theorem keysApart_cons_iff :
    keysApart ((k, v) :: es) = true ↔ k.isKey = true ∧ get? k es = none ∧ keysApart es = true := by
  simp [keysApart, and_assoc]

theorem isNested_dict_iff :
    (dict es).isNested = true ↔ keysApart es = true ∧ haveNested es = true := by
  simp [isNested]

theorem haveNested_cons_iff :
    haveNested ((k, v) :: es) = true ↔ v.isNested = true ∧ haveNested es = true := by
  simp [haveNested]

/-- A key under which nothing is found is none of the keys of the mapping. -/
theorem equal_of_get?_eq_none (h : get? k es = none) (ha : a ∈ es.map Prod.fst) :
    a.equal k = false := by
  obtain ⟨e, he, rfl⟩ := List.mem_map.1 ha
  rw [get?, Option.map_eq_none_iff, List.find?_eq_none] at h
  simpa using h e he

/-- Where the keys are apart, every entry is found under its key. -/
theorem get?_of_mem (h : keysApart es = true) (hmem : (k, v) ∈ es) : get? k es = some v := by
  induction es with
  | nil => cases hmem
  | cons e es ih =>
    obtain ⟨j, w⟩ := e
    obtain ⟨hj, hnew, hes⟩ := keysApart_cons_iff.1 h
    rw [get?_cons]
    rcases List.mem_cons.1 hmem with hhead | htail
    · obtain ⟨rfl, rfl⟩ := Prod.mk.inj hhead
      rw [if_pos (equal_self hj)]
    · have hk : k.equal j = false := equal_of_get?_eq_none hnew (List.mem_map_of_mem htail)
      rw [equal_comm hj, hk]
      exact ih hes htail

/-- What is found in a nested mapping is nested. -/
theorem isNested_of_get? (h : haveNested es = true) (hget : get? a es = some d) :
    d.isNested = true := by
  induction es with
  | nil => cases hget
  | cons e es ih =>
    obtain ⟨k, v⟩ := e
    obtain ⟨hv, hes⟩ := haveNested_cons_iff.1 h
    rw [get?_cons] at hget
    split at hget
    · exact Option.some.inj hget ▸ hv
    · exact ih hes hget

/-! ### One level of a merge -/

@[simp]
theorem mergeValue_dict_dict (es fs : List (Datum × Datum)) :
    mergeValue (some (dict es)) (dict fs) = dict (merge es fs) := by
  rw [mergeValue]

/-- Unless two mappings meet, the upper value stands. -/
theorem mergeValue_eq_right {x : Option Datum} (h : ∀ es fs, x = some (dict es) → v ≠ dict fs) :
    mergeValue x v = v := by
  cases v with
  | dict fs =>
    rw [mergeValue]
    exact fun es hes ↦ h es fs hes rfl
  | _ =>
    rw [mergeValue]
    simp

/-- An upper value that is no mapping stands. -/
theorem mergeValue_of_asDict?_eq_none (h : v.asDict? = none) (x : Option Datum) :
    mergeValue x v = v :=
  mergeValue_eq_right fun _ fs _ hv ↦ by rw [hv] at h; cases h

theorem mergeValue_none (v : Datum) : mergeValue none v = v :=
  mergeValue_eq_right (by simp)

/-- **What is found under a key after a merge**: the upper value, merged with the lower one if both
are mappings, or else the lower value. -/
theorem get?_merge (h : keysApart above = true) (a : Datum) :
    get? a (merge below above) =
      match get? a above with
      | some v => some (mergeValue (get? a below) v)
      | none => get? a below := by
  induction above generalizing below with
  | nil =>
    rw [merge]
    rfl
  | cons e rest ih =>
    obtain ⟨k, v⟩ := e
    obtain ⟨hk, hnew, hrest⟩ := keysApart_cons_iff.1 h
    rw [merge, ih hrest, get?_put hk, get?_cons]
    cases hka : k.equal a with
    | true =>
      -- The key does not come again, so what was merged under it stays.
      have hnone : get? a rest = none := (get?_congr hk hka rest).trans hnew
      rw [hnone, if_pos rfl, if_pos rfl, get?_congr hk hka below]
    | false => rfl

/-- The keys of a merge: those of the lower mapping in their places, and then the new ones in their
order. -/
theorem map_fst_merge (h : keysApart above = true) :
    (merge below above).map Prod.fst =
      below.map Prod.fst ++ (above.map Prod.fst).filter fun k ↦ (get? k below).isNone := by
  induction above generalizing below with
  | nil =>
    rw [merge]
    simp
  | cons e rest ih =>
    obtain ⟨k, v⟩ := e
    obtain ⟨hk, hnew, hrest⟩ := keysApart_cons_iff.1 h
    -- Putting a value under `k` is the only change, and none of the other keys equals `k`.
    have hsame : ∀ d, ((rest.map Prod.fst).filter fun j ↦ (get? j (put k d below)).isNone) =
        (rest.map Prod.fst).filter fun j ↦ (get? j below).isNone := by
      intro d
      refine List.filter_congr fun j hj ↦ ?_
      rw [get?_put hk, equal_comm hk, equal_of_get?_eq_none hnew hj, if_neg Bool.false_ne_true]
    rw [merge, ih hrest, hsame, map_fst_put, List.append_assoc, List.map_cons, List.filter_cons]
    cases get? k below <;> simp

/-- Something is found in a merge if it is found in one of the two mappings. -/
theorem isSome_get?_merge (h : keysApart above = true) (a : Datum) :
    (get? a (merge below above)).isSome = ((get? a below).isSome || (get? a above).isSome) := by
  rw [get?_merge h]
  cases get? a above <;> simp

/-! ### Merging twice -/

mutual

/-- A value that was merged absorbs the same value again. -/
theorem mergeValue_mergeValue : ∀ {v : Datum}, v.isNested = true →
    ∀ x, mergeValue (some (mergeValue x v)) v = mergeValue x v
  | .dict above, h, x => by
    obtain ⟨hapart, hnested⟩ := isNested_dict_iff.1 h
    -- What stands below is another mapping, or the upper mapping itself if none was there.
    have habsorbs : ∀ below, (∀ e ∈ above, ∃ y, get? e.1 below = some (mergeValue y e.2)) →
        merge below above = below := fun below ↦ merge_eq_left hnested
    by_cases hx : ∃ es, x = some (.dict es)
    · obtain ⟨es, rfl⟩ := hx
      rw [mergeValue_dict_dict, mergeValue_dict_dict, habsorbs]
      intro e he
      exact ⟨get? e.1 es, by rw [get?_merge hapart, get?_of_mem hapart he]⟩
    · rw [mergeValue_eq_right fun es _ hes ↦ absurd ⟨es, hes⟩ hx, mergeValue_dict_dict, habsorbs]
      intro e he
      exact ⟨none, by rw [get?_of_mem hapart he, mergeValue_none]⟩
  | .null, _, _ | .bool _, _, _ | .int _, _, _ | .float _, _, _ | .text _, _, _
  | .octets _, _, _ | .list _, _, _ | .tuple _, _, _ | .word _, _, _ | .id _, _, _
  | .money _, _, _ | .foreign .., _, _ => by
    rw [mergeValue_of_asDict?_eq_none rfl, mergeValue_of_asDict?_eq_none rfl]

/-- A mapping that holds what a merge leaves under the keys of the upper mapping is not changed by
it. -/
theorem merge_eq_left : ∀ {above : List (Datum × Datum)}, haveNested above = true →
    ∀ {below}, (∀ e ∈ above, ∃ y, get? e.1 below = some (mergeValue y e.2)) →
      merge below above = below
  | [], _, _, _ => by rw [merge]
  | (k, v) :: above, h, below, hholds => by
    obtain ⟨hv, habove⟩ := haveNested_cons_iff.1 h
    obtain ⟨y, hy⟩ := hholds (k, v) List.mem_cons_self
    have hput : put k (mergeValue (get? k below) v) below = below := by
      rw [hy, mergeValue_mergeValue hv]
      exact put_of_get?_eq_some hy
    rw [merge, hput]
    exact merge_eq_left habove fun e he ↦ hholds e (List.mem_cons_of_mem _ he)

end

/-- **Merging the same mapping twice is merging it once.** -/
theorem merge_merge (h : (dict above).isNested = true) (below : List (Datum × Datum)) :
    merge (merge below above) above = merge below above := by
  have hvalue := mergeValue_mergeValue h (some (.dict below))
  rw [mergeValue_dict_dict, mergeValue_dict_dict] at hvalue
  exact dict.inj hvalue

/-! ### Paths -/

/-- What a path leads to from a value. -/
def beneath? (path : List Datum) : Datum → Option Datum
  | .dict es => lookup? path es
  | d => if path.isEmpty then some d else none

@[simp]
theorem beneath?_nil (d : Datum) : beneath? [] d = some d := by
  cases d <;> rfl

/-- A path is followed by its first key, and then by the rest. -/
theorem lookup?_cons (a : Datum) (path : List Datum) (es : List (Datum × Datum)) :
    lookup? (a :: path) es = (get? a es).bind (beneath? path) := by
  cases path with
  | nil => cases h : get? a es <;> simp [lookup?, h]
  | cons b path =>
    rw [lookup?]
    cases get? a es with
    | none => rfl
    | some d => cases d <;> rfl

/-- A path is followed in two parts. -/
theorem lookup?_append (path more : List Datum) (es : List (Datum × Datum)) :
    lookup? (path ++ more) es = (lookup? path es).bind (beneath? more) := by
  induction path generalizing es with
  | nil => rfl
  | cons a path ih =>
    rw [List.cons_append, lookup?_cons, lookup?_cons, Option.bind_assoc]
    congr 1
    funext d
    cases d with
    | dict fs => exact ih fs
    | _ => cases path <;> simp [beneath?]

/-- What a path leads to in a nested mapping is nested. -/
theorem isNested_of_lookup? {path : List Datum} (h : (dict es).isNested = true)
    (hd : lookup? path es = some d) : d.isNested = true := by
  induction path generalizing es with
  | nil => exact Option.some.inj hd ▸ h
  | cons a path ih =>
    rw [lookup?_cons] at hd
    obtain ⟨c, hc, hcd⟩ := Option.bind_eq_some_iff.1 hd
    have hnested : c.isNested = true := isNested_of_get? (isNested_dict_iff.1 h).2 hc
    cases c with
    | dict fs => exact ih hnested hcd
    | _ =>
      cases path with
      | nil => exact Option.some.inj hcd ▸ hnested
      | cons => cases hcd

/-- Every proper beginning of the path leads to mappings on both sides. -/
def IsShared (path : List Datum) (below above : List (Datum × Datum)) : Prop :=
  ∀ front, front <+: path → front ≠ path →
    (∃ es, lookup? front below = some (dict es)) ∧ ∃ fs, lookup? front above = some (dict fs)

/-- A path of two keys or more is shared if mappings stand under its first key, and the rest is
shared by these. -/
theorem IsShared.tail {path : List Datum} (h : IsShared (a :: b :: path) below above) :
    ∃ es fs, get? a below = some (dict es) ∧ get? a above = some (dict fs) ∧
      IsShared (b :: path) es fs := by
  obtain ⟨⟨es, hes⟩, ⟨fs, hfs⟩⟩ := h [a] (by simp) (by simp)
  refine ⟨es, fs, hes, hfs, fun front hfront hne ↦ ?_⟩
  have hcons := h (a :: front) (List.cons_prefix_cons.2 ⟨rfl, hfront⟩) (by simpa using hne)
  rw [lookup?_cons, lookup?_cons, show get? a below = _ from hes,
    show get? a above = _ from hfs] at hcons
  exact hcons

/-- A path of one key is shared. -/
theorem isShared_singleton (a : Datum) : IsShared [a] below above := by
  intro front hfront hne
  cases front with
  | nil => exact ⟨⟨below, rfl⟩, ⟨above, rfl⟩⟩
  | cons b front =>
    obtain ⟨rfl, hrest⟩ := List.cons_prefix_cons.1 hfront
    exact absurd (List.prefix_nil.1 hrest ▸ rfl) hne

/-- A path may be entered where mappings stand on both sides. -/
theorem IsShared.cons {path : List Datum} (hes : get? a below = some (dict es))
    (hfs : get? a above = some (dict fs)) (h : IsShared path es fs) :
    IsShared (a :: path) below above := by
  intro front hfront hne
  cases front with
  | nil => exact ⟨⟨below, rfl⟩, ⟨above, rfl⟩⟩
  | cons b front =>
    obtain ⟨rfl, hrest⟩ := List.cons_prefix_cons.1 hfront
    rw [lookup?_cons, lookup?_cons, hes, hfs]
    exact h front hrest fun heq ↦ hne (heq ▸ rfl)

/-- **What a merge holds at a shared path** is what it holds under a key: the upper value, merged
with the lower one if both are mappings, or else the lower value. -/
theorem lookup?_merge {path : List Datum} (habove : (dict above).isNested = true)
    (h : IsShared path below above) :
    lookup? path (merge below above) =
      match lookup? path above with
      | some v => some (mergeValue (lookup? path below) v)
      | none => lookup? path below := by
  induction path generalizing below above with
  | nil =>
    show some (dict (merge below above)) = some (mergeValue (some (dict below)) (dict above))
    rw [mergeValue_dict_dict]
  | cons a path ih =>
    obtain ⟨hapart, hnested⟩ := isNested_dict_iff.1 habove
    cases path with
    | nil => exact get?_merge hapart a
    | cons b path =>
      obtain ⟨es, fs, hes, hfs, hshared⟩ := h.tail
      have hget : get? a (merge below above) = some (dict (merge es fs)) := by
        rw [get?_merge hapart, hfs, hes, ← mergeValue_dict_dict]
      rw [lookup?_cons, lookup?_cons, lookup?_cons, hget, hes, hfs]
      exact ih (isNested_of_get? hnested hfs) hshared

/-- What a merge holds at the end of a path, in terms of what the two sides hold there. -/
structure MergedAt (path : List Datum) (below above : List (Datum × Datum)) : Prop where
  /-- Where two mappings meet, the keys are those of both, the lower ones in their order and then
  the new ones. -/
  mapping : ∀ es fs, lookup? path below = some (.dict es) → lookup? path above = some (.dict fs) →
    ∃ ms, lookup? path (merge below above) = some (.dict ms) ∧
      ms.map Prod.fst = es.map Prod.fst ++ (fs.map Prod.fst).filter (fun k ↦ (get? k es).isNone) ∧
      ∀ a, (get? a ms).isSome = ((get? a es).isSome || (get? a fs).isSome)
  /-- Elsewhere the upper value stands, or else the lower one. -/
  chosen : (∀ es fs, lookup? path below = some (.dict es) → lookup? path above ≠ some (.dict fs)) →
    lookup? path (merge below above) = (lookup? path above).or (lookup? path below)
  /-- Further down it is the side chosen that is found. -/
  beneath : (∀ es fs, lookup? path below = some (.dict es) → lookup? path above ≠ some (.dict fs)) →
    ∀ more, lookup? (path ++ more) (merge below above) =
      if (lookup? path above).isSome then lookup? (path ++ more) above
      else lookup? (path ++ more) below

/-- A merge holds at a shared path what it has to. -/
theorem mergedAt {path : List Datum} (habove : (dict above).isNested = true)
    (h : IsShared path below above) : MergedAt path below above := by
  have hmerge := lookup?_merge habove h
  have hchosen :
      (∀ es fs, lookup? path below = some (.dict es) → lookup? path above ≠ some (.dict fs)) →
      lookup? path (merge below above) = (lookup? path above).or (lookup? path below) := by
    intro hnot
    rw [hmerge]
    cases hup : lookup? path above with
    | none => rfl
    | some v =>
      exact congrArg some (mergeValue_eq_right fun es fs hes hv ↦ hnot es fs hes (hv ▸ hup))
  refine ⟨fun es fs hes hfs ↦ ?_, hchosen, fun hnot more ↦ ?_⟩
  · have hapart : keysApart fs = true := (isNested_dict_iff.1 (isNested_of_lookup? habove hfs)).1
    refine ⟨merge es fs, ?_, map_fst_merge hapart, isSome_get?_merge hapart⟩
    rw [hmerge, hes, hfs]
    exact congrArg some (mergeValue_dict_dict es fs)
  · rw [lookup?_append, lookup?_append, lookup?_append, hchosen hnot]
    cases lookup? path above <;> rfl

end CatalogQuery.Datum
