import CatalogQuery.Proofs.Merging
import Mathlib.Data.Option.Basic

/-!
# Merging where mappings are shared

A program keeps its mappings in a store and refers to them by their places, so that a mapping may be
part of several others and a change of it shows in all of them. `MappingStore.mergeAt` is the merge
as it runs there: it copies the lower mapping to a new place, without what stands inside, and
changes the copy entry by entry while the mappings inside are still those of the two arguments.

The store reads as data (`MappingStore.Reads`) without certain places, which are the copies that are
being changed. Nothing that was read so is touched by the changes (`MappingStore.Reads.mono`). It
follows that a merge in the store comes to an end, that its result reads as the merge of the data,
and that every mapping of the store stays as it was (`MappingStore.OverlaysAs.mergeAt`,
`MappingStore.overlaysAs`).

## Why there is a store

On data, that a merge leaves its arguments as they are says nothing, because data do not change. In
a program the copy that a merge makes shares its inner mappings with the lower argument, and a
careless merge would write into them. The store makes this visible: a mapping is a place, and
whoever holds the place sees what is written there.

## How reading is framed

`Reads keep s x d` says that what is held reads as `d` and that all places that are used on the way
are among those to be kept. While a copy is changed its own place is not kept, so what reads without
it reads the same after the change. Everything else is found again because the store only grows.
Since a mapping of the store could contain itself, reading it as data is a hypothesis; data are
finite, and this is also why the merge comes to an end. The functions of the store are partial, and
their results are options.
-/

namespace CatalogQuery

/-- What stands under a key of a mapping in the store. -/
inductive Held where
  /-- A value that is no mapping. -/
  | value (d : Datum)
  /-- The place of a mapping. -/
  | place (n : Nat)

/-- The mappings by their places. -/
abbrev MappingStore := List (List (Datum × Held))

namespace MappingStore

open Datum

variable {s t : MappingStore} {keep keep' : Nat → Prop} {k d : Datum} {x : Held}
  {xs ys : List (Datum × Held)} {es above below : List (Datum × Datum)} {n place : Nat}

/-! ### Running in the store -/

/-- What stands under a key. -/
def held? (key : Datum) (xs : List (Datum × Held)) : Option Held :=
  (xs.find? fun e ↦ e.1.equal key).map Prod.snd

/-- Entries with something put under a key: in the place of the key if it is there, else at the
end. -/
def hold (key : Datum) (x : Held) : List (Datum × Held) → List (Datum × Held)
  | [] => [(key, x)]
  | (k, y) :: xs => if k.equal key then (k, x) :: xs else (k, y) :: hold key x xs

/-- The store with one more mapping. -/
def add (s : MappingStore) (xs : List (Datum × Held)) : MappingStore :=
  s ++ [xs]

/-- The store with the mapping at a place changed. -/
def change (s : MappingStore) (place : Nat) (f : List (Datum × Held) → List (Datum × Held)) :
    MappingStore :=
  s.modify place f

mutual

/-- The mapping at `above` laid over a copy of the one at `below`: the place of the copy, and the
store. -/
def mergeAt (below above : Nat) (s : MappingStore) : Option (Nat × MappingStore) := do
  let xs ← s[below]?
  let ys ← s[above]?
  let s' ← s.add xs |>.overlay s.length ys
  return (s.length, s')
partial_fixpoint

/-- Entries laid over the mapping at a place, which they change. -/
def overlay (place : Nat) (entries : List (Datum × Held)) (s : MappingStore) :
    Option MappingStore :=
  match entries with
  | [] => some s
  | (k, y) :: ys => do
    let xs ← s[place]?
    match held? k xs, y with
    | some (.place below), .place above =>
      let (merged, s') ← s |>.mergeAt below above
      s'.change place (hold k (.place merged)) |>.overlay place ys
    | _, _ => s.change place (hold k y) |>.overlay place ys
partial_fixpoint

end

theorem getElem?_change_self (s : MappingStore) (place : Nat)
    (f : List (Datum × Held) → List (Datum × Held)) :
    (s.change place f)[place]? = s[place]?.map f :=
  List.getElem?_modify_eq f place s

theorem getElem?_change_ne (f : List (Datum × Held) → List (Datum × Held)) (hne : n ≠ place) :
    (s.change place f)[n]? = s[n]? :=
  List.getElem?_modify_ne f s hne.symm

theorem length_change (s : MappingStore) (place : Nat)
    (f : List (Datum × Held) → List (Datum × Held)) :
    (s.change place f).length = s.length :=
  List.length_modify f s place

/-- Two mappings that meet are merged first. -/
theorem overlay_of_both {p q : Nat} (hget : s[place]? = some xs)
    (hk : held? k xs = some (.place p)) :
    overlay place ((k, .place q) :: ys) s =
      (mergeAt p q s).bind fun r ↦ overlay place ys (r.2.change place (hold k (.place r.1))) := by
  rw [overlay, hget]
  simp only [Option.bind_eq_bind, Option.bind_some, hk]

/-- Anything else is put as it is. -/
theorem overlay_of_not_both (hget : s[place]? = some xs)
    (hk : ∀ p q, held? k xs = some (.place p) → x ≠ .place q) :
    overlay place ((k, x) :: ys) s = overlay place ys (s.change place (hold k x)) := by
  rw [overlay, hget]
  simp only [Option.bind_eq_bind, Option.bind_some]

/-! ### Reading the store -/

mutual

/-- What is held reads as a value, and no place is used that is not to be kept. -/
inductive Reads (keep : Nat → Prop) (s : MappingStore) : Held → Datum → Prop
  /-- A value that is no mapping stands for itself. -/
  | value {d : Datum} (h : d.asDict? = none) : Reads keep s (.value d) d
  /-- A place stands for the mapping that is held there. -/
  | place {n : Nat} {xs : List (Datum × Held)} {es : List (Datum × Datum)} (hkeep : keep n)
      (hget : s[n]? = some xs) (h : ReadsAll keep s xs es) : Reads keep s (.place n) (.dict es)

/-- Entries of the store read as entries under the same keys. -/
inductive ReadsAll (keep : Nat → Prop) (s : MappingStore) :
    List (Datum × Held) → List (Datum × Datum) → Prop
  /-- No entries. -/
  | nil : ReadsAll keep s [] []
  /-- One entry, under the key that it has. -/
  | cons {k d : Datum} {x : Held} {xs : List (Datum × Held)} {es : List (Datum × Datum)}
      (hx : Reads keep s x d) (h : ReadsAll keep s xs es) :
      ReadsAll keep s ((k, x) :: xs) ((k, d) :: es)

end

mutual

/-- What was read can still be read where the mappings that were used are the same. -/
theorem Reads.mono (hst : ∀ n xs, keep n → s[n]? = some xs → keep' n ∧ t[n]? = some xs) :
    ∀ {x d}, Reads keep s x d → Reads keep' t x d
  | _, _, .value h => .value h
  | _, _, .place hkeep hget h => .place (hst _ _ hkeep hget).1 (hst _ _ hkeep hget).2 (h.mono hst)

/-- Entries that were read can still be read where the mappings that were used are the same. -/
theorem ReadsAll.mono (hst : ∀ n xs, keep n → s[n]? = some xs → keep' n ∧ t[n]? = some xs) :
    ∀ {xs es}, ReadsAll keep s xs es → ReadsAll keep' t xs es
  | _, _, .nil => .nil
  | _, _, .cons hx h => .cons (hx.mono hst) (h.mono hst)

end

/-- What reads as a mapping is a place. -/
theorem Reads.exists_place (h : Reads keep s x (.dict es)) : ∃ n, x = .place n := by
  cases h with
  | value h => cases h
  | place => exact ⟨_, rfl⟩

/-- What stands under a key reads as what is found there. -/
theorem ReadsAll.held? (h : ReadsAll keep s xs es) (a : Datum) :
    Option.Rel (Reads keep s) (held? a xs) (get? a es) := by
  induction es generalizing xs with
  | nil =>
    cases h
    exact .none
  | cons e es ih =>
    cases h with
    | @cons k d x xs es hx h =>
      rw [get?_cons, MappingStore.held?, List.find?_cons]
      cases hk : k.equal a with
      | true => exact .some hx
      | false => exact ih h

/-- Entries read as before where something was put that reads as what was put. -/
theorem ReadsAll.hold (h : ReadsAll keep s xs es) (hx : Reads keep s x d) (k : Datum) :
    ReadsAll keep s (hold k x xs) (put k d es) := by
  induction es generalizing xs with
  | nil =>
    cases h
    exact .cons hx .nil
  | cons e es ih =>
    cases h with
    | @cons j c y ys es hy h =>
      rw [MappingStore.hold, put]
      split
      · exact .cons hx h
      · exact .cons hy (ih h)

/-- All mappings of the first store are the same in the second one. -/
def Extends (s t : MappingStore) : Prop :=
  ∀ (n : Nat) (xs : List (Datum × Held)), s[n]? = some xs → t[n]? = some xs

/-- A store that has all mappings of another one has at least as many. -/
theorem Extends.length_le (h : Extends s t) : s.length ≤ t.length := by
  by_contra hlt
  have ht : t[t.length]? = some _ :=
    h _ _ (List.getElem?_eq_getElem (show t.length < s.length by omega))
  simp at ht

theorem extends_add (s : MappingStore) (xs : List (Datum × Held)) : Extends s (s.add xs) :=
  fun n _ hget ↦ by rw [add, List.getElem?_append_left (List.getElem?_eq_some_iff.1 hget).1, hget]

/-- A mapping that is changed makes no difference to what is read without it. -/
theorem ReadsAll.change (h : ReadsAll keep t xs es) (hplace : ¬ keep place)
    (f : List (Datum × Held) → List (Datum × Held)) : ReadsAll keep (t.change place f) xs es := by
  refine h.mono fun n ws hn hget ↦ ⟨hn, ?_⟩
  rw [getElem?_change_ne _ fun h : n = place ↦ hplace (h ▸ hn), hget]

/-! ### What a merge does to the store -/

/-- Entries that read as the given ones, laid over a mapping, make it read as the merge. No other
mapping that was there is changed, and the place of the one that is changed is none that is read. -/
def OverlaysAs (above : List (Datum × Datum)) : Prop :=
  ∀ ⦃keep : Nat → Prop⦄ ⦃s : MappingStore⦄ ⦃place : Nat⦄ ⦃xs ys : List (Datum × Held)⦄
    ⦃below : List (Datum × Datum)⦄,
    (∀ n, s.length ≤ n → keep n) → ¬ keep place → s[place]? = some xs → ReadsAll keep s xs below →
      ReadsAll keep s ys above →
        ∃ t zs, overlay place ys s = some t ∧ t[place]? = some zs ∧
          ReadsAll keep t zs (merge below above) ∧
          ∀ (n : Nat) ws, n ≠ place → s[n]? = some ws → t[n]? = some ws

/-- A merge whose overlay is right is right: the copy is new, so nothing that can be read uses its
place. -/
theorem OverlaysAs.mergeAt (habove : OverlaysAs above) (hnew : ∀ n, s.length ≤ n → keep n)
    {p q : Nat} (hp : Reads keep s (.place p) (.dict below))
    (hq : Reads keep s (.place q) (.dict above)) :
    ∃ t, mergeAt p q s = some (s.length, t) ∧ Extends s t ∧
      Reads keep t (.place s.length) (.dict (merge below above)) := by
  cases hp with
  | @place _ xs _ _ hxs hbelow =>
    cases hq with
    | @place _ ys _ _ hys hread =>
      -- While the copy is changed nothing is read that uses its place; afterwards it may be used
      -- again.
      have hcopied : ∀ (n : Nat) ws, keep n → s[n]? = some ws →
          (keep n ∧ n ≠ s.length) ∧ (s.add xs)[n]? = some ws := by
        intro n ws hn hget
        have hlt : n < s.length := (List.getElem?_eq_some_iff.1 hget).1
        exact ⟨⟨hn, by omega⟩, extends_add s xs n ws hget⟩
      have hnew' : ∀ n, (s.add xs).length ≤ n → keep n ∧ n ≠ s.length := by
        intro n hn
        rw [add, List.length_append, List.length_singleton] at hn
        exact ⟨hnew n (by omega), by omega⟩
      obtain ⟨t, zs, ht, hzs, hmerged, hothers⟩ :=
        habove hnew' (fun h ↦ h.2 rfl) List.getElem?_concat_length (hbelow.mono hcopied)
          (hread.mono hcopied)
      refine ⟨t, ?_, ?_, .place (hnew _ (Nat.le_refl _)) hzs
        (hmerged.mono fun n _ hn hget ↦ ⟨hn.1, hget⟩)⟩
      · rw [MappingStore.mergeAt, hxs, hys]
        show (overlay s.length ys (s.add xs)).bind _ = _
        rw [ht]
        rfl
      · intro n ws hget
        have hlt : n < s.length := (List.getElem?_eq_some_iff.1 hget).1
        exact hothers n ws (by omega) (extends_add s xs n ws hget)

/-- **One entry of an overlay**: what is put reads as the merged value, and the store has only grown
before. -/
theorem overlay_cons (hd : ∀ fs, d = .dict fs → OverlaysAs fs) (hnew : ∀ n, s.length ≤ n → keep n)
    (hget : s[place]? = some xs) (hxs : ReadsAll keep s xs below) (hx : Reads keep s x d)
    (k : Datum) (ys : List (Datum × Held)) :
    ∃ t y, overlay place ((k, x) :: ys) s = overlay place ys (t.change place (hold k y)) ∧
      Extends s t ∧ Reads keep t y (mergeValue (get? k below) d) := by
  have hrel : Option.Rel (Reads keep s) (MappingStore.held? k xs) (get? k below) := hxs.held? k
  -- The store merges where two places meet, and the data where two mappings do; what is a place
  -- reads as a mapping.
  by_cases hboth : ∃ p q, MappingStore.held? k xs = some (.place p) ∧ x = .place q
  · obtain ⟨p, q, hk, rfl⟩ := hboth
    rw [hk] at hrel
    generalize get? k below = found at hrel ⊢
    cases hrel with
    | some hp =>
      cases hp with
      | @place _ ps es hkeep hps hes =>
        cases hx with
        | @place _ qs fs hkeep' hqs hfs =>
          obtain ⟨t, ht, hext, hmerged⟩ :=
            (hd fs rfl).mergeAt hnew (.place hkeep hps hes) (.place hkeep' hqs hfs)
          refine ⟨t, .place s.length, ?_, hext, ?_⟩
          · rw [overlay_of_both hget hk, ht]
            rfl
          · rwa [mergeValue_dict_dict]
  · have hother : ∀ es fs, get? k below = some (.dict es) → d ≠ .dict fs := by
      rintro es fs hes rfl
      rw [hes] at hrel
      generalize MappingStore.held? k xs = held at hrel hboth
      cases hrel with
      | some hp =>
        obtain ⟨p, rfl⟩ := hp.exists_place
        obtain ⟨q, rfl⟩ := hx.exists_place
        exact hboth ⟨p, q, rfl, rfl⟩
    refine ⟨s, x, overlay_of_not_both hget fun p q hk hx ↦ hboth ⟨p, q, hk, hx⟩, fun _ _ h ↦ h, ?_⟩
    rwa [mergeValue_eq_right hother]

mutual

/-- A mapping as an upper value is laid over right. -/
theorem overlaysAs_of_eq_dict : ∀ {d : Datum}, ∀ fs, d = .dict fs → OverlaysAs fs
  | .dict _, _, rfl => overlaysAs _

/-- **Laying entries over a mapping of the store is merging**, by induction on the data that the
entries read as. -/
theorem overlaysAs : ∀ above : List (Datum × Datum), OverlaysAs above
  | [] => by
    intro keep s place xs ys below _ _ hget hxs hys
    cases hys
    exact ⟨s, xs, by rw [overlay], hget, by rwa [merge], fun _ _ _ h ↦ h⟩
  | e :: above => by
    intro keep s place xs ys below hnew hplace hget hxs hys
    obtain ⟨k, d⟩ := e
    cases hys with
    | @cons _ _ x ys _ hx hys =>
      obtain ⟨t, y, hstep, hext, hy⟩ :=
        overlay_cons (fun fs hfs ↦ overlaysAs_of_eq_dict fs hfs) hnew hget hxs hx k ys
      -- The place that is changed may not be read, so both the entries and the rest of the overlay
      -- read as before.
      have hput : ReadsAll keep t (hold k y xs) (put k (mergeValue (get? k below) d) below) :=
        (hxs.mono fun n ws hn hws ↦ ⟨hn, hext n ws hws⟩).hold hy k
      have hrest : ReadsAll keep t ys above := hys.mono fun n ws hn hws ↦ ⟨hn, hext n ws hws⟩
      have hchanged : (t.change place (hold k y))[place]? = some (hold k y xs) := by
        rw [getElem?_change_self, hext place xs hget]
        rfl
      obtain ⟨t', zs, ht', hzs, hmerged, hothers⟩ := overlaysAs above
        (fun n hn ↦ hnew n (Nat.le_trans hext.length_le (by rwa [length_change] at hn)))
        hplace hchanged (hput.change hplace _) (hrest.change hplace _)
      refine ⟨t', zs, hstep.trans ht', hzs, by rwa [merge], fun n ws hn hws ↦ hothers n ws hn ?_⟩
      rw [getElem?_change_ne _ hn, hext n ws hws]

end

end MappingStore

namespace Datum

/-! ### Public contract -/

/-- **Deep merge by path.** At every path that both mappings share, the merge holds the union of two
mappings that meet, in the order of the lower one and then of the upper one, or else the upper
value, or else the lower one, and below it what the chosen side holds there. An empty upper mapping
changes nothing, and neither does a second merge of the same one. Run on mappings of a store that
read as the two, the merge ends with a mapping that reads as the result, and every mapping that the
store had, those of the two arguments and those inside them, is as it was. -/
theorem merge_by_path {above : List (Datum × Datum)} (h : (dict above).isNested = true)
    (below : List (Datum × Datum)) :
    (∀ path, IsShared path below above → MergedAt path below above) ∧ merge below [] = below ∧
      merge (merge below above) above = merge below above ∧
      ∀ (s : MappingStore) (p q : Nat), s.Reads (fun _ ↦ True) (.place p) (.dict below) →
        s.Reads (fun _ ↦ True) (.place q) (.dict above) →
          ∃ r t, MappingStore.mergeAt p q s = some (r, t) ∧
            t.Reads (fun _ ↦ True) (.place r) (.dict (merge below above)) ∧ s.Extends t := by
  refine ⟨fun path ↦ mergedAt h, by rw [merge], merge_merge h below, fun s p q hp hq ↦ ?_⟩
  obtain ⟨t, ht, hext, hmerged⟩ := (MappingStore.overlaysAs above).mergeAt (fun _ _ ↦ trivial) hp hq
  exact ⟨s.length, t, ht, hmerged, hext⟩

theorem merge_by_path_level :
    (dict [(.str "logging", .dict [(.str "level", .str "DEBUG")])]).isNested = true ∧
      lookup? [.str "logging", .str "level"]
          (merge [(.str "a", .int 1),
            (.str "logging", .dict [(.str "level", .str "INFO"), (.str "format", .str "f")])]
            [(.str "logging", .dict [(.str "level", .str "DEBUG")])]) = some (.str "DEBUG") ∧
      ∃ r t, MappingStore.mergeAt 0 1
          [[(.str "a", .value (.int 1)), (.str "logging", .place 2)], [(.str "logging", .place 3)],
            [(.str "level", .value (.str "INFO")), (.str "format", .value (.str "f"))],
            [(.str "level", .value (.str "DEBUG"))]] = some (r, t) ∧
        t[2]? = some [(.str "level", .value (.str "INFO")),
          (.str "format", .value (.str "f"))] := by
  have habove : (dict [(.str "logging", .dict [(.str "level", .str "DEBUG")])]).isNested = true :=
    rfl
  obtain ⟨hpath, -, -, hstore⟩ := merge_by_path habove
    [(.str "a", .int 1),
      (.str "logging", .dict [(.str "level", .str "INFO"), (.str "format", .str "f")])]
  have hshared := hpath [.str "logging", .str "level"] (.cons rfl rfl (isShared_singleton _))
  refine ⟨habove, hshared.chosen (fun es fs _ hfs ↦ by cases hfs), ?_⟩
  obtain ⟨r, t, ht, -, hext⟩ := hstore
    [[(.str "a", .value (.int 1)), (.str "logging", .place 2)], [(.str "logging", .place 3)],
      [(.str "level", .value (.str "INFO")), (.str "format", .value (.str "f"))],
      [(.str "level", .value (.str "DEBUG"))]] 0 1
    (.place trivial rfl (.cons (.value rfl) (.cons (.place trivial rfl
      (.cons (.value rfl) (.cons (.value rfl) .nil))) .nil)))
    (.place trivial rfl (.cons (.place trivial rfl (.cons (.value rfl) .nil)) .nil))
  exact ⟨r, t, ht, hext 2 _ rfl⟩

end Datum

end CatalogQuery
