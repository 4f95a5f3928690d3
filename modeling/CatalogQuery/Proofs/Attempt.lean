import CatalogQuery.Failure
import Mathlib.Data.List.Forall2

/-!
# Steps that may fail

A chain of steps answers a value exactly when every step does. `map_eq_ok_iff` and `bind_eq_ok_iff`
take such a chain apart from the side of its answer, `map_eq_error_iff` and `bind_eq_error_iff` from
the side of its failure; `isOk_iff` is for steps of which only the success matters.

The same step made for each element of a list answers as each of them does (`mapM_eq_ok_iff`), and
it fails as the first element for which it fails (`mapM_eq_error_iff`).

The lemmas are stated for any type of failure and any steps: the conversions of scalars, the checks
of payloads and the writers of literals are all taken apart with them, so that a proof about one of
these names the step that it is about and never unfolds the monad.

Checks of payloads differ in one way. They stand side by side and gather the issues of both sides
(`Checked.ap`), so only their success is that of a chain (`Checked.ap_eq_ok_iff`); which issues a
failure has is looked at where it matters.
-/

namespace CatalogQuery.Attempt

variable {ε α β : Type} {x : Except ε α} {b : β}

/-- A step that is changed afterwards answers what the step itself answered, changed. -/
theorem map_eq_ok_iff {f : α → β} : x.map f = .ok b ↔ ∃ a, x = .ok a ∧ f a = b := by
  cases x <;> simp [Except.map]

theorem bind_eq_ok_iff {f : α → Except ε β} :
    (x >>= f) = .ok b ↔ ∃ a, x = .ok a ∧ f a = .ok b := by
  cases x <;> simp [bind, Except.bind]

theorem map_eq_error_iff {f : α → β} {e : ε} : x.map f = .error e ↔ x = .error e := by
  cases x <;> simp [Except.map]

/-- Two steps in a row fail as the first does, or else as the second does on the answer of the
first. -/
theorem bind_eq_error_iff {f : α → Except ε β} {e : ε} :
    (x >>= f) = .error e ↔ x = .error e ∨ ∃ a, x = .ok a ∧ f a = .error e := by
  cases x <;> simp [bind, Except.bind]

@[simp] theorem isOk_ok (a : α) : (Except.ok a : Except ε α).isOk = true :=
  rfl

@[simp] theorem isOk_error (e : ε) : (Except.error e : Except ε α).isOk = false :=
  rfl

/-- An answer survives when the reason of a failure is forgotten. -/
theorem toOption_eq_some_iff {a : α} : x.toOption = some a ↔ x = .ok a := by
  cases x <;> simp [Except.toOption]

/-- A step succeeds exactly if there is something that it answers. -/
theorem isOk_iff : x.isOk = true ↔ ∃ a, x = .ok a := by
  cases x <;> simp

/-- Steps for the elements of a list answer as each of them does. -/
theorem mapM_eq_ok_iff {f : α → Except ε β} :
    ∀ {xs : List α} {ys : List β}, xs.mapM f = .ok ys ↔ List.Forall₂ (fun x y ↦ f x = .ok y) xs ys
  | [], ys => by
    rw [List.forall₂_nil_left_iff]
    constructor
    · rintro ⟨⟩
      rfl
    · rintro rfl
      rfl
  | x :: xs, ys => by
    rw [List.mapM_cons, bind_eq_ok_iff, List.forall₂_cons_left_iff]
    constructor
    · rintro ⟨y, hy, h⟩
      obtain ⟨zs, hzs, h⟩ := bind_eq_ok_iff.1 h
      cases h
      exact ⟨y, zs, hy, mapM_eq_ok_iff.1 hzs, rfl⟩
    · rintro ⟨y, zs, hy, hzs, rfl⟩
      exact ⟨y, hy, bind_eq_ok_iff.2 ⟨zs, mapM_eq_ok_iff.2 hzs, rfl⟩⟩

/-- **The first step that fails decides.** -/
theorem mapM_eq_error_iff {f : α → Except ε β} {e : ε} :
    ∀ {xs : List α}, xs.mapM f = .error e ↔
      ∃ before x after, xs = before ++ x :: after ∧ (∃ ys, before.mapM f = .ok ys) ∧ f x = .error e
  | [] => by
    refine ⟨nofun, ?_⟩
    rintro ⟨before, x, after, h, -⟩
    cases before <;> cases h
  | x :: xs => by
    rw [List.mapM_cons, bind_eq_error_iff]
    constructor
    · rintro (hx | ⟨y, hy, h⟩)
      · exact ⟨[], x, xs, rfl, ⟨[], rfl⟩, hx⟩
      · -- The head answered, so the step that failed lies in the tail, and what was made before it
        -- now includes the head.
        rcases bind_eq_error_iff.1 h with hxs | ⟨_, -, h⟩
        · obtain ⟨before, z, after, rfl, ⟨ys, hys⟩, hz⟩ := mapM_eq_error_iff.1 hxs
          refine ⟨x :: before, z, after, rfl, ⟨y :: ys, ?_⟩, hz⟩
          exact mapM_eq_ok_iff.2 (.cons hy (mapM_eq_ok_iff.1 hys))
        · cases h
    · rintro ⟨before, z, after, h, ⟨ys, hys⟩, hz⟩
      cases before with
      | nil =>
        cases h
        exact .inl hz
      | cons w before =>
        cases h
        -- The head is among those before the failing element, hence it answered; the failure is
        -- that of the tail.
        obtain ⟨y, zs, hy, hzs, -⟩ := List.forall₂_cons_left_iff.1 (mapM_eq_ok_iff.1 hys)
        refine .inr ⟨y, hy, bind_eq_error_iff.2 (.inl ?_)⟩
        exact mapM_eq_error_iff.2 ⟨before, z, after, rfl, ⟨zs, mapM_eq_ok_iff.2 hzs⟩, hz⟩

/-- Every answer of a step that was made for each element is the answer for one of them. -/
theorem mem_of_mapM_eq_ok {f : α → Except ε β} {xs : List α} {ys : List β}
    (h : xs.mapM f = .ok ys) :
    ∀ y ∈ ys, ∃ x ∈ xs, f x = .ok y := by
  have hanswers := mapM_eq_ok_iff.1 h
  -- The induction is on the pairing of elements and answers, not on the list: the answers come with
  -- it.
  clear h
  induction hanswers with
  | nil => simp
  | cons hy _ ih =>
    refine List.forall_mem_cons.2 ⟨⟨_, List.mem_cons_self, hy⟩, fun y' hy' ↦ ?_⟩
    obtain ⟨x', hx', hfx'⟩ := ih y' hy'
    exact ⟨x', List.mem_cons_of_mem _ hx', hfx'⟩

/-- Steps that answer for every element answer for all of them. -/
theorem mapM_map_eq_ok {γ : Type} {f : α → Except ε β} {g : γ → α} {k : γ → β}
    (h : ∀ c, f (g c) = .ok (k c)) : ∀ cs : List γ, (cs.map g).mapM f = .ok (cs.map k)
  | [] => rfl
  | c :: cs => by
    rw [List.map_cons, List.mapM_cons, h, mapM_map_eq_ok h cs]
    rfl

end CatalogQuery.Attempt

/-! ### Checks side by side -/

namespace CatalogQuery.Checked

variable {α β : Type} {b : β} {c : Checked α} {a : α}

/-- Two checks side by side succeed exactly if both do. -/
theorem ap_eq_ok_iff {f : Checked (α → β)} :
    ap f c = .ok b ↔ ∃ g a, f = .ok g ∧ c = .ok a ∧ g a = b := by
  cases f <;> cases c <;> simp [ap]

/-- The place under which a check reports its issues has no part in its success. -/
theorem under_eq_ok_iff {segment : String} : under segment c = .ok a ↔ c = .ok a := by
  cases c <;> simp [under]

end CatalogQuery.Checked
