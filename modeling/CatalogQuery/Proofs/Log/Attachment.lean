import CatalogQuery.Proofs.Log.Turnover

/-!
# Which handlers are attached

Two things come apart in the turnover of a manager of logging. A handler that is entered under a
name takes the name from the one that had it, which stays attached (`Displaces`); and a handler
under two names leaves the logger with the first of them, while the other still stands for it
(`TakesOff`). `LogManager.run_iff` carries such a step through a run, and `LogManager.run_accounts`
says that nothing else comes apart: after every run, the handlers of the manager that are attached
and not in the table are those that lost their name and were not entered again. These are what a
cleanup leaves attached (`LogManager.cleanup_leaves_handler`).

## From a step to a run

For a handler that others leave alone, two things can happen to what is of interest: an event brings
it about, and entering the handler undoes it. `LogManager.run_iff` is the induction for any such
property, and it is used for two of them, being detached and being lost. `LogManager.AtLast` is the
shape of the answer: some event did it, and the handler was not entered from then on.

Handlers of others are not entered by the manager and may be attached and detached by others at any
time. For these there is an induction of its own, in which the state is one truth value.

## How a handler is lost

A name can be taken over in two ways: a handler is added under a name that is in use, or setting up
enters one for the console while a handler of the caller has that name. In both cases the table
forgets the handler that had the name, and nobody detaches it.
-/

namespace CatalogQuery.LogManager

variable {m : LogManager} {i : Nat} {n : String}

/-! ### What comes apart in a turnover -/

/-- The event enters the handler. -/
def Enters (m : LogManager) (e : Event) (i : Nat) : Prop :=
  ∃ n, (m.turnover e).entering = some (n, i)

/-- The event takes the handler off the logger, under one of its names. -/
def TakesOff (m : LogManager) (e : Event) (i : Nat) : Prop :=
  ∃ n ∈ (m.turnover e).leaving, (n, i) ∈ m.table

/-- The event enters another handler under the only name of the handler, which is attached. -/
def Displaces (m : LogManager) (e : Event) (i : Nat) : Prop :=
  i ∈ m.attached ∧ ∃ n k, (m.turnover e).entering = some (n, k) ∧ k ≠ i ∧
    n ∉ (m.turnover e).leaving ∧ ∀ n', (n', i) ∈ m.table ↔ n' = n

/-- The handler is attached, and no name stands for it. -/
def IsLost (m : LogManager) (i : Nat) : Prop :=
  i ∈ m.attached ∧ i ∉ m.values

/-- A handler is detached by an event that takes it off, unless that event enters it. -/
theorem not_mem_attached_apply_iff (h : m.Orderly) (e : Event) (hothers : e.others? ≠ some i) :
    i ∉ (e.apply m).attached ↔ (i ∉ m.attached ∨ m.TakesOff e i) ∧ ¬ m.Enters e i := by
  rw [(brings_apply h e hothers).attached, not_or, not_and_or]
  refine and_congr_left fun _ ↦ or_congr_right ?_
  rw [TakesOff]
  push Not
  rfl

/-- **A handler is lost in an event exactly if it loses its only name to another**, and found again
where it is entered again. -/
theorem isLost_apply_iff (h : m.Orderly) (e : Event) (hothers : e.others? ≠ some i) :
    (e.apply m).IsLost i ↔ (m.IsLost i ∨ m.Displaces e i) ∧ ¬ m.Enters e i := by
  obtain ⟨hattached, htable⟩ := brings_apply h e hothers
  constructor
  · rintro ⟨hi, hvalues⟩
    have hnone : ∀ n, (n, i) ∉ (e.apply m).table := fun n hn ↦ hvalues (mem_values_iff.2 ⟨n, hn⟩)
    have hnot : ¬ m.Enters e i := fun ⟨n, hn⟩ ↦ hnone n ((htable n).2 (.inl hn))
    obtain ⟨hold, hkept⟩ := (hattached.1 hi).resolve_right hnot
    refine ⟨?_, hnot⟩
    by_cases hnames : i ∈ m.values
    · -- The handler had a name that did not leave, so another handler was entered under it.
      have hovertaken : ∀ n, (n, i) ∈ m.table → n ∉ (m.turnover e).leaving ∧
          ∃ k, (m.turnover e).entering = some (n, k) := by
        intro n hn
        have hleaving : n ∉ (m.turnover e).leaving := fun hleft ↦ hkept n hleft hn
        refine ⟨hleaving, ?_⟩
        by_contra hfree
        rw [not_exists] at hfree
        exact hnone n ((htable n).2 (.inr ⟨hn, hleaving, hfree⟩))
      obtain ⟨n, hn⟩ := mem_values_iff.1 hnames
      obtain ⟨hleaving, k, hk⟩ := hovertaken n hn
      have hki : k ≠ i := fun hki ↦ hnot ⟨n, hki ▸ hk⟩
      refine .inr ⟨hold, n, k, hk, hki, hleaving, fun n' ↦ ⟨fun hn' ↦ ?_, fun hn' ↦ hn' ▸ hn⟩⟩
      obtain ⟨-, k', hk'⟩ := hovertaken n' hn'
      exact congrArg Prod.fst (Option.some.inj (hk'.symm.trans hk))
    · exact .inl ⟨hold, hnames⟩
  · rintro ⟨hcause, hnot⟩
    have hentering : ∀ n, (m.turnover e).entering ≠ some (n, i) := fun n hn ↦ hnot ⟨n, hn⟩
    rcases hcause with ⟨hold, hnames⟩ | ⟨hold, n, k, hk, hki, hleaving, honly⟩
    · have hnone : ∀ n, (n, i) ∉ m.table := fun n hn ↦ hnames (mem_values_iff.2 ⟨n, hn⟩)
      refine ⟨hattached.2 (.inl ⟨hold, fun n _ ↦ hnone n⟩), fun hvalues ↦ ?_⟩
      obtain ⟨n, hn⟩ := mem_values_iff.1 hvalues
      exact ((htable n).1 hn).elim (hentering n) fun hn ↦ hnone n hn.1
    · refine ⟨hattached.2 (.inl ⟨hold, fun n' hleft hn' ↦ ?_⟩), fun hvalues ↦ ?_⟩
      · exact hleaving ((honly n').1 hn' ▸ hleft)
      · obtain ⟨n', hn'⟩ := mem_values_iff.1 hvalues
        obtain ⟨hmem, -, hfree⟩ := ((htable n').1 hn').resolve_left (hentering n')
        exact hfree k ((honly n').1 hmem ▸ hk)

/-! ### Runs -/

/-- The handlers that a run enters. -/
def entered : LogManager → List Event → List Nat
  | _, [] => []
  | m, e :: es => ((m.turnover e).entering.map Prod.snd).toList ++ entered (e.apply m) es

/-- Some event of a run does this to the handler, and neither that event nor a later one enters
it. -/
def AtLast (does : LogManager → Event → Nat → Prop) : LogManager → List Event → Nat → Prop
  | _, [], _ => False
  | m, e :: es, i => does m e i ∧ i ∉ entered m (e :: es) ∨ AtLast does (e.apply m) es i

/-- The handlers that others attach or detach in a run. -/
def othersIn (es : List Event) : List Nat :=
  es.filterMap Event.others?

/-- A run enters what its first event enters, and what the rest enters. -/
theorem mem_entered_cons {e : Event} {es : List Event} :
    i ∈ entered m (e :: es) ↔ m.Enters e i ∨ i ∈ entered (e.apply m) es := by
  rw [entered, List.mem_append, Option.mem_toList, Option.map_eq_some_iff, Enters]
  refine or_congr_left ⟨?_, fun ⟨n, hn⟩ ↦ ⟨(n, i), hn, rfl⟩⟩
  rintro ⟨⟨n, k⟩, hn, rfl⟩
  exact ⟨n, hn⟩

/-- What others leave alone in a run, they leave alone in its first event and in the rest. -/
theorem others?_ne {e : Event} {es : List Event} (h : i ∉ othersIn (e :: es)) :
    e.others? ≠ some i ∧ i ∉ othersIn es := by
  rw [othersIn, List.filterMap_cons] at h
  split at h
  · rename_i hnone
    exact ⟨by simp [hnone], h⟩
  · rename_i k hk
    rw [List.mem_cons, not_or] at h
    refine ⟨fun hi ↦ h.1 ?_, h.2⟩
    exact Option.some.inj (hi.symm.trans hk)

/-- Every run keeps the order. -/
theorem Orderly.run (h : m.Orderly) (es : List Event) : (LogManager.run m es).Orderly := by
  induction es generalizing m with
  | nil => exact h
  | cons e es ih => exact ih (h.apply e)

/-- **From a step to a run.** What an event may bring about for a handler, and entering the handler
undoes, holds after a run exactly if it held before or was brought about in the run, and the handler
was not entered since. -/
theorem run_iff (holds : LogManager → Nat → Prop) (does : LogManager → Event → Nat → Prop)
    (hstep : ∀ (m : LogManager) (e : Event) (i : Nat), m.Orderly → e.others? ≠ some i →
      (holds (e.apply m) i ↔ (holds m i ∨ does m e i) ∧ ¬ m.Enters e i))
    (h : m.Orderly) (es : List Event) (hothers : i ∉ othersIn es) :
    holds (run m es) i ↔ holds m i ∧ i ∉ entered m es ∨ AtLast does m es i := by
  induction es generalizing m with
  | nil => simp [run, entered, AtLast]
  | cons e es ih =>
    -- One event first, and then the run from there.
    obtain ⟨hfirst, hrest⟩ := others?_ne hothers
    show holds (run (e.apply m) es) i ↔ _
    rw [ih (h.apply e) hrest, hstep m e i h hfirst, AtLast, mem_entered_cons, not_or]
    constructor
    · rintro (⟨⟨hbefore | hnow, hnot⟩, hlater⟩ | hlater)
      · exact .inl ⟨hbefore, hnot, hlater⟩
      · exact .inr (.inl ⟨hnow, hnot, hlater⟩)
      · exact .inr (.inr hlater)
    · rintro (⟨hbefore, hnot, hlater⟩ | ⟨hnow, hnot, hlater⟩ | hlater)
      · exact .inl ⟨⟨.inl hbefore, hnot⟩, hlater⟩
      · exact .inl ⟨⟨.inr hnow, hnot⟩, hlater⟩
      · exact .inr hlater

/-- What others do leaves the table as it is, so its part of a turnover holds of every handler. -/
theorem mem_table_apply (h : m.Orderly) (e : Event) :
    (n, i) ∈ (e.apply m).table ↔ (m.turnover e).entering = some (n, i) ∨
      (n, i) ∈ m.table ∧ n ∉ (m.turnover e).leaving ∧
        ∀ k, (m.turnover e).entering ≠ some (n, k) := by
  cases e with
  | attach k => simp [Event.apply, attach, turnover]
  | detach id => simp [Event.apply, detach, turnover]
  | _ => exact (brings_apply h _ (by simp [Event.others?])).table n

/-- A handler comes into the table by being entered. -/
theorem mem_values_apply (h : m.Orderly) {e : Event} (hi : i ∈ (e.apply m).values) :
    i ∈ m.values ∨ m.Enters e i := by
  obtain ⟨n, hn⟩ := mem_values_iff.1 hi
  rcases (mem_table_apply h e).1 hn with hnow | ⟨hold, -⟩
  · exact .inr ⟨n, hnow⟩
  · exact .inl (mem_values_iff.2 ⟨n, hold⟩)

/-- Only handlers that were entered are in the table. -/
theorem mem_values_run (h : m.Orderly) (es : List Event) (hi : i ∈ (run m es).values) :
    i ∈ m.values ∨ i ∈ entered m es := by
  induction es generalizing m with
  | nil => exact .inl hi
  | cons e es ih =>
    rw [mem_entered_cons, ← or_assoc]
    exact (ih (h.apply e) hi).imp_left (mem_values_apply h)

/-! ### Handlers of others -/

/-- Whether others by themselves leave a handler attached that was attached or not. -/
def Event.byOthers (i : Nat) (attached : Bool) : Event → Bool
  | .attach h => attached || h.id == i
  | .detach id => attached && id != i
  | _ => attached

/-- An event that does not touch a handler leaves it attached or not, as it was. -/
theorem byOthers_of_others?_ne {e : Event} (h : e.others? ≠ some i) (b : Bool) :
    e.byOthers i b = b := by
  cases e with
  | attach k =>
    have hne : k.id ≠ i := fun hi ↦ h (hi ▸ rfl)
    simp [Event.byOthers, hne]
  | detach id =>
    have hne : id ≠ i := fun hi ↦ h (hi ▸ rfl)
    simp [Event.byOthers, hne]
  | _ => rfl

/-- What a manager does not enter, it neither attaches nor detaches. -/
theorem mem_attached_apply_of_not_enters (h : m.Orderly) {e : Event} (hvalues : i ∉ m.values)
    (hnot : ¬ m.Enters e i) {b : Bool} (hb : i ∈ m.attached ↔ b = true) :
    i ∈ (e.apply m).attached ↔ e.byOthers i b = true := by
  by_cases hothers : e.others? = some i
  · cases e with
    | attach k =>
      obtain rfl : k.id = i := Option.some.inj hothers
      simp [Event.apply, mem_attached_attach, Event.byOthers]
    | detach id =>
      obtain rfl : id = i := Option.some.inj hothers
      simp [Event.apply, detach, h.attached.mem_erase_iff, Event.byOthers]
    | _ => cases hothers
  · have hnone : ∀ n ∈ (m.turnover e).leaving, (n, i) ∉ m.table :=
      fun n _ hn ↦ hvalues (mem_values_iff.2 ⟨n, hn⟩)
    rw [byOthers_of_others?_ne hothers, (brings_apply h e hothers).attached, ← hb,
      or_iff_left (show ¬ ∃ n, (m.turnover e).entering = some (n, i) from hnot)]
    exact and_iff_left hnone

/-- A handler that was never entered is attached or not as others have left it. -/
theorem mem_attached_run_of_not_entered (h : m.Orderly) (es : List Event) (hvalues : i ∉ m.values)
    (hnot : i ∉ entered m es) {b : Bool} (hb : i ∈ m.attached ↔ b = true) :
    i ∈ (run m es).attached ↔ es.foldl (Event.byOthers i) b = true := by
  induction es generalizing m b with
  | nil => exact hb
  | cons e es ih =>
    rw [mem_entered_cons, not_or] at hnot
    have hvalues' : i ∉ (e.apply m).values := fun hi ↦ (mem_values_apply h hi).elim hvalues hnot.1
    exact ih (h.apply e) hvalues' hnot.2 (mem_attached_apply_of_not_enters h hvalues hnot.1 hb)

/-! ### Public contract -/

theorem orderly_start (logger : String) : Orderly { logger } :=
  ⟨List.nodup_nil, List.nodup_nil, fun _ hi ↦ hi.elim nofun nofun⟩

/-- The handler that setting up enters is a new one. -/
theorem not_mem_of_enters_setup (h : m.Orderly) {origin : Origin} {s : LogSettings}
    (hi : m.Enters (.setup origin s) i) : i ∉ m.attached ∧ i ∉ m.values := by
  have hfresh : i = m.freshId := by
    obtain ⟨n, hn⟩ := hi
    rw [turnover] at hn
    simp only at hn
    split at hn
    · obtain ⟨k, hk, heq⟩ := Option.map_eq_some_iff.1 hn
      cases hconsole : m.consoleHandler s with
      | error fault =>
        rw [hconsole] at hk
        cases hk
      | ok k' =>
        rw [hconsole] at hk
        cases hk
        cases heq
        exact id_of_consoleHandler hconsole
    · cases hn
  have hunknown : i ∉ m.handlers.map LogHandler.id :=
    fun hk ↦ Nat.lt_irrefl _ (hfresh ▸ lt_freshId hk)
  exact ⟨fun ha ↦ hunknown (h.known i (.inl ha)), fun hv ↦ hunknown (h.known i (.inr hv))⟩

/-- **Where the handlers of a manager are**, after every run of a manager that begins with nothing
attached, in which others attach and detach handlers at any time.

A handler that others leave alone is attached exactly if the manager entered it and did not take it
off since. It is attached without being in the table exactly if it lost its only name to another
handler and was not entered since; and it is in the table without being attached exactly if it was
taken off under one of its names and another still stands for it. A cleanup leaves attached exactly
those that lost their name, and so does setting up a configured manager, which begins with a cleanup
and enters a new handler. A handler that the manager never entered is attached exactly if others
leave it so. -/
theorem run_accounts (logger : String) (es : List Event) :
    let start : LogManager := { logger }
    let m := run start es
    (∀ i, i ∉ othersIn es →
      (i ∈ m.attached ↔ i ∈ entered start es ∧ ¬ AtLast TakesOff start es i) ∧
      (i ∈ m.attached ∧ i ∉ m.values ↔ AtLast Displaces start es i) ∧
      (i ∈ m.values ∧ i ∉ m.attached ↔ i ∈ m.values ∧ AtLast TakesOff start es i) ∧
      (i ∈ m.cleanup.attached ↔ AtLast Displaces start es i)) ∧
    m.cleanup.table = [] ∧
    (∀ origin s, (m.isConfigured = true → m.setup origin s = m.cleanup.setup origin s) ∧
      ∀ i, m.Enters (.setup origin s) i → i ∉ m.attached ∧ i ∉ m.values) ∧
    ∀ i, i ∉ entered start es → (i ∈ m.attached ↔ es.foldl (Event.byOthers i) false = true) := by
  intro start m
  have hstart : start.Orderly := orderly_start logger
  have hm : m.Orderly := hstart.run es
  refine ⟨fun i hothers ↦ ?_, table_cleanup hm,
    fun origin s ↦ ⟨fun hconfigured ↦ ?_, fun i hi ↦ ?_⟩, fun i hnot ↦ ?_⟩
  · have hoff : i ∉ m.attached ↔ i ∉ entered start es ∨ AtLast TakesOff start es i := by
      have hrun := run_iff (fun m i ↦ i ∉ m.attached) TakesOff
        (fun m e i h hother ↦ not_mem_attached_apply_iff h e hother) hstart es hothers
      rwa [show (i ∉ start.attached) = True from eq_true List.not_mem_nil, true_and] at hrun
    have hlost : i ∈ m.attached ∧ i ∉ m.values ↔ AtLast Displaces start es i := by
      have hrun := run_iff IsLost Displaces (fun m e i h hother ↦ isLost_apply_iff h e hother)
        hstart es hothers
      rwa [or_iff_right fun hbefore ↦ List.not_mem_nil hbefore.1.1] at hrun
    refine ⟨?_, hlost, ?_, ?_⟩
    · rw [← not_iff_not, hoff, not_and_or, not_not]
    · -- What is in the table was entered, so it is off the logger only if it was taken off.
      refine and_congr_right fun hvalues ↦ ?_
      rw [hoff, or_iff_right]
      exact not_not.2 ((mem_values_run hstart es hvalues).resolve_left List.not_mem_nil)
    · rw [mem_attached_cleanup hm, hlost]
  · exact setup_of_isConfigured hconfigured origin s
  · exact not_mem_of_enters_setup hm hi
  · exact mem_attached_run_of_not_entered hstart es List.not_mem_nil hnot (by simp [start])

/-- **A cleanup can leave a handler attached.** Two handlers are added under one name: the first
stays attached and is not in the table, before and after the cleanup. Nor is every handler in the
table attached: one that was added under two names and removed under one of them is not. -/
theorem cleanup_leaves_handler :
    ¬ (∀ (logger : String) (es : List Event) (i : Nat), i ∉ othersIn es →
        i ∉ (run { logger } (es ++ [.cleanup])).attached) ∧
      ¬ (∀ (logger : String) (es : List Event) (i : Nat), i ∉ othersIn es →
        i ∈ (run { logger } es).attached → i ∈ (run { logger } es).values) ∧
      ¬ ∀ (logger : String) (es : List Event) (i : Nat), i ∉ othersIn es →
        i ∈ (run { logger } es).values → i ∈ (run { logger } es).attached := by
  let first : LogHandler := { id := 1, format := .structured }
  let second : LogHandler := { id := 2, format := .structured }
  let reused : List Event := [.addHandler "file" first, .addHandler "file" second]
  let twice : List Event :=
    [.addHandler "file" first, .addHandler "audit" first, .removeHandler "file"]
  refine ⟨fun hall ↦ ?_, fun hall ↦ ?_, fun hall ↦ ?_⟩
  · exact hall "catalog" reused 1 (by decide) (by decide)
  · exact absurd (hall "catalog" reused 1 (by decide) (by decide)) (by decide)
  · exact absurd (hall "catalog" twice 1 (by decide) (by decide)) (by decide)

end CatalogQuery.LogManager
