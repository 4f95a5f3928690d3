import CatalogQuery.Credentials
import Mathlib.Data.List.Induction

/-!
# What credentials keep over a run

A run interleaves calls for a grant, drops of the kept one and changes of the settings. What is kept
after a run is told by its history: it was granted at the last call that filled the cache, under the
settings of that time, unless it was dropped since. `Credentials.fills` says which calls fill the
cache, `Credentials.Undisturbed` that nothing after such a call fills or drops it again, and
`Credentials.kept_run_iff` is the invariant that relates the cache to the whole run.

`Credentials.run_grants` is the public contract: what a call gives after any run, and what it leaves
in the cache, failed calls included.

## The step and the run

`Credentials.Calls` has one constructor for each way in which a call can end, with the credentials
that it leaves. All facts about one call are read off it: what is kept, that the settings stay, what
was granted and when there was a failure. None of the later proofs looks at how a call is made.

For the run there are two inductions, in opposite directions. What is kept is about the **last**
event that did something to the cache, so `Credentials.kept_run_iff` takes events away from the end
of the run. That a grant is still kept is about what happens to it from then on
(`Credentials.isAuthenticated_run`), and goes forward.

## Grants are told apart

Each grant carries the number under which it was issued, so a kept grant that is given again is the
same grant and not just one with equal headers. `Credentials.LastFill` names the credentials at the
time of the grant; its header is theirs, even where the settings have been changed since.
-/

namespace CatalogQuery

namespace Credentials

/-! ### Runs

A run is a list of events in order. Failures of calls are no events of their own: a call that fails
leaves credentials like any other, so a run goes on after it.
-/

/-- What is done with credentials. -/
inductive Event where
  /-- A grant is asked for. -/
  | get (force : Bool)
  /-- The kept grant is dropped. -/
  | clear
  /-- A setting is changed. -/
  | change (d : CredentialSettings.Change)

/-- The credentials after an event. -/
def apply (c : Credentials) : Event → Credentials
  | .get force => (c.get force).2
  | .clear => c.clear
  | .change d => c.change d

/-- The credentials after a run. -/
def run (c : Credentials) (es : List Event) : Credentials :=
  es.foldl apply c

/-- The settings after the changes of a run. -/
def settingsAfter (s : CredentialSettings) (es : List Event) : CredentialSettings :=
  es.foldl (fun s e ↦ match e with
    | .change d => s.change d
    | .get _ | .clear => s) s

variable {c : Credentials} {es : List Event} {e : Event} {force : Bool} {g : Grant}

theorem run_append (c : Credentials) (es fs : List Event) : c.run (es ++ fs) = (c.run es).run fs :=
  List.foldl_append

theorem run_append_singleton (c : Credentials) (es : List Event) (e : Event) :
    c.run (es ++ [e]) = (c.run es).apply e :=
  run_append c es [e]

/-! ### One call

A call is decided by four questions: whether authentication is on, whether grants are kept, whether
one is kept, and whether a fresh one is demanded. If it comes to a new grant, the settings may still
refuse one.
-/

/-- The grant of the header that the settings name, with the token that they hold. -/
def fresh (c : Credentials) : Grant :=
  ⟨c.issued, [(c.settings.headerName, c.settings.token)]⟩

/-- A call fills the cache: it makes a grant from the settings, and keeping is on. -/
def fills (c : Credentials) (force : Bool) : Prop :=
  c.settings.enabled = true ∧ c.settings.caching = true ∧
    (force = true ∨ c.isAuthenticated = false) ∧ refusal? c.settings = none

/-- The kept grant is given again: keeping is on, a grant is kept, and no fresh one is demanded. -/
def Reuses (c : Credentials) (force : Bool) : Prop :=
  c.settings.caching = true ∧ force = false ∧ c.isAuthenticated = true

/-- What a call comes to. -/
inductive Calls (c : Credentials) (force : Bool) : Outcome Grant × Credentials → Prop
  /-- Authentication is off. -/
  | off (h : c.settings.enabled = false) :
      c.Calls force (.ok ⟨c.issued, []⟩, { c with issued := c.issued + 1 })
  /-- The kept grant is given again. -/
  | again {g : Grant} (henabled : c.settings.enabled = true) (hcaching : c.settings.caching = true)
      (hforce : force = false) (hkept : c.kept = some g) : c.Calls force (.ok g, c)
  /-- The settings grant nothing. -/
  | refused {f : Failure} (hfresh : force = true ∨ c.settings.caching = false ∨ c.kept = none)
      (henabled : c.settings.enabled = true) (h : refusal? c.settings = some f) :
      c.Calls force (.error f, c)
  /-- A new grant, which is not kept. -/
  | passed (henabled : c.settings.enabled = true) (hcaching : c.settings.caching = false)
      (h : refusal? c.settings = none) :
      c.Calls force (.ok c.fresh, { c with issued := c.issued + 1 })
  /-- A new grant, which is kept. -/
  | filled (h : c.fills force) :
      c.Calls force (.ok c.fresh, { c with kept := some c.fresh, issued := c.issued + 1 })

/-- Nothing is kept exactly if there is no grant in the cache. -/
theorem isAuthenticated_eq_false_iff : c.isAuthenticated = false ↔ c.kept = none := by
  rw [isAuthenticated]
  cases c.kept <;> simp

theorem isAuthenticated_of_kept (h : c.kept = some g) : c.isAuthenticated = true := by
  rw [isAuthenticated, h]
  rfl

/-- A call that fills the cache does not give again what was kept. -/
theorem fills.not_reuses (h : c.fills force) : ¬ c.Reuses force := by
  rintro ⟨-, hforce, hauthenticated⟩
  rcases h.2.2.1 with hforced | hempty
  · rw [hforce] at hforced
    cases hforced
  · rw [hauthenticated] at hempty
    cases hempty

/-- **How a call ends**, and what it leaves behind. -/
theorem calls_get (c : Credentials) (force : Bool) : c.Calls force (c.get force) := by
  rw [get]
  cases henabled : c.settings.enabled with
  | false => exact .off henabled
  | true =>
    cases hreuse : (if force || !c.settings.caching then none else c.kept) with
    | some g =>
      split at hreuse
      · cases hreuse
      · rename_i hon
        obtain ⟨hforce, hcaching⟩ : force = false ∧ c.settings.caching = true := by simpa using hon
        exact .again henabled hcaching hforce hreuse
    | none =>
      have hfresh : force = true ∨ c.settings.caching = false ∨ c.kept = none := by
        split at hreuse
        · rename_i hoff
          have hor : force = true ∨ c.settings.caching = false := by simpa using hoff
          exact hor.imp_right .inl
        · exact .inr (.inr hreuse)
      -- From here on a grant is made or refused; it was either demanded or there was none.
      rw [authenticate]
      cases hrefusal : refusal? c.settings with
      | some f => exact .refused hfresh henabled hrefusal
      | none =>
        cases hcaching : c.settings.caching with
        | false =>
          have hend : c.Calls force _ := .passed henabled hcaching hrefusal
          simpa [grant, fresh, hcaching] using hend
        | true =>
          have hempty : force = true ∨ c.isAuthenticated = false := by
            rw [hcaching] at hfresh
            simpa [isAuthenticated_eq_false_iff] using hfresh
          have hend : c.Calls force _ := .filled ⟨henabled, hcaching, hempty, hrefusal⟩
          simpa [grant, fresh, hcaching] using hend

/-- A call that fills the cache keeps a fresh grant. -/
theorem kept_get_of_fills (h : c.fills force) : (c.get force).2.kept = some c.fresh := by
  have hnot := h.not_reuses
  obtain ⟨henabled, hcaching, -, hgrants⟩ := h
  have hcalls := calls_get c force
  generalize c.get force = o at hcalls ⊢
  -- All other ends contradict one of the four conditions.
  cases hcalls with
  | off hoff => rw [henabled] at hoff; cases hoff
  | again _ _ hforce hkept => exact absurd ⟨hcaching, hforce, isAuthenticated_of_kept hkept⟩ hnot
  | refused _ _ hrefused => rw [hgrants] at hrefused; cases hrefused
  | passed _ hoff => rw [hcaching] at hoff; cases hoff
  | filled => rfl

/-- Any other call leaves the cache as it is. -/
theorem kept_get_of_not_fills (h : ¬ c.fills force) : (c.get force).2.kept = c.kept := by
  have hcalls := calls_get c force
  generalize c.get force = o at hcalls ⊢
  cases hcalls with
  | filled hfills => exact absurd hfills h
  | off | again | refused | passed => rfl

/-- A call does not change the settings. -/
theorem settings_get (c : Credentials) (force : Bool) : (c.get force).2.settings = c.settings := by
  have hcalls := calls_get c force
  generalize c.get force = o at hcalls ⊢
  cases hcalls <;> rfl

/-- The settings after a run are those that its changes have made. -/
theorem settings_run (c : Credentials) (es : List Event) :
    (c.run es).settings = settingsAfter c.settings es := by
  induction es generalizing c with
  | nil => rfl
  | cons e es ih =>
    cases e with
    | get force =>
      have hsettings := ih (c.get force).2
      rw [settings_get] at hsettings
      exact hsettings
    | clear => exact ih c.clear
    | change d => exact ih (c.change d)

/-! ### The cache and the history

The last fill is found from the end of a run: the last event either fills the cache, or empties it,
or leaves it as it was. So the equivalence is an induction that adds one event at the end.
-/

/-- An event fills the cache or empties it. -/
def Disturbs (c : Credentials) : Event → Prop
  | .get force => c.fills force
  | .clear => True
  | .change _ => False

/-- No event of a run fills the cache or empties it. -/
def Undisturbed (c : Credentials) : List Event → Prop
  | [] => True
  | e :: es => ¬ c.Disturbs e ∧ (c.apply e).Undisturbed es

/-- The credentials at the last call of a run that filled the cache, if the cache was not emptied
since. -/
def LastFill (c : Credentials) (es : List Event) (filled : Credentials) : Prop :=
  ∃ before force after, es = before ++ .get force :: after ∧ filled = c.run before ∧
    filled.fills force ∧ (filled.get force).2.Undisturbed after

/-- An event that neither fills nor empties the cache leaves it as it is. -/
theorem kept_apply_of_not_disturbs (h : ¬ c.Disturbs e) : (c.apply e).kept = c.kept := by
  cases e with
  | get force => exact kept_get_of_not_fills h
  | clear => exact absurd trivial h
  | change d => rfl

/-- Such events in a row leave it as it is. -/
theorem kept_run_of_undisturbed (h : c.Undisturbed es) : (c.run es).kept = c.kept := by
  induction es generalizing c with
  | nil => rfl
  | cons e es ih => exact (ih h.2).trans (kept_apply_of_not_disturbs h.1)

theorem Undisturbed.append_singleton (h : c.Undisturbed es) (he : ¬ (c.run es).Disturbs e) :
    c.Undisturbed (es ++ [e]) := by
  induction es generalizing c with
  | nil => exact ⟨he, trivial⟩
  | cons d es ih => exact ⟨h.1, ih h.2 he⟩

/-- The cache is not emptied by such events. -/
theorem Undisturbed.not_mem_clear (h : c.Undisturbed es) : .clear ∉ es := by
  induction es generalizing c with
  | nil => exact List.not_mem_nil
  | cons e es ih =>
    rw [List.mem_cons, not_or]
    refine ⟨?_, ih h.2⟩
    rintro rfl
    exact h.1 trivial

theorem run_split (c : Credentials) (before : List Event) (force : Bool) (after : List Event) :
    c.run (before ++ .get force :: after) = ((c.run before).get force).2.run after :=
  run_append c before (.get force :: after)

/-- The last fill stays the last one if the cache is left as it is. -/
theorem LastFill.append_singleton {filled : Credentials} (h : c.LastFill es filled)
    (he : ¬ (c.run es).Disturbs e) : c.LastFill (es ++ [e]) filled := by
  obtain ⟨before, force, after, rfl, rfl, hfills, hafter⟩ := h
  rw [run_split] at he
  exact ⟨before, force, after ++ [e], by simp, rfl, hfills, hafter.append_singleton he⟩

/-- **What is kept after a run is what the last call that filled the cache granted**, unless it was
dropped since. -/
theorem kept_run_iff (hc : c.kept = none) :
    (c.run es).kept = some g ↔ ∃ filled, c.LastFill es filled ∧ g = filled.fresh := by
  constructor
  · intro hkept
    induction es using List.reverseRecOn with
    | nil =>
      rw [show c.run [] = c from rfl, hc] at hkept
      cases hkept
    | append_singleton es e ih =>
      rw [run_append_singleton] at hkept
      by_cases hdisturbs : (c.run es).Disturbs e
      · cases e with
        | get force =>
          have hfilled : ((c.run es).get force).2.kept = some (c.run es).fresh :=
            kept_get_of_fills hdisturbs
          obtain rfl : (c.run es).fresh = g := Option.some.inj (hfilled.symm.trans hkept)
          exact ⟨c.run es, ⟨es, force, [], rfl, rfl, hdisturbs, trivial⟩, rfl⟩
        | clear => cases hkept
        | change d => cases hdisturbs
      · rw [kept_apply_of_not_disturbs hdisturbs] at hkept
        obtain ⟨filled, hlast, rfl⟩ := ih hkept
        exact ⟨filled, hlast.append_singleton hdisturbs, rfl⟩
  · rintro ⟨filled, ⟨before, force, after, rfl, rfl, hfills, hafter⟩, rfl⟩
    rw [run_split, kept_run_of_undisturbed hafter, kept_get_of_fills hfills]

/-- A grant is still kept if the cache was not emptied: it may have been replaced, but there is
one. -/
theorem isAuthenticated_run (h : c.isAuthenticated = true) (hclear : .clear ∉ es) :
    (c.run es).isAuthenticated = true := by
  induction es generalizing c with
  | nil => exact h
  | cons e es ih =>
    rw [List.mem_cons, not_or] at hclear
    refine ih ?_ hclear.2
    by_cases hdisturbs : c.Disturbs e
    · cases e with
      | get force => exact isAuthenticated_of_kept (kept_get_of_fills hdisturbs)
      | clear => exact absurd rfl hclear.1
      | change d => cases hdisturbs
    · rwa [isAuthenticated, kept_apply_of_not_disturbs hdisturbs]

/-- A grant is kept exactly if some call has filled the cache since it was last emptied. -/
theorem isAuthenticated_run_iff (hc : c.kept = none) :
    (c.run es).isAuthenticated = true ↔
      ∃ before force after, es = before ++ .get force :: after ∧ (c.run before).fills force ∧
        .clear ∉ after := by
  constructor
  · intro hauthenticated
    obtain ⟨g, hg⟩ := Option.isSome_iff_exists.1 hauthenticated
    obtain ⟨filled, ⟨before, force, after, hes, rfl, hfills, hafter⟩, -⟩ := (kept_run_iff hc).1 hg
    exact ⟨before, force, after, hes, hfills, hafter.not_mem_clear⟩
  · rintro ⟨before, force, after, rfl, hfills, hclear⟩
    rw [run_split]
    exact isAuthenticated_run (isAuthenticated_of_kept (kept_get_of_fills hfills)) hclear

/-! ### What is granted

The header of a fresh grant is made of the token and the name that the settings hold at the time of
the call. What is given again is the grant that was kept, so its header may be that of earlier
settings.
-/

/-- A token that is granted is not blank. -/
theorem isBlank?_of_refusal?_eq_none {s : CredentialSettings} (h : refusal? s = none) :
    s.token.isBlank? = some false := by
  rw [refusal?] at h
  split at h
  · cases h
  · split at h
    · cases h
    · cases h
    · assumption

/-- Settings of texts are refused for a blank token and for nothing else. -/
theorem refusal?_texts {s : CredentialSettings} {token name : Text} (htoken : s.token = .text token)
    (hname : s.headerName = .text name) {f : Failure} (h : refusal? s = some f) :
    f = .authentication ∧ token.isBlank = true := by
  have hasked : (Datum.text token).isBlank? = some token.isBlank := rfl
  rw [refusal?, htoken, hname, hasked] at h
  cases hblank : token.isBlank with
  | true =>
    rw [hblank] at h
    split at h <;> cases h <;> exact ⟨rfl, rfl⟩
  | false =>
    -- A text that is not blank is not empty either.
    have htruthy : (Datum.text token).isTruthy = true := by
      cases hempty : token.isEmpty with
      | false => rw [Datum.isTruthy, hempty]; rfl
      | true =>
        have hnil : token.points = [] := by simpa [Text.isEmpty] using hempty
        rw [Text.isBlank, hnil] at hblank
        cases hblank
    rw [hblank, htruthy] at h
    cases h

/-- While authentication is off there is no header, and the cache is left as it is. -/
theorem get_of_disabled (h : c.settings.enabled = false) :
    ∃ g, (c.get force).1 = .ok g ∧ g.headers = [] ∧ (c.get force).2.kept = c.kept := by
  have hcalls := calls_get c force
  generalize c.get force = o at hcalls ⊢
  cases hcalls with
  | off => exact ⟨_, rfl, rfl, rfl⟩
  | again henabled | refused _ henabled | passed henabled => rw [h] at henabled; cases henabled
  | filled hfills => exact absurd hfills.1 (by rw [h]; nofun)

/-- A call that fails leaves the cache as it is. -/
theorem get_of_error {f : Failure} (h : (c.get force).1 = .error f) :
    (c.get force).2.kept = c.kept ∧ refusal? c.settings = some f := by
  have hcalls := calls_get c force
  generalize c.get force = o at hcalls h ⊢
  cases hcalls with
  | refused _ _ hrefused =>
    cases h
    exact ⟨rfl, hrefused⟩
  | off | again | passed | filled => cases h

/-- What is granted while authentication is on was kept, or is fresh. -/
theorem get_of_ok (henabled : c.settings.enabled = true) (h : (c.get force).1 = .ok g) :
    (c.Reuses force ∧ c.kept = some g) ∨
      (¬ c.Reuses force ∧ refusal? c.settings = none ∧ g = c.fresh) := by
  have hcalls := calls_get c force
  generalize c.get force = o at hcalls h
  cases hcalls with
  | off hoff => rw [henabled] at hoff; cases hoff
  | again _ hcaching hforce hkept =>
    cases h
    exact .inl ⟨⟨hcaching, hforce, isAuthenticated_of_kept hkept⟩, hkept⟩
  | refused => cases h
  | passed _ hcaching hgrants =>
    cases h
    refine .inr ⟨?_, hgrants, rfl⟩
    rintro ⟨hon, -⟩
    rw [hon] at hcaching
    cases hcaching
  | filled hfills =>
    cases h
    exact .inr ⟨hfills.not_reuses, hfills.2.2.2, rfl⟩

/-- A call that fills the cache keeps what it gives. -/
theorem get_of_fills (h : c.fills force) :
    ∃ g, (c.get force).1 = .ok g ∧ (c.get force).2.kept = some g := by
  have hkept := kept_get_of_fills h
  cases hget : (c.get force).1 with
  | ok g =>
    rcases get_of_ok h.1 hget with ⟨hreuses, -⟩ | ⟨-, -, rfl⟩
    · exact absurd hreuses h.not_reuses
    · exact ⟨_, rfl, hkept⟩
  | error f =>
    obtain ⟨-, hrefused⟩ := get_of_error hget
    rw [h.2.2.2] at hrefused
    cases hrefused

/-! ### Public contract -/

/-- **What a call gives after any run, and what it leaves in the cache.** While authentication is
off it gives no header, and a call that fails leaves the cache as it was; a call on texts fails for
a blank token alone. Any other call gives one header with a token that is not blank: that of the
last call that filled the cache if that is given again, and else that of the settings, which are
those that the run has left. A grant is kept exactly if some call has filled the cache since it was
last emptied. -/
theorem run_grants (s : CredentialSettings) (es : List Event) (force : Bool) :
    let c := run { settings := s } es
    c.settings = settingsAfter s es ∧
      (c.isAuthenticated = true ↔
        ∃ before forced after, es = before ++ .get forced :: after ∧
          (run { settings := s } before).fills forced ∧ .clear ∉ after) ∧
      (c.settings.enabled = false → ∃ g, (c.get force).1 = .ok g ∧ g.headers = [] ∧
        (c.get force).2.kept = c.kept) ∧
      (∀ f, (c.get force).1 = .error f →
        (c.get force).2.kept = c.kept ∧
          ∀ token name, c.settings.token = .text token → c.settings.headerName = .text name →
            f = .authentication ∧ token.isBlank = true) ∧
      (∀ g, c.settings.enabled = true → (c.get force).1 = .ok g →
        ∃ name token, g.headers = [(name, token)] ∧ token.isBlank? = some false ∧
          (c.Reuses force → ∃ filled, LastFill { settings := s } es filled ∧
            name = filled.settings.headerName ∧ token = filled.settings.token) ∧
          (¬ c.Reuses force → name = c.settings.headerName ∧ token = c.settings.token)) ∧
      (c.fills force → ∃ g, (c.get force).1 = .ok g ∧ (c.get force).2.kept = some g) ∧
      (¬ c.fills force → (c.get force).2.kept = c.kept) := by
  intro c
  refine ⟨settings_run _ es, isAuthenticated_run_iff rfl, get_of_disabled, fun f hf ↦ ?_,
    fun g henabled hg ↦ ?_, get_of_fills, kept_get_of_not_fills⟩
  · obtain ⟨hkept, hrefused⟩ := get_of_error hf
    exact ⟨hkept, fun _ _ htoken hname ↦ refusal?_texts htoken hname hrefused⟩
  · rcases get_of_ok henabled hg with ⟨hreuses, hkept⟩ | ⟨hnot, hgrants, rfl⟩
    · obtain ⟨filled, hlast, rfl⟩ := (kept_run_iff rfl).1 hkept
      have hblank : filled.settings.token.isBlank? = some false := by
        obtain ⟨_, _, _, _, _, hfills, _⟩ := hlast
        exact isBlank?_of_refusal?_eq_none hfills.2.2.2
      exact ⟨_, _, rfl, hblank, fun _ ↦ ⟨filled, hlast, rfl, rfl⟩, fun hnot ↦ absurd hreuses hnot⟩
    · exact ⟨_, _, rfl, isBlank?_of_refusal?_eq_none hgrants, fun hreuses ↦ absurd hreuses hnot,
        fun _ ↦ ⟨rfl, rfl⟩⟩

end Credentials

end CatalogQuery
