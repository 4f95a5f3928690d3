import CatalogQuery.Proofs.LooseNumeral
import CatalogQuery.Proofs.Settings.Loading

/-!
# The timeout that a variable gives

The text of the variable for the timeout is read twice. It is first converted, as the texts of all
settings that are no texts, to a truth value, a number or the text itself (`Environment.convert`),
and the outcome is then taken by a number field, which takes truth values and has its own way with
texts (`Coerce.float`). `Timeout.Counts` lists what a text can count as after both readings: the
number that it is read as, one second for a word that means true, and the number that is left when
underscores are dropped (`Timeout.counts_of_checkTimeout`).

The variable has no say in any other setting, so settings with one text of it are those with
another, but for the timeout (`Surroundings.settingsBy_withTimeout`).

## Two readings that disagree

Both readings know numerals, and they agree on those that are written in the plain way. Apart from
these, each takes texts that the other refuses. The first one takes digits of any script and
underscores between digits, and the second one drops underscores wherever they stand next to a
digit, and takes truth values as numbers. What is taken after both is the union in `Timeout.Counts`,
with one constructor for each way. The words for false count as zero and are refused because a
timeout has to be positive.

## The other settings

That the variable changes nothing else is a statement about two environments that differ in one
variable. Their entries need not have the same order, since the timeout may be given by one of them
only. So entries are compared by what is found under each name (`Environment.Agree`), and the making
of settings is shown to look at nothing else but at which other names there are.
-/

open CatalogQuery.Attempt

namespace CatalogQuery

namespace Timeout

/-! ### What a text counts as

A number field refuses a value with a single issue, at the value itself (`checkTimeout_eq_error`).
That is why a refused text leaves issues at the timeout alone: the maker of settings puts that name
in front of the path, and there is nothing else in it.
-/

/-- The text is a word that means true, in any letters. -/
def IsOn (t : String) : Prop :=
  t.map asciiLower ∈ ["true", "yes", "on"]

/-- One second. -/
def oneSecond : Binary64 :=
  .one

/-- What the text of a variable for a number can count as. -/
inductive Counts (t : String) : Binary64 → Prop
  /-- The text is read as a number. -/
  | number {x : Binary64} (h : Numeral.float? (codePoints t.toList) = some x) : Counts t x
  /-- The text means true. -/
  | on (h : IsOn t) : Counts t oneSecond
  /-- The text is no number, but is one without its underscores. -/
  | underscored {bare : List Nat} {x : Binary64}
      (hnone : Numeral.float? (codePoints t.toList) = none)
      (hbare : Coerce.dropUnderscores? (codePoints t.toList) = some bare)
      (h : Coerce.decimal? bare = some x) : Counts t x

variable {t : String} {x : Binary64} {d : Datum}

/-- A value is taken for a timeout exactly if it is a positive number. -/
theorem checkTimeout_eq_ok_iff :
    ShopSettings.checkTimeout d = .ok x ↔ Coerce.float d = .ok x ∧ x.isPositive = true := by
  rw [ShopSettings.checkTimeout]
  cases Coerce.float d with
  | error issues => simp
  | ok y =>
    cases hy : y.isPositive with
    | false =>
      simp only [hy, Bool.false_eq_true, if_false, Checked.fail, reduceCtorEq, Except.ok.injEq,
        false_iff, not_and, Bool.not_eq_true]
      rintro rfl
      exact hy
    | true =>
      simp only [hy, if_true, Except.ok.injEq, iff_self_and]
      rintro rfl
      exact hy

/-- A text that is refused as a number is refused with one issue. -/
theorem floatOfText_eq_error {text : Text} {issues : List Issue}
    (h : Coerce.floatOfText text = .error issues) :
    ∃ kind, issues = [⟨[], kind⟩] := by
  rw [Coerce.floatOfText.eq_def] at h
  split at h
  · exact ⟨_, (Except.error.inj h).symm⟩
  · dsimp only at h
    split at h
    · cases h
    · exact ⟨_, (Except.error.inj h).symm⟩

/-- A value that is refused as a number is refused with one issue. -/
theorem float_eq_error {issues : List Issue} (h : Coerce.float d = .error issues) :
    ∃ kind, issues = [⟨[], kind⟩] := by
  rw [Coerce.float.eq_def] at h
  split at h
  · cases h
  · next n =>
    cases hn : Binary64.ofInt? n with
    | none =>
      rw [hn] at h
      exact ⟨_, (Except.error.inj h).symm⟩
    | some y =>
      rw [hn] at h
      cases h
  · cases h
  · exact floatOfText_eq_error h
  · exact floatOfText_eq_error h
  · split at h
    · exact floatOfText_eq_error h
    · exact ⟨_, (Except.error.inj h).symm⟩
  · exact ⟨_, (Except.error.inj h).symm⟩

/-- A refusal is one issue at the value itself. -/
theorem checkTimeout_eq_error {issues : List Issue}
    (h : ShopSettings.checkTimeout d = .error issues) :
    ∃ kind, issues = [⟨[], kind⟩] := by
  rw [ShopSettings.checkTimeout] at h
  split at h
  · split at h
    · cases h
    · exact ⟨_, (Except.error.inj h).symm⟩
  · next hfloat =>
    cases h
    exact float_eq_error hfloat

/-- What a number field makes of a text. -/
theorem floatOfText_eq_ok_iff :
    Coerce.floatOfText (.str t) = .ok x ↔
      Coerce.decimal? (Coerce.trim (codePoints t.toList)) = some x ∨
        Coerce.decimal? (Coerce.trim (codePoints t.toList)) = none ∧
          ∃ bare, Coerce.dropUnderscores? (codePoints t.toList) = some bare ∧
            Coerce.decimal? bare = some x := by
  rw [Coerce.floatOfText]
  -- What is left after the blanks decides; underscores are looked at only if that is no number.
  cases Coerce.decimal? (Coerce.trim (codePoints t.toList)) with
  | some y => simp
  | none =>
    cases hbare : Coerce.dropUnderscores? (codePoints t.toList) with
    | none => simp [Checked.fail]
    | some bare => cases hy : Coerce.decimal? bare <;> simp [Checked.fail, hy]

/-- A text that is left as it is counts as a number, or as one without its underscores. -/
theorem counts_of_floatOfText (h : Coerce.floatOfText (.str t) = .ok x) : Counts t x := by
  rcases floatOfText_eq_ok_iff.1 h with hx | ⟨-, bare, hbare, hx⟩
  · exact .number (Coerce.float?_of_decimal?_trim hx)
  · cases hnumber : Numeral.float? (codePoints t.toList) with
    | none => exact .underscored hnumber hbare hx
    | some y =>
      obtain rfl := Coerce.eq_of_dropUnderscores? hbare hx hnumber
      exact .number hnumber

/-- Zero is not positive, whatever its sign. -/
theorem isPositive_ofRatio_zero (negative : Bool) :
    (Binary64.ofRatio negative 0 1).isPositive = false := by
  rw [Binary64.ofRatio_zero_num]
  cases negative <;> rfl

/-- An integer counts as the number nearest to it. -/
theorem counts_of_integer? {n : Int} (h : Numeral.integer? (codePoints t.toList) = some n)
    (hx : Coerce.float (.int n) = .ok x) (hpositive : x.isPositive = true) : Counts t x := by
  obtain ⟨negative, hfloat, hnegative⟩ := Numeral.float?_of_integer? h
  have hbounded : (Binary64.ofRatio (n < 0) n.natAbs 1).bounded? = some x := by
    rw [Coerce.float, Binary64.ofInt?] at hx
    cases hb : (Binary64.ofRatio (n < 0) n.natAbs 1).bounded? <;> rw [hb] at hx <;> cases hx
    rfl
  have hratio := Binary64.eq_of_bounded? hbounded
  by_cases hn : n = 0
  · -- Zero is not positive.
    subst hn
    rw [← hratio, Int.natAbs_zero, isPositive_ofRatio_zero] at hpositive
    cases hpositive
  · rw [hnegative hn, hratio] at hfloat
    exact .number hfloat

/-- **What a text counts as after both readings.** -/
theorem counts_of_checkTimeout (h : ShopSettings.checkTimeout (Environment.convert t) = .ok x) :
    x.isPositive = true ∧ Counts t x := by
  obtain ⟨hfloat, hpositive⟩ := checkTimeout_eq_ok_iff.1 h
  refine ⟨hpositive, ?_⟩
  -- The conversion asks for the words first, and then for a point.
  rw [Environment.convert] at hfloat
  split at hfloat
  · next hon =>
    cases hfloat
    exact .on (List.contains_iff_mem.1 hon)
  · split at hfloat
    · -- The words for false count as zero.
      cases hfloat
      cases hpositive
    · dsimp only at hfloat
      split at hfloat
      · cases hnumber : Numeral.float? (codePoints t.toList) with
        | some y =>
          rw [hnumber] at hfloat
          cases hfloat
          exact .number hnumber
        | none =>
          rw [hnumber] at hfloat
          exact counts_of_floatOfText hfloat
      · cases hinteger : Numeral.integer? (codePoints t.toList) with
        | some n =>
          rw [hinteger] at hfloat
          exact counts_of_integer? hinteger hfloat hpositive
        | none =>
          rw [hinteger] at hfloat
          exact counts_of_floatOfText hfloat

/-! ### Texts that are taken

Each way in which a text can count has its converse here, provided that the number is positive; for
numerals the number is known without evaluating anything. To see that a text is none of the words
for truth values it is enough that it has a digit or an underscore, since the words consist of small
letters and making letters small leaves digits and underscores alone.
-/

/-- A word that means true is taken for one second. -/
theorem checkTimeout_of_isOn (h : IsOn t) :
    ShopSettings.checkTimeout (Environment.convert t) = .ok oneSecond := by
  have hconvert : Environment.convert t = .bool true := if_pos (List.contains_iff_mem.2 h)
  rw [hconvert]
  rfl

/-- A text with a character that is none of small letters, such as a digit or an underscore, is none
of some words in small letters. -/
theorem contains_word_eq_false {c : Char} (hc : c ∈ t.toList)
    (hlarge : c.toNat < 0x41 ∨ 0x5A < c.toNat) (hsmall : c.toNat < 0x61) {words : List String}
    (hwords : ∀ w ∈ words, ∀ d ∈ w.toList, 0x61 ≤ d.toNat) :
    words.contains (t.map asciiLower) = false := by
  have hlower : asciiLower c = c := by
    rw [asciiLower, Char.toLower, dif_neg]
    rintro ⟨hlow, hhigh⟩
    have hlow' : 0x41 ≤ c.toNat := hlow
    have hhigh' : c.toNat ≤ 0x5A := hhigh
    omega
  rw [Bool.eq_false_iff]
  intro hword
  have hmem : c ∈ (t.map asciiLower).toList := by
    rw [String.toList_map]
    exact List.mem_map.2 ⟨c, hc, hlower⟩
  have hle : 0x61 ≤ c.toNat := hwords _ (List.contains_iff_mem.1 hword) c hmem
  omega

/-- A text that is none of the words for truth values is a number or left as it is. -/
theorem convert_of_mem {p : Nat} (hp : p ∈ codePoints t.toList) (hlarge : p < 0x41 ∨ 0x5A < p)
    (hsmall : p < 0x61) :
    Environment.convert t =
      (if t.contains '.' then (Numeral.float? (codePoints t.toList)).map .float
        else (Numeral.integer? (codePoints t.toList)).map .int).getD (.str t) := by
  obtain ⟨c, hc, rfl⟩ := List.mem_map.1 hp
  have htrue : ["true", "yes", "on"].contains (t.map asciiLower) = false :=
    contains_word_eq_false hc hlarge hsmall (by simp)
  have hfalse : ["false", "no", "off"].contains (t.map asciiLower) = false :=
    contains_word_eq_false hc hlarge hsmall (by simp)
  simp only [Environment.convert, htrue, hfalse, Bool.false_eq_true, if_false]

/-- A text that is no number, but one without its underscores, is taken for it if it is positive. -/
theorem checkTimeout_of_underscored {bare : List Nat}
    (hnone : Numeral.float? (codePoints t.toList) = none)
    (hbare : Coerce.dropUnderscores? (codePoints t.toList) = some bare)
    (hx : Coerce.decimal? bare = some x) (hpositive : x.isPositive = true) :
    ShopSettings.checkTimeout (Environment.convert t) = .ok x := by
  have hline : 0x5F ∈ codePoints t.toList := by
    by_contra hnot
    -- Without an underscore nothing would be dropped, and the text would be the number.
    have hsame : bare = codePoints t.toList := by
      rw [Coerce.eq_filter_of_dropUnderscores? hbare, List.filter_eq_self]
      intro p hp
      have hne : p ≠ 0x5F := fun hp' ↦ hnot (hp' ▸ hp)
      simpa using hne
    rw [hsame] at hx
    rw [Coerce.float?_of_decimal? hx] at hnone
    cases hnone
  have hinteger : Numeral.integer? (codePoints t.toList) = none := by
    cases h : Numeral.integer? (codePoints t.toList) with
    | none => rfl
    | some n =>
      obtain ⟨_, hfloat, -⟩ := Numeral.float?_of_integer? h
      rw [hnone] at hfloat
      cases hfloat
  have htrim : Coerce.decimal? (Coerce.trim (codePoints t.toList)) = none := by
    cases h : Coerce.decimal? (Coerce.trim (codePoints t.toList)) with
    | none => rfl
    | some y =>
      rw [Coerce.float?_of_decimal?_trim h] at hnone
      cases hnone
  have hconvert : Environment.convert t = .str t := by
    rw [convert_of_mem hline (by decide) (by decide), hnone, hinteger]
    split <;> rfl
  rw [hconvert]
  exact checkTimeout_eq_ok_iff.2 ⟨floatOfText_eq_ok_iff.2 (.inr ⟨htrim, bare, hbare, hx⟩),
    hpositive⟩

theorem bounded?_of_isFinite (h : x.isFinite = true) : x.bounded? = some x := by
  cases x with
  | finite => rfl
  | nan | inf => cases h

/-- **A decimal numeral is taken for the number that it denotes**, if that is positive and
finite. -/
theorem checkTimeout_of_numeral {a : DecimalNumeral} (hpoints : codePoints t.toList = a.points)
    (hpositive : a.value.isPositive = true) (hfinite : a.value.isFinite = true) :
    ShopSettings.checkTimeout (Environment.convert t) = .ok a.value := by
  have hbare : ∀ p ∈ a.points, Numeral.IsBare p := by
    intro p hp
    rcases a.isDigit_or_mem_of_mem hp with hdigit | hmem
    · exact Numeral.isBare_of_isDigit hdigit
    · have hothers : ∀ q ∈ [0x2B, 0x2D, 0x2E, 0x45, 0x65], Numeral.IsBare q := by decide
      exact hothers p hmem
  have htrim : Coerce.trim (codePoints t.toList) = codePoints t.toList := by
    rw [hpoints]
    exact Coerce.trim_eq_self fun p hp ↦ (hbare p hp).2.2
  have hfloat : Numeral.float? (codePoints t.toList) = some a.value := by
    rw [hpoints, a.float?_points]
  have hdecimal : Coerce.decimal? (codePoints t.toList) = some a.value := by
    rw [hpoints, Coerce.decimal?_points]
  refine checkTimeout_eq_ok_iff.2 ⟨?_, hpositive⟩
  obtain ⟨p, hp⟩ := List.exists_mem_of_ne_nil _ a.digits_ne_nil
  have hdigit : 0x30 ≤ p ∧ p ≤ 0x39 := by
    simpa only [Numeral.isDigit, Bool.and_eq_true, decide_eq_true_eq] using a.isDigit_of_mem p hp
  have hmem : p ∈ codePoints t.toList := by
    rw [hpoints]
    exact a.mem_points_of_mem hp
  -- With a point the text is converted to the number; without one it is converted to an integer, or
  -- left as it is.
  rw [convert_of_mem hmem (.inl (by omega)) (by omega)]
  split
  · rw [hfloat]
    rfl
  · cases hinteger : Numeral.integer? (codePoints t.toList) with
    | none => exact floatOfText_eq_ok_iff.2 (.inl (htrim.symm ▸ hdecimal))
    | some n =>
      obtain ⟨negative, hratio, hnegative⟩ := Numeral.float?_of_integer? hinteger
      rw [hfloat, Option.some.injEq] at hratio
      have hn : n ≠ 0 := by
        rintro rfl
        rw [hratio, Int.natAbs_zero, isPositive_ofRatio_zero] at hpositive
        cases hpositive
      have hint : Binary64.ofInt? n = some a.value := by
        rw [Binary64.ofInt?, ← hnegative hn, ← hratio]
        exact bounded?_of_isFinite hfinite
      show (Binary64.ofInt? n).elim _ _ = _
      rw [hint]
      rfl

end Timeout

/-! ### The other settings

Loading goes through the variables one by one. `Alike` is about two environments and `Agree` about
the entries that are made from them, and a step keeps the agreement whether its variable is that of
the timeout or another one (`Agree.assign`). Names that stand in for missing variables are tried in
both environments or in neither, as none of them stands in for the timeout.
-/

namespace Environment

/-- The environment with a text of the variable for the timeout. -/
def withTimeout (env : Environment) (t : String) : Environment :=
  ("SHOPIFY_TIMEOUT", t) :: env

/-- Two environments have the same variables but for that of the timeout. -/
def Alike (env env' : Environment) : Prop :=
  ∀ n, n ≠ "SHOPIFY_TIMEOUT" → env.get? n = env'.get? n

/-- Entries hold the same under every name but that of the timeout. -/
def Agree (es fs : List (Datum × Datum)) : Prop :=
  ∀ n, n ≠ "timeout" → Datum.field? n es = Datum.field? n fs

variable {env env' : Environment} {es fs : List (Datum × Datum)}

/-- The text is that of the variable; the others are as before. -/
theorem get?_withTimeout (env : Environment) (t name : String) :
    (env.withTimeout t).get? name = if name = "SHOPIFY_TIMEOUT" then some t else env.get? name := by
  rw [get?, withTimeout, List.find?_cons]
  by_cases h : name = "SHOPIFY_TIMEOUT"
  · subst h
    simp
  · have hne : ("SHOPIFY_TIMEOUT" == name) = false := by simpa using Ne.symm h
    rw [hne, if_neg h]
    rfl

theorem Alike.refl (env : Environment) : Alike env env :=
  fun _ _ ↦ rfl

theorem Alike.symm (h : Alike env env') : Alike env' env :=
  fun n hn ↦ (h n hn).symm

theorem Alike.trans {env'' : Environment} (h : Alike env env') (h' : Alike env' env'') :
    Alike env env'' :=
  fun n hn ↦ (h n hn).trans (h' n hn)

/-- A text of the variable for the timeout changes no other variable. -/
theorem alike_withTimeout (env : Environment) (t : String) : Alike (env.withTimeout t) env := by
  intro n hn
  rw [get?_withTimeout, if_neg hn]

theorem Agree.trans {gs : List (Datum × Datum)} (h : Agree es fs) (h' : Agree fs gs) :
    Agree es gs :=
  fun n hn ↦ (h n hn).trans (h' n hn)

theorem Agree.symm (h : Agree es fs) : Agree fs es :=
  fun n hn ↦ (h n hn).symm

theorem Agree.put (h : Agree es fs) (a : String) (d : Datum) :
    Agree (Datum.put (.str a) d es) (Datum.put (.str a) d fs) := by
  intro n hn
  rw [Datum.field?_put, Datum.field?_put, h n hn]

/-- Under the name of the timeout anything may stand. -/
theorem agree_put_timeout (d : Datum) (es : List (Datum × Datum)) :
    Agree (Datum.put (.str "timeout") d es) es := by
  intro n hn
  rw [Datum.field?_put, if_neg (Ne.symm hn)]

/-- Entries agree after the same setting was put into both. -/
theorem Agree.putAt (h : Agree es fs) (x : Setting) (d : Datum) :
    Agree (Datum.putAt d (x.path.map .str) es) (Datum.putAt d (x.path.map .str) fs) := by
  rcases x.path_cases with ⟨a, hpath, -, -⟩ | ⟨b, hpath, -⟩
  · rw [hpath]
    exact h.put a d
  · have hinner : Datum.inner "logging" es = Datum.inner "logging" fs := by
      rw [Datum.inner, Datum.inner, h "logging" (by decide)]
    rw [hpath, Datum.putAt_cons_cons, Datum.putAt_cons_cons, hinner]
    exact h.put "logging" _

/-- A variable for the timeout changes nothing else. -/
theorem agree_assign_timeout (env : Environment) (name : String) (es : List (Datum × Datum)) :
    Agree (assign env es (variableOf (.timeout, name))) es := by
  rw [assign]
  cases env.get? (variableOf (.timeout, name)).name with
  | none => exact fun _ _ ↦ rfl
  | some s => exact agree_put_timeout _ es

/-- One variable, for two environments that differ in the variable for the timeout. -/
theorem Agree.assign (h : Agree es fs) (henv : Alike env env') (v : Setting × String)
    (hv : v.2 = "SHOPIFY_TIMEOUT" → v.1 = .timeout) :
    Agree (assign env es (variableOf v)) (assign env' fs (variableOf v)) := by
  obtain ⟨x, name⟩ := v
  by_cases hname : name = "SHOPIFY_TIMEOUT"
  · obtain rfl : x = .timeout := hv hname
    exact ((agree_assign_timeout env name es).trans h).trans
      (agree_assign_timeout env' name fs).symm
  · rw [Environment.assign, Environment.assign]
    simp only [variableOf, henv name hname]
    cases env'.get? name with
    | none => exact h
    | some s => exact h.putAt x _

/-- Variables in a row, for two environments that differ in the variable for the timeout. -/
theorem Agree.foldl_assign (henv : Alike env env') (vs : List (Setting × String))
    (hvs : ∀ v ∈ vs, v.2 = "SHOPIFY_TIMEOUT" → v.1 = .timeout) (h : Agree es fs) :
    Agree ((vs.map variableOf).foldl (Environment.assign env) es)
      ((vs.map variableOf).foldl (Environment.assign env') fs) := by
  induction vs generalizing es fs with
  | nil => exact h
  | cons v vs ih =>
    rw [List.forall_mem_cons] at hvs
    exact ih hvs.2 (h.assign henv v hvs.1)

/-- **Environments that differ in the variable for the timeout give the same other settings.** -/
theorem Alike.agree_entries (henv : Alike env env') : Agree env.entries env'.entries := by
  have hpairs : fallbackPairs env = fallbackPairs env' := by
    have hother : ∀ v ∈ [(Setting.url, "API_URL"), (.token, "API_TOKEN")],
        v.1.variableName ≠ "SHOPIFY_TIMEOUT" := by
      decide
    exact List.filter_congr fun v hv ↦ by rw [henv _ (hother v hv)]
  have hfirst : ∀ v ∈ Setting.all.map fun x ↦ (x, x.variableName), v.2 = "SHOPIFY_TIMEOUT" →
      v.1 = .timeout := by
    decide
  have hsecond : ∀ v ∈ fallbackPairs env', v.2 = "SHOPIFY_TIMEOUT" → v.1 = .timeout := by
    have hnone : ∀ v ∈ [(Setting.url, "API_URL"), (.token, "API_TOKEN")],
        v.2 ≠ "SHOPIFY_TIMEOUT" := by decide
    exact fun v hv hname ↦ absurd hname (hnone v (List.mem_of_mem_filter hv))
  rw [entries_eq, entries_eq, counted_eq, counted_eq, hpairs]
  exact Agree.foldl_assign henv _ (List.forall_mem_append.2 ⟨hfirst, hsecond⟩) fun _ _ ↦ rfl

/-- What the variable for the timeout gives. -/
theorem field?_timeout_entries (env : Environment) (t : String) :
    Datum.field? "timeout" (entries (env.withTimeout t)) = some (convert t) := by
  have hat := at?_entries (env.withTimeout t) .timeout
  rw [Setting.ofEnvironment, get?_withTimeout] at hat
  exact hat

/-! ### Over a file

What a merge holds under a name is decided by what the environment gives under that name, so entries
that agree are merged into entries that agree. Unknown names can only come from the file.
-/

variable {file : List (Datum × Datum)}

theorem Agree.merge (h : Agree env.entries env'.entries) (file : List (Datum × Datum)) :
    Agree (Datum.merge file env.entries) (Datum.merge file env'.entries) := by
  intro n hn
  obtain ⟨_, hnames, -⟩ := (isGiven_entries env).names
  obtain ⟨_, hnames', -⟩ := (isGiven_entries env').names
  rw [Datum.field?_merge hnames, Datum.field?_merge hnames', h n hn]

theorem field?_timeout_merge (env : Environment) (t : String) (file : List (Datum × Datum)) :
    Datum.field? "timeout" (Datum.merge file (entries (env.withTimeout t))) = some (convert t) := by
  obtain ⟨_, hnames, -⟩ := (isGiven_entries (env.withTimeout t)).names
  rw [Datum.field?_merge hnames, field?_timeout_entries]
  exact congrArg some (Setting.mergeValue_value .timeout t _)

/-- An environment adds no unknown names. -/
theorem checkNames_merge (env : Environment) (file : List (Datum × Datum)) :
    ShopSettings.checkNames (Datum.merge file env.entries) = ShopSettings.checkNames file := by
  obtain ⟨_, hnames, hallowed⟩ := (isGiven_entries env).names
  have hothers :
      (Datum.merge file env.entries).filter
      (fun e ↦ !ShopSettings.names.any fun n ↦ e.1.equal (.str n)) =
      file.filter fun e ↦ !ShopSettings.names.any fun n ↦ e.1.equal (.str n) :=
    (Datum.keepsOthers_merge hnames hallowed).others
  rw [ShopSettings.checkNames, ShopSettings.checkNames, hothers]

end Environment

/-- Settings from entries that agree with entries of settings but for the timeout. -/
theorem ShopSettings.ofEntries_of_agree {es fs : List (Datum × Datum)} {base : ShopSettings}
    {d : Datum} (hagree : Environment.Agree fs es) (hnames : checkNames fs = checkNames es)
    (hd : Datum.field? "timeout" fs = some d) (h : ofEntries es = .ok base) :
    ofEntries fs = ((checkTimeout d).under "timeout").map fun x ↦ { base with timeout := x } := by
  rw [ofEntries] at h
  -- Settings were made, so each field has passed its check, and all but the timeout pass it again.
  obtain ⟨ofNames, known, hknown, hunknown, rfl⟩ := Checked.ap_eq_ok_iff.1 h
  obtain ⟨ofLogging, logging, hbefore, hlogging, rfl⟩ := Checked.ap_eq_ok_iff.1 hknown
  obtain ⟨ofUserAgent, userAgent, htimed, huserAgent, rfl⟩ := Checked.ap_eq_ok_iff.1 hbefore
  obtain ⟨ofTimeout, timeout, hplaced, -, rfl⟩ := Checked.ap_eq_ok_iff.1 htimed
  obtain ⟨ofToken, token, hmap, htoken, rfl⟩ := Checked.ap_eq_ok_iff.1 hplaced
  obtain ⟨url, hurl, rfl⟩ := map_eq_ok_iff.1 hmap
  have hrequired {α : Type} (n : String) (hn : n ≠ "timeout") (check : Datum → Checked α) :
      Field.required fs n check = Field.required es n check := by
    rw [Field.required, Field.required, hagree n hn]
  have hoptional {α : Type} (n : String) (hn : n ≠ "timeout") (default : α)
      (check : Datum → Checked α) :
      Field.optional fs n default check = Field.optional es n default check := by
    rw [Field.optional, Field.optional, hagree n hn]
  have htimeout : Field.optional fs "timeout" defaultTimeout checkTimeout =
      (checkTimeout d).under "timeout" := by
    rw [Field.optional, hd]
  rw [ofEntries, htimeout, hrequired _ (by decide), hrequired _ (by decide),
    hoptional _ (by decide), hoptional _ (by decide), hnames, hurl, htoken, huserAgent, hlogging,
    hunknown]
  cases (checkTimeout d).under "timeout" <;> rfl

namespace Surroundings

variable {read : FileReader} {s : Surroundings} {name : Option String} {base : ShopSettings}
  {t u : String}

/-- The surroundings with a text of the variable for the timeout. -/
def withTimeout (s : Surroundings) (t : String) : Surroundings :=
  { s with environment := s.environment.withTimeout t }

/-- **What a text of the variable for the timeout changes in settings**: the timeout, if it is
taken. Before, the variable may be another text or not be set at all. -/
theorem settingsBy_withTimeout {env : Environment} (henv : env.Alike s.environment)
    (h : { s with environment := env }.settingsBy read name = .ok base) (t : String) :
    (s.withTimeout t).settingsBy read name =
      match ShopSettings.checkTimeout (Environment.convert t) with
      | .ok x => .ok { base with timeout := x }
      | .error issues =>
        .error (.configuration
          (.invalid (issues.map fun i ↦ { i with path := "timeout" :: i.path }))) := by
  -- No variable has a say in which file is read, or in what is read from it.
  cases hfile : s.fileEntries read name with
  | error f =>
    have hrefused : { s with environment := env }.settingsBy read name = .error f :=
      settingsBy_of_fileEntries_error hfile
    rw [hrefused] at h
    cases h
  | ok file =>
    have hbefore :
        { s with environment := env }.settingsBy read name = make (Datum.merge file env.entries) :=
      settingsBy_of_fileEntries hfile
    have hafter : (s.withTimeout t).settingsBy read name =
        make (Datum.merge file (s.environment.withTimeout t).entries) :=
      settingsBy_of_fileEntries hfile
    rw [hbefore, make, all_hasTextKey_entries] at h
    rw [hafter, make, all_hasTextKey_entries]
    cases hkeys : file.all hasTextKey with
    | false =>
      rw [hkeys] at h
      cases h
    | true =>
      rw [hkeys, if_pos rfl] at h
      cases hbase : ShopSettings.ofEntries (Datum.merge file env.entries) with
      | error issues =>
        rw [hbase] at h
        cases h
      | ok settings =>
        rw [hbase] at h
        cases h
        have halike : (s.environment.withTimeout t).Alike env :=
          (Environment.alike_withTimeout s.environment t).trans henv.symm
        have hnames := (Environment.checkNames_merge (s.environment.withTimeout t) file).trans
          (Environment.checkNames_merge env file).symm
        rw [if_pos rfl, ShopSettings.ofEntries_of_agree (halike.agree_entries.merge file) hnames
          (Environment.field?_timeout_merge s.environment t file) hbase]
        cases ShopSettings.checkTimeout (Environment.convert t) <;> rfl

/-- A text that is taken makes settings with its timeout. -/
theorem settingsBy_of_checkTimeout {env : Environment} {x : Binary64}
    (henv : env.Alike s.environment)
    (h : { s with environment := env }.settingsBy read name = .ok base)
    (hx : ShopSettings.checkTimeout (Environment.convert t) = .ok x) :
    (s.withTimeout t).settingsBy read name = .ok { base with timeout := x } := by
  rw [settingsBy_withTimeout henv h t, hx]

end Surroundings

/-! ### Public contract -/

namespace Surroundings

open Timeout

/-- **What the variable for the timeout may be.** Where some text of it gives settings, every text
gives the same settings with another timeout, or is refused with issues at the timeout alone. A text
that is taken counts as a positive number, and that is the timeout: it is read as that number, or it
is a word that means true and counts as one, or it is the number without its underscores. All such
words are taken, so is every text that is a positive number without its underscores and none with
them, and every decimal numeral of a positive finite number. -/
theorem settingsBy_timeout (read : FileReader) (s : Surroundings) (name : Option String)
    (u : String) (base : ShopSettings) (h : (s.withTimeout u).settingsBy read name = .ok base)
    (t : String) :
    ((∃ x, (s.withTimeout t).settingsBy read name = .ok { base with timeout := x } ∧
      x.isPositive = true ∧ Counts t x) ∨
      ∃ issues, (s.withTimeout t).settingsBy read name = .error (.configuration (.invalid issues)) ∧
        ∀ i ∈ issues, i.path = ["timeout"]) ∧
    (IsOn t → (s.withTimeout t).settingsBy read name = .ok { base with timeout := oneSecond }) ∧
    (∀ bare x, Numeral.float? (codePoints t.toList) = none →
      Coerce.dropUnderscores? (codePoints t.toList) = some bare → Coerce.decimal? bare = some x →
      x.isPositive = true →
        (s.withTimeout t).settingsBy read name = .ok { base with timeout := x }) ∧
    ∀ a : DecimalNumeral, codePoints t.toList = a.points → a.value.isPositive = true →
      a.value.isFinite = true →
      (s.withTimeout t).settingsBy read name = .ok { base with timeout := a.value } := by
  have henv := Environment.alike_withTimeout s.environment u
  have htaken : ∀ x, ShopSettings.checkTimeout (Environment.convert t) = .ok x →
      (s.withTimeout t).settingsBy read name = .ok { base with timeout := x } :=
    fun _ hx ↦ settingsBy_of_checkTimeout henv h hx
  refine ⟨?_, fun hon ↦ htaken _ (checkTimeout_of_isOn hon),
    fun bare x hnone hbare hx hpositive ↦
      htaken _ (checkTimeout_of_underscored hnone hbare hx hpositive),
    fun a hpoints hpositive hfinite ↦
      htaken _ (checkTimeout_of_numeral hpoints hpositive hfinite)⟩
  cases hcheck : ShopSettings.checkTimeout (Environment.convert t) with
  | ok x =>
    obtain ⟨hpositive, hcounts⟩ := counts_of_checkTimeout hcheck
    exact .inl ⟨x, htaken x hcheck, hpositive, hcounts⟩
  | error issues =>
    obtain ⟨kind, rfl⟩ := checkTimeout_eq_error hcheck
    refine .inr ⟨[⟨["timeout"], kind⟩], ?_, ?_⟩
    · rw [settingsBy_withTimeout henv h t, hcheck]
      rfl
    · simp

/-- Thirty, in two digits. -/
def thirty : DecimalNumeral where
  whole := [0x33, 0x30]
  digits_ne_nil := by decide
  isDigit_of_mem := by decide

/-- A thousand, as one with an exponent. -/
def thousand : DecimalNumeral where
  whole := [0x31]
  exponent := some
    { capital := false, sign := .none, digits := [0x33],
      digits_ne_nil := by decide, isDigit_of_mem := by decide }
  digits_ne_nil := by decide
  isDigit_of_mem := by decide

theorem checkTimeout_thirty :
    ShopSettings.checkTimeout (Environment.convert "30") = .ok thirty.value :=
  checkTimeout_of_numeral (by cbv) (by decide +kernel) (by decide +kernel)

/-- A thousand is taken, with an underscore before the exponent. -/
theorem checkTimeout_thousand :
    ShopSettings.checkTimeout (Environment.convert "1_e3") = .ok thousand.value :=
  checkTimeout_of_underscored (by cbv) (by cbv) (Coerce.decimal?_points thousand)
    (by decide +kernel)

/-- An address and a token from the environment make settings. -/
theorem exists_settings :
    ∃ (s : Surroundings) (base : ShopSettings), s.settings none = .ok base := by
  let s : Surroundings :=
    { files := []
      working := ["work"]
      home := ["home"]
      environment := [("API_URL", "http://[::1]/"), ("API_TOKEN", "t")] }
  obtain ⟨url, hurl⟩ : ∃ url, ShopSettings.checkUrl (.str "http://[::1]/") = .ok url :=
    isOk_iff.1 (by cbv)
  obtain ⟨token, htoken⟩ : ∃ token, ShopSettings.checkToken (.str "t") = .ok token :=
    isOk_iff.1 (by cbv)
  have hfile : s.fileEntries FileFormat.read? none = .ok [] := by cbv
  have henv :
      s.environment.entries =
      [(.str "api_url", .str "http://[::1]/"), (.str "api_token", .str "t")] :=
    Environment.entries_unprefixed "http://[::1]/" "t"
  obtain ⟨_, hnames, -⟩ := (Environment.isGiven_entries s.environment).names
  refine ⟨s, { url, token }, ?_⟩
  rw [settings, settingsBy_of_fileEntries hfile, Datum.merge_nil hnames, henv, make]
  simp only [ShopSettings.ofEntries_of_required hurl htoken]
  rfl

/-- Settings that are made with thirty seconds are made with one for a word. -/
theorem settingsBy_timeout_word :
    ∃ (s : Surroundings) (base : ShopSettings),
      (s.withTimeout "30").settingsBy FileFormat.read? none = .ok base ∧
      (s.withTimeout "Yes").settingsBy FileFormat.read? none =
        .ok { base with timeout := oneSecond } := by
  obtain ⟨s, base, hbase⟩ := exists_settings
  have hthirty := settingsBy_of_checkTimeout (.refl _) hbase checkTimeout_thirty
  have hon : IsOn "Yes" := List.contains_iff_mem.1 (by cbv)
  have htimed := (settingsBy_timeout FileFormat.read? s none "30" _ hthirty "Yes").2.1 hon
  exact ⟨s, _, hthirty, htimed⟩

/-- **A text that is no number can be taken for a timeout**: a word that means true, and a text with
an underscore that stands before the letter of an exponent. -/
theorem settings_timeout_no_number :
    ∃ (s : Surroundings) (first second : ShopSettings),
      (s.withTimeout "on").settings none = .ok first ∧
        Numeral.float? (codePoints "on".toList) = none ∧
      first.timeout = oneSecond ∧
      (s.withTimeout "1_e3").settings none = .ok second ∧
        Numeral.float? (codePoints "1_e3".toList) = none ∧
      Numeral.float? (codePoints "1e3".toList) = some second.timeout := by
  obtain ⟨s, base, hbase⟩ := exists_settings
  have hword : ShopSettings.checkTimeout (Environment.convert "on") = .ok oneSecond :=
    checkTimeout_of_isOn (List.contains_iff_mem.1 (by cbv))
  have hpoints : codePoints "1e3".toList = thousand.points := by cbv
  have hthousand : Numeral.float? (codePoints "1e3".toList) = some thousand.value := by
    rw [hpoints, thousand.float?_points]
  refine ⟨s, { base with timeout := oneSecond }, { base with timeout := thousand.value },
    settingsBy_of_checkTimeout (.refl _) hbase hword, by cbv, rfl,
    settingsBy_of_checkTimeout (.refl _) hbase checkTimeout_thousand, by cbv, ?_⟩
  dsimp only
  exact hthousand

end Surroundings

end CatalogQuery
