import CatalogQuery.Proofs.Settings.Overlay
import CatalogQuery.Settings.Environment
import CatalogQuery.Settings.Shop

/-!
# What an environment gives

The settings that variables give, as a table (`Setting`): the names that lead to each setting, the
variable that gives it and the second one that may stand in, and whether its text is converted.
`Environment.at?_entries` says that the table is right: each setting is given by its variable, or
else by the second one, and by nothing else.

The entries are made by one assignment after the other. No path of a setting is the beginning of
another, so an assignment changes one setting only (`Environment.at?_assign`); what all assignments
keep is the form of the entries, which are named, with a named mapping for logging
(`Environment.IsGiven`).

## The order of the assignments

A second variable is assigned after all first ones, but only if the first variable of its setting is
not set, so that it never replaces what a first one gave. `Environment.counted` is the list of
variables in the order of their assignments, and `Environment.counted_eq` gives it in terms of the
table. With that, a setting is looked at alone: the assignments to other settings can be left out of
the list (`Environment.at?_foldl_assign`), and at most two are left.

Converted values are texts, truth values or numbers, and no mappings (`Setting.mergeValue_value`).
This is why what an environment gives is never merged with what stood there, except for the mapping
for logging, which no single variable gives.
-/

namespace CatalogQuery

/-- A setting that a variable of the environment gives. -/
inductive Setting where
  | url | token | timeout | userAgent | logLevel | logFormat | logStructured
  deriving DecidableEq, Repr

namespace Setting

/-- All settings. -/
def all : List Setting :=
  [url, token, timeout, userAgent, logLevel, logFormat, logStructured]

/-- The names that lead to the setting. -/
def path : Setting → List String
  | .url => ["api_url"]
  | .token => ["api_token"]
  | .timeout => ["timeout"]
  | .userAgent => ["user_agent"]
  | .logLevel => ["logging", "level"]
  | .logFormat => ["logging", "format"]
  | .logStructured => ["logging", "enable_structured"]

/-- The variable that gives the setting. -/
def variableName : Setting → String
  | .url => "SHOPIFY_API_URL"
  | .token => "SHOPIFY_API_TOKEN"
  | .timeout => "SHOPIFY_TIMEOUT"
  | .userAgent => "SHOPIFY_USER_AGENT"
  | .logLevel => "SHOPIFY_LOG_LEVEL"
  | .logFormat => "SHOPIFY_LOG_FORMAT"
  | .logStructured => "SHOPIFY_LOG_STRUCTURED"

/-- The variable that gives the setting where the first one is not set. -/
def fallbackName? : Setting → Option String
  | .url => some "API_URL"
  | .token => some "API_TOKEN"
  | _ => none

/-- The text of the variable is converted. -/
def isConverted : Setting → Bool
  | .timeout | .logStructured => true
  | _ => false

/-- The value that the text of a variable stands for. -/
def value (x : Setting) (text : String) : Datum :=
  if x.isConverted then Environment.convert text else .str text

/-- What an environment gives for the setting, if it gives anything. -/
def ofEnvironment (env : Environment) (x : Setting) : Option Datum :=
  ((env.get? x.variableName).or (x.fallbackName?.bind env.get?)).map x.value

/-- The names of the settings of logging that variables give. -/
def loggingNames : List String :=
  ["level", "format", "enable_structured"]

/-- A setting stands at the top, or in the mapping for logging. -/
theorem path_cases (x : Setting) :
    (∃ a, x.path = [a] ∧ a ∈ ShopSettings.names ∧ a ≠ "logging") ∨
      ∃ b, x.path = ["logging", b] ∧ b ∈ loggingNames := by
  cases x with
  | url => exact .inl ⟨"api_url", rfl, by decide, by decide⟩
  | token => exact .inl ⟨"api_token", rfl, by decide, by decide⟩
  | timeout => exact .inl ⟨"timeout", rfl, by decide, by decide⟩
  | userAgent => exact .inl ⟨"user_agent", rfl, by decide, by decide⟩
  | logLevel => exact .inr ⟨"level", rfl, by decide⟩
  | logFormat => exact .inr ⟨"format", rfl, by decide⟩
  | logStructured => exact .inr ⟨"enable_structured", rfl, by decide⟩

/-- No path of a setting is the beginning of another. -/
theorem not_path_prefix {x y : Setting} (h : x ≠ y) : ¬ x.path <+: y.path := by
  revert h
  cases x <;> cases y <;> decide

/-- Every name in the mapping for logging leads to a setting. -/
theorem exists_path_eq {b : String} (h : b ∈ loggingNames) :
    ∃ x : Setting, x.path = ["logging", b] := by
  simp only [loggingNames, List.mem_cons, List.not_mem_nil, or_false] at h
  rcases h with rfl | rfl | rfl
  · exact ⟨.logLevel, rfl⟩
  · exact ⟨.logFormat, rfl⟩
  · exact ⟨.logStructured, rfl⟩

/-- No variable gives a mapping, so what it gives replaces whatever stood there. -/
theorem mergeValue_value (x : Setting) (text : String) (below : Option Datum) :
    Datum.mergeValue below (x.value text) = x.value text := by
  rw [value, Environment.convert]
  split
  · split
    · rfl
    · split
      · rfl
      · dsimp only
        split
        · cases Numeral.float? (codePoints text.toList) <;> rfl
        · cases Numeral.integer? (codePoints text.toList) <;> rfl
  · rfl

/-- What an environment gives replaces whatever stood there. -/
theorem mergeValue_ofEnvironment {env : Environment} {x : Setting} {v : Datum}
    (h : x.ofEnvironment env = some v) (below : Option Datum) : Datum.mergeValue below v = v := by
  obtain ⟨text, -, rfl⟩ := Option.map_eq_some_iff.1 h
  exact mergeValue_value x text below

end Setting

namespace Environment

variable {env : Environment} {es : List (Datum × Datum)}

/-! ### One variable -/

/-- The variable of that name as one that gives the setting. -/
def variableOf (v : Setting × String) : Variable where
  name := v.2
  path := v.1.path
  isConverted := v.1.isConverted

/-- Entries with what a variable gives, if it is set. -/
def assign (env : Environment) (es : List (Datum × Datum)) (v : Variable) : List (Datum × Datum) :=
  match env.get? v.name with
  | some s => Datum.putAt (if v.isConverted then convert s else .str s) (v.path.map .str) es
  | none => es

/-- The entries are what the variables that count assign, one after the other. -/
theorem entries_eq (env : Environment) : entries env = (counted env).foldl (assign env) [] :=
  rfl

/-- **A variable changes the setting that it gives, and no other.** -/
theorem at?_assign (x : Setting) (v : Setting × String) :
    Datum.at? x.path (assign env es (variableOf v)) =
      if v.1 = x then ((env.get? v.2).map x.value).or (Datum.at? x.path es)
      else Datum.at? x.path es := by
  obtain ⟨y, name⟩ := v
  rw [assign]
  show Datum.at? x.path (match env.get? name with
    | some s => Datum.putAt (y.value s) (y.path.map .str) es
    | none => es) = _
  cases env.get? name with
  | none => simp
  | some s =>
    by_cases hyx : y = x
    · subst hyx
      rw [if_pos rfl]
      obtain ⟨a, path, hpath⟩ : ∃ a path, y.path = a :: path := by
        rcases y.path_cases with ⟨a, ha, -⟩ | ⟨b, hb, -⟩
        · exact ⟨a, [], ha⟩
        · exact ⟨"logging", [b], hb⟩
      rw [hpath]
      exact Datum.at?_putAt_self (y.value s) a path es
    · rw [if_neg hyx]
      exact Datum.at?_putAt_of_apart (y.value s) y.path x.path es (Setting.not_path_prefix hyx)
        (Setting.not_path_prefix (Ne.symm hyx))

/-- Of several variables only those that give the setting matter, and of these the last one that is
set. -/
theorem at?_foldl_assign (x : Setting) (vs : List (Setting × String)) (es : List (Datum × Datum)) :
    Datum.at? x.path ((vs.map variableOf).foldl (assign env) es) =
      (vs.filter fun v ↦ v.1 = x).foldl (fun d v ↦ ((env.get? v.2).map x.value).or d)
        (Datum.at? x.path es) := by
  induction vs generalizing es with
  | nil => rfl
  | cons v vs ih =>
    rw [List.map_cons, List.foldl_cons, ih, at?_assign, List.filter_cons]
    by_cases hv : v.1 = x <;> simp [hv]

/-! ### All variables -/

/-- The second variables that count: those of settings whose first variable is not set. -/
def fallbackPairs (env : Environment) : List (Setting × String) :=
  [(.url, "API_URL"), (.token, "API_TOKEN")].filter fun v ↦ (env.get? v.1.variableName).isNone

/-- The variables that count are those of all settings, and then the second ones that stand in. -/
theorem counted_eq (env : Environment) :
    counted env = ((Setting.all.map fun x ↦ (x, x.variableName)) ++ fallbackPairs env).map
      variableOf := by
  rw [List.map_append, counted, fallbackPairs, fallbacks]
  congr 1
  -- The variables with the prefix are the table; of the others, each counts by the variable that it
  -- stands in for.
  simp only [List.filter_cons, List.filter_nil]
  cases hurl : env.get? "SHOPIFY_API_URL" <;> cases htoken : env.get? "SHOPIFY_API_TOKEN" <;>
    simp [namePrefix, Setting.variableName, variableOf, Setting.path, Setting.isConverted, hurl,
      htoken]

/-- **Each setting is given by its variable, or else by the second one, and by nothing else.** -/
theorem at?_entries (env : Environment) (x : Setting) :
    Datum.at? x.path (entries env) = x.ofEnvironment env := by
  rw [entries_eq, counted_eq, at?_foldl_assign, List.filter_append]
  have hnone : Datum.at? x.path [] = none := by cases x <;> rfl
  have hfirst : ((Setting.all.map fun x ↦ (x, x.variableName)).filter fun v ↦ v.1 = x) =
      [(x, x.variableName)] := by cases x <;> rfl
  rw [hnone, hfirst, Setting.ofEnvironment]
  have hsecond : (fallbackPairs env).filter (fun v ↦ v.1 = x) =
      if (env.get? x.variableName).isNone then x.fallbackName?.toList.map fun name ↦ (x, name)
      else [] := by
    rw [fallbackPairs, List.filter_filter]
    cases x <;> simp [Setting.variableName, Setting.fallbackName?, List.filter_cons]
  rw [hsecond]
  cases hset : env.get? x.variableName with
  | some s => simp [hset]
  | none => cases x.fallbackName? <;> simp [hset]

/-- An environment with nothing but the two variables without the prefix. -/
theorem entries_unprefixed (url token : String) :
    entries [("API_URL", url), ("API_TOKEN", token)] =
      [(.str "api_url", .str url), (.str "api_token", .str token)] := by
  simp [entries, counted, prefixed, fallbacks, get?, namePrefix, Datum.putAt, Datum.put,
    Datum.equal_str]

/-! ### The form of the entries -/

/-- Entries under names of settings; under the name of logging stands a mapping with names of
settings of logging, and at least one of them. -/
structure IsGiven (es : List (Datum × Datum)) : Prop where
  /-- Every key is the name of a setting. -/
  names : ∃ names, Datum.HasNames names es ∧ ∀ n ∈ names, n ∈ ShopSettings.names
  /-- So is every key in the mapping for logging, which is not empty. -/
  logging : ∀ d, Datum.field? "logging" es = some d → ∃ inner names, d = .dict inner ∧
    Datum.HasNames names inner ∧ (∀ n ∈ names, n ∈ Setting.loggingNames) ∧ names ≠ []

/-- The mapping for logging, which is empty if it is not there, has names of settings of logging. -/
theorem IsGiven.inner (h : IsGiven es) :
    ∃ names, Datum.HasNames names (Datum.inner "logging" es) ∧
      ∀ n ∈ names, n ∈ Setting.loggingNames := by
  rw [Datum.inner]
  cases hd : Datum.field? "logging" es with
  | none => exact ⟨[], .nil, fun _ hn ↦ absurd hn List.not_mem_nil⟩
  | some d =>
    obtain ⟨inner, names, rfl, hinner, hin, -⟩ := h.logging d hd
    exact ⟨names, hinner, hin⟩

/-- The names of a mapping with another one put in. -/
theorem exists_hasNames_put {names allowed : List String} (h : Datum.HasNames names es)
    (hnames : ∀ n ∈ names, n ∈ allowed) {b : String} (hb : b ∈ allowed) (d : Datum) :
    ∃ names, Datum.HasNames names (Datum.put (.str b) d es) ∧ (∀ n ∈ names, n ∈ allowed) ∧
      names ≠ [] := by
  refine ⟨_, h.put b d, ?_⟩
  split
  · rename_i hmem
    exact ⟨hnames, List.ne_nil_of_mem hmem⟩
  · refine ⟨fun n hn ↦ ?_, by simp⟩
    rcases List.mem_append.1 hn with hn | hn
    · exact hnames n hn
    · rw [List.mem_singleton] at hn
      exact hn ▸ hb

/-- Putting a setting in keeps the form. -/
theorem IsGiven.putAt (h : IsGiven es) (x : Setting) (v : Datum) :
    IsGiven (Datum.putAt v (x.path.map .str) es) := by
  obtain ⟨names, hnames, hallowed⟩ := h.names
  rcases x.path_cases with ⟨a, hpath, ha, hlogging⟩ | ⟨b, hpath, hb⟩
  · obtain ⟨names', hnames', hallowed', -⟩ := exists_hasNames_put hnames hallowed ha v
    rw [hpath]
    refine ⟨⟨names', hnames', hallowed'⟩, fun d hd ↦ ?_⟩
    have hsame : Datum.field? "logging" (Datum.put (.str a) v es) = some d := hd
    rw [Datum.field?_put, if_neg hlogging] at hsame
    exact h.logging d hsame
  · -- The mapping for logging is the one that is there, or a new one.
    obtain ⟨inner, hinner, hinnerAllowed⟩ := h.inner
    rw [hpath, Datum.putAt_cons_cons]
    obtain ⟨names', hnames', hallowed', -⟩ :=
      exists_hasNames_put hnames hallowed (show "logging" ∈ ShopSettings.names by decide) _
    refine ⟨⟨names', hnames', hallowed'⟩, fun d hd ↦ ?_⟩
    rw [Datum.field?_put, if_pos rfl] at hd
    obtain rfl := Option.some.inj hd
    obtain ⟨names'', hnames'', hallowed'', hne⟩ := exists_hasNames_put hinner hinnerAllowed hb v
    exact ⟨_, names'', rfl, hnames'', hallowed'', hne⟩

/-- Assignments in a row keep the form. -/
theorem isGiven_foldl_assign (vs : List (Setting × String)) (h : IsGiven es) :
    IsGiven ((vs.map variableOf).foldl (assign env) es) := by
  induction vs generalizing es with
  | nil => exact h
  | cons v vs ih =>
    refine ih ?_
    rw [assign]
    split
    · exact h.putAt v.1 _
    · exact h

/-- The entries that an environment gives are of the form. -/
theorem isGiven_entries (env : Environment) : IsGiven (entries env) := by
  rw [entries_eq, counted_eq]
  exact isGiven_foldl_assign _ ⟨⟨[], .nil, nofun⟩, nofun⟩

end Environment

end CatalogQuery
