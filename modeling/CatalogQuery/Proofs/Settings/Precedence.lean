import CatalogQuery.Proofs.Attempt
import CatalogQuery.Proofs.Settings.Variables
import CatalogQuery.Settings.Source
import Mathlib

/-!
# Which setting counts

The entries of the file and those of the environment are merged, and the settings are made from the
result (`Surroundings.entries_precedence`). Each setting is what the environment gives for it, or
else what the file holds, or else nothing. All other entries are those of the file, at the top and
in the mapping for logging, in the same order and with the same values, and nothing is added but
names of settings (`Datum.KeepsOthers`).

That a part of the mapping for logging may be overridden rests on the merge of mappings: what the
environment holds there is merged into what the file holds, name by name (`Datum.inner_merge`).

## Three parts

A statement about precedence has to say what each setting is, what becomes of everything else, and
when there is a mapping for logging at all. These are the parts of `Surroundings.Precedence`. The
first follows for settings at the top from the merge of the two mappings, and for those of logging
from the merge one level down; `Setting.path_cases` tells which it is. The second is the same
statement twice, for the same two levels.

The hypothesis that the entry for logging is a mapping, if the file has one, cannot be dropped: a
value of another kind is replaced as a whole by what the environment holds there, and is an invalid
setting otherwise.

How the file is read does not matter here, so the reader is any function.
-/

open CatalogQuery.Attempt

namespace CatalogQuery

namespace Datum

variable {below above es : List (Datum × Datum)} {names allowed : List String}

/-! ### Entries of other keys -/

/-- The key is none of the names. -/
def isOther (names : List String) (key : Datum) : Bool :=
  !names.any fun n ↦ key.equal (.str n)

/-- The entries of other keys than the names are the same in the same order, and keys are added at
the end only, each a name that was not there. -/
structure KeepsOthers (names : List String) (below handed : List (Datum × Datum)) : Prop where
  /-- Other keys keep their values and their order. -/
  others : handed.filter (fun e ↦ isOther names e.1) = below.filter fun e ↦ isOther names e.1
  /-- No key changes its place, and each that is added is a name. -/
  keys : ∃ new : List String, handed.map Prod.fst = below.map Prod.fst ++ new.map .str ∧ new.Nodup ∧
    ∀ n ∈ new, n ∈ names ∧ field? n below = none

/-- A merge with a mapping of allowed names keeps everything under other keys. -/
theorem keepsOthers_merge (h : HasNames names above) (hallowed : ∀ n ∈ names, n ∈ allowed) :
    KeepsOthers allowed below (merge below above) where
  others := by
    refine filter_merge h _ fun n hn k hk ↦ ?_
    have hany : (allowed.any fun m ↦ k.equal (.str m)) = true :=
      List.any_eq_true.2 ⟨n, hallowed n hn, hk⟩
    rw [isOther, hany]
    rfl
  keys := by
    refine ⟨_, keys_merge h, h.nodup.filter _, fun n hn ↦ ?_⟩
    obtain ⟨hn, hnone⟩ := List.mem_filter.1 hn
    exact ⟨hallowed n hn, Option.isNone_iff_eq_none.1 hnone⟩

/-! ### Merging a mapping that both may hold -/

/-- **A mapping that both may hold is merged in turn.** -/
theorem inner_merge {a : String} (h : HasNames names above)
    (hbelow : ∀ d, field? a below = some d → ∃ es, d = .dict es)
    (habove : ∀ d, field? a above = some d → ∃ es names, d = .dict es ∧ HasNames names es) :
    inner a (merge below above) = merge (inner a below) (inner a above) ∧
      ∀ d, field? a (merge below above) = some d → d = .dict (inner a (merge below above)) := by
  have hfield : field? a (merge below above) = _ := field?_merge h a
  -- Four cases: each of the two may hold a mapping under the name or nothing.
  cases hup : field? a above with
  | none =>
    rw [hup] at hfield
    rw [inner, inner, inner, hfield, hup, merge]
    refine ⟨rfl, fun d hd ↦ ?_⟩
    obtain ⟨es, rfl⟩ := hbelow d hd
    rw [hd]
  | some up =>
    obtain ⟨ups, upNames, rfl, hups⟩ := habove up hup
    rw [hup] at hfield
    cases hlow : field? a below with
    | none =>
      have hmerged : field? a (merge below above) = some (.dict ups) := by rw [hfield, hlow]; rfl
      rw [inner, inner, inner, hmerged, hup, hlow]
      exact ⟨(merge_nil hups).symm, fun d hd ↦ (Option.some.inj hd).symm⟩
    | some low =>
      obtain ⟨lows, rfl⟩ := hbelow low hlow
      have hmerged : field? a (merge below above) = some (.dict (merge lows ups)) := by
        rw [hfield, hlow]
        rfl
      rw [inner, inner, inner, hmerged, hup, hlow]
      exact ⟨rfl, fun d hd ↦ (Option.some.inj hd).symm⟩

end Datum

/-! ### Precedence -/

namespace Surroundings

variable {read : FileReader} {s : Surroundings} {name : Option String} {file : List (Datum × Datum)}

/-- The entries of a file with those of an environment laid over them: every setting is what the
environment gives, or else what the file holds; all else is kept, at the top and in the mapping for
logging, which is there if the file has it or the environment gives one of its settings. -/
structure Precedence (env : Environment) (file handed : List (Datum × Datum)) : Prop where
  /-- What the environment gives goes before what the file holds. -/
  setting : ∀ x : Setting, Datum.at? x.path handed =
    (x.ofEnvironment env).or (Datum.at? x.path file)
  /-- Other entries of the file are kept. -/
  top : Datum.KeepsOthers ShopSettings.names file handed
  /-- So are other entries of its mapping for logging. -/
  logging : Datum.KeepsOthers Setting.loggingNames (Datum.inner "logging" file)
    (Datum.inner "logging" handed)
  /-- What stands under the name for logging is a mapping. -/
  mapping : ∀ d, Datum.field? "logging" handed = some d → d = .dict (Datum.inner "logging" handed)
  /-- It is left out only if neither the file nor the environment has it. -/
  absent : Datum.field? "logging" handed = none ↔
    Datum.field? "logging" file = none ∧
      ∀ b ∈ Setting.loggingNames, ∀ x : Setting, x.path = ["logging", b] →
        x.ofEnvironment env = none

/-- What the environment gives is no mapping, so under its name it replaces what was there. -/
theorem field?_merge_ofEnvironment {x : Setting} {a : String} {env : Environment}
    {names : List String} {below above : List (Datum × Datum)} (h : Datum.HasNames names above)
    (habove : Datum.field? a above = x.ofEnvironment env) :
    Datum.field? a (Datum.merge below above) = (x.ofEnvironment env).or (Datum.field? a below) := by
  rw [Datum.field?_merge h, habove]
  cases hx : x.ofEnvironment env with
  | none => rfl
  | some v => exact congrArg some (Setting.mergeValue_ofEnvironment hx _)

/-- The environment gives a mapping for logging exactly if it gives one of the settings there. -/
theorem field?_logging_entries_eq_none_iff (env : Environment) :
    Datum.field? "logging" env.entries = none ↔
      ∀ b ∈ Setting.loggingNames, ∀ x : Setting, x.path = ["logging", b] →
        x.ofEnvironment env = none := by
  constructor
  · intro hnone b _ x hpath
    rw [← Environment.at?_entries, hpath, Datum.at?_cons_cons, hnone]
  · intro hunset
    by_contra hsome
    obtain ⟨d, hd⟩ := Option.ne_none_iff_exists'.1 hsome
    -- A mapping that is there has a name, and under it stands what a variable gives.
    obtain ⟨es, names, rfl, hnames, hin, hne⟩ := (Environment.isGiven_entries env).logging d hd
    obtain ⟨b, hb⟩ := List.exists_mem_of_ne_nil names hne
    obtain ⟨x, hpath⟩ := Setting.exists_path_eq (hin b hb)
    have hat : Datum.field? b es = none := by
      have hat := Environment.at?_entries env x
      rw [hunset b (hin b hb) x hpath, hpath, Datum.at?_cons_cons, hd] at hat
      exact hat
    have hfound := (hnames.field?_isSome_iff b).2 hb
    rw [hat] at hfound
    cases hfound

/-- The entries of an environment laid over those of a file. -/
theorem precedence_merge (env : Environment)
    (hlogging : ∀ d, Datum.field? "logging" file = some d → ∃ es, d = .dict es) :
    Precedence env file (Datum.merge file env.entries) := by
  have hgiven := Environment.isGiven_entries env
  obtain ⟨names, hnames, hallowed⟩ := hgiven.names
  obtain ⟨logNames, hlogNames, hlogAllowed⟩ := hgiven.inner
  have hup : ∀ d, Datum.field? "logging" env.entries = some d →
      ∃ es names, d = .dict es ∧ Datum.HasNames names es := by
    intro d hd
    obtain ⟨es, names, hes, hnamed, -, -⟩ := hgiven.logging d hd
    exact ⟨es, names, hes, hnamed⟩
  obtain ⟨hinner, hmapping⟩ := Datum.inner_merge hnames hlogging hup
  refine ⟨fun x ↦ ?_, Datum.keepsOthers_merge hnames hallowed, ?_, hmapping, ?_⟩
  · have hat := Environment.at?_entries env x
    -- The setting stands under a name at the top, or under a name in the mapping for logging.
    rcases x.path_cases with ⟨a, hpath, -, -⟩ | ⟨b, hpath, -⟩
    · rw [hpath, Datum.at?_singleton] at hat
      rw [hpath, Datum.at?_singleton, Datum.at?_singleton]
      exact field?_merge_ofEnvironment hnames hat
    · rw [hpath, Datum.at?_cons_cons_eq_inner, Datum.at?_singleton] at hat
      rw [hpath, Datum.at?_cons_cons_eq_inner, Datum.at?_cons_cons_eq_inner, Datum.at?_singleton,
        Datum.at?_singleton, hinner]
      exact field?_merge_ofEnvironment hlogNames hat
  · rw [hinner]
    exact Datum.keepsOthers_merge hlogNames hlogAllowed
  · rw [Datum.field?_merge hnames, ← field?_logging_entries_eq_none_iff]
    cases Datum.field? "logging" env.entries <;> simp

/-- A merge with a mapping of names has texts for keys if the lower mapping has. -/
theorem all_hasTextKey_merge {names : List String} {below above : List (Datum × Datum)}
    (h : Datum.HasNames names above) :
    (Datum.merge below above).all hasTextKey = below.all hasTextKey := by
  have hkeys : ∀ es : List (Datum × Datum),
      es.all hasTextKey = (es.map Prod.fst).all fun k ↦ hasTextKey (k, k) := by
    intro es
    rw [List.all_map]
    rfl
  rw [hkeys, hkeys below, Datum.keys_merge h, List.all_append]
  have hnew : ((names.filter fun n ↦ (Datum.field? n below).isNone).map Datum.str).all
      (fun k ↦ hasTextKey (k, k)) = true := by
    rw [List.all_map, List.all_eq_true]
    exact fun n _ ↦ rfl
  rw [hnew, Bool.and_true]

/-- **Which setting counts.** From a file with texts for keys, whose entry for logging is a mapping
if it is there, the settings are made from entries in which each setting is what its variable gives,
for the address and the token also what the second variable gives where the first is not set, or
else what the file holds; all other entries are those of the file. -/
theorem entries_precedence (hfile : s.fileEntries read name = .ok file)
    (hkeys : file.all hasTextKey = true)
    (hlogging : ∀ d, Datum.field? "logging" file = some d → ∃ es, d = .dict es) :
    ∃ handed, s.entries read name = .ok handed ∧
      s.settingsBy read name =
        (ShopSettings.ofEntries handed).mapError (fun issues ↦ .configuration (.invalid issues)) ∧
      Precedence s.environment file handed := by
  have hentries : s.entries read name = .ok (Datum.merge file s.environment.entries) := by
    rw [entries, hfile]
    rfl
  obtain ⟨names, hnames, -⟩ := (Environment.isGiven_entries s.environment).names
  refine ⟨_, hentries, ?_, precedence_merge s.environment hlogging⟩
  rw [settingsBy, hentries]
  show make _ = _
  rw [make, all_hasTextKey_merge hnames, hkeys, if_pos rfl]
  cases ShopSettings.ofEntries (Datum.merge file s.environment.entries) <;> rfl

/-- A file with a token and a form of log lines, an entry that no variable gives beside it, an empty
level from the environment, and two tokens there, of which the one without the prefix does not
count. -/
theorem entries_precedence_partly :
    ∃ (s : Surroundings) (file handed : List (Datum × Datum)),
      s.fileEntries FileFormat.read? (some "s.json") = .ok file ∧ file.all hasTextKey = true ∧
      (∃ es, Datum.field? "logging" file = some (.dict es)) ∧
      s.entries FileFormat.read? (some "s.json") = .ok handed ∧
      Precedence s.environment file handed ∧
      Datum.at? ["api_token"] handed = some (.str "env") ∧
      Datum.at? ["logging", "level"] handed = some (.str "") ∧
      Datum.at? ["logging", "format"] handed = some (.str "x") := by
  let s : Surroundings :=
    { files := [(["work", "s.json"], .file (Encoding.utf8
        "\x7b\"api_token\":\"f\",\"logging\":\x7b\"format\":\"x\",\"more\":1\x7d\x7d"))]
      working := ["work"]
      home := ["home"]
      environment := [("SHOPIFY_API_TOKEN", "env"), ("API_TOKEN", "bare"),
        ("SHOPIFY_LOG_LEVEL", "")] }
  have hfile : s.fileEntries FileFormat.read? (some "s.json") = .ok
      [(.str "api_token", .str "f"),
        (.str "logging", .dict [(.str "format", .str "x"), (.str "more", .int 1)])] := by
    cbv
  have hlogging : ∀ d, Datum.field? "logging" [(.str "api_token", .str "f"),
      (.str "logging", .dict [(.str "format", .str "x"), (.str "more", .int 1)])] = some d →
      ∃ es, d = .dict es := by
    intro d hd
    exact ⟨_, (Option.some.inj hd).symm⟩
  obtain ⟨handed, hentries, -, hprecedence⟩ := entries_precedence hfile rfl hlogging
  exact ⟨s, _, handed, hfile, rfl, ⟨_, rfl⟩, hentries, hprecedence, hprecedence.setting .token,
    hprecedence.setting .logLevel, hprecedence.setting .logFormat⟩

end Surroundings

end CatalogQuery
