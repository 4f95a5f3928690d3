import CatalogQuery.Proofs.Settings.Precedence

/-!
# How loading ends

Loading ends with settings or with a fault of the configuration, but for two faults that are not the
library's own: a mapping in a file has a key that is no text, and a path that is looked up is longer
than the system admits. The first arises wherever there is such a key, and neither arises anywhere
else (`Surroundings.settingsBy_ends`). The way there follows the steps of loading: a file is found
(`file_cases`), it holds entries (`parse_cases`), and settings are made of them (`make_cases`).

A file that holds anything else than a mapping holds no settings. If the value is empty, zero or
false, that is all; any other value is refused, whatever the environment gives. So not every such
file is refused, and not every failure is one of the configuration (`Surroundings.settings_escape`).

## Three case lemmas

Loading looks for a file, reads entries from it, lays those of the environment over them, and makes
settings. For each step that can fail there is one lemma that lists its ends, and the ends are named
by what they come of: a place that is too long, a value that a file holds, a key. That an escape
happens in **exactly** one situation is proved for the keys in both directions
(`Surroundings.settingsBy_eq_wrongClass_iff`). The environment cannot cause it, because it adds
texts for keys only.

## What is left to the reader

A reader is any function from the octets of a file in some format to a value. JSON has a reader of
its own in this library, and so has the part of YAML that files of settings are written in; the
theorems do not depend on either.
-/

open CatalogQuery.Attempt

namespace CatalogQuery

/-- An address and a token are enough to make settings. -/
theorem ShopSettings.ofEntries_of_required {d e : Datum} {url : Url} {token : Text}
    (hurl : checkUrl d = .ok url) (htoken : checkToken e = .ok token) :
    ofEntries [(.str "api_url", d), (.str "api_token", e)] = .ok { url, token } := by
  have hnames : checkNames [(.str "api_url", d), (.str "api_token", e)] = .ok () := by
    simp [checkNames, names, Datum.equal_str]
  have hfield : ∀ n, Datum.field? n [(.str "api_url", d), (.str "api_token", e)] =
      if "api_url" = n then some d else if "api_token" = n then some e else none := by
    intro n
    simp only [Datum.field?_cons, Datum.equal_str, beq_iff_eq]
    rfl
  simp only [ofEntries, hnames, Field.required, Field.optional, hfield]
  simp [hurl, htoken]
  rfl

namespace Surroundings

variable {read : FileReader} {s : Surroundings} {name : Option String}

/-- Loading ended with settings, or with a fault of the configuration. -/
inductive IsSettled : Outcome ShopSettings → Prop
  /-- There are settings. -/
  | loaded (settings : ShopSettings) : IsSettled (.ok settings)
  /-- There is a documented failure. -/
  | refused (cause : ConfigurationFault) : IsSettled (.error (.configuration cause))

/-! ### Which file

A place is a directory and a path that begins there. The search goes through the places in order and
stops at the first one with a file. That a path is too long is said of some place among them
(`HasTooLongPath`), which is all that the theorem at the end needs.
-/

/-- The places that are looked at: that of the named file, or all places of files of settings. -/
def candidates (s : Surroundings) (name : Option String) : List (List String × FilePath) :=
  if (name.getD "").isEmpty then s.places else [(s.working, .ofText (name.getD ""))]

/-- A path that is looked up is longer than the system admits. -/
def HasTooLongPath (s : Surroundings) (name : Option String) : Prop :=
  ∃ place ∈ s.candidates name, s.files.find place.1 place.2 = .tooLong

/-- The file of settings holds a value. -/
def Holds (read : FileReader) (s : Surroundings) (name : Option String) (path : FilePath)
    (d : Datum) : Prop :=
  ∃ entry format, s.file name = .ok (some (path, entry)) ∧
    FileFormat.ofExtension? path.extension = some format ∧ entry.held? read format = some d

/-- The search among the places ends with a file or none, unless a path on the way is too long. -/
theorem search_cases (s : Surroundings) (places : List (List String × FilePath)) :
    (∃ found, s.search places = .ok found) ∨
      s.search places = Outcome.fault .system ∧
        ∃ place ∈ places, s.files.find place.1 place.2 = .tooLong := by
  induction places with
  | nil => exact .inl ⟨none, rfl⟩
  | cons place places ih =>
    obtain ⟨start, path⟩ := place
    rw [search]
    cases hfound : s.files.find start path with
    | entry e => exact .inl ⟨_, rfl⟩
    | nothing =>
      refine ih.imp_right fun ⟨hfault, place, hplace, hlong⟩ ↦ ?_
      exact ⟨hfault, place, List.mem_cons_of_mem _ hplace, hlong⟩
    | tooLong => exact .inr ⟨rfl, (start, path), List.mem_cons_self, hfound⟩

/-- A file is found, or there is none, or a named one does not exist, or a path is too long. -/
theorem file_cases (s : Surroundings) (name : Option String) :
    (∃ found, s.file name = .ok found) ∨ (∃ cause, s.file name = .error (.configuration cause)) ∨
      s.file name = Outcome.fault .system ∧ s.HasTooLongPath name := by
  rw [file, HasTooLongPath, candidates]
  split
  · exact (s.search_cases s.places).imp_right .inr
  · dsimp only
    cases hfound : s.files.find s.working (.ofText (name.getD "")) with
    | entry e => exact .inl ⟨_, rfl⟩
    | nothing => exact .inr (.inl ⟨_, rfl⟩)
    | tooLong => exact .inr (.inr ⟨rfl, _, List.mem_singleton_self _, hfound⟩)

/-! ### Which entries

A file that is found holds a value or cannot be read, and a value is a mapping or not. `Holds` names
the value, so that the theorem at the end can speak of it without going through the search again.
-/

/-- What is read from a file is a mapping, which is its entries, or another value, which holds
none. -/
theorem parse_cases (read : FileReader) (path : FilePath) (entry : FileEntry) :
    (∃ cause, parse read path entry = .error (.configuration cause)) ∨
      ∃ entries, parse read path entry = .ok entries ∧
        (entries = [] ∨ ∃ format, FileFormat.ofExtension? path.extension = some format ∧
          entry.held? read format = some (.dict entries)) := by
  rw [parse]
  cases hformat : FileFormat.ofExtension? path.extension with
  | none => exact .inl ⟨_, rfl⟩
  | some format =>
    dsimp only
    split
    · exact .inl ⟨_, rfl⟩
    · rename_i entries hheld
      exact .inr ⟨entries, rfl, .inr ⟨format, rfl, hheld⟩⟩
    · split
      · exact .inl ⟨_, rfl⟩
      · exact .inr ⟨[], rfl, .inl rfl⟩

/-- What the file gives: entries, which are none or those of a mapping that it holds, or a
failure. -/
theorem fileEntries_cases (read : FileReader) (s : Surroundings) (name : Option String) :
    (∃ cause, s.fileEntries read name = .error (.configuration cause)) ∨
      (s.fileEntries read name = Outcome.fault .system ∧ s.HasTooLongPath name) ∨
      ∃ entries, s.fileEntries read name = .ok entries ∧
        (entries = [] ∨ ∃ path, s.Holds read name path (.dict entries)) := by
  rw [fileEntries]
  rcases hfile : s.file name with failure | found
  · rcases s.file_cases name with ⟨found, h⟩ | ⟨cause, h⟩ | ⟨h, hlong⟩
    · cases hfile.symm.trans h
    · cases hfile.symm.trans h
      exact .inl ⟨cause, rfl⟩
    · cases hfile.symm.trans h
      exact .inr (.inl ⟨rfl, hlong⟩)
  · cases found with
    | none => exact .inr (.inr ⟨[], rfl, .inl rfl⟩)
    | some found =>
      obtain ⟨path, entry⟩ := found
      show (∃ cause, parse read path entry = _) ∨ (parse read path entry = _ ∧ _) ∨
        ∃ entries, parse read path entry = _ ∧ _
      rcases parse_cases read path entry with hrefused | ⟨entries, hparse, hentries⟩
      · exact .inl hrefused
      · refine .inr (.inr ⟨entries, hparse, ?_⟩)
        rcases hentries with hnone | ⟨format, hformat, hheld⟩
        · exact .inl hnone
        · exact .inr ⟨path, entry, format, hfile, hformat, hheld⟩

/-- The entries of a file are read from what it holds. -/
theorem Holds.exists_parse {path : FilePath} {d : Datum} (h : s.Holds read name path d) :
    ∃ entry format, s.fileEntries read name = parse read path entry ∧
      FileFormat.ofExtension? path.extension = some format ∧ entry.held? read format = some d := by
  obtain ⟨entry, format, hfile, hformat, hheld⟩ := h
  refine ⟨entry, format, ?_, hformat, hheld⟩
  rw [fileEntries, hfile]
  rfl

/-- The entries of a file that holds a mapping are those of the mapping. -/
theorem Holds.fileEntries_dict {path : FilePath} {entries : List (Datum × Datum)}
    (h : s.Holds read name path (.dict entries)) : s.fileEntries read name = .ok entries := by
  obtain ⟨entry, format, hparse, hformat, hheld⟩ := h.exists_parse
  rw [hparse, parse, hformat]
  simp only [hheld]

/-- A file that holds another value has no entries, or is refused. -/
theorem Holds.fileEntries_of_ne_dict {path : FilePath} {d : Datum} (h : s.Holds read name path d)
    (hmapping : ∀ entries, d ≠ .dict entries) :
    s.fileEntries read name =
      if d.isTruthy then .error (.configuration (.noMapping path.text)) else .ok [] := by
  obtain ⟨entry, format, hparse, hformat, hheld⟩ := h.exists_parse
  rw [hparse, parse, hformat]
  simp only [hheld]

/-! ### Which settings

The entries of the environment are merged over those of the file, and settings are made of the
result. Making them asks for keys that are texts before any field is checked, and merging adds keys
of that kind only, so the keys of the file decide.
-/

/-- Settings are made or refused, or a key is no text. -/
theorem make_cases (entries : List (Datum × Datum)) :
    (IsSettled (make entries) ∧ entries.all hasTextKey = true) ∨
      make entries = Outcome.fault .wrongClass ∧ entries.all hasTextKey = false := by
  rw [make]
  cases hkeys : entries.all hasTextKey with
  | false => exact .inr ⟨rfl, rfl⟩
  | true =>
    rw [if_pos rfl]
    refine .inl ⟨?_, rfl⟩
    cases ShopSettings.ofEntries entries with
    | ok settings => exact .loaded settings
    | error issues => exact .refused _

/-- What is loaded from a file that gives entries. -/
theorem settingsBy_of_fileEntries {entries : List (Datum × Datum)}
    (h : s.fileEntries read name = .ok entries) :
    s.settingsBy read name = make (Datum.merge entries s.environment.entries) := by
  rw [settingsBy, Surroundings.entries, h]
  rfl

/-- A failure to read the file is the end of loading. -/
theorem settingsBy_of_fileEntries_error {failure : Failure}
    (h : s.fileEntries read name = .error failure) :
    s.settingsBy read name = .error failure := by
  rw [settingsBy, Surroundings.entries, h]
  rfl

/-- The keys that the environment adds are texts. -/
theorem all_hasTextKey_entries (entries : List (Datum × Datum)) (env : Environment) :
    (Datum.merge entries env.entries).all hasTextKey = entries.all hasTextKey := by
  obtain ⟨names, hnames, -⟩ := (Environment.isGiven_entries env).names
  exact all_hasTextKey_merge hnames

/-- Loading fails with a wrong class exactly if a mapping that the file holds has a key that is no
text. -/
theorem settingsBy_eq_wrongClass_iff :
    s.settingsBy read name = Outcome.fault .wrongClass ↔
      ∃ path entries, s.Holds read name path (.dict entries) ∧ entries.all hasTextKey = false := by
  constructor
  · intro hfault
    rcases s.fileEntries_cases read name with ⟨cause, h⟩ | ⟨h, -⟩ | ⟨entries, h, hentries⟩
    · rw [settingsBy_of_fileEntries_error h] at hfault
      cases hfault
    · rw [settingsBy_of_fileEntries_error h] at hfault
      cases hfault
    · rw [settingsBy_of_fileEntries h] at hfault
      rcases make_cases (Datum.merge entries s.environment.entries) with ⟨hsettled, -⟩ | ⟨-, hkeys⟩
      · rw [hfault] at hsettled
        cases hsettled
      · -- What the environment adds has texts for keys, so the key is one of the file.
        rw [all_hasTextKey_entries] at hkeys
        rcases hentries with rfl | ⟨path, hholds⟩
        · cases hkeys
        · exact ⟨path, entries, hholds, hkeys⟩
  · rintro ⟨path, entries, hholds, hkeys⟩
    rw [settingsBy_of_fileEntries hholds.fileEntries_dict]
    rcases make_cases (Datum.merge entries s.environment.entries) with ⟨-, hall⟩ | ⟨hfault, -⟩
    · rw [all_hasTextKey_entries, hkeys] at hall
      cases hall
    · exact hfault

/-- What is loaded from a file that holds another value than a mapping: nothing, if the value is not
empty, zero or false, and otherwise what the environment gives alone. -/
theorem Holds.settingsBy_of_ne_dict {path : FilePath} {d : Datum} (h : s.Holds read name path d)
    (hmapping : ∀ entries, d ≠ .dict entries) :
    s.settingsBy read name =
      if d.isTruthy then .error (.configuration (.noMapping path.text))
      else make s.environment.entries := by
  have hentries := h.fileEntries_of_ne_dict hmapping
  cases htruthy : d.isTruthy with
  | true =>
    rw [htruthy, if_pos rfl] at hentries
    rw [settingsBy_of_fileEntries_error hentries, if_pos rfl]
  | false =>
    rw [htruthy, if_neg Bool.false_ne_true] at hentries
    obtain ⟨names, hnames, -⟩ := (Environment.isGiven_entries s.environment).names
    rw [settingsBy_of_fileEntries hentries, Datum.merge_nil hnames, if_neg Bool.false_ne_true]

/-! ### Public contract -/

/-- **How loading ends**, with any reader of files. It ends with settings or with a fault of the
configuration, unless a mapping in the file has a key that is no text, or a path is too long. A file
that holds another value than a mapping is refused, whatever the environment gives, if the value is
not empty, zero or false; if it is, the settings are those of the environment alone. -/
theorem settingsBy_ends (read : FileReader) (s : Surroundings) (name : Option String) :
    (IsSettled (s.settingsBy read name) ∨
      (s.settingsBy read name = Outcome.fault .wrongClass ∧
        ∃ path entries, s.Holds read name path (.dict entries) ∧ entries.all hasTextKey = false) ∨
      s.settingsBy read name = Outcome.fault .system ∧ s.HasTooLongPath name) ∧
    (∀ path entries, s.Holds read name path (.dict entries) → entries.all hasTextKey = false →
      s.settingsBy read name = Outcome.fault .wrongClass) ∧
    ∀ path d, s.Holds read name path d → (∀ entries, d ≠ .dict entries) →
      s.settingsBy read name =
        if d.isTruthy then .error (.configuration (.noMapping path.text))
        else make s.environment.entries := by
  refine ⟨?_, fun path entries hholds hkeys ↦
      settingsBy_eq_wrongClass_iff.2 ⟨path, entries, hholds, hkeys⟩,
    fun path d hholds hmapping ↦ hholds.settingsBy_of_ne_dict hmapping⟩
  rcases s.fileEntries_cases read name with ⟨cause, h⟩ | ⟨h, hlong⟩ | ⟨entries, h, -⟩
  · rw [settingsBy_of_fileEntries_error h]
    exact .inl (.refused cause)
  · exact .inr (.inr ⟨settingsBy_of_fileEntries_error h, hlong⟩)
  · rcases make_cases (Datum.merge entries s.environment.entries) with ⟨hsettled, -⟩ | ⟨hfault, -⟩
    · rw [settingsBy_of_fileEntries h]
      exact .inl hsettled
    · have hwrong := (settingsBy_of_fileEntries h).trans hfault
      exact .inr (.inl ⟨hwrong, settingsBy_eq_wrongClass_iff.1 hwrong⟩)

/-- **Loading can fail with another fault, and accept a file that holds no mapping**: a key of a
file may be a number, and a file may hold nothing but a truth value. -/
theorem settings_escape :
    (∃ (s : Surroundings) (name : Option String), ¬ IsSettled (s.settings name)) ∧
      ∃ (s : Surroundings) (name : Option String) (path : FilePath) (settings : ShopSettings),
        s.Holds FileFormat.read? name path (.bool false) ∧ s.settings name = .ok settings := by
  constructor
  · let s : Surroundings :=
      { files := [(["work", "s.yaml"], .file (Encoding.utf8 "1: x"))]
        working := ["work"]
        home := ["home"]
        environment := [] }
    have hfault : s.settings (some "s.yaml") = Outcome.fault .wrongClass := by cbv
    refine ⟨s, some "s.yaml", fun hsettled ↦ ?_⟩
    rw [hfault] at hsettled
    cases hsettled
  · let s : Surroundings :=
      { files := [(["work", "s.json"], .file (Encoding.utf8 "false"))]
        working := ["work"]
        home := ["home"]
        environment := [("API_URL", "http://[::1]/"), ("API_TOKEN", "t")] }
    have hholds : s.Holds FileFormat.read? (some "s.json") (.ofNames ["s.json"]) (.bool false) :=
      ⟨_, .json, by cbv, by cbv, by cbv⟩
    have henv :
        s.environment.entries =
        [(.str "api_url", .str "http://[::1]/"), (.str "api_token", .str "t")] :=
      Environment.entries_unprefixed "http://[::1]/" "t"
    obtain ⟨url, hurl⟩ : ∃ url, ShopSettings.checkUrl (.str "http://[::1]/") = .ok url :=
      isOk_iff.1 (by cbv)
    obtain ⟨token, htoken⟩ : ∃ token, ShopSettings.checkToken (.str "t") = .ok token :=
      isOk_iff.1 (by cbv)
    refine ⟨s, some "s.json", _, { url, token }, hholds, ?_⟩
    have hmapping : ∀ entries, Datum.bool false ≠ .dict entries := by
      intro entries hdict
      cases hdict
    rw [settings, hholds.settingsBy_of_ne_dict hmapping, henv, make]
    simp only [ShopSettings.ofEntries_of_required hurl htoken]
    rfl

end Surroundings

end CatalogQuery
