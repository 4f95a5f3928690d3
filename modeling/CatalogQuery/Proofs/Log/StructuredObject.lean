import CatalogQuery.Proofs.JsonLine
import CatalogQuery.Proofs.Log.ConsoleObject

/-!
# What a structured record decodes to

A record with further attributes becomes one line, and the line is one JSON object
(`LogFormat.structured_decodes`). It has the entries of the record (`LogRecord.own`) and, under its
name, the last value of every further attribute.

The names of attributes that are no further ones (`LogFormat.standardNames`) are names of attributes
and not of entries. Two entries have the name of an attribute, the message and the module, and these
are always the record's. Every other entry gives way to a further attribute of its name
(`LogFormat.structured_overwrites`), so a record can show a level, a time or an exception that it
does not have.

## The two halves of the object

`LogRecord.own` is what a record says of itself, at a moment and with a message, and
`LogRecord.shown` is what is left of it after the further attributes were set one by one. Both are
stated without the formatter, and `LogFormat.entries_of_isExtended` is the one place where they meet
it. What is found under a name is then the last further attribute of that name or the record's own
entry (`LogRecord.get?_shown`), by what is known of assignments in a row.

Here the further attributes matter twice. They are set among the attributes of the record before any
of these is read, and they are set among the entries of the object. The first can change nothing, as
their names are not those of standard attributes (`LogRecord.IsExtended.get_eq`). The second can, as
the object has entries that no attribute is named like.

## When there is a line

Of the record's own entries only the number of its line can be without a text
(`LogRecord.mem_own_cases`). The condition is exact although it does not look so: a line beyond the
digit limit does no harm where a further attribute stands for it, as it is replaced before anything
is written (`LogRecord.ShowsLine`).

Reading the object back gives its values as a reader knows them (`Json.decoded`): tuples have become
lists, and keys texts. The record's own entries are not touched by this
(`LogRecord.map_decoded_lookup_own`).
-/

open CatalogQuery.Attempt

namespace CatalogQuery

variable {r : LogRecord} {name message line : String} {moment : Moment} {es : List (String × Datum)}

/-! ### Entries that are set -/

/-- Entries that are set one after another are those of inputs that are assigned so. -/
theorem LogRecord.foldl_setIn_eq_entries (as es : List (String × Datum)) :
    as.foldl (fun es a ↦ setIn a.1 a.2 es) es =
      (as.foldl (fun i a ↦ i.assign a.1 a.2) (Inputs.mk es)).entries := by
  induction as generalizing es with
  | nil => rfl
  | cons a as ih => rw [List.foldl_cons, List.foldl_cons, ih, setIn_eq_assignEntries, Inputs.assign]

/-- What is found under a name of named values. -/
theorem Datum.field?_map (f : Datum → Datum) (name : String) (es : List (String × Datum)) :
    field? name (es.map fun e ↦ (.str e.1, f e.2)) = (Inputs.get? ⟨es⟩ name).map f := by
  induction es with
  | nil => rfl
  | cons e es ih =>
    rw [List.map_cons, field?_cons, equal_str, ih, Inputs.get?, Inputs.get?, List.find?_cons]
    cases e.1 == name <;> rfl

namespace LogRecord

/-! ### Records with further attributes -/

/-- A record whose further attributes do not have the names of standard ones, and whose values can
be written. -/
structure IsExtended (r : LogRecord) : Prop where
  /-- No further attribute stands for a standard one. -/
  names : ∀ a ∈ r.extras, a.1 ∉ LogFormat.standardNames
  /-- Every further attribute has a JSON text. -/
  values : ∀ a ∈ r.extras, Json.Encodable a.2

/-- One further attribute, a text under a name of its own. -/
theorem isExtended_of_extras {s : String} (h : r.extras = [(name, .str s)])
    (hname : name ∉ LogFormat.standardNames) : r.IsExtended := by
  constructor <;> intro a ha <;> rw [h, List.mem_singleton] at ha <;> subst ha
  · exact hname
  · exact Json.hasCharacters_str s

theorem IsExtended.lookup_extras (h : r.IsExtended) (hname : name ∈ LogFormat.standardNames) :
    r.extras.reverse.lookup name = none := by
  refine List.lookup_eq_none_iff.2 fun a ha ↦ bne_iff_ne.2 ?_
  rintro rfl
  exact h.names a (List.mem_reverse.1 ha) hname

/-- Standard attributes are the record's. -/
theorem IsExtended.get_eq (h : r.IsExtended) (hname : name ∈ LogFormat.standardNames) :
    r.get name = (r.standard.reverse.lookup name).getD .null := by
  rw [LogRecord.get_eq, List.reverse_append, List.lookup_append, h.lookup_extras hname,
    Option.none_or]

/-- The entries that a record has of its own in an object, at a moment and with a message. -/
def own (r : LogRecord) (moment : Moment) (message : String) : List (String × Datum) :=
  [("timestamp", .str moment.iso), ("level", .str (levelName r.level)), ("logger", .str r.name),
    ("message", .str message),
    ("module", .str (String.ofList (withoutExtension (fileName r.path)))),
    ("function", r.function.elim .null .str), ("line", .int r.line)] ++
      r.exception.elim [] fun e ↦ [("exception", .str e.text)]

/-- The formatter collects what the record has of its own. -/
theorem IsExtended.ownEntries_eq (h : r.IsExtended) (moment : Moment) (message : String) :
    LogFormat.ownEntries r moment message = r.own moment message := by
  -- Each of the names is a standard one, which is a matter of a fixed list.
  simp (disch := decide) only [LogFormat.ownEntries, h.get_eq]
  rfl

/-- Every attribute that is no standard one is shown. -/
theorem IsExtended.further_eq (h : r.IsExtended) : LogFormat.further r = r.extras := by
  refine List.filter_eq_self.2 fun a ha ↦ ?_
  have hname := h.names a ha
  simpa using hname

theorem IsExtended.get_created (h : r.IsExtended) : r.get "created" = .float r.created := by
  rw [h.get_eq (by decide)]
  rfl

/-- The names of the record's own entries are different. -/
theorem eraseDups_keys_own (r : LogRecord) (moment : Moment) (message : String) :
    ((r.own moment message).map Prod.fst).eraseDups = (r.own moment message).map Prod.fst := by
  rw [own]
  cases r.exception <;> rfl

/-- The entries of the object of a record: its own and the further attributes. -/
def shown (r : LogRecord) (moment : Moment) (message : String) : Inputs :=
  r.extras.foldl (fun i a ↦ i.assign a.1 a.2) ⟨r.own moment message⟩

/-- The names of the object are those of the record's own entries, and then those of the further
attributes. -/
theorem keys_shown (r : LogRecord) (moment : Moment) (message : String) :
    (r.shown moment message).keys =
      ((r.own moment message).map Prod.fst ++ r.extras.map Prod.fst).eraseDups :=
  Inputs.keys_foldl_assign (i := ⟨r.own moment message⟩) (eraseDups_keys_own r moment message)
    r.extras

theorem nodup_keys_shown (r : LogRecord) (moment : Moment) (message : String) :
    (r.shown moment message).keys.Nodup := by
  rw [keys_shown]
  exact nodup_eraseDups _

/-- **The last further attribute of a name is shown**, or else what the record has of its own. -/
theorem get?_shown (r : LogRecord) (moment : Moment) (message name : String) :
    (r.shown moment message).get? name =
      (r.extras.reverse.lookup name).or ((r.own moment message).lookup name) := by
  rw [shown, Inputs.get?_foldl_assign, Inputs.get?_eq_lookup]

theorem mem_of_lookup_eq_some {as : List (String × Datum)} {d : Datum}
    (h : as.lookup name = some d) : (name, d) ∈ as := by
  obtain ⟨before, after, rfl, -⟩ := List.lookup_eq_some_iff.1 h
  simp

/-- What a record has of its own is null, a text of characters or its line. -/
theorem mem_own_cases {d : Datum} (h : (name, d) ∈ r.own moment message) :
    d = .null ∨ (∃ s, d = .str s) ∨ name = "line" ∧ d = .int r.line := by
  rcases List.mem_append.1 h with hown | hexception
  · simp only [List.mem_cons, List.not_mem_nil, or_false, Prod.mk.injEq] at hown
    rcases hown with ⟨-, rfl⟩ | ⟨-, rfl⟩ | ⟨-, rfl⟩ | ⟨-, rfl⟩ | ⟨-, rfl⟩ | ⟨-, rfl⟩ | hline
    · exact .inr (.inl ⟨_, rfl⟩)
    · exact .inr (.inl ⟨_, rfl⟩)
    · exact .inr (.inl ⟨_, rfl⟩)
    · exact .inr (.inl ⟨_, rfl⟩)
    · exact .inr (.inl ⟨_, rfl⟩)
    · cases r.function with
      | none => exact .inl rfl
      | some f => exact .inr (.inl ⟨f, rfl⟩)
    · exact .inr (.inr hline)
  · cases he : r.exception with
    | none => simp [he] at hexception
    | some e =>
      rw [he] at hexception
      exact .inr (.inl ⟨_, (Prod.mk.inj (List.mem_singleton.1 hexception)).2⟩)

/-- What a record has of its own is read as it is. -/
theorem map_decoded_lookup_own (r : LogRecord) (moment : Moment) (message name : String) :
    ((r.own moment message).lookup name).map Json.decoded = (r.own moment message).lookup name := by
  cases h : (r.own moment message).lookup name with
  | none => rfl
  | some d =>
    rw [Option.map_some]
    rcases mem_own_cases (mem_of_lookup_eq_some h) with rfl | ⟨s, rfl⟩ | ⟨-, rfl⟩
    · rfl
    · rw [Json.decoded, Text.points_str, Text.ofPoints_codePoints, String.ofList_toList]
    · rfl

/-- The line of a record can be shown: it has a text, or a further attribute stands for it. -/
def ShowsLine (r : LogRecord) : Prop :=
  integerFits r.line = true ∨ ∃ a ∈ r.extras, a.1 = "line"

/-- Every entry of the object can be written. -/
theorem IsExtended.encodable_shown (h : r.IsExtended) (hline : r.ShowsLine) {e : String × Datum}
    (he : e ∈ (r.shown moment message).entries) : Json.Encodable e.2 := by
  have hget := Inputs.get?_of_mem (nodup_keys_shown r moment message) he
  rw [get?_shown] at hget
  -- A value is the last further attribute of its name, or the record's own under a name that no
  -- further attribute has.
  rcases Option.or_eq_some_iff.1 hget with hextra | ⟨hnone, hown⟩
  · exact h.values _ (List.mem_reverse.1 (mem_of_lookup_eq_some hextra))
  · rcases mem_own_cases (mem_of_lookup_eq_some hown) with hnull | ⟨s, hstr⟩ | ⟨hname, hint⟩
    · rw [hnull]
      trivial
    · rw [hstr]
      exact Json.hasCharacters_str s
    · -- The record's own line is shown only where no further attribute stands for it.
      rw [hint]
      refine hline.resolve_right ?_
      rintro ⟨a, ha, hsame⟩
      rw [hname, List.lookup_eq_none_iff] at hnone
      exact absurd hsame.symm (by simpa using hnone a (List.mem_reverse.2 ha))

end LogRecord

/-! ### The object -/

theorem Json.fault?_eq_none_of_write {d : Datum} {s : String} (h : write d = .ok s) :
    fault? d = none := by
  rw [write] at h
  split at h
  · cases h
  · assumption

/-- If nothing is wrong with an object, nothing is wrong with a value in it. -/
theorem Json.fault?_of_mem {es : List (Datum × Datum)} {k d : Datum}
    (h : membersFault? es = none) (hd : (k, d) ∈ es) : fault? d = none := by
  induction es with
  | nil => cases hd
  | cons e es ih =>
    obtain ⟨k', d'⟩ := e
    -- The first thing that is wrong is reported, so there is nothing wrong before it either.
    have hparts : fault? d' = none ∧ membersFault? es = none := by
      cases k' <;> simp_all [membersFault?]
    rcases List.mem_cons.1 hd with heq | hd
    · cases heq
      exact hparts.1
    · exact ih hparts.2 hd

namespace LogFormat

open LogRecord

/-- The formatter collects the entries that are shown. -/
theorem entries_of_isExtended (h : r.IsExtended) (hmoment : Moment.ofTime r.created = .ok moment)
    (hmessage : r.text = .ok message) : entries r = .ok (r.shown moment message).entries := by
  refine entries_eq_ok_iff.2 ⟨moment, message, ?_, hmessage, ?_⟩
  · rw [h.get_created]
    exact hmoment
  · rw [h.ownEntries_eq, h.further_eq, foldl_setIn_eq_entries]
    rfl

/-- The object of a record whose entries can be written. -/
theorem object_of_isExtended (h : r.IsExtended) (hline : r.ShowsLine)
    (hmoment : Moment.ofTime r.created = .ok moment) (hmessage : r.text = .ok message) :
    object r = .ok (Json.text
      (.dict ((r.shown moment message).entries.map fun e ↦ (.str e.1, e.2)))) := by
  have hencodable :
      Json.Encodable (.dict ((r.shown moment message).entries.map fun e ↦ (.str e.1, e.2))) :=
    Json.encodableMembers_map fun e he ↦ h.encodable_shown hline he
  refine bind_eq_ok_iff.2 ⟨_, entries_of_isExtended h hmoment hmessage, ?_⟩
  rw [Json.write_of_encodable hencodable]
  rfl

/-- A record becomes an object only if its time, its message and its line can be shown. -/
theorem of_object_eq_ok (h : r.IsExtended) (hobject : object r = .ok line) :
    ∃ moment message, Moment.ofTime r.created = .ok moment ∧ r.text = .ok message ∧
      r.ShowsLine := by
  obtain ⟨es, hes, hwrite⟩ := bind_eq_ok_iff.1 hobject
  obtain ⟨moment, message, hmoment, hmessage, -⟩ := entries_eq_ok_iff.1 hes
  rw [h.get_created] at hmoment
  obtain rfl := Except.ok.inj (hes.symm.trans (entries_of_isExtended h hmoment hmessage))
  refine ⟨moment, message, hmoment, hmessage, ?_⟩
  by_cases hextra : ∃ a ∈ r.extras, a.1 = "line"
  · exact .inr hextra
  · -- The line is among the entries, and nothing is wrong with any of them.
    have hnone : r.extras.reverse.lookup "line" = none := by
      refine List.lookup_eq_none_iff.2 fun a ha ↦ bne_iff_ne.2 fun hname ↦ ?_
      exact hextra ⟨a, List.mem_reverse.1 ha, hname.symm⟩
    have hget : (r.shown moment message).get? "line" = some (.int r.line) := by
      rw [get?_shown, hnone]
      rfl
    have hmem : ((.str "line", .int r.line) : Datum × Datum) ∈
        (r.shown moment message).entries.map fun e ↦ (.str e.1, e.2) :=
      List.mem_map_of_mem (Inputs.mem_of_get? hget)
    split at hwrite
    · next hwritten =>
      have hfault : Json.fault? (.int r.line) = none :=
        Json.fault?_of_mem (Json.fault?_eq_none_of_write hwritten) hmem
      rw [Json.fault?] at hfault
      refine .inl ?_
      by_contra hfits
      rw [if_neg hfits] at hfault
      cases hfault
    · cases hwrite
    · cases hwrite

/-- **The line of a record is one JSON object**: that of its own entries and its further
attributes. -/
theorem readPoints_of_format (h : r.IsExtended) (hmoment : Moment.ofTime r.created = .ok moment)
    (hmessage : r.text = .ok message) (hline : (format .structured r).2 = .ok line) :
    Json.NoControl line.toList ∧ Json.readPoints (codePoints line.toList) =
      .ok (.dict ((r.shown moment message).entries.map fun e ↦ (.str e.1, Json.decoded e.2))) := by
  obtain ⟨moment', message', hmoment', hmessage', hshows⟩ := of_object_eq_ok h hline
  have hobject := object_of_isExtended h hshows hmoment hmessage
  have hencodable :
      Json.Encodable (.dict ((r.shown moment message).entries.map fun e ↦ (.str e.1, e.2))) :=
    Json.encodableMembers_map fun e he ↦ h.encodable_shown hshows he
  obtain rfl := Except.ok.inj (hobject.symm.trans hline)
  refine ⟨Json.noControl_text _, ?_⟩
  rw [Json.readPoints_text hencodable, Json.decoded_map (nodup_keys_shown r moment message)]

end LogFormat

/-! ### Public contract -/

/-- **A structured record is one JSON object**, for every record whose further attributes do not
have the names of standard ones and can be written. There is a line if the time and the message can
be told and the line of the record, unless a further attribute stands for it, is within the digit
limit; the record is left as it is. No end of a line is in it, and it decodes to an object with the
names of the record's own entries and of its further attributes, each once and in the order of their
first occurrence. Under the name of a further attribute there is its last value; under any other
name there is what the record has of its own, and that is always so for the message and the
module. -/
theorem LogFormat.structured_decodes {r : LogRecord} (h : r.IsExtended) :
    (format .structured r).1 = r ∧
    ((∃ line, (format .structured r).2 = .ok line) ↔
      (∃ moment, Moment.ofTime r.created = .ok moment) ∧ (∃ message, r.text = .ok message) ∧
        (integerFits r.line = true ∨ ∃ a ∈ r.extras, a.1 = "line")) ∧
    ∀ moment message line, Moment.ofTime r.created = .ok moment → r.text = .ok message →
      (format .structured r).2 = .ok line →
        '\n' ∉ line.toList ∧ '\r' ∉ line.toList ∧
        ∃ entries, Json.readPoints (codePoints line.toList) = .ok (.dict entries) ∧
          entries.map Prod.fst =
            ((r.own moment message).map Prod.fst ++ r.extras.map Prod.fst).eraseDups.map Datum.str ∧
          (∀ name value, r.extras.reverse.lookup name = some value →
            Datum.field? name entries = some (Json.decoded value)) ∧
          (∀ name, (∀ a ∈ r.extras, a.1 ≠ name) →
            Datum.field? name entries = (r.own moment message).lookup name) ∧
          Datum.field? "message" entries = some (.str message) ∧
          Datum.field? "module" entries = (r.own moment message).lookup "module" := by
  refine ⟨rfl, ⟨?_, ?_⟩, fun moment message line hmoment hmessage hline ↦ ?_⟩
  · rintro ⟨line, hline⟩
    obtain ⟨moment, message, hmoment, hmessage, hshows⟩ := of_object_eq_ok h hline
    exact ⟨⟨moment, hmoment⟩, ⟨message, hmessage⟩, hshows⟩
  · rintro ⟨⟨moment, hmoment⟩, ⟨message, hmessage⟩, hshows⟩
    exact ⟨_, object_of_isExtended h hshows hmoment hmessage⟩
  · obtain ⟨hcontrol, hread⟩ := readPoints_of_format h hmoment hmessage hline
    have hfield (name : String) :
        Datum.field? name ((r.shown moment message).entries.map fun e ↦
          (.str e.1, Json.decoded e.2)) =
          ((r.extras.reverse.lookup name).or ((r.own moment message).lookup name)).map
            Json.decoded := by
      rw [Datum.field?_map, ← LogRecord.get?_shown]
    -- Reading changes nothing of what the record has of its own: null, texts and an integer.
    have hown {name : String} (hnone : r.extras.reverse.lookup name = none) :
        Datum.field? name ((r.shown moment message).entries.map fun e ↦
          (.str e.1, Json.decoded e.2)) =
          (r.own moment message).lookup name := by
      rw [hfield, hnone, Option.none_or, LogRecord.map_decoded_lookup_own]
    refine ⟨fun hlf ↦ absurd (hcontrol _ hlf) (by decide),
      fun hcr ↦ absurd (hcontrol _ hcr) (by decide), _, hread, ?_,
      fun name value hvalue ↦ ?_, fun name hname ↦ hown ?_, hown (h.lookup_extras (by decide)),
      hown (h.lookup_extras (by decide))⟩
    · rw [← LogRecord.keys_shown, Inputs.keys, List.map_map, List.map_map]
      rfl
    · rw [hfield, hvalue]
      rfl
    · exact List.lookup_eq_none_iff.2 fun a ha ↦
        bne_iff_ne.2 (Ne.symm (hname a (List.mem_reverse.1 ha)))

/-- A message with the end of a line in it stays on one line, and a further attribute is found under
its name. -/
theorem LogFormat.structured_decodes_operation :
    ∃ (r : LogRecord) (line : String), r.IsExtended ∧ r.message = .str "first\nsecond" ∧
      (format .structured r).2 = .ok line ∧ '\n' ∉ line.toList ∧
      ∃ entries, Json.readPoints (codePoints line.toList) = .ok (.dict entries) ∧
        Datum.field? "message" entries = some (.str "first\nsecond") ∧
        Datum.field? "operation" entries = some (.str "product") ∧
        Datum.field? "level" entries = some (.str "INFO") := by
  let r : LogRecord :=
    { name := "shopify_gql.test", level := 20, path := "/test/path.py", line := 42,
      message := .str "first\nsecond", created := .finite false 0 0,
      extras := [("operation", .str "product")] }
  have hr : r.IsExtended := LogRecord.isExtended_of_extras rfl (by decide)
  have hmoment :
      Moment.ofTime r.created = .ok { year := 1970, month := 1, day := 1, second := 0 } := by
    decide +kernel
  have hmessage : r.text = .ok "first\nsecond" := by
    decide +kernel
  -- There is a line, by the condition for it, and all else is read off that line.
  obtain ⟨-, hexists, hdecodes⟩ := structured_decodes hr
  obtain ⟨line, hline⟩ := hexists.2 ⟨⟨_, hmoment⟩, ⟨_, hmessage⟩, .inl (by decide +kernel)⟩
  obtain ⟨hlf, -, entries, hread, -, hvalue, hown, htext, -⟩ :=
    hdecodes _ _ line hmoment hmessage hline
  refine ⟨r, line, hr, rfl, hline, hlf, entries, hread, htext, hvalue "operation" _ rfl,
    hown "level" fun a ha ↦ ?_⟩
  obtain rfl := List.mem_singleton.1 ha
  decide

/-- **A further attribute named as an entry takes its place**: a record of an error shows another
level. -/
theorem LogFormat.structured_overwrites :
    ∃ r : LogRecord, r.IsExtended ∧ levelName r.level = "ERROR" ∧
      r.extras = [("level", .str "INFO")] ∧
      (format .structured r).2 =
        .ok ("\x7b\"timestamp\": \"1970-01-01T00:00:00\", \"level\": \"INFO\", " ++
          "\"logger\": \"shopify_gql.test\", \"message\": \"hi\", \"module\": \"path\", " ++
          "\"function\": null, \"line\": 42\x7d") := by
  let r : LogRecord :=
    { name := "shopify_gql.test", level := 40, path := "/test/path.py", line := 42,
      message := .str "hi", created := .finite false 0 0, extras := [("level", .str "INFO")] }
  exact ⟨r, LogRecord.isExtended_of_extras rfl (by decide), by decide, rfl, by decide +kernel⟩

end CatalogQuery
