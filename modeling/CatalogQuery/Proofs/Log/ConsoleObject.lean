import CatalogQuery.Proofs.Grammar.Numeral
import CatalogQuery.Proofs.Growth
import CatalogQuery.Proofs.Log.AdminToken
import CatalogQuery.Proofs.Log.Attachment

/-!
# What the console shows beside the message

A handler for the console that masks credentials and writes JSON objects masks the message of a
record and nothing else: its object is that of the record as it was, but for the entry of the
message (`LogFormat.entries_withMessage`). So every text in the object with an admin token in it is
one that the record carries beside its message (`LogRecord.CarriesBeside`): in the name of its
logger, level, module or function, in the text of its exception or in a further attribute. There it
is shown as it is (`LogManager.console_shows_attribute`). A token that stands in the message alone
is shown nowhere (`LogManager.console_object`).

`Json.Emits` is what it means for a text to stand in a JSON value at some depth.

## The object as a list of entries

The object of a record is made of entries that every record has, of one for an exception if there is
one, and of the further attributes, which are set over these. Setting an attribute is what assigning
to an input is (`LogRecord.setIn_eq_assignEntries`), so that two settings under different names may
be exchanged. The entry of the message is one of the first kind, and no further attribute has its
name, since that name is taken. This is why masking the message commutes with everything that comes
later.

## Tokens that are shown

A text in a JSON value is written with escapes, and a token in it need not stand in the line as it
is. `Json.Emits` therefore speaks of the value, and the line is related to it by quotation: the
whole text stands in the line between marks. The time of the record is the one entry that is no part
of the record's own data, and no token is made of digits and signs.

## The handler

That the handler in question is the one that masks is a fact about the manager: setting up enters it
under a name that nothing else can stand for then, whatever was done to the manager before.
-/

open CatalogQuery.Attempt

namespace CatalogQuery

/-! ### Texts in JSON values

`Emits` has a constructor for each kind of value that is written in quotation marks, and one for
each kind of container. Keys are not among the texts that it speaks of. The marks are part of what
stands in the line (`Emits.infix_text`), so a text is found as a whole and not as a piece of a
longer one.
-/

namespace Json

/-- A text is a value at some depth of what is written of a value. -/
inductive Emits : Datum → Text → Prop
  /-- A text is written as it is. -/
  | text {t : Text} : Emits (.text t) t
  /-- A word is written by its wire form. -/
  | word {w : Word} : Emits (.word w) (.str w.wire)
  /-- What an item of a list emits. -/
  | list {x : Datum} {xs : List Datum} {t : Text} : x ∈ xs → Emits x t → Emits (.list xs) t
  /-- What an item of a tuple emits. -/
  | tuple {x : Datum} {xs : List Datum} {t : Text} : x ∈ xs → Emits x t → Emits (.tuple xs) t
  /-- What a value of a mapping emits. -/
  | dict {k x : Datum} {es : List (Datum × Datum)} {t : Text} : (k, x) ∈ es → Emits x t →
      Emits (.dict es) t
  /-- Octets have no form of their own and are written as the text of the value. -/
  | octets {bytes : List UInt8} : Emits (.octets bytes) (Datum.octets bytes).plain
  /-- So are identifiers. -/
  | id {i : Id} : Emits (.id i) (Datum.id i).plain
  /-- So are amounts. -/
  | money {m : Money} : Emits (.money m) (Datum.money m).plain
  /-- So are values of other classes. -/
  | foreign {o : Foreign} {elements : Option (List Datum)} : Emits (.foreign o elements) o.plain

/-- A part stands in what parts are joined to. -/
theorem infix_joinWith {separator p : String} {parts : List String} (hp : p ∈ parts) :
    p.toList <:+: (joinWith separator parts).toList := by
  induction parts with
  | nil => cases hp
  | cons part parts ih =>
    cases parts with
    | nil =>
      obtain rfl := List.mem_singleton.1 hp
      exact List.infix_rfl
    | cons next rest =>
      rw [joinWith, String.toList_append, String.toList_append]
      rcases List.mem_cons.1 hp with rfl | hp
      · exact ((List.prefix_append _ _).trans (List.prefix_append _ _)).isInfix
      · exact (ih hp).trans (List.suffix_append _ _).isInfix

/-- What is written of an item is one of the parts of a list. -/
theorem text_mem_itemTexts {x : Datum} : ∀ {xs : List Datum}, x ∈ xs → text x ∈ itemTexts xs
  | y :: ys, hx => by
    rw [itemTexts]
    rcases List.mem_cons.1 hx with rfl | hx
    · exact List.mem_cons_self
    · exact List.mem_cons_of_mem _ (text_mem_itemTexts hx)

/-- What is written of a value, behind its key, is one of the parts of an object. -/
theorem member_mem_memberTexts {k x : Datum} :
    ∀ {es : List (Datum × Datum)}, (k, x) ∈ es →
      (keyText? k).getD "" ++ ": " ++ text x ∈ memberTexts es
  | (l, y) :: es, hx => by
    rw [memberTexts]
    rcases List.mem_cons.1 hx with heq | hx
    · cases heq
      exact List.mem_cons_self
    · exact List.mem_cons_of_mem _ (member_mem_memberTexts hx)

/-- A text between two others. -/
theorem infix_between {cs : List Char} {s : String} (before after : String) (h : cs <:+: s.toList) :
    cs <:+: (before ++ s ++ after).toList := by
  rw [String.toList_append, String.toList_append]
  exact h.trans ((List.suffix_append _ _).isInfix.trans (List.prefix_append _ _).isInfix)

/-- **A text in a value stands in quotation marks in what is written of it.** -/
theorem Emits.infix_text {d : Datum} {t : Text} (h : Emits d t) :
    (quote t).toList <:+: (Json.text d).toList := by
  induction h with
  | text | word | octets | id | money | foreign =>
    exact List.infix_rfl
  | list hx _ ih | tuple hx _ ih =>
    rw [Json.text]
    exact infix_between "[" "]" (ih.trans (infix_joinWith (text_mem_itemTexts hx)))
  | @dict k x es t hx _ ih =>
    rw [Json.text]
    have hmember :
        (Json.text x).toList <:+: ((keyText? k).getD "" ++ ": " ++ Json.text x).toList := by
      rw [String.toList_append]
      exact (List.suffix_append _ _).isInfix
    exact infix_between "\x7b" "\x7d"
      ((ih.trans hmember).trans (infix_joinWith (member_mem_memberTexts hx)))

end Json

/-! ### Times

The time is the one text of an object that comes neither from the message nor from what the record
carries, so it is shown by itself that it has no token: its characters are digits, three signs and
the letter `T`, while every token has the letter `s`.
-/

theorem Masking.HasToken.mem {cs : List Char} (h : HasToken cs) : 's' ∈ cs := by
  obtain ⟨xs, after, rfl, hbegins⟩ := h
  exact List.mem_append_right xs (List.mem_of_head? hbegins.head?_eq)

namespace Moment

/-- A character of a time. -/
def isTimeChar (c : Char) : Bool :=
  c.isDigit || "-T:.".toList.contains c

/-- Digits are characters of a time. -/
theorem isTimeChar_digits (width n : Nat) : ∀ c ∈ (digits width n).toList, isTimeChar c = true := by
  intro c hc
  rw [digits, String.toList_ofList, Binary64.paddedDigits] at hc
  have hdigit : c.isDigit = true := by
    rcases List.mem_append.1 hc with hc | hc
    · exact Grammar.isDigit_of_mem_replicate hc
    · exact Grammar.isDigit_of_mem_toDigits hc
  rw [isTimeChar, hdigit, Bool.true_or]

/-- A time has no other characters than these. -/
theorem isTimeChar_iso (m : Moment) : ∀ c ∈ m.iso.toList, isTimeChar c = true := by
  have hdash : ∀ c ∈ "-".toList, isTimeChar c = true := List.all_eq_true.1 (by decide)
  have hcolon : ∀ c ∈ ":".toList, isTimeChar c = true := List.all_eq_true.1 (by decide)
  have hletter : ∀ c ∈ "T".toList, isTimeChar c = true := List.all_eq_true.1 (by decide)
  have hpoint : ∀ c ∈ ".".toList, isTimeChar c = true := List.all_eq_true.1 (by decide)
  simp only [iso, monthDay, clock, String.toList_append, List.forall_mem_append]
  refine ⟨⟨⟨⟨⟨isTimeChar_digits _ _, hdash⟩, ⟨isTimeChar_digits _ _, hdash⟩, isTimeChar_digits _ _⟩,
    hletter⟩,
    ⟨⟨⟨isTimeChar_digits _ _, hcolon⟩, isTimeChar_digits _ _⟩, hcolon⟩, isTimeChar_digits _ _⟩, ?_⟩
  split
  · simp
  · rw [String.toList_append, List.forall_mem_append]
    exact ⟨hpoint, isTimeChar_digits _ _⟩

/-- No token stands in a time. -/
theorem not_hasToken_iso (m : Moment) : ¬ Masking.HasToken m.iso.toList := by
  intro h
  exact absurd (m.isTimeChar_iso _ h.mem) (by decide)

end Moment

/-! ### Entries of the object

Attributes are set one after the other, and one that is there keeps its place and gets the new
value. Hence what may be exchanged are two settings under different names of which one is there
already (`setIn_comm`); were both of them new, their order would show in the object. The entry of
the message is there from the beginning.
-/

namespace LogRecord

variable {n k : String} {v w : Datum} {es fs : List (String × Datum)}

/-- Setting an attribute brings in one entry at most. -/
theorem mem_setIn (h : (n, v) ∈ setIn k w es) : (n, v) = (k, w) ∨ (n, v) ∈ es := by
  induction es with
  | nil => exact .inl (List.mem_singleton.1 h)
  | cons e es ih =>
    rw [setIn] at h
    split at h
    · exact (List.mem_cons.1 h).imp_right (List.mem_cons_of_mem e)
    · rcases List.mem_cons.1 h with h | h
      · exact .inr (List.mem_cons.2 (.inl h))
      · exact (ih h).imp_right (List.mem_cons_of_mem e)

/-- Setting attributes brings in none but these. -/
theorem mem_foldl_setIn (h : (n, v) ∈ fs.foldl (fun es a ↦ setIn a.1 a.2 es) es) :
    (n, v) ∈ es ∨ (n, v) ∈ fs := by
  induction fs generalizing es with
  | nil => exact .inl h
  | cons f fs ih =>
    rcases ih h with hset | hfs
    · exact (mem_setIn hset).symm.imp_right fun heq ↦ List.mem_cons.2 (.inl heq)
    · exact .inr (List.mem_cons_of_mem f hfs)

/-- Attributes are set as assignments are made. -/
theorem setIn_eq_assignEntries (k : String) (w : Datum) (es : List (String × Datum)) :
    setIn k w es = Inputs.assignEntries k w es := by
  induction es with
  | nil => rfl
  | cons e es ih => rw [setIn, Inputs.assignEntries, ih]

/-- Two entries that are there may be set in either order. -/
theorem setIn_comm (hne : n ≠ k) (hn : n ∈ es.map Prod.fst) :
    setIn k w (setIn n v es) = setIn n v (setIn k w es) := by
  simp only [setIn_eq_assignEntries]
  exact Inputs.assignEntries_comm hne hn

theorem mem_map_fst_setIn (hn : n ∈ es.map Prod.fst) : n ∈ (setIn k w es).map Prod.fst := by
  rw [setIn_eq_assignEntries, Inputs.keys_assignEntries]
  split
  · exact hn
  · exact List.mem_append_left _ hn

/-- An entry that is there may be set before or behind attributes of other names. -/
theorem foldl_setIn_comm (hn : n ∈ es.map Prod.fst) (hfs : ∀ f ∈ fs, n ≠ f.1) :
    fs.foldl (fun es a ↦ setIn a.1 a.2 es) (setIn n v es) =
      setIn n v (fs.foldl (fun es a ↦ setIn a.1 a.2 es) es) := by
  induction fs generalizing es with
  | nil => rfl
  | cons f fs ih =>
    rw [List.forall_mem_cons] at hfs
    rw [List.foldl_cons, List.foldl_cons, setIn_comm hfs.1 hn]
    exact ih (mem_map_fst_setIn hn) hfs.2

/-- What a record carries beside its message and goes into its object: the names of its level,
logger, module and function, its line, the text of its exception, and its further attributes. -/
def beside (r : LogRecord) : List Datum :=
  [r.get "levelname", r.get "name", r.get "module", r.get "funcName", r.get "lineno"] ++
    (r.exception.elim [] fun e ↦ [.str e.text]) ++ (LogFormat.further r).map Prod.snd

/-- A text stands in what a record carries beside its message, at some depth. -/
def CarriesBeside (r : LogRecord) (t : Text) : Prop :=
  ∃ d ∈ r.beside, Json.Emits d t

end LogRecord

namespace LogFormat

open LogRecord

variable {r : LogRecord} {message : String} {es : List (String × Datum)} {name : String}
  {value : Datum} {t : Text}

/-- The entries of an object before the further attributes. -/
def ownEntries (r : LogRecord) (moment : Moment) (message : String) : List (String × Datum) :=
  [("timestamp", .str moment.iso), ("level", r.get "levelname"), ("logger", r.get "name"),
    ("message", .str message), ("module", r.get "module"), ("function", r.get "funcName"),
    ("line", r.get "lineno")] ++ r.exception.elim [] fun e ↦ [("exception", Datum.str e.text)]

/-- A record has an object if it has a time and a message. -/
theorem entries_eq_ok_iff : entries r = .ok es ↔
    ∃ moment message, (timeOf (r.get "created")).bind Moment.ofTime = .ok moment ∧
      r.text = .ok message ∧
      (further r).foldl (fun es a ↦ setIn a.1 a.2 es) (ownEntries r moment message) = es := by
  constructor
  · intro h
    obtain ⟨time, htime, h⟩ := bind_eq_ok_iff.1 h
    obtain ⟨moment, hmoment, h⟩ := bind_eq_ok_iff.1 h
    obtain ⟨message, hmessage, h⟩ := bind_eq_ok_iff.1 h
    cases h
    exact ⟨moment, message, bind_eq_ok_iff.2 ⟨time, htime, hmoment⟩, hmessage, rfl⟩
  · rintro ⟨moment, message, hmoment, hmessage, rfl⟩
    obtain ⟨time, htime, hmoment⟩ := bind_eq_ok_iff.1 hmoment
    exact bind_eq_ok_iff.2 ⟨time, htime,
      bind_eq_ok_iff.2 ⟨moment, hmoment, bind_eq_ok_iff.2 ⟨message, hmessage, rfl⟩⟩⟩

/-- No further attribute has the name of the message. -/
theorem ne_message_of_mem_further {f : String × Datum} (hf : f ∈ further r) : "message" ≠ f.1 := by
  intro hname
  have hstandard := (List.mem_filter.1 hf).2
  rw [← hname] at hstandard
  exact absurd hstandard (by decide)

/-- Further attributes stand neither for the message nor for its values. -/
theorem isBeside_of_not_standard {name : String} (h : standardNames.contains name = false) :
    isBeside name = true := by
  by_contra hbeside
  have hname : name = "msg" ∨ name = "args" := by
    simpa [isBeside, or_iff_not_imp_left] using hbeside
  rcases hname with rfl | rfl <;> exact absurd h (by decide)

/-- Another message leaves the further attributes as they are. -/
theorem further_withMessage (r : LogRecord) (message : String) :
    further (r.withMessage message) = further r := by
  rw [further, withMessage, List.filter_filter]
  refine List.filter_congr fun a _ ↦ ?_
  cases hstandard : standardNames.contains a.1 with
  | true => rfl
  | false => exact isBeside_of_not_standard hstandard

/-- Another message changes one entry of those that every record has. -/
theorem ownEntries_withMessage (r : LogRecord) (moment : Moment) (message masked : String) :
    ownEntries (r.withMessage masked) moment masked =
      setIn "message" (.str masked) (ownEntries r moment message) := by
  simp (disch := decide) only [ownEntries, get_withMessage]
  rfl

/-- **Another message changes the entry of the message and no other.** -/
theorem entries_withMessage (hes : entries r = .ok es) (masked : String) :
    entries (r.withMessage masked) = .ok (setIn "message" (.str masked) es) := by
  obtain ⟨moment, message, hmoment, -, rfl⟩ := entries_eq_ok_iff.1 hes
  refine entries_eq_ok_iff.2 ⟨moment, masked, ?_, text_withMessage masked, ?_⟩
  · rwa [get_withMessage (by decide)]
  · rw [further_withMessage, ownEntries_withMessage r moment message]
    exact foldl_setIn_comm (by simp [ownEntries]) fun f hf ↦ ne_message_of_mem_further hf

/-- Those entries are the time, the message, and what the record carries beside it. -/
theorem mem_ownEntries {moment : Moment} (h : (name, value) ∈ ownEntries r moment message) :
    value = .str moment.iso ∨ name = "message" ∧ value = .str message ∨
      name ≠ "message" ∧ value ∈ r.beside := by
  rcases List.mem_append.1 h with hown | hexception
  · simp only [List.mem_cons, List.not_mem_nil, or_false, Prod.mk.injEq] at hown
    rcases hown with ⟨rfl, rfl⟩ | ⟨rfl, rfl⟩ | ⟨rfl, rfl⟩ | ⟨rfl, rfl⟩ | ⟨rfl, rfl⟩ |
        ⟨rfl, rfl⟩ | ⟨rfl, rfl⟩ <;>
      simp [beside]
  · cases he : r.exception with
    | none => simp [he] at hexception
    | some e =>
      rw [he] at hexception
      obtain ⟨rfl, rfl⟩ := Prod.mk.inj (List.mem_singleton.1 hexception)
      exact .inr (.inr ⟨by decide, by simp [beside, he]⟩)

/-- A text with an admin token in the object stands in the message, or the record carries it beside
its message. -/
theorem message_or_carriesBeside (hes : entries r = .ok es) (hmem : (name, value) ∈ es)
    (ht : Json.Emits value t) (htoken : Masking.HasToken t.toString.toList) :
    (name = "message" ∧ r.text = .ok t.toString) ∨ name ≠ "message" ∧ r.CarriesBeside t := by
  obtain ⟨moment, message, -, hmessage, rfl⟩ := entries_eq_ok_iff.1 hes
  rcases mem_foldl_setIn hmem with hown | hfurther
  · rcases mem_ownEntries hown with rfl | ⟨rfl, rfl⟩ | ⟨hname, hbeside⟩
    · -- A time is digits with signs between them, and every token begins with a letter.
      cases ht
      exact absurd htoken moment.not_hasToken_iso
    · cases ht
      exact .inl ⟨rfl, hmessage⟩
    · exact .inr ⟨hname, value, hbeside, ht⟩
  · refine .inr ⟨fun hname ↦ ne_message_of_mem_further hfurther hname.symm, value, ?_, ht⟩
    exact List.mem_append_right _ (List.mem_map_of_mem hfurther)

end LogFormat

/-! ### The handler for the console

A handler passes the record through its filter and then through its format. The filter hands on a
record that is like the one before but for the message and its values, or the record itself if it
has no text, and `entries_withMessage` says what that does to the object. That there is a line at
all already says that the record has a time and a message.
-/

/-- Another message leaves what the record carries beside it as it is. -/
theorem LogRecord.beside_withMessage (r : LogRecord) (message : String) :
    (r.withMessage message).beside = r.beside := by
  simp (disch := decide) only [beside, LogFormat.further_withMessage, get_withMessage]
  rfl

/-- The line is what is written of the entries. -/
theorem LogFormat.object_eq_ok {r : LogRecord} {line : String} (h : object r = .ok line) :
    ∃ es, entries r = .ok es ∧ line = Json.text (.dict (es.map fun e ↦ (.str e.1, e.2))) := by
  obtain ⟨es, hes, h⟩ := bind_eq_ok_iff.1 h
  rw [Json.write] at h
  split at h
  · rename_i hwrite
    split at hwrite
    · cases hwrite
    · cases hwrite
      cases h
      exact ⟨es, hes, rfl⟩
  · cases h
  · cases h

/-- **A handler that masks and writes objects** masks the message of a record and nothing else. -/
theorem LogHandler.handle_structured {h : LogHandler} {r r' : LogRecord} {line : String}
    (hformat : h.format = .structured) (hmasks : h.masks = true)
    (hline : h.handle r = .ok (some line, r')) :
    ∃ message es, r.text = .ok message ∧ LogFormat.entries r = .ok es ∧
      LogFormat.entries (r.withMessage (Masking.apply message)) =
        .ok (LogRecord.setIn "message" (.str (Masking.apply message)) es) ∧
      line = Json.text (.dict ((LogRecord.setIn "message" (.str (Masking.apply message)) es).map
        fun e ↦ (.str e.1, e.2))) := by
  rw [handle, hmasks, if_pos rfl, hformat] at hline
  obtain ⟨kept, hfilter, hline⟩ := bind_eq_ok_iff.1 hline
  have hobject : LogFormat.object kept = .ok line := by
    cases hobject : LogFormat.object kept with
    | ok s =>
      simp only [LogFormat.format, hobject] at hline
      cases hline
      rfl
    | error fault =>
      simp only [LogFormat.format, hobject] at hline
      cases hline
  obtain ⟨emitted, hemitted, rfl⟩ := LogFormat.object_eq_ok hobject
  obtain ⟨moment, shown, hmoment, hshown, -⟩ := LogFormat.entries_eq_ok_iff.1 hemitted
  rw [LogRecord.filter] at hfilter
  cases hmessage : r.text with
  | ok message =>
    rw [hmessage] at hfilter
    cases hfilter
    rw [LogRecord.get_withMessage (by decide)] at hmoment
    have hes := LogFormat.entries_eq_ok_iff.2 ⟨moment, message, hmoment, hmessage, rfl⟩
    have hmasked := LogFormat.entries_withMessage hes (Masking.apply message)
    obtain rfl := Except.ok.inj (hemitted.symm.trans hmasked)
    exact ⟨message, _, rfl, hes, hmasked, rfl⟩
  | error fault =>
    -- The record is kept as it is, but then it has no text and becomes no object.
    rw [hmessage] at hfilter
    have hkept : kept = r := by
      cases fault <;> cases hfilter <;> rfl
    rw [hkept, hmessage] at hshown
    cases hshown

namespace LogManager

variable {m : LogManager} {origin : Origin} {s : LogSettings} {h : LogHandler}

/-- Setting up for objects enters a handler that writes objects and masks as the settings say. -/
theorem setup_structured (hconfigured : m.isConfigured = false) (hconsole : s.console = true)
    (hstructured : s.structured = true) (origin : Origin) :
    ∃ k : LogHandler, k.format = .structured ∧ k.masks = s.masked ∧
      (m.setup origin s).1 =
        { (m.withLevel m.logger s.level.severity).addHandler consoleName k with
          isConfigured := true } := by
  refine ⟨{ id := m.freshId, level := s.level.severity, format := .structured, masks := s.masked },
    rfl, rfl, ?_⟩
  have hhandler : (m.withLevel m.logger s.level.severity).consoleHandler s =
      .ok { id := m.freshId, level := s.level.severity, format := .structured
            masks := s.masked } := by
    rw [consoleHandler, if_pos hstructured]
    rfl
  simp only [setup, hconfigured, hconsole, Bool.false_eq_true, if_false, if_true, hhandler]
  rfl

/-- The handler for the console that is entered when logging is set up has the form and the filter
of the settings. -/
theorem console_of_setup (hm : m.Orderly) (hconsole : s.console = true)
    (hstructured : s.structured = true)
    (hh : (consoleName, h) ∈ (m.setup origin s).1.tableHandlers) :
    h.format = .structured ∧ h.masks = s.masked := by
  have hunconfigured : ∀ m : LogManager, m.Orderly → m.isConfigured = false →
      (consoleName, h) ∈ (m.setup origin s).1.tableHandlers →
        h.format = .structured ∧ h.masks = s.masked := by
    intro m hm hconfigured hh
    obtain ⟨k, hformat, hmasks, hsetup⟩ := setup_structured hconfigured hconsole hstructured origin
    rw [hsetup] at hh
    -- The table holds one handler under the name, and that is the one that was just made.
    obtain ⟨⟨name, i⟩, hi, hfound⟩ := List.mem_filterMap.1 hh
    obtain ⟨j, hj, hpair⟩ := Option.map_eq_some_iff.1 hfound
    obtain ⟨rfl, rfl⟩ := Prod.mk.inj hpair
    have hid : i = k.id := by
      have hmem := (mem_setNamed hm.names).1 hi
      rwa [if_pos rfl] at hmem
    have hfirst : handler? { (m.withLevel m.logger s.level.severity).addHandler consoleName k with
        isConfigured := true } k.id = some k :=
      List.find?_cons_of_pos (beq_self_eq_true k.id)
    rw [hid] at hj
    obtain rfl := Option.some.inj (hj.symm.trans hfirst)
    exact ⟨hformat, hmasks⟩
  cases hconfigured : m.isConfigured with
  | false => exact hunconfigured m hm hconfigured hh
  | true =>
    -- What was set up before is taken down first.
    rw [setup_of_isConfigured hconfigured] at hh
    exact hunconfigured m.cleanup hm.cleanup rfl hh

/-! ### Public contract -/

/-- **What the console shows beside the message.** Logging is set up, after whatever happened
before, for JSON objects on the console with credentials masked. Then the line of a record is the
object that the record has without the filter, but for the entry of the message, which is masked.
Every text in it stands there in quotation marks; and if it has an admin token in it, at any depth,
it stands outside of the entry of the message, and the record itself carries it beside its
message. -/
theorem console_object {logger : String} {es : List Event} {r r' : LogRecord} {line : String}
    (hconsole : s.console = true) (hstructured : s.structured = true) (hmasked : s.masked = true)
    (hh : (consoleName, h) ∈ ((run { logger } es).setup origin s).1.tableHandlers)
    (hline : h.handle r = .ok (some line, r')) :
    ∃ message entries, r.text = .ok message ∧ LogFormat.entries r = .ok entries ∧
      line =
        Json.text (.dict ((LogRecord.setIn "message" (.str (Masking.apply message)) entries).map
          fun e ↦ (.str e.1, e.2))) ∧
      ∀ name value t,
        (name, value) ∈ LogRecord.setIn "message" (.str (Masking.apply message)) entries →
        Json.Emits value t → (Json.quote t).toList <:+: line.toList ∧
          (Masking.HasToken t.toString.toList → name ≠ "message" ∧ r.CarriesBeside t) := by
  obtain ⟨hformat, hmasks⟩ :=
    console_of_setup ((orderly_start logger).run es) hconsole hstructured hh
  obtain ⟨message, entries, htext, hentries, hfiltered, rfl⟩ :=
    LogHandler.handle_structured hformat (hmasks.trans hmasked) hline
  refine ⟨message, entries, htext, hentries, rfl, fun name value t hmem ht ↦ ⟨?_, fun htoken ↦ ?_⟩⟩
  · exact (Json.Emits.dict (k := .str name) (List.mem_map.2 ⟨(name, value), hmem, rfl⟩)
      ht).infix_text
  · obtain ⟨-, hshown⟩ | ⟨hname, d, hd, ht⟩ :=
      LogFormat.message_or_carriesBeside hfiltered hmem ht htoken
    · rw [LogRecord.text_withMessage] at hshown
      rw [← Except.ok.inj hshown, Masking.toList_apply] at htoken
      exact absurd htoken (Masking.not_hasToken_stage (by decide) _)
    · rw [LogRecord.beside_withMessage] at hd
      exact ⟨hname, d, hd, ht⟩

/-- A token in the values of the message is masked, and one in a list of a further attribute is
carried. -/
theorem console_object_values :
    ∃ (h : LogHandler) (r r' : LogRecord) (line : String),
      (consoleName, h) ∈ ((run { logger := "shopify_gql" } []).setup
        ⟨"/x/m.py", 0, none, .finite false 0 0⟩ { structured := true }).1.tableHandlers ∧
      h.handle r = .ok (some line, r') ∧
      ∃ message entries, r.text = .ok message ∧ LogFormat.entries r = .ok entries ∧
        ∀ name value t,
          (name, value) ∈ LogRecord.setIn "message" (.str (Masking.apply message)) entries →
          Json.Emits value t → (Json.quote t).toList <:+: line.toList ∧
            (Masking.HasToken t.toString.toList → name ≠ "message" ∧ r.CarriesBeside t) := by
  let h : LogHandler := { id := 0, level := 20, format := .structured, masks := true }
  let r : LogRecord :=
    { name := "shopify_gql.client", level := 20, path := "/x/m.py", line := 1,
      message := .str "with %s", arguments := .tuple [.str "shpat_a1"],
      created := .finite false 0 0, extras := [("seen", .list [.str "shpca_b2"])] }
  have hh : (consoleName, h) ∈ ((run { logger := "shopify_gql" } []).setup
      ⟨"/x/m.py", 0, none, .finite false 0 0⟩ { structured := true }).1.tableHandlers := by
    decide
  have hline : (h.handle r).map Prod.fst = .ok (some
      ("\x7b\"timestamp\": \"1970-01-01T00:00:00\", \"level\": \"INFO\", " ++
        "\"logger\": \"shopify_gql.client\", \"message\": \"with shpat_***MASKED***\", " ++
        "\"module\": \"m\", \"function\": null, \"line\": 1, " ++
        "\"seen\": [\"shpca_b2\"]\x7d")) := by
    decide +kernel
  obtain ⟨⟨_, r'⟩, hhandle, rfl⟩ := map_eq_ok_iff.1 hline
  obtain ⟨message, entries, htext, hentries, -, hall⟩ := console_object rfl rfl rfl hh hhandle
  exact ⟨h, r, r', _, hh, hhandle, message, entries, htext, hentries, hall⟩

/-- **A further attribute is shown as it is**, with the token in it. -/
theorem console_shows_attribute :
    ∃ (h : LogHandler) (r : LogRecord),
      (consoleName, h) ∈ (setup { logger := "shopify_gql" } ⟨"/x/m.py", 0, none, .finite false 0 0⟩
        { structured := true }).1.tableHandlers ∧
      h.masks = true ∧ r.extras = [("token", .str "shpat_abc123")] ∧
      Masking.HasToken "shpat_abc123".toList ∧
      (h.handle r).map Prod.fst = .ok (some
        ("\x7b\"timestamp\": \"1970-01-01T00:00:00\", \"level\": \"INFO\", " ++
          "\"logger\": \"shopify_gql.test\", \"message\": \"hi\", \"module\": \"path\", " ++
          "\"function\": null, \"line\": 42, \"token\": \"shpat_abc123\"\x7d")) := by
  refine ⟨{ id := 0, level := 20, format := .structured, masks := true },
    { name := "shopify_gql.test", level := 20, path := "/test/path.py", line := 42,
      message := .str "hi", created := .finite false 0 0,
      extras := [("token", .str "shpat_abc123")] },
    by decide, rfl, rfl, ⟨[], _, rfl, by decide, "shpat_a".toList, ?_, ⟨"bc123".toList, rfl⟩⟩,
    by decide +kernel⟩
  exact ⟨"shpat_", by decide, 'a', rfl, by decide⟩

end LogManager

end CatalogQuery
