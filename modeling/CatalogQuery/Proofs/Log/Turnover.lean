import CatalogQuery.Log.Manager
import CatalogQuery.Proofs.Attempt
import Mathlib.Data.List.Nodup

/-!
# What a manager of logging does to its two lists

A manager attaches handlers to its logger and keeps a table of them by name; others attach and
detach handlers past it. Everything that a manager does to the two lists is a `Turnover`: names
leave the table, their handlers leave the logger, and at most one handler is entered under a name.
`LogManager.brings_apply` says so for every event. The lists are `LogManager.Orderly` at the start
and after every event.

## Why two lists

A logger knows its handlers and nothing of names; the names are the table's. Each of the two can
change without the other: a name can be given to another handler while the first one stays attached,
and others detach what the table still names. A turnover is what an event does to both, seen from
one handler (`Turnover.Brings`), and nothing else about the events is used later.

## Setting up

Setting up is the one event with several parts. A manager that was set up before is cleaned up
first, and the handler for the console is made and entered if the settings ask for it. Making it can
fail for a template that is not valid, and then nothing is entered, although the level is set by
then. The handler is made with a number that no known handler has (`LogManager.lt_freshId`), which
is why `Orderly` accounts for what is known.
-/

open CatalogQuery.Attempt

namespace CatalogQuery.LogManager

/-! ### Values by name

The table is a list of named values in the order in which the names came first. It can be described
by its members as long as no name stands in it twice.
-/

section Named

variable {α : Type} {entries : List (String × α)} {value v : α} {n name : String}

/-- A name keeps its place, and a new one comes last. -/
theorem map_fst_setNamed (name : String) (value : α) (entries : List (String × α)) :
    (setNamed name value entries).map Prod.fst =
      entries.map Prod.fst ++ if name ∈ entries.map Prod.fst then [] else [name] := by
  induction entries with
  | nil => rfl
  | cons e entries ih =>
    rw [setNamed]
    by_cases hname : e.1 = name
    · simp [hname]
    · have hne : name ≠ e.1 := fun h ↦ hname h.symm
      simp only [if_neg hname, List.map_cons, ih, List.mem_cons, hne, false_or, List.cons_append]

/-- Names stay distinct. -/
theorem nodup_setNamed (h : (entries.map Prod.fst).Nodup) :
    ((setNamed name value entries).map Prod.fst).Nodup := by
  rw [map_fst_setNamed]
  split
  · rwa [List.append_nil]
  · rename_i hname
    exact List.nodup_append.2 ⟨h, List.nodup_singleton name, fun a ha b hb hab ↦
      hname (List.mem_singleton.1 hb ▸ hab ▸ ha)⟩

/-- What is set under a name is found there, and nothing else; under other names nothing changes. -/
theorem mem_setNamed (h : (entries.map Prod.fst).Nodup) :
    (n, v) ∈ setNamed name value entries ↔ if n = name then v = value else (n, v) ∈ entries := by
  induction entries with
  | nil => by_cases hn : n = name <;> simp [setNamed, hn]
  | cons e entries ih =>
    obtain ⟨k, w⟩ := e
    rw [List.map_cons, List.nodup_cons] at h
    rw [setNamed]
    by_cases hk : k = name
    · -- The name stands here, so by distinctness it stands nowhere else.
      subst hk
      have hnone : ∀ u, (k, u) ∉ entries := fun u hu ↦ h.1 (List.mem_map.2 ⟨(k, u), hu, rfl⟩)
      by_cases hn : n = k
      · subst hn
        simp [hnone]
      · simp [hn]
    · rw [if_neg hk, List.mem_cons, ih h.2]
      by_cases hn : n = name
      · subst hn
        simp [Ne.symm hk]
      · simp [hn]

end Named

variable {m m' : LogManager} {i : Nat} {n name : String}

/-! ### The state of a manager

Order is the invariant of this module. It has three parts, and all three are needed in the others:
that a name stands for one handler makes removing exact, that no handler is attached twice makes
detaching exact, and that handlers are known makes new ones fresh.
-/

/-- The handlers in the table. -/
def values (m : LogManager) : List Nat :=
  m.table.map Prod.snd

theorem mem_values_iff : i ∈ m.values ↔ ∃ n, (n, i) ∈ m.table := by
  simp [values]

/-- No name stands twice in the table, no handler is attached twice, and each that is attached or in
the table is known. -/
structure Orderly (m : LogManager) : Prop where
  /-- Every name stands for one handler. -/
  names : (m.table.map Prod.fst).Nodup
  /-- No handler is attached twice. -/
  attached : m.attached.Nodup
  /-- Every handler in the lists is one that was made or handed in. -/
  known : ∀ i, i ∈ m.attached ∨ i ∈ m.values → i ∈ m.handlers.map LogHandler.id

theorem Orderly.eq_of_mem (h : m.Orderly) {j : Nat} (hi : (n, i) ∈ m.table)
    (hj : (n, j) ∈ m.table) : i = j :=
  congrArg Prod.snd (List.inj_on_of_nodup_map h.names hi hj rfl)

/-- A fresh number is larger than those of all known handlers. -/
theorem lt_freshId (hi : i ∈ m.handlers.map LogHandler.id) : i < m.freshId := by
  have hfold : ∀ (hs : List LogHandler) (k : Nat),
      k ≤ hs.foldl (fun n h ↦ max n (h.id + 1)) k ∧
        ∀ j ∈ hs.map LogHandler.id, j < hs.foldl (fun n h ↦ max n (h.id + 1)) k := by
    intro hs
    induction hs with
    | nil => simp
    | cons h hs ih =>
      intro k
      have hrest := ih (max k (h.id + 1))
      rw [List.foldl_cons, List.map_cons, List.forall_mem_cons]
      exact ⟨by omega, by omega, hrest.2⟩
  exact (hfold m.handlers 0).2 i hi

/-! ### What happens to a manager

Events are the calls of a manager and what others do to its logger past it. Others cannot get at the
table, which belongs to the manager.
-/

/-- Others attach a handler to the logger, past the manager. -/
def attach (m : LogManager) (h : LogHandler) : LogManager :=
  { m with
    handlers := h :: m.handlers.filter fun k ↦ k.id != h.id
    attached := if m.attached.contains h.id then m.attached else m.attached ++ [h.id] }

/-- Others detach a handler from the logger, past the manager. -/
def detach (m : LogManager) (id : Nat) : LogManager :=
  { m with attached := m.attached.erase id }

/-- What happens to a manager and its logger. -/
inductive Event where
  /-- Logging is set up. -/
  | setup (origin : Origin) (s : LogSettings)
  /-- A handler is added. -/
  | addHandler (name : String) (h : LogHandler)
  /-- A handler is removed. -/
  | removeHandler (name : String)
  /-- A level is set. -/
  | setLevel (level : LogLevel) (component : Option String)
  /-- The manager is cleaned up. -/
  | cleanup
  /-- Others attach a handler. -/
  | attach (h : LogHandler)
  /-- Others detach a handler. -/
  | detach (id : Nat)

/-- The manager after an event. -/
def Event.apply (m : LogManager) : Event → LogManager
  | .setup origin s => (m.setup origin s).1
  | .addHandler name h => m.addHandler name h
  | .removeHandler name => m.removeHandler name
  | .setLevel level component => m.setLevel level component
  | .cleanup => m.cleanup
  | .attach h => m.attach h
  | .detach id => m.detach id

/-- The manager after events. -/
def run (m : LogManager) (es : List Event) : LogManager :=
  es.foldl Event.apply m

/-- The handler that others attach or detach in an event. -/
def Event.others? : Event → Option Nat
  | .attach h => some h.id
  | .detach id => some id
  | _ => none

/-- What an event makes of a manager's table and of its part of the logger. -/
structure Turnover where
  /-- The names that leave the table; their handlers leave the logger. -/
  leaving : List String
  /-- The handler that is entered, with its name. -/
  entering : Option (String × Nat)

/-- The turnover of an event. Setting up cleans up what was set up before, and enters a handler for
the console if the settings ask for one and its template is valid. -/
def turnover (m : LogManager) : Event → Turnover
  | .setup _ s =>
    { leaving := if m.isConfigured then m.table.map Prod.fst else []
      entering :=
        if s.console then (m.consoleHandler s).toOption.map fun h ↦ (consoleName, h.id)
        else none }
  | .addHandler name h => { leaving := [], entering := some (name, h.id) }
  | .removeHandler name => { leaving := [name], entering := none }
  | .cleanup => { leaving := m.table.map Prod.fst, entering := none }
  | .setLevel .. | .attach _ | .detach _ => { leaving := [], entering := none }

/-- What a turnover comes to for one handler. -/
structure Turnover.Brings (t : Turnover) (m m' : LogManager) (i : Nat) : Prop where
  /-- Whether the handler is attached afterwards. -/
  attached : i ∈ m'.attached ↔
    (i ∈ m.attached ∧ ∀ n ∈ t.leaving, (n, i) ∉ m.table) ∨ ∃ n, t.entering = some (n, i)
  /-- Under which names the handler stands afterwards. -/
  table : ∀ n, (n, i) ∈ m'.table ↔
    t.entering = some (n, i) ∨ (n, i) ∈ m.table ∧ n ∉ t.leaving ∧ ∀ k, t.entering ≠ some (n, k)

/-! ### One operation

What changes the lists is removing a handler, attaching one, and entering one under a name. For each
there is a lemma on what is attached, one on the table, and one on the order.
-/

theorem find?_table_eq_none (h : (m.table.find? fun e ↦ e.1 == name) = none) :
    (name, i) ∉ m.table := by
  intro hmem
  simpa using List.find?_eq_none.1 h (name, i) hmem

/-- Removing a handler takes its name out of the table, and no other. -/
theorem mem_table_removeHandler :
    (n, i) ∈ (m.removeHandler name).table ↔ (n, i) ∈ m.table ∧ n ≠ name := by
  rw [removeHandler]
  cases hfind : m.table.find? fun e ↦ e.1 == name with
  | some e => simp
  | none =>
    refine ⟨fun hmem ↦ ⟨hmem, ?_⟩, And.left⟩
    rintro rfl
    exact find?_table_eq_none hfind hmem

/-- Removing a handler detaches what stood under the name, and nothing else. -/
theorem mem_attached_removeHandler (h : m.Orderly) :
    i ∈ (m.removeHandler name).attached ↔ i ∈ m.attached ∧ (name, i) ∉ m.table := by
  rw [removeHandler]
  cases hfind : m.table.find? fun e ↦ e.1 == name with
  | some e =>
    obtain ⟨k, id⟩ := e
    have hmem := List.mem_of_find?_eq_some hfind
    obtain rfl : k = name := by simpa using List.find?_some hfind
    have hid : (k, i) ∈ m.table ↔ i = id := ⟨fun hi ↦ h.eq_of_mem hi hmem, fun hi ↦ hi ▸ hmem⟩
    rw [hid]
    show i ∈ m.attached.erase id ↔ _
    rw [h.attached.mem_erase_iff, and_comm]
  | none => simp [find?_table_eq_none hfind]

/-- Removing a handler keeps the order. -/
theorem Orderly.removeHandler (h : m.Orderly) (name : String) : (m.removeHandler name).Orderly := by
  have hhandlers : (m.removeHandler name).handlers = m.handlers := by
    rw [LogManager.removeHandler]
    split <;> rfl
  refine ⟨?_, ?_, fun i hi ↦ ?_⟩
  · rw [LogManager.removeHandler]
    split
    · exact h.names.sublist (List.filter_sublist.map _)
    · exact h.names
  · rw [LogManager.removeHandler]
    split
    · exact h.attached.erase _
    · exact h.attached
  · rw [hhandlers]
    refine h.known i (hi.imp (fun ha ↦ ((mem_attached_removeHandler h).1 ha).1) fun hv ↦ ?_)
    obtain ⟨n, hn⟩ := mem_values_iff.1 hv
    exact mem_values_iff.2 ⟨n, (mem_table_removeHandler.1 hn).1⟩

/-- Removing handlers one after the other. -/
theorem foldl_removeHandler (names : List String) (h : m.Orderly) :
    (names.foldl removeHandler m).Orderly ∧
      (names.foldl removeHandler m).handlers = m.handlers ∧
      (∀ i, i ∈ (names.foldl removeHandler m).attached ↔
        i ∈ m.attached ∧ ∀ n ∈ names, (n, i) ∉ m.table) ∧
      ∀ n i, (n, i) ∈ (names.foldl removeHandler m).table ↔ (n, i) ∈ m.table ∧ n ∉ names := by
  induction names generalizing m with
  | nil => simp [h]
  | cons name names ih =>
    obtain ⟨horderly, hhandlers, hattached, htable⟩ := ih (h.removeHandler name)
    rw [List.foldl_cons]
    refine ⟨horderly, ?_, fun i ↦ ?_, fun n i ↦ ?_⟩
    · rw [hhandlers, LogManager.removeHandler]
      split <;> rfl
    · rw [hattached, mem_attached_removeHandler h, List.forall_mem_cons, and_assoc]
      refine and_congr_right fun _ ↦ ⟨fun ⟨hname, hrest⟩ ↦ ⟨hname, fun n hn hmem ↦ ?_⟩,
        fun ⟨hname, hrest⟩ ↦
          ⟨hname, fun n hn hmem ↦ hrest n hn (mem_table_removeHandler.1 hmem).1⟩⟩
      -- A name that left before is looked at again: it stood for another handler then.
      refine hrest n hn (mem_table_removeHandler.2 ⟨hmem, ?_⟩)
      rintro rfl
      exact hname hmem
    · rw [htable, mem_table_removeHandler, List.mem_cons, not_or, and_assoc]

/-- Attaching a handler attaches that one and no other. -/
theorem mem_attached_attach {h : LogHandler} :
    i ∈ (m.attach h).attached ↔ i ∈ m.attached ∨ i = h.id := by
  show i ∈ (if m.attached.contains h.id then m.attached else m.attached ++ [h.id]) ↔ _
  split
  · rename_i hmem
    rw [List.contains_iff_mem] at hmem
    exact ⟨Or.inl, fun hi ↦ hi.elim id fun hid ↦ hid ▸ hmem⟩
  · rw [List.mem_append, List.mem_singleton]

/-- Attaching a handler keeps the order. -/
theorem Orderly.attach (h : m.Orderly) (k : LogHandler) : (m.attach k).Orderly := by
  refine ⟨h.names, ?_, fun i hi ↦ ?_⟩
  · show (if m.attached.contains k.id then m.attached else m.attached ++ [k.id]).Nodup
    split
    · exact h.attached
    · rename_i hmem
      rw [List.contains_iff_mem] at hmem
      exact List.nodup_append.2 ⟨h.attached, List.nodup_singleton _, fun a ha b hb hab ↦
        hmem (List.mem_singleton.1 hb ▸ hab ▸ ha)⟩
  · show i ∈ (k :: m.handlers.filter fun j ↦ j.id != k.id).map LogHandler.id
    rw [List.map_cons, List.mem_cons]
    by_cases hik : i = k.id
    · exact .inl hik
    · have hold : i ∈ m.attached ∨ i ∈ m.values :=
        hi.imp_left fun ha ↦ (mem_attached_attach.1 ha).resolve_right hik
      obtain ⟨j, hj, rfl⟩ := List.mem_map.1 (h.known i hold)
      exact .inr (List.mem_map_of_mem (List.mem_filter.2 ⟨hj, by simpa using hik⟩))

/-- To add a handler is to attach it and to enter it in the table. -/
theorem addHandler_eq (m : LogManager) (name : String) (h : LogHandler) :
    m.addHandler name h = { m.attach h with table := setNamed name h.id m.table } :=
  rfl

/-- Adding a handler keeps the order. -/
theorem Orderly.addHandler (h : m.Orderly) (name : String) (k : LogHandler) :
    (m.addHandler name k).Orderly := by
  have hattach := h.attach k
  refine ⟨nodup_setNamed h.names, hattach.attached, fun i hi ↦ ?_⟩
  rcases hi with ha | hv
  · exact hattach.known i (.inl ha)
  · obtain ⟨n, hn⟩ := mem_values_iff.1 hv
    rw [addHandler_eq, mem_setNamed h.names] at hn
    split at hn
    · rw [hn]
      exact hattach.known k.id (.inl (mem_attached_attach.2 (.inr rfl)))
    · exact hattach.known i (.inr (mem_values_iff.2 ⟨n, hn⟩))

/-! ### Every event is a turnover

The turnover of an event is computed from the state before it. That it is what the event does is
shown event by event; setting up a manager that was set up before is cleaning up, and then setting
up for the first time.
-/

/-- Two managers with the same lists. -/
structure SameLists (m m' : LogManager) : Prop where
  /-- The same handlers are attached. -/
  attached : m'.attached = m.attached
  /-- The same names stand for the same handlers. -/
  table : m'.table = m.table
  /-- The same handlers are known, whatever they have become. -/
  handlers : m'.handlers.map LogHandler.id = m.handlers.map LogHandler.id

/-- Order is about the lists. -/
theorem SameLists.orderly (h : SameLists m m') (hm : m.Orderly) : m'.Orderly :=
  ⟨h.table ▸ hm.names, h.attached ▸ hm.attached, fun i hi ↦ by
    rw [h.handlers]
    exact hm.known i (by rwa [values, h.attached, h.table] at hi)⟩

/-- A level changes no list. -/
theorem sameLists_setLevel (m : LogManager) (level : LogLevel) (component : Option String) :
    SameLists m (m.setLevel level component) := by
  rw [setLevel]
  split
  · refine ⟨rfl, rfl, ?_⟩
    show (m.handlers.map fun h ↦ if (m.table.map Prod.snd).contains h.id then
      { h with level := level.severity } else h).map LogHandler.id = _
    rw [List.map_map]
    refine List.map_congr_left fun h _ ↦ ?_
    rw [Function.comp_apply]
    split <;> rfl
  · exact ⟨rfl, rfl, rfl⟩

theorem Orderly.cleanup (h : m.Orderly) : m.cleanup.Orderly := by
  have hremoved := (foldl_removeHandler (m.table.map Prod.fst) h).1
  exact ⟨hremoved.names, hremoved.attached, hremoved.known⟩

/-- Cleaning up detaches what is in the table, and nothing else. -/
theorem mem_attached_cleanup (h : m.Orderly) :
    i ∈ m.cleanup.attached ↔ i ∈ m.attached ∧ i ∉ m.values := by
  rw [show m.cleanup.attached =
    ((m.table.map Prod.fst).foldl LogManager.removeHandler m).attached from rfl,
    (foldl_removeHandler (m.table.map Prod.fst) h).2.2.1, mem_values_iff]
  refine and_congr_right fun _ ↦ ⟨?_, fun hnone n _ hn ↦ hnone ⟨n, hn⟩⟩
  rintro hall ⟨n, hn⟩
  exact hall n (List.mem_map_of_mem hn) hn

theorem table_cleanup (h : m.Orderly) : m.cleanup.table = [] := by
  refine List.eq_nil_iff_forall_not_mem.2 fun ⟨n, i⟩ hmem ↦ ?_
  obtain ⟨hn, hleft⟩ := ((foldl_removeHandler (m.table.map Prod.fst) h).2.2.2 n i).1 hmem
  exact hleft (List.mem_map_of_mem hn)

/-- A configured manager is cleaned up before it is set up anew. -/
theorem setup_of_isConfigured (hconfigured : m.isConfigured = true) (origin : Origin)
    (s : LogSettings) : m.setup origin s = m.cleanup.setup origin s := by
  have hcleaned : m.cleanup.isConfigured = false := rfl
  rw [setup, setup, if_pos hconfigured, hcleaned, if_neg Bool.false_ne_true]

/-- The handler for the console is a fresh one. -/
theorem id_of_consoleHandler {h : LogHandler} {s : LogSettings} (hh : m.consoleHandler s = .ok h) :
    h.id = m.freshId := by
  rw [consoleHandler] at hh
  split at hh
  · obtain ⟨format, -, hreturn⟩ := bind_eq_ok_iff.1 hh
    cases hreturn
    rfl
  · obtain ⟨format, -, hreturn⟩ := bind_eq_ok_iff.1 hh
    cases hreturn
    rfl

/-- A manager that is not configured is given a level and, if the settings ask for one, a new
handler for the console. -/
theorem setup_cases (hconfigured : m.isConfigured = false) (origin : Origin) (s : LogSettings) :
    (m.turnover (.setup origin s)).entering = none ∧ SameLists m (m.setup origin s).1 ∨
      ∃ h, (m.turnover (.setup origin s)).entering = some (consoleName, h.id) ∧ h.id = m.freshId ∧
        SameLists (m.addHandler consoleName h) (m.setup origin s).1 := by
  have hhandler : (m.withLevel m.logger s.level.severity).consoleHandler s = m.consoleHandler s :=
    rfl
  cases hconsole : s.console with
  | false =>
    refine .inl ⟨by simp [turnover, hconsole], ?_⟩
    simp only [setup, hconfigured, hconsole, Bool.false_eq_true, if_false]
    exact ⟨rfl, rfl, rfl⟩
  | true =>
    cases hh : m.consoleHandler s with
    | error fault =>
      refine .inl ⟨by simp [turnover, hconsole, hh, Except.toOption], ?_⟩
      simp only [setup, hconfigured, hconsole, Bool.false_eq_true, if_false, if_true, hhandler, hh]
      exact ⟨rfl, rfl, rfl⟩
    | ok h =>
      refine .inr ⟨h, by simp [turnover, hconsole, hh, Except.toOption], id_of_consoleHandler hh,
        ?_⟩
      simp only [setup, hconfigured, hconsole, Bool.false_eq_true, if_false, if_true, hhandler, hh]
      exact ⟨rfl, rfl, rfl⟩

theorem orderly_setup (h : m.Orderly) (hconfigured : m.isConfigured = false) (origin : Origin)
    (s : LogSettings) : (m.setup origin s).1.Orderly := by
  rcases setup_cases hconfigured origin s with ⟨-, hsame⟩ | ⟨k, -, -, hsame⟩
  · exact hsame.orderly h
  · exact hsame.orderly (h.addHandler consoleName k)

/-- Every event keeps the order. -/
theorem Orderly.apply (h : m.Orderly) (e : Event) : (e.apply m).Orderly := by
  cases e with
  | setup origin s =>
    show (m.setup origin s).1.Orderly
    cases hconfigured : m.isConfigured with
    | false => exact orderly_setup h hconfigured origin s
    | true =>
      rw [setup_of_isConfigured hconfigured]
      exact orderly_setup h.cleanup rfl origin s
  | addHandler name k => exact h.addHandler name k
  | removeHandler name => exact h.removeHandler name
  | setLevel level component => exact (sameLists_setLevel m level component).orderly h
  | cleanup => exact h.cleanup
  | attach k => exact h.attach k
  | detach id =>
    exact ⟨h.names, h.attached.erase id, fun i hi ↦ h.known i (hi.imp_left List.mem_of_mem_erase)⟩

namespace Turnover

/-- Nothing leaves and nothing is entered. -/
theorem brings_none (hattached : i ∈ m'.attached ↔ i ∈ m.attached) (htable : m'.table = m.table) :
    Brings { leaving := [], entering := none } m m' i :=
  ⟨by simp [hattached], by simp [htable]⟩

/-- A handler is entered and nothing leaves. -/
theorem brings_addHandler (h : m.Orderly) (name : String) (k : LogHandler) :
    Brings { leaving := [], entering := some (name, k.id) } m (m.addHandler name k) i where
  attached := by
    rw [addHandler_eq]
    show i ∈ (m.attach k).attached ↔ _
    rw [mem_attached_attach]
    simp [eq_comm]
  table n := by
    rw [addHandler_eq, mem_setNamed h.names]
    by_cases hn : n = name
    · simp [hn, eq_comm]
    · simp [hn, Ne.symm hn]

/-- Everything leaves. -/
theorem brings_cleanup (h : m.Orderly) :
    Brings { leaving := m.table.map Prod.fst, entering := none } m m.cleanup i where
  attached := by
    rw [mem_attached_cleanup h, mem_values_iff]
    simp only [reduceCtorEq, exists_false, or_false]
    refine and_congr_right fun _ ↦ ⟨fun hnone n _ hn ↦ hnone ⟨n, hn⟩, ?_⟩
    rintro hall ⟨n, hn⟩
    exact hall n (List.mem_map_of_mem hn) hn
  table n := by
    rw [table_cleanup h]
    simp only [List.not_mem_nil, reduceCtorEq, false_or, false_iff]
    exact fun hn ↦ hn.2.1 (List.mem_map_of_mem hn.1)

/-- Everything leaves, and then the rest of a turnover follows. -/
theorem Brings.of_cleanup (h : m.Orderly) {entering : Option (String × Nat)}
    (hrest : Brings { leaving := [], entering } m.cleanup m' i) :
    Brings { leaving := m.table.map Prod.fst, entering } m m' i where
  attached := by
    have hcleanup := (brings_cleanup (i := i) h).attached
    simp only [reduceCtorEq, exists_false, or_false] at hcleanup
    have hattached := hrest.attached
    simp only [List.not_mem_nil, false_implies, implies_true, and_true] at hattached
    rw [hattached, hcleanup]
  table n := by
    rw [hrest.table n, table_cleanup h]
    simp only [List.not_mem_nil, false_and, or_false]
    refine ⟨Or.inl, fun hn ↦ hn.resolve_right fun hold ↦ ?_⟩
    exact hold.2.1 (List.mem_map_of_mem hold.1)

/-- A turnover is about the lists. -/
theorem Brings.of_sameLists {t : Turnover} {k : LogManager} (h : Brings t m k i)
    (hsame : SameLists k m') : Brings t m m' i :=
  ⟨hsame.attached ▸ h.attached, hsame.table ▸ h.table⟩

end Turnover

open Turnover in
/-- Setting up for the first time enters the handler for the console, if one is made. -/
theorem brings_setup (h : m.Orderly) (hconfigured : m.isConfigured = false) (origin : Origin)
    (s : LogSettings) :
    Brings { leaving := [], entering := (m.turnover (.setup origin s)).entering } m
      (m.setup origin s).1 i := by
  rcases setup_cases hconfigured origin s with ⟨hnone, hsame⟩ | ⟨k, hsome, -, hsame⟩
  · rw [hnone]
    exact (brings_none Iff.rfl rfl).of_sameLists hsame
  · rw [hsome]
    exact (brings_addHandler h consoleName k).of_sameLists hsame

/-- **Every event is its turnover** for a handler that others leave alone in it. -/
theorem brings_apply (h : m.Orderly) (e : Event) (hothers : e.others? ≠ some i) :
    (m.turnover e).Brings m (e.apply m) i := by
  cases e with
  | setup origin s =>
    show (m.turnover (.setup origin s)).Brings m (m.setup origin s).1 i
    have hleaving :
        (m.turnover (.setup origin s)).leaving =
          if m.isConfigured then m.table.map Prod.fst else [] :=
      rfl
    cases hconfigured : m.isConfigured with
    | false =>
      have hsetup := brings_setup (i := i) h hconfigured origin s
      rw [hconfigured, if_neg Bool.false_ne_true] at hleaving
      rwa [← hleaving] at hsetup
    | true =>
      -- The console handler is the same whether the table was emptied before or not.
      have hsetup := brings_setup (i := i) h.cleanup rfl origin s
      have hentering : (m.cleanup.turnover (.setup origin s)).entering =
          (m.turnover (.setup origin s)).entering := by
        have hhandlers := (foldl_removeHandler (m.table.map Prod.fst) h).2.1
        have hfresh : m.cleanup.freshId = m.freshId := congrArg (List.foldl _ 0) hhandlers
        have hconsole : m.cleanup.consoleHandler s = m.consoleHandler s := by
          rw [consoleHandler, consoleHandler, hfresh]
        rw [turnover, turnover, hconsole]
      rw [hentering] at hsetup
      rw [setup_of_isConfigured hconfigured]
      rw [hconfigured, if_pos rfl] at hleaving
      have hall := Turnover.Brings.of_cleanup h hsetup
      rwa [← hleaving] at hall
  | addHandler name k => exact Turnover.brings_addHandler h name k
  | removeHandler name =>
    refine ⟨?_, fun n ↦ ?_⟩
    · show i ∈ (m.removeHandler name).attached ↔ _
      rw [mem_attached_removeHandler h]
      simp [turnover]
    · show (n, i) ∈ (m.removeHandler name).table ↔ _
      rw [mem_table_removeHandler]
      simp [turnover]
  | setLevel level component =>
    exact (Turnover.brings_none Iff.rfl rfl).of_sameLists (sameLists_setLevel m level component)
  | cleanup => exact Turnover.brings_cleanup h
  | attach k =>
    have hne : i ≠ k.id := fun hi ↦ hothers (hi ▸ rfl)
    exact Turnover.brings_none (by rw [Event.apply, mem_attached_attach, or_iff_left hne]) rfl
  | detach id =>
    have hne : i ≠ id := fun hi ↦ hothers (hi ▸ rfl)
    exact Turnover.brings_none (List.mem_erase_of_ne hne) rfl

end CatalogQuery.LogManager
