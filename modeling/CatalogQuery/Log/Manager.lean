import CatalogQuery.Log.Format
import CatalogQuery.LogLine
import CatalogQuery.Settings.Logging

/-!
# Managers of logging

Loggers have names whose parts are parted by dots; a logger lies under each logger whose name its
own goes on from, and all lie under the one without a name. A logger without a level has that of the
next logger above it that has one. A record passes from its logger to the handlers of all loggers
above.

A manager attaches handlers to one logger and keeps a table of them by name. The handlers that are
attached and those in the table are two lists, and a handler is known in both by its number, so that
a change of its level is seen in both. A name that is used again stands for the later handler; the
earlier one leaves the table but stays attached.
-/

namespace CatalogQuery

/-! ### Handlers -/

/-- A handler: where a record becomes a line. -/
structure LogHandler where
  /-- The number by which the handler is known. -/
  id : Nat
  /-- The least level of records that it takes. -/
  level : Int := 0
  /-- The form of its lines. -/
  format : LogFormat
  /-- Credentials are masked. -/
  masks : Bool := false
  deriving DecidableEq, Repr

namespace LogHandler

/-- What a handler makes of a record: the line, if the record can be formatted, and the record as
the handlers after it see it. Masking alone can fail. -/
def handle (h : LogHandler) (r : LogRecord) : Except Fault (Option String × LogRecord) := do
  let r ← if h.masks then r.filter else .ok r
  let (r, line) := h.format.format r
  return (line.toOption, r)

/-- What handlers write, one after the other, and the fault that stopped them. -/
def handleAll : List LogHandler → LogRecord → String × Option Fault
  | [], _ => ("", none)
  | h :: hs, r =>
    if r.level < h.level then handleAll hs r
    else
      match h.handle r with
      | .error fault => ("", some fault)
      | .ok (line, r) =>
        let (output, fault) := handleAll hs r
        (line.elim "" (· ++ "\n") ++ output, fault)

end LogHandler

/-! ### Managers -/

/-- A manager of logging. -/
structure LogManager where
  /-- The logger that handlers are attached to. -/
  logger : String
  /-- The levels of loggers. -/
  levels : List (String × Int) := [("", 30)]
  /-- Logging is set up. -/
  isConfigured : Bool := false
  /-- The handlers that are known. -/
  handlers : List LogHandler := []
  /-- The numbers of the handlers that are attached to the logger, in order. -/
  attached : List Nat := []
  /-- The numbers of handlers by name. -/
  table : List (String × Nat) := []
  deriving Repr

namespace LogManager

/-- The name under which a logger is known; the root has two names. -/
def loggerName (name : String) : String :=
  if name = "root" then "" else name

/-- The name that a logger has in records. -/
def displayName (name : String) : String :=
  if (loggerName name).isEmpty then "root" else name

/-- The names of the loggers above the one with the given name, without the last. Its letters are
given in reverse. -/
def namesAbove : List Char → List String
  | [] => []
  | c :: cs =>
    if c = '.' && !cs.isEmpty then String.ofList cs.reverse :: namesAbove cs else namesAbove cs

/-- The loggers that a logger lies under, itself among them, from below. -/
def lineage (name : String) : List String :=
  if (loggerName name).isEmpty then [""] else name :: namesAbove name.toList.reverse ++ [""]

/-- The level of a logger; zero is none. -/
def levelOf (m : LogManager) (name : String) : Int :=
  ((m.levels.find? fun l ↦ l.1 == loggerName name).map Prod.snd).getD 0

/-- The level that counts for a logger. -/
def effectiveLevel (m : LogManager) (name : String) : Int :=
  (((lineage name).map m.levelOf).find? (· != 0)).getD 0

/-- The level of the managed logger. -/
def level (m : LogManager) : Int :=
  m.levelOf m.logger

/-- Values by name with one of them set: in its place if it is there, else at the end. -/
def setNamed {α : Type} (name : String) (value : α) : List (String × α) → List (String × α)
  | [] => [(name, value)]
  | e :: es => if e.1 = name then (name, value) :: es else e :: setNamed name value es

/-- Sets the level of a logger. -/
def withLevel (m : LogManager) (name : String) (level : Int) : LogManager :=
  { m with levels := setNamed (loggerName name) level m.levels }

/-- The handler with a number. -/
def handler? (m : LogManager) (id : Nat) : Option LogHandler :=
  m.handlers.find? fun h ↦ h.id == id

/-- The handlers that are attached to the logger. -/
def attachedHandlers (m : LogManager) : List LogHandler :=
  m.attached.filterMap m.handler?

/-- The handlers in the table. -/
def tableHandlers (m : LogManager) : List (String × LogHandler) :=
  m.table.filterMap fun e ↦ (m.handler? e.2).map (e.1, ·)

/-- A number that no handler is known by. -/
def freshId (m : LogManager) : Nat :=
  m.handlers.foldl (fun n h ↦ max n (h.id + 1)) 0

/-! ### Operations -/

/-- Attaches a handler, unless it is attached, and enters it under a name. -/
def addHandler (m : LogManager) (name : String) (h : LogHandler) : LogManager :=
  { m with
    handlers := h :: m.handlers.filter fun k ↦ k.id != h.id
    attached := if m.attached.contains h.id then m.attached else m.attached ++ [h.id]
    table := setNamed name h.id m.table }

/-- Detaches the handler under a name. -/
def removeHandler (m : LogManager) (name : String) : LogManager :=
  match m.table.find? fun e ↦ e.1 == name with
  | some (_, id) =>
    { m with
      attached := m.attached.erase id
      table := m.table.filter fun e ↦ e.1 != name }
  | none => m

/-- Detaches the handlers in the table. -/
def cleanup (m : LogManager) : LogManager :=
  { (m.table.map Prod.fst).foldl removeHandler m with isConfigured := false }

/-- Sets the level of a logger. Without a name it is that of the managed logger and of the handlers
in the table. -/
def setLevel (m : LogManager) (level : LogLevel) (component : Option String) : LogManager :=
  let name := component.getD ""
  if name.isEmpty then
    let m := m.withLevel m.logger level.severity
    let ids := m.table.map Prod.snd
    { m with
      handlers := m.handlers.map fun h ↦
        if ids.contains h.id then { h with level := level.severity } else h }
  else m.withLevel name level.severity

/-- Where and when events happen. -/
structure Origin where
  /-- The path of the file. -/
  path : String
  /-- The line. -/
  line : Int
  /-- The function. -/
  function : Option String
  /-- The time in seconds. -/
  time : Binary64
  deriving Repr

/-- The record of an event. -/
def record (origin : Origin) (name : String) (level : Int) (message : Datum) (values : List Datum) :
    LogRecord :=
  { name := displayName name
    level
    path := origin.path
    line := origin.line
    message
    arguments := LogRecord.argumentsOf values
    function := origin.function
    created := origin.time }

/-- What is written of an event, and the fault that stopped it. A level that is not above zero is
never logged. -/
def log (m : LogManager) (origin : Origin) (name : String) (level : Int) (message : Datum)
    (values : List Datum) : String × Option Fault :=
  if level ≤ 0 || level < m.effectiveLevel name then ("", none)
  else if (lineage name).contains (loggerName m.logger) then
    LogHandler.handleAll m.attachedHandlers (record origin name level message values)
  else ("", none)

/-- The name of the handler for the console. -/
def consoleName : String := "console"

/-- The handler for the console. -/
def consoleHandler (m : LogManager) (s : LogSettings) : Except Fault LogHandler := do
  let format ←
    if s.structured then .ok .structured else LogFormat.ofColored s.format.toString false
  return { id := m.freshId, level := s.level.severity, format, masks := s.masked }

/-- Sets up logging: what was set up before is cleaned up, the logger takes the level of the
settings, and a handler for the console is added if they ask for one. A template without a field is
a fault; the level is then set already. -/
def setup (m : LogManager) (origin : Origin) (s : LogSettings) :
    LogManager × String × Option Fault :=
  let m := if m.isConfigured then m.cleanup else m
  let m := m.withLevel m.logger s.level.severity
  let added : Except Fault LogManager :=
    if s.console then (m.consoleHandler s).map (m.addHandler consoleName) else .ok m
  match added with
  | .error fault => (m, "", some fault)
  | .ok m =>
    let m := { m with isConfigured := true }
    let level : Int := LogLevel.debug.severity
    (m, m.log origin LogLine.manager level (.str "Logging system configured") [])

end LogManager

end CatalogQuery
