import CatalogQuery.Log.Masking
import CatalogQuery.Template
import CatalogQuery.Vocabulary

/-!
# Log records

What is known about one event that is logged: the logger, the level, the message as a template with
its values, where the event happened, and an exception if there was one. Further attributes may be
given by name; one that has the name of a standard attribute stands for it (`LogRecord.attributes`).

`LogRecord.text` is the message filled with its values. `LogRecord.filter` masks the credentials in
it; the values are then given up. What is logged is a text of characters: half of a surrogate pair
is not handed on but shown as the replacement character (`Text.shown`), which is as little a letter,
a digit or a blank as the half is, so that the same is masked.
-/

namespace CatalogQuery

/-- The name of a level. -/
def levelName (level : Int) : String :=
  if level = 0 then "NOTSET"
  else
    match (Vocabulary.all : List LogLevel).find? fun l ↦ (l.severity : Int) == level with
    | some l => Vocabulary.wire l
    | none => "Level " ++ integerText level

/-- An exception that a record tells of. -/
structure LoggedException where
  /-- The name of its class. -/
  className : String
  /-- What it was raised with. -/
  arguments : List Datum
  deriving Repr

namespace LoggedException

/-- What is said about an exception after its class: its argument, or all of them. An argument that
is a missing key is displayed. -/
def detail (e : LoggedException) : String :=
  if !Datum.hasTextItems e.arguments then "<exception str() failed>"
  else
    match e.arguments with
    | [] => ""
    | [d] => if e.className = "KeyError" then d.display else d.plain.toString
    | ds => (Datum.tuple ds).display

/-- The text of an exception. -/
def text (e : LoggedException) : String :=
  if e.detail.isEmpty then e.className else e.className ++ ": " ++ e.detail

end LoggedException

/-- A record of an event. -/
structure LogRecord where
  /-- The name of the logger. -/
  name : String
  /-- The level. -/
  level : Int
  /-- The path of the file where the event happened. -/
  path : String
  /-- The line where it happened. -/
  line : Int
  /-- The message: a template if there are values. -/
  message : Datum
  /-- The values: a tuple, or one mapping. -/
  arguments : Datum := .tuple []
  /-- The function where it happened. -/
  function : Option String := none
  /-- When it happened, in seconds. -/
  created : Binary64
  /-- The thousandths of a second that had passed then since the last whole one. -/
  msecs : Nat := 0
  /-- The exception. -/
  exception : Option LoggedException := none
  /-- Further attributes. -/
  extras : List (String × Datum) := []
  deriving Repr

namespace LogRecord

/-- The values as a record keeps them: one mapping that is not empty stands for its entries. -/
def argumentsOf (values : List Datum) : Datum :=
  match values with
  | [.dict (e :: es)] => .dict (e :: es)
  | values => .tuple values

/-! ### Attributes -/

/-- The last name of a path. -/
def fileName (path : String) : List Char :=
  (path.toList.reverse.takeWhile (· != '/')).reverse

/-- A file name without its last extension. Dots at the beginning begin no extension. -/
def withoutExtension (name : List Char) : List Char :=
  let stem := dropTrailing (· != '.') name
  if stem.all (· == '.') then name else stem.dropLast

/-- The standard attributes in order. Left out are the numbers of the thread and the process and the
time since logging began, which the event does not decide. -/
def standard (r : LogRecord) : List (String × Datum) :=
  [("name", .str r.name), ("msg", r.message), ("args", r.arguments),
    ("levelname", .str (levelName r.level)), ("levelno", .int r.level), ("pathname", .str r.path),
    ("filename", .str (String.ofList (fileName r.path))),
    ("module", .str (String.ofList (withoutExtension (fileName r.path)))),
    ("exc_info", r.exception.elim .null fun e ↦ .foreign { className := e.className } none),
    ("exc_text", .null),
    ("stack_info", .null), ("lineno", .int r.line), ("funcName", r.function.elim .null .str),
    ("created", .float r.created), ("msecs", .int r.msecs), ("threadName", .str "MainThread"),
    ("processName", .str "MainProcess")]

/-- All attributes by name. -/
def attributes (r : LogRecord) : List (Datum × Datum) :=
  (r.standard ++ r.extras).foldl (fun es a ↦ Datum.put (.str a.1) a.2 es) []

/-- An attribute. -/
def get (r : LogRecord) (name : String) : Datum :=
  (Datum.field? name r.attributes).getD .null

/-- Attributes with one of them set: in its place if it is there, else at the end. -/
def setIn (name : String) (value : Datum) : List (String × Datum) → List (String × Datum)
  | [] => [(name, value)]
  | a :: as => if a.1 = name then (name, value) :: as else a :: setIn name value as

/-- The record with a further attribute. -/
def set (r : LogRecord) (name : String) (value : Datum) : LogRecord :=
  { r with extras := setIn name value r.extras }

/-! ### Messages -/

/-- The message as it is shown, filled with its values if there are any. It is filled before it is
shown, so that half of a surrogate pair in the message can still stand in a key. -/
def text (r : LogRecord) : Except Fault String :=
  let message := r.get "msg"
  let arguments := r.get "args"
  if !message.hasText then .error .badValue
  else if arguments.isTruthy then (Template.fill message.plain arguments).map Text.toString
  else .ok message.plain.toString

/-- The record with another message, which has no values. -/
def withMessage (r : LogRecord) (message : String) : LogRecord :=
  { r with
    message := .str message
    arguments := .tuple []
    extras := r.extras.filter fun a ↦ a.1 != "msg" && a.1 != "args" }

/-- The record with the credentials in its message masked. A record whose values do not fit its
message is left as it is. -/
def filter (r : LogRecord) : Except Fault LogRecord :=
  match r.text with
  | .ok message => .ok (r.withMessage (Masking.apply message))
  | .error .wrongClass | .error .badValue => .ok r
  | .error fault => .error fault

end LogRecord

end CatalogQuery
