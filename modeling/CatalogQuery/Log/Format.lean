import CatalogQuery.Json.Writer
import CatalogQuery.Log.Moment
import CatalogQuery.Log.Record

/-!
# Forms of log records

How a record becomes a line: by a template of its attributes, with or without a color for the name
of the level, or as one JSON object. Making a line leaves traces in the record, which the forms that
come later can see (`LogRecord.set`): the text of the message, of the time and of the exception.

An entry of the JSON object that a further attribute has the name of takes the value of that
attribute in its own place.
-/

namespace CatalogQuery

/-- A form of log records. -/
inductive LogFormat where
  /-- A template of attributes. -/
  | template (template : String)
  /-- A template of attributes; the name of the level may be colored. -/
  | colored (template : String) (inColor : Bool)
  /-- One JSON object. -/
  | structured
  deriving DecidableEq, Repr

namespace LogFormat

/-! ### Templates of attributes -/

/-- The template that is used in place of an empty one. -/
def defaultTemplate : String := "%(message)s"

/-- A decimal digit of any script. -/
def isDigit (c : Char) : Bool :=
  CodePoint.isDigit c.toNat

/-- A width or precision at the start of a text: what follows it, if one is there. -/
def afterSize? : List Char → Option (List Char)
  | '*' :: cs => some cs
  | c :: cs => if isDigit c then some (cs.dropWhile isDigit) else none
  | [] => none

/-- What follows a point and a precision, if they are there. -/
def afterPrecision (cs : List Char) : List Char :=
  match cs with
  | '.' :: rest => (afterSize? rest).getD cs
  | _ => cs

/-- A field begins here: a conversion with a key that is a word. -/
def beginsField : List Char → Bool
  | '%' :: '(' :: cs =>
    match cs.dropWhile Masking.isWord with
    | ')' :: rest =>
      let rest := rest.dropWhile ['#', '0', '+', '-', ' '].contains
      let rest := afterPrecision ((afterSize? rest).getD rest)
      !(cs.takeWhile Masking.isWord).isEmpty &&
        rest.head?.any fun c ↦ "diouxefgcrsa%".contains (Masking.small c)
    | _ => false
  | _ => false

/-- The template has a field; one without any is refused. -/
def hasField (template : String) : Bool :=
  anyEnd beginsField template.toList

/-- The template of a format, with the default in place of an empty one. -/
def ofText (template : String) : String :=
  if template.isEmpty then defaultTemplate else template

/-- A plain form by a template. -/
def ofTemplate (template : String) : Except Fault LogFormat :=
  if hasField (ofText template) then .ok (.template (ofText template)) else .error .badValue

/-- A colored form by a template. -/
def ofColored (template : String) (inColor : Bool) : Except Fault LogFormat :=
  if hasField (ofText template) then .ok (.colored (ofText template) inColor) else .error .badValue

/-- The template shows the time. -/
def showsTime (template : String) : Bool :=
  anyEnd (fun cs ↦ (dropStart? "%(asctime)".toList cs).isSome) template.toList

/-- The number of seconds that an attribute tells. -/
def timeOf (d : Datum) : Except Fault Binary64 :=
  match d, d.asInt? with
  | .float x, _ => .ok x
  | _, some n => (Binary64.ofInt? n).elim (.error .overflow) .ok
  | _, none => .error .wrongClass

/-- A text on a line of its own after a line. -/
def addLine (line : String) (d : Datum) : String :=
  if d.isTruthy then
    (if line.endsWith "\n" then line else line ++ "\n") ++ d.plain.toString
  else line

/-- The text of the time of a record, with thousandths of a second. -/
def timeText (r : LogRecord) : Except Fault String := do
  let moment ← Moment.floor (← timeOf (r.get "created"))
  let text ← Template.fill (.str "%s,%03d") (.tuple [.str moment.plain, r.get "msecs"])
  return text.toString

/-- The record with the text of its message, and on request with that of its time: two attributes
that a template can show. -/
def prepare (withTime : Bool) (r : LogRecord) : LogRecord × Except Fault Unit :=
  match r.text with
  | .error e => (r, .error e)
  | .ok message =>
    let r := r.set "message" (.str message)
    if withTime then
      match timeText r with
      | .error e => (r, .error e)
      | .ok time => (r.set "asctime" (.str time), .ok ())
    else (r, .ok ())

/-- The record with the text of its exception. -/
def withException (r : LogRecord) : LogRecord :=
  match r.exception with
  | some e => if (r.get "exc_text").isTruthy then r else r.set "exc_text" (.str e.text)
  | none => r

/-- The line of a record by a template. -/
def line (template : String) (r : LogRecord) : LogRecord × Except Fault String :=
  match prepare (showsTime template) r with
  | (r, .error e) => (r, .error e)
  | (r, .ok ()) =>
    match Template.fill (.str template) (.dict r.attributes) with
    | .error .missingKey => (r, .error .badValue)
    | .error e => (r, .error e)
    | .ok s =>
      let r := withException r
      (r, .ok (addLine (addLine s.toString (r.get "exc_text")) (r.get "stack_info")))

/-! ### Colors -/

/-- The control sequence with a number. -/
def control (number : String) : String :=
  "\x1b[" ++ number ++ "m"

/-- The number of the color of a level. -/
def colorOf (l : LogLevel) : String :=
  match l with
  | .debug => "36"
  | .info => "32"
  | .warning => "33"
  | .error => "31"
  | .critical => "35"

/-- The text with the first occurrence of a part replaced. -/
def replaceFirst (part replacement : List Char) : List Char → List Char
  | [] => []
  | c :: cs =>
    match dropStart? part (c :: cs) with
    | some rest => replacement ++ rest
    | none => c :: replaceFirst part replacement cs

/-- The text with the first occurrence of the name of a level in bold and in its color; the name of
a level that is none of the five has no color. -/
def color (name : Datum) (s : String) : String :=
  match name with
  | .str w =>
    match (Vocabulary.ofWire? w : Option LogLevel) with
    | some l =>
      let colored := control (colorOf l) ++ control "1" ++ w ++ control "0"
      String.ofList (replaceFirst w.toList colored.toList s.toList)
    | none => s
  | _ => s

/-! ### JSON objects -/

/-- The names of attributes that are no further ones. -/
def standardNames : List String :=
  ["name", "msg", "args", "levelname", "levelno", "pathname", "filename", "module", "lineno",
    "funcName", "created", "msecs", "relativeCreated", "thread", "threadName", "processName",
    "process", "taskName", "message", "exc_info", "exc_text", "stack_info"]

/-- The further attributes of a record. -/
def further (r : LogRecord) : List (String × Datum) :=
  r.extras.filter fun a ↦ !standardNames.contains a.1

/-- The entries of the object that a record becomes. -/
def entries (r : LogRecord) : Except Fault (List (String × Datum)) := do
  let moment ← Moment.ofTime (← timeOf (r.get "created"))
  let message ← r.text
  let base : List (String × Datum) :=
    [("timestamp", .str moment.iso), ("level", r.get "levelname"), ("logger", r.get "name"),
      ("message", .str message), ("module", r.get "module"), ("function", r.get "funcName"),
      ("line", r.get "lineno")]
  let exception := r.exception.elim [] fun e ↦ [("exception", Datum.str e.text)]
  return (further r).foldl (fun es a ↦ LogRecord.setIn a.1 a.2 es) (base ++ exception)

/-- The JSON object of a record. -/
def object (r : LogRecord) : Except Fault String := do
  let es ← entries r
  match Json.write (.dict (es.map fun e ↦ (.str e.1, e.2))) with
  | .ok s => return s
  | .error .badKey => .error .wrongClass
  | .error .tooManyDigits => .error .badValue

/-! ### Formatting -/

/-- The line of a record in a form, and the record with the traces that it leaves. -/
def format (f : LogFormat) (r : LogRecord) : LogRecord × Except Fault String :=
  match f with
  | .template t => line t r
  | .colored t inColor =>
    let (r, s) := line t r
    (r, if inColor then s.map (color (r.get "levelname")) else s)
  | .structured => (r, object r)

end LogFormat

end CatalogQuery
