import CatalogQuery.Datum.Reduced
import CatalogQuery.Failure
import CatalogQuery.Validation.Coerce
import CatalogQuery.Validation.Field

/-!
# Settings of logging

Where log lines go and in which form. The name of the level may be written in letters of either
case. The settings are checked when they are made (`LogSettings.ofEntries`); later assignments are
not, so a field may then hold any value (`LogSettings.assign`), and is shown in terms of what JSON
can hold.
-/

namespace CatalogQuery

/-- The properties that all settings have beside their fields; they cannot be assigned. -/
def ModelProperty.names : List String :=
  ["model_extra", "model_fields_set"]

/-- The settings of logging. -/
structure LogSettings where
  /-- The least level that is written. -/
  level : LogLevel := .info
  /-- The form of a line. -/
  format : Text := .str "%(asctime)s - %(name)s - %(levelname)s - %(message)s"
  /-- Lines go to the console. -/
  console : Bool := true
  /-- A line is one JSON object. -/
  structured : Bool := false
  /-- Credentials are masked. -/
  masked : Bool := true
  deriving DecidableEq, Repr

namespace LogSettings

/-- The capital of a letter, as far as level names need it: the dotless small `i` has the ASCII
capital. -/
def capital (p : Nat) : Nat :=
  if 0x61 ≤ p && p ≤ 0x7A then p - 0x20 else if p = 0x131 then 0x49 else p

/-- A field for a level. -/
def checkLevel (d : Datum) : Checked LogLevel :=
  match d.asText? with
  | some t => Coerce.word LogLevel (.text (.ofPoints (t.points.map capital)))
  | none => Coerce.wordOrOctets LogLevel d

/-- The settings with the given fields; unknown fields are passed over. -/
def ofEntries (entries : List (Datum × Datum)) : Checked LogSettings :=
  let defaults : LogSettings := {}
  Checked.ap (Checked.ap (Checked.ap (Checked.ap
    ((Field.optional entries "level" defaults.level checkLevel).map
      fun level format console structured masked ↦
        { level, format, console, structured, masked })
    (Field.optional entries "format" defaults.format Coerce.textOrOctets))
    (Field.optional entries "enable_console" defaults.console Coerce.bool))
    (Field.optional entries "enable_structured" defaults.structured Coerce.bool))
    (Field.optional entries "mask_credentials" defaults.masked Coerce.bool)

/-- A field for settings of logging. -/
def check (d : Datum) : Checked LogSettings :=
  match d with
  | .dict entries => ofEntries entries
  | _ => .fail .modelType

/-- The settings by name. -/
def fields (s : LogSettings) : List (String × Datum) :=
  [("level", .str (Vocabulary.wire s.level)), ("format", .text s.format),
    ("enable_console", .bool s.console), ("enable_structured", .bool s.structured),
    ("mask_credentials", .bool s.masked)]

/-- Fields as they are shown: in terms of what JSON can hold. -/
def shown (fields : List (String × Datum)) : List (String × Datum) :=
  fields.map fun f ↦ (f.1, f.2.reduced)

/-- Fields with the value of one of them replaced, unchecked. A name that starts with an underscore
is private and changes no field. -/
def assign (fields : List (String × Datum)) (name : String) (value : Datum) :
    Outcome (List (String × Datum)) :=
  if name.startsWith "_" then .ok fields
  else if ModelProperty.names.contains name then Outcome.fault .noSuchAttribute
  else if fields.any fun f ↦ f.1 == name then
    .ok (fields.map fun f ↦ if f.1 = name then (name, value) else f)
  else Outcome.fault .badValue

end LogSettings

end CatalogQuery
