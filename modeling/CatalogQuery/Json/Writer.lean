import CatalogQuery.Datum.Display
import CatalogQuery.Json.StringLiteral

/-!
# Writing JSON

The JSON text of a value, with a blank after every comma and colon. Texts keep their characters
(`Json.plainLiteral`). A value that JSON has no form for is written as the text of its plain form.
Keys are texts, or numbers, truth values and null as texts; no other key can be written, and neither
can an integer beyond the digit limit (`writable?`).
-/

namespace CatalogQuery.Json

/-- The literal of a text. -/
def quote (t : Text) : String :=
  plainLiteral t.points

/-- The text of a number. -/
def numberText : Binary64 → String
  | .nan => "NaN"
  | .inf false => "Infinity"
  | .inf true => "-Infinity"
  | x => x.display

/-- The text of a truth value. -/
def boolText (b : Bool) : String :=
  if b then "true" else "false"

/-- The text of a key; a key of another class has none. -/
def keyText? : Datum → Option String
  | .null => some (quote (.str "null"))
  | .bool b => some (quote (.str (boolText b)))
  | .int n => some (quote (.str (integerText n)))
  | .float x => some (quote (.str (numberText x)))
  | .text t => some (quote t)
  | .word w => some (quote (.str w.wire))
  | _ => none

mutual

/-- The text of a value. -/
def text : Datum → String
  | .null => "null"
  | .bool b => boolText b
  | .int n => integerText n
  | .float x => numberText x
  | .text t => quote t
  | .word w => quote (.str w.wire)
  | .list xs => "[" ++ joinWith ", " (itemTexts xs) ++ "]"
  | .tuple xs => "[" ++ joinWith ", " (itemTexts xs) ++ "]"
  | .dict es => "\x7b" ++ joinWith ", " (memberTexts es) ++ "\x7d"
  | d => quote d.plain

/-- The texts of values. -/
def itemTexts : List Datum → List String
  | [] => []
  | x :: xs => text x :: itemTexts xs

/-- The texts of the members of an object. -/
def memberTexts : List (Datum × Datum) → List String
  | [] => []
  | (k, v) :: es => ((keyText? k).getD "" ++ ": " ++ text v) :: memberTexts es

end

/-- Why a value cannot be written. -/
inductive WriteError where
  /-- A key is of a class that has no text. -/
  | badKey
  /-- An integer is beyond the digit limit. -/
  | tooManyDigits
  deriving DecidableEq, Repr

mutual

/-- The first fault that keeps a value from being written. -/
def fault? : Datum → Option WriteError
  | .int n => if integerFits n then none else some .tooManyDigits
  | .list xs => itemsFault? xs
  | .tuple xs => itemsFault? xs
  | .dict es => membersFault? es
  | _ => none

/-- The first fault of values. -/
def itemsFault? : List Datum → Option WriteError
  | [] => none
  | x :: xs => (fault? x).or (itemsFault? xs)

/-- The first fault of the members of an object. -/
def membersFault? : List (Datum × Datum) → Option WriteError
  | [] => none
  | (k, v) :: es =>
    let keyFault : Option WriteError :=
      match k with
      | .int n => if integerFits n then none else some .tooManyDigits
      | k => if (keyText? k).isSome then none else some .badKey
    (keyFault.or (fault? v)).or (membersFault? es)

end

/-- The text of a value, or the fault that keeps it from being written. -/
def write (d : Datum) : Except WriteError String :=
  match fault? d with
  | some e => .error e
  | none => .ok (text d)

end CatalogQuery.Json
