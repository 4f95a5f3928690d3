import CatalogQuery.Datum
import CatalogQuery.Text.Quoted
import CatalogQuery.Number.Numeral
import CatalogQuery.Number.Shortest

/-!
# Display of data

The two texts of a value. `Datum.display` shows it so that its class is visible: texts are quoted,
words and identifiers carry their names. `Datum.plain` is the value as text: a text stands for
itself, a word for its full name, an identifier for its canonical form, an amount for its number;
any other value has its display. Elements of a list, tuple or mapping are always displayed.

An integer beyond the digit limit has no text. `Datum.hasText` says that no such integer occurs in a
value at any depth.
-/

namespace CatalogQuery

/-- The text of an amount. -/
def Money.text (m : Money) : String :=
  m.amount.display

namespace Datum

/-- The display of a truth value. -/
def displayBool (b : Bool) : String :=
  if b then "True" else "False"

/-- The display of a word: its full name and its wire form. -/
def displayWord (w : Word) : String :=
  "<" ++ w.fullName ++ ": " ++ Quoted.display (codePoints w.wire.toList) ++ ">"

/-- The display of an identifier: its parts by name. -/
def displayId (i : Id) : String :=
  "Id(entity_type=" ++ displayWord (.entityType i.entityType) ++
    ", number=" ++ Quoted.display (codePoints i.number.toList) ++
    ", namespace=" ++ Quoted.display (codePoints i.space.toList) ++ ")"

/-- The display of an amount. -/
def displayMoney (m : Money) : String :=
  "Money(amount=" ++ m.amount.display ++ ")"

mutual

/-- The display of a value. -/
def display : Datum → String
  | .null => "None"
  | .bool b => displayBool b
  | .int n => integerText n
  | .float x => x.display
  | .text t => Quoted.display t.points
  | .octets bs => Quoted.displayOctets bs
  | .list xs => "[" ++ joinWith ", " (displayItems xs) ++ "]"
  | .tuple [x] => "(" ++ display x ++ ",)"
  | .tuple xs => "(" ++ joinWith ", " (displayItems xs) ++ ")"
  | .dict es => "\x7b" ++ joinWith ", " (displayEntries es) ++ "\x7d"
  | .word w => displayWord w
  | .id i => displayId i
  | .money m => displayMoney m
  | .foreign o _ => o.display

/-- The displays of the elements of a list. -/
def displayItems : List Datum → List String
  | [] => []
  | x :: xs => display x :: displayItems xs

/-- The displays of the entries of a mapping. -/
def displayEntries : List (Datum × Datum) → List String
  | [] => []
  | (k, v) :: es => (display k ++ ": " ++ display v) :: displayEntries es

end

/-- A value as text. -/
def plain : Datum → Text
  | .text t => t
  | .word w => .str w.fullName
  | .id i => .str i.gid
  | .money m => .str m.text
  | .foreign o _ => o.plain
  | d => .str d.display

mutual

/-- No integer in a value is beyond the digit limit. -/
def hasText : Datum → Bool
  | .int n => integerFits n
  | .list xs => hasTextItems xs
  | .tuple xs => hasTextItems xs
  | .dict es => hasTextEntries es
  | .foreign o _ => o.hasText
  | _ => true

/-- The elements of a list have texts. -/
def hasTextItems : List Datum → Bool
  | [] => true
  | x :: xs => hasText x && hasTextItems xs

/-- The entries of a mapping have texts. -/
def hasTextEntries : List (Datum × Datum) → Bool
  | [] => true
  | (k, v) :: es => hasText k && hasText v && hasTextEntries es

end

/-- A value that is a text has one. -/
theorem hasText_of_asText? {d : Datum} {t : Text} (h : d.asText? = some t) : d.hasText = true := by
  cases d with
  | text => simp [hasText]
  | word => simp [hasText]
  | _ => cases h

end Datum

end CatalogQuery
