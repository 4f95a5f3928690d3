import CatalogQuery.Datum.Display
import CatalogQuery.Datum.Equal
import CatalogQuery.Text.Encoding

/-!
# Data in terms of JSON

`Datum.reduced` gives a value in terms of what JSON can hold. A word becomes its wire form, octets
the text that they encode, a tuple a list; an identifier and an amount become mappings of their
parts; a number that is not finite becomes null. Every key of a mapping becomes a text, and of two
keys with the same text the later value stays.
-/

namespace CatalogQuery.Datum

/-- The text that octets encode; octets that encode none stay as they are. -/
def ofOctets (bytes : List UInt8) : Datum :=
  match Encoding.decode8 (bytes.map UInt8.toNat) with
  | some ps => .text (.ofPoints ps)
  | none => .octets bytes

/-- The parts of an identifier by name. -/
def idEntries (i : Id) : List (Datum × Datum) :=
  [(.str "entity_type", .str (Vocabulary.wire i.entityType)), (.str "number", .str i.number),
    (.str "namespace", .str i.space)]

/-- A number that is not finite has no place in JSON. -/
def ofFinite (x : Binary64) : Datum :=
  if x.isFinite then .float x else .null

mutual

/-- The text of a key; the texts of the items of a tuple are joined by commas. -/
def keyText : Datum → Text
  | .bool b => .str (if b then "true" else "false")
  | .word w => .str w.wire
  | .octets bs => (ofOctets bs).plain
  | .tuple xs => Text.ofPoints (keyTexts xs)
  | k => k.plain

/-- The texts of the items of a tuple that is a key. -/
def keyTexts : List Datum → List Nat
  | [] => []
  | [x] => (keyText x).points
  | x :: xs => (keyText x).points ++ 0x2C :: keyTexts xs

end

mutual

/-- A value in terms of what JSON can hold. -/
def reduced : Datum → Datum
  | .float x => ofFinite x
  | .octets bs => ofOctets bs
  | .list xs => .list (reducedItems xs)
  | .tuple xs => .list (reducedItems xs)
  | .dict es => .dict (reducedEntries es [])
  | .word w => .str w.wire
  | .id i => .dict (idEntries i)
  | .money m => .dict [(.str "amount", ofFinite m.amount)]
  | d => d

/-- The elements of a list in terms of what JSON can hold. -/
def reducedItems : List Datum → List Datum
  | [] => []
  | x :: xs => reduced x :: reducedItems xs

/-- The entries of a mapping in terms of what JSON can hold, put after others. -/
def reducedEntries : List (Datum × Datum) → List (Datum × Datum) → List (Datum × Datum)
  | [], done => done
  | (k, v) :: es, done => reducedEntries es (put (.text (keyText k)) (reduced v) done)

end

end CatalogQuery.Datum
