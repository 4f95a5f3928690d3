import CatalogQuery.Identifier
import CatalogQuery.Number.Binary64

/-!
# Data

`Datum` is the value that a caller may hand in and that a reply may hold: the values of JSON,
octets, tuples, mappings with any keys, words of the closed vocabularies, identifiers and amounts of
money. A mapping keeps the order of its entries. An object of any other class is known from outside
only (`Foreign`): by its class, its texts, its literal and its elements.
-/

namespace CatalogQuery

/-- An amount of money, as the decimal number that it is written as. -/
structure Money where
  /-- The amount. -/
  amount : Binary64
  deriving DecidableEq, Repr, Inhabited

/-- What is known of an object of another class. -/
structure Foreign where
  /-- The name of its class. -/
  className : String
  /-- The object shown so that its class is visible. -/
  display : String := className
  /-- The object as text. -/
  plain : Text := .str display
  /-- No integer in the object is beyond the digit limit, so that it has the two texts. -/
  hasText : Bool := true
  /-- How the object stands in a document, if it may. -/
  literal? : Option String := none
  deriving DecidableEq, Repr, Inhabited

/-- A value of a caller or a reply. -/
inductive Datum where
  | null
  | bool (b : Bool)
  | int (n : Int)
  | float (x : Binary64)
  | text (t : Text)
  | octets (bytes : List UInt8)
  | list (items : List Datum)
  | tuple (items : List Datum)
  | dict (entries : List (Datum × Datum))
  | word (w : Word)
  | id (i : Id)
  | money (m : Money)
  /-- An object of another class, with its elements if it can be iterated. -/
  | foreign (object : Foreign) (elements : Option (List Datum))
  deriving Repr, Inhabited

namespace Datum

/-- A text of characters. -/
@[match_pattern] abbrev str (s : String) : Datum := .text (.str s)

/-- The name of the class of a value. -/
def className : Datum → String
  | .null => "NoneType"
  | .bool _ => "bool"
  | .int _ => "int"
  | .float _ => "float"
  | .text _ => "str"
  | .octets _ => "bytes"
  | .list _ => "list"
  | .tuple _ => "tuple"
  | .dict _ => "dict"
  | .word w => w.title
  | .id _ => "Id"
  | .money _ => "Money"
  | .foreign o _ => o.className

/-- The text of a value that is one; a word counts as its wire form. -/
def asText? : Datum → Option Text
  | .text t => some t
  | .word w => some (.str w.wire)
  | _ => none

/-- The integer of a value that is one; a truth value counts as zero or one. -/
def asInt? : Datum → Option Int
  | .int n => some n
  | .bool b => some (if b then 1 else 0)
  | _ => none

/-- A text is no integer. -/
theorem asInt?_of_asText? {d : Datum} {t : Text} (h : d.asText? = some t) : d.asInt? = none := by
  cases d with
  | text | word => rfl
  | _ => cases h

/-- The mapping of a value that is one. -/
def asDict? : Datum → Option (List (Datum × Datum))
  | .dict es => some es
  | _ => none

/-- A value that is not empty, zero, false or absent. -/
def isTruthy : Datum → Bool
  | .null => false
  | .bool b => b
  | .int n => n != 0
  | .float x => !x.isZero
  | .text t => !t.isEmpty
  | .octets bs => !bs.isEmpty
  | .list xs => !xs.isEmpty
  | .tuple xs => !xs.isEmpty
  | .dict es => !es.isEmpty
  | .word w => !w.wire.isEmpty
  | .id _ | .money _ | .foreign .. => true

/-- A byte that separates words. -/
def isBlankOctet (b : UInt8) : Bool :=
  b == 0x20 || (0x9 ≤ b && b ≤ 0xD)

/-- Whether a text or octets hold blanks only; other values cannot be asked. -/
def isBlank? : Datum → Option Bool
  | .octets bs => some (bs.all isBlankOctet)
  | d => d.asText?.map Text.isBlank

mutual

/-- A value that can be the key of a mapping: there is no list or mapping in it. -/
def isHashable : Datum → Bool
  | .list _ => false
  | .dict _ => false
  | .tuple xs => areHashable xs
  | _ => true

/-- The items can be keys of a mapping. -/
def areHashable : List Datum → Bool
  | [] => true
  | x :: xs => isHashable x && areHashable xs

end

/-- The elements that iteration over a value goes through, if it can be iterated: the keys of a
mapping, the characters of a text, the numbers of octets. -/
def elements? : Datum → Option (List Datum)
  | .list xs => some xs
  | .tuple xs => some xs
  | .dict es => some (es.map Prod.fst)
  | .text t => some (t.points.map fun p ↦ .text (.ofPoints [p]))
  | .word w => some (w.wire.toList.map fun c ↦ .str (String.ofList [c]))
  | .octets bs => some (bs.map fun b ↦ .int b.toNat)
  | .foreign _ elements => elements
  | _ => none

end Datum

end CatalogQuery
