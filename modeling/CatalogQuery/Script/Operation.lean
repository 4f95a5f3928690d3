import CatalogQuery.Entities
import CatalogQuery.Script.Comparison
import CatalogQuery.Script.Observation

/-!
# Operations of all values

What can be asked of any value: its size, its items, whether it contains a value, the item at an
index or under a key, and its text. A value that the operation does not apply to is a fault.
-/

namespace CatalogQuery.Script.Value

/-! ### Size and text -/

/-- The number of items of a value, if it has one. -/
def size? : Value → Option Nat
  | .atom _ d => d.elements?.map List.length
  | .list _ xs => some xs.length
  | .tuple _ xs => some xs.length
  | .dict _ es => some es.length
  | .set _ xs => some xs.length
  | .object _ cls parts =>
    if cls.isCollection then
      match parts with
      | [part] => size? part
      | _ => none
    else none

/-- The number of items of a value. -/
def size (v : Value) : Outcome Nat :=
  match v.size? with
  | some n => .ok n
  | none => wrongClass

/-! ### Names -/

/-- The name of a field; a word has one, too. -/
def nameOf (v : Value) : Outcome Value :=
  match v.word? with
  | some w => .ok (own w.label)
  | none => v.part "name"

/-- The first of several fields that has a name. -/
def findNamed (name : Value) : List Value → Outcome (Option Value)
  | [] => .ok none
  | x :: xs => do
    let n ← nameOf x
    if n.equal name then return some x else findNamed name xs

/-! ### Membership -/

/-- A list occurs inside another one. -/
def occursIn {α : Type} [BEq α] (part : List α) : List α → Bool
  | [] => part.isEmpty
  | p :: ps => part.isPrefixOf (p :: ps) || occursIn part ps

/-- Octets contain a value: a number of one octet, or other octets. -/
def octetsContain (bytes : List UInt8) (item : Datum) : Outcome Bool :=
  match item with
  | .octets bs => .ok (occursIn bs bytes)
  | d =>
    match d.asInt? with
    | some n =>
      if 0 ≤ n && n < 256 then .ok (bytes.any fun b ↦ (b.toNat : Int) == n)
      else Outcome.fault .badValue
    | none => wrongClass

/-- Data without parts contains a value. -/
def atomContains (d item : Datum) : Outcome Bool :=
  match d with
  | .octets bs => octetsContain bs item
  | d =>
    match d.asText?, item.asText? with
    | some t, some part => .ok (occursIn part.points t.points)
    | _, _ => wrongClass

/-- The value contains another one: a selection a field of that name, a mapping a key, any other
collection an item. -/
def contains (v item : Value) : Outcome Bool :=
  match v with
  | .atom _ d => atomContains d item.toDatum
  | .dict _ es => if item.isHashable then .ok (es.any fun e ↦ alike e.1 item) else wrongClass
  | .set _ xs => if item.isHashable then .ok (xs.any fun x ↦ alike x item) else wrongClass
  | .object _ .fields [tokens] => do
    return (← findNamed item (← tokens.items)).isSome
  | v => do
    return (← v.items).any fun x ↦ alike x item

/-! ### Items -/

/-- The index that a value is. -/
def index (v : Value) : Outcome Int :=
  match v.toDatum.asInt? with
  | some n => .ok n
  | none => wrongClass

/-- The item of a value at an index or under a key; a list of nodes has those of its part. -/
def item : Value → Value → Outcome Value
  | .list _ xs, key => do elementAt xs (← key.index)
  | .tuple _ xs, key => do elementAt xs (← key.index)
  | .dict _ es, key =>
    if key.isHashable then
      match get? key es with
      | some v => .ok v
      | none => Outcome.fault .missingKey
    else wrongClass
  | .atom _ d, key => do
    match d.elements? with
    | some xs => return ofAtom (← elementAt xs (← key.index))
    | none => wrongClass
  | .object _ .nodes [nodes], key => item nodes key
  | _, _ => wrongClass

/-! ### Keys -/

/-- Whether two values that can be keys have the same key. -/
def sameHash (v w : Value) : Outcome Bool :=
  match v.hashKey?, w.hashKey? with
  | some a, some b => .ok (a == b)
  | _, _ => wrongClass

end CatalogQuery.Script.Value
