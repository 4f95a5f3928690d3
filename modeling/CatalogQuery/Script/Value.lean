import CatalogQuery.Script.ObjectClass

/-!
# Values of a script

A script works with values: data, and objects of the classes that the library offers, each with all
that it refers to. An object may be made of parts of any kind, whether or not the library can work
with them; what it cannot work with shows when an operation meets it.

Two values with the same content need not be the very same value. Every value has a mark: a number
of its own once it was given to a script or made by one (`Value.label`), or the mark `shared` if all
values with its content are one, as with truth values, words and small integers.
-/

namespace CatalogQuery.Script

/-- What tells a value from others with the same content. -/
inductive Mark where
  /-- The value was just made and has no number yet. -/
  | fresh
  /-- All values with this content are one. -/
  | shared
  /-- The value has a number of its own. -/
  | number (n : Nat)
  deriving DecidableEq, Repr, Inhabited

/-- A value of a script. -/
inductive Value where
  /-- Data without parts. -/
  | atom (mark : Mark) (datum : Datum)
  | list (mark : Mark) (items : List Value)
  | tuple (mark : Mark) (items : List Value)
  | dict (mark : Mark) (entries : List (Value × Value))
  /-- A set; no two members are equal. -/
  | set (mark : Mark) (members : List Value)
  /-- An object with its parts in the order of its class. -/
  | object (mark : Mark) (cls : ObjectClass) (parts : List Value)
  deriving Inhabited

namespace Value

/-! ### Making values -/

/-- Nothing. -/
def null : Value := .atom .shared .null

/-- A truth value. -/
def bool (b : Bool) : Value := .atom .shared (.bool b)

/-- A word of a vocabulary. -/
def word (w : Word) : Value := .atom .shared (.word w)

/-- A text that the library itself holds. -/
def own (s : String) : Value := .atom .shared (.str s)

/-- The mark of new data; `nan` marks what is no number. -/
def atomMark (nan : Mark) : Datum → Mark
  | .null | .bool _ | .word _ => .shared
  | .int n => if -5 ≤ n && n ≤ 256 then .shared else .fresh
  | .float .nan => nan
  | .text t => if t.points.length ≤ 1 && t.points.all (· < 256) then .shared else .fresh
  | .octets bs => if bs.length ≤ 1 then .shared else .fresh
  | _ => .fresh

/-- New data without parts. -/
def ofAtom (d : Datum) : Value := .atom (atomMark .fresh d) d

/-- A new text. -/
def ofText (t : Text) : Value := ofAtom (.text t)

/-- A new text of characters. -/
def str (s : String) : Value := ofAtom (.str s)

/-- A new number. -/
def nat (n : Nat) : Value := ofAtom (.int n)

/-- A new list. -/
def ofList (vs : List Value) : Value := .list .fresh vs

/-- A new tuple; there is but one empty one. -/
def ofTuple (vs : List Value) : Value := .tuple (if vs.isEmpty then .shared else .fresh) vs

/-- A new object. -/
def make (cls : ObjectClass) (parts : List Value) : Value := .object .fresh cls parts

/-- A value that may be absent. -/
def ofOption {α : Type} (wrap : α → Value) : Option α → Value
  | none => null
  | some a => wrap a

/-- A new identifier. -/
def ofId (i : Id) : Value :=
  make .id [word (.entityType i.entityType), str i.number, str i.space]

/-- A new amount. -/
def ofMoney (nan : Mark) (m : Money) : Value :=
  make .money [.atom (atomMark nan (.float m.amount)) (.float m.amount)]

mutual

/-- New data with all its parts; `nan` marks what is no number. -/
def embed (nan : Mark) : Datum → Value
  | .list xs => ofList (embedAll nan xs)
  | .tuple xs => ofTuple (embedAll nan xs)
  | .dict es => .dict .fresh (embedEntries nan es)
  | .id i => ofId i
  | .money m => ofMoney nan m
  | d => .atom (atomMark nan d) d

/-- The items of a list of new data. -/
def embedAll (nan : Mark) : List Datum → List Value
  | [] => []
  | x :: xs => embed nan x :: embedAll nan xs

/-- The entries of a mapping of new data. -/
def embedEntries (nan : Mark) : List (Datum × Datum) → List (Value × Value)
  | [] => []
  | (k, v) :: es => (embed nan k, embed nan v) :: embedEntries nan es

end

/-- New data. -/
def ofDatum (d : Datum) : Value := embed .fresh d

/-! ### Parts -/

/-- The mark of a value. -/
def mark : Value → Mark
  | .atom m _ => m
  | .list m _ => m
  | .tuple m _ => m
  | .dict m _ => m
  | .set m _ => m
  | .object m _ _ => m

/-- The class of an object. -/
def class? : Value → Option ObjectClass
  | .object _ cls _ => some cls
  | _ => none

/-- The value is an object of a class. -/
def isOf (cls : ObjectClass) (v : Value) : Bool :=
  v.class? == some cls

/-- The value is nothing. -/
def isNull : Value → Bool
  | .atom _ .null => true
  | _ => false

/-- The word that a value is. -/
def word? : Value → Option Word
  | .atom _ (.word w) => some w
  | _ => none

/-- The part of an object with a name. -/
def part? (v : Value) (name : String) : Option Value :=
  match v with
  | .object _ cls parts => ((cls.partNames.zip parts).find? fun p ↦ p.1 == name).map Prod.snd
  | _ => none

/-- A new object with one part replaced. -/
def withPart (v : Value) (name : String) (part : Value) : Value :=
  match v with
  | .object _ cls parts =>
    make cls ((cls.partNames.zip parts).map fun p ↦ if p.1 == name then part else p.2)
  | v => v

/-- The elements of data without parts, if it can be iterated. -/
def atomElements? (d : Datum) : Option (List Value) :=
  d.elements?.map fun xs ↦ xs.map ofAtom

/-- The items that iteration over a value goes through, if it can be iterated: the keys of a
mapping, the characters of a text, the parts of a payload with their names. -/
def items? : Value → Option (List Value)
  | .atom _ d => atomElements? d
  | .list _ xs => some xs
  | .tuple _ xs => some xs
  | .dict _ es => some (es.map Prod.fst)
  | .set _ xs => some xs
  | .object _ cls parts =>
    if cls.isPayload then
      some ((cls.partNames.zip parts).map fun p ↦ ofTuple [own p.1, p.2])
    else if cls.isCollection then
      match parts with
      | [part] => items? part
      | _ => none
    else none

/-- The name of the class of a value. -/
def className : Value → String
  | .atom _ d => d.className
  | .list .. => "list"
  | .tuple .. => "tuple"
  | .dict .. => "dict"
  | .set .. => "frozenset"
  | .object _ cls _ => cls.name

/-! ### Marks -/

/-- A mark with the given number if it had none, and the next number. -/
def Mark.label : Mark → Nat → Mark × Nat
  | .fresh, n => (.number n, n + 1)
  | m, n => (m, n)

mutual

/-- A value in which everything new has a number, from `n` on, and the next number. -/
def label : Value → Nat → Value × Nat
  | .atom m d, n =>
    let (m, n) := Mark.label m n
    (.atom m d, n)
  | .list m xs, n =>
    let (m, n) := Mark.label m n
    let (xs, n) := labelAll xs n
    (.list m xs, n)
  | .tuple m xs, n =>
    let (m, n) := Mark.label m n
    let (xs, n) := labelAll xs n
    (.tuple m xs, n)
  | .dict m es, n =>
    let (m, n) := Mark.label m n
    let (es, n) := labelEntries es n
    (.dict m es, n)
  | .set m xs, n =>
    let (m, n) := Mark.label m n
    let (xs, n) := labelAll xs n
    (.set m xs, n)
  | .object m cls xs, n =>
    let (m, n) := Mark.label m n
    let (xs, n) := labelAll xs n
    (.object m cls xs, n)

/-- The items of a list with numbers. -/
def labelAll : List Value → Nat → List Value × Nat
  | [], n => ([], n)
  | x :: xs, n =>
    let (x, n) := label x n
    let (xs, n) := labelAll xs n
    (x :: xs, n)

/-- The entries of a mapping with numbers. -/
def labelEntries : List (Value × Value) → Nat → List (Value × Value) × Nat
  | [], n => ([], n)
  | (k, v) :: es, n =>
    let (k, n) := label k n
    let (v, n) := label v n
    let (es, n) := labelEntries es n
    ((k, v) :: es, n)

end

end Value

/-! ### Faults -/

/-- A fault for a value of the wrong class. -/
def wrongClass {α : Type} : Outcome α :=
  Outcome.fault .wrongClass

/-- A fault for a name that an object lacks. -/
def noSuchAttribute {α : Type} : Outcome α :=
  Outcome.fault .noSuchAttribute

namespace Value

/-- The items that iteration over a value goes through. -/
def items (v : Value) : Outcome (List Value) :=
  match v.items? with
  | some vs => .ok vs
  | none => wrongClass

/-- The two parts of a value that is a pair. -/
def pair (v : Value) : Outcome (Value × Value) := do
  match ← v.items with
  | [a, b] => return (a, b)
  | _ => Outcome.fault .badValue

/-- A part of an object. -/
def part (v : Value) (name : String) : Outcome Value :=
  match v.part? name with
  | some p => .ok p
  | none => noSuchAttribute

end Value

end CatalogQuery.Script
