import CatalogQuery.Failure

/-!
# Selections and inputs

What a document selects and what it assigns. `FieldToken` is a field of a selection: a leaf, or a
nested field with a selection of its own. `FieldSet` is an ordered selection without repetitions:
`FieldSet.add` appends a token unless an equal one is there. `Inputs` is an ordered mapping:
`Inputs.assign` replaces the value of a key in its place, or appends the key. `Connection` is the
bound of a list, one positive count from one end.
-/

namespace CatalogQuery

/-! ### Bounds of lists -/

/-- The end of a list that a count starts from. -/
inductive ListEnd where
  | first | last
  deriving DecidableEq, Repr, Inhabited

/-- The name of the argument that bounds a list. -/
def ListEnd.argument : ListEnd → String
  | .first => "first"
  | .last => "last"

/-- The bound of a list: a positive number of entries from one end. -/
structure Connection where
  /-- The end that is counted from. -/
  side : ListEnd
  /-- The number of entries. -/
  count : Nat
  /-- At least one entry. -/
  count_pos : 0 < count
  deriving DecidableEq, Repr

namespace Connection

/-- The count that a value is, if it is a positive integer. -/
def count? : Datum → Option { n : Nat // 0 < n }
  | .int (.ofNat (n + 1)) => some ⟨n + 1, Nat.succ_pos n⟩
  | _ => none

/-- Makes a bound from two values of which exactly one is a positive count and the other is
absent. -/
def make (first last : Datum) : Outcome Connection :=
  let bound (side : ListEnd) (d : Datum) : Outcome Connection :=
    match count? d with
    | some n => .ok ⟨side, n.1, n.2⟩
    | none => .error (Failure.bounds first last)
  match first, last with
  | .null, .null => .error (Failure.bounds first last)
  | d, .null => bound .first d
  | .null, d => bound .last d
  | _, _ => .error (Failure.bounds first last)

/-- A number of entries from the start. -/
def ofFirst (count : Datum) : Outcome Connection :=
  make count .null

/-- A number of entries from the end. -/
def ofLast (count : Datum) : Outcome Connection :=
  make .null count

/-- The number of entries from the start, if that is the bound. -/
def firstCount? (c : Connection) : Option Nat :=
  if c.side = .first then some c.count else none

/-- The number of entries from the end, if that is the bound. -/
def lastCount? (c : Connection) : Option Nat :=
  if c.side = .last then some c.count else none

/-- The argument that bounds a list in a document. -/
def render (c : Connection) : String :=
  c.side.argument ++ ": " ++ Nat.repr c.count

/-- The count has a text within the digit limit. -/
def hasText (c : Connection) : Bool :=
  integerFits c.count

end Connection

/-! ### Fields -/

/-- A field of a selection. -/
inductive FieldToken where
  /-- A field without fields below it. -/
  | leaf (name : String)
  /-- A field with a selection of the entity below it; a bound makes it a list. -/
  | node (name : String) (kind : EntityKind) (selection : List FieldToken)
      (connection : Option Connection)
  deriving Repr, Inhabited

namespace FieldToken

mutual

/-- Equality of fields. -/
def beq : FieldToken → FieldToken → Bool
  | .leaf m, .leaf n => m == n
  | .node m k xs c, .node n l ys d => m == n && k == l && beqList xs ys && c == d
  | _, _ => false

/-- Equality of lists of fields. -/
def beqList : List FieldToken → List FieldToken → Bool
  | [], [] => true
  | x :: xs, y :: ys => beq x y && beqList xs ys
  | _, _ => false

end

instance : BEq FieldToken := ⟨beq⟩

/-- The name of a field. -/
def name : FieldToken → String
  | .leaf n => n
  | .node n _ _ _ => n

mutual

/-- The entity kinds selected at or below a field. -/
def kinds : FieldToken → List EntityKind
  | .leaf _ => []
  | .node _ k xs _ => k :: kindsOfList xs

/-- The entity kinds selected at or below the fields of a list. -/
def kindsOfList : List FieldToken → List EntityKind
  | [] => []
  | x :: xs => kinds x ++ kindsOfList xs

end

end FieldToken

/-- A selection: fields in order of their first addition. -/
structure FieldSet where
  /-- The fields in order. -/
  tokens : List FieldToken := []
  deriving Repr, Inhabited

namespace FieldSet

instance : BEq FieldSet := ⟨fun s t ↦ s.tokens == t.tokens⟩

/-- The selection without fields. -/
def empty : FieldSet := {}

/-- The selection with a field at the end, unless an equal one is there. -/
def add (s : FieldSet) (t : FieldToken) : FieldSet :=
  if s.tokens.contains t then s else ⟨s.tokens ++ [t]⟩

/-- The selection of leaf fields with the given names. -/
def ofNames (names : List String) : FieldSet :=
  names.foldl (fun s n ↦ s.add (.leaf n)) empty

/-- The first field with a name. -/
def find? (s : FieldSet) (name : String) : Option FieldToken :=
  s.tokens.find? fun t ↦ t.name == name

/-- The names of the fields, in order. -/
def names (s : FieldSet) : List String :=
  s.tokens.map FieldToken.name

/-- A field with the given name is there. -/
def contains (s : FieldSet) (name : String) : Bool :=
  s.tokens.any fun t ↦ t.name == name

/-- The entity kinds selected at any depth. -/
def kinds (s : FieldSet) : List EntityKind :=
  FieldToken.kindsOfList s.tokens

/-- An entity kind is selected at some depth. -/
def reaches (s : FieldSet) (k : EntityKind) : Bool :=
  s.kinds.contains k

/-- The number of fields. -/
def size (s : FieldSet) : Nat :=
  s.tokens.length

/-- The selection of the identifier only. -/
def idOnly : FieldSet :=
  ofNames ["id"]

end FieldSet

/-! ### Inputs -/

/-- The assignments of an update, in order of the first assignment of each key. -/
structure Inputs where
  /-- The keys with their values, in order. -/
  entries : List (String × Datum) := []
  deriving Repr, Inhabited

namespace Inputs

/-- No assignments. -/
def empty : Inputs := {}

/-- The entries with a value assigned to a key. -/
def assignEntries (key : String) (value : Datum) : List (String × Datum) → List (String × Datum)
  | [] => [(key, value)]
  | (k, v) :: es => if k = key then (key, value) :: es else (k, v) :: assignEntries key value es

/-- The assignments with a value assigned to a key: in its place if the key is there, else at the
end. -/
def assign (i : Inputs) (key : String) (value : Datum) : Inputs :=
  ⟨assignEntries key value i.entries⟩

/-- The value of a key. -/
def get? (i : Inputs) (key : String) : Option Datum :=
  (i.entries.find? fun e ↦ e.1 == key).map Prod.snd

/-- The keys in order. -/
def keys (i : Inputs) : List String :=
  i.entries.map Prod.fst

/-- The number of keys. -/
def size (i : Inputs) : Nat :=
  i.entries.length

/-- The same keys in the same order with equal values. -/
def equal (i j : Inputs) : Bool :=
  i.keys == j.keys && Datum.equalItems (i.entries.map Prod.snd) (j.entries.map Prod.snd)

end Inputs

end CatalogQuery
