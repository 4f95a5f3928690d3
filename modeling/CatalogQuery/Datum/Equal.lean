import CatalogQuery.Datum

/-!
# Equality of data

Two values are equal when they hold the same thing, whatever the class that holds it: a truth value
equals the number zero or one, an integer equals the decimal number of the same value, a word equals
its wire form. Lists and tuples are compared element by element and are never equal to each other;
mappings are equal when they pair the same keys with equal values, in any order.

The keys of a mapping are told apart by this equality (`Datum.get?`, `Datum.put`).
-/

namespace CatalogQuery.Datum

/-- Equality of two values of which at least one is no container. -/
def equalAtoms (a b : Datum) : Bool :=
  match a.asText?, b.asText? with
  | some s, some t => s.points == t.points
  | some _, none => false
  | none, some _ => false
  | none, none =>
    match a, b with
    | .null, .null => true
    | .float x, .float y => x.numEq y
    | .float x, b =>
      match b.asInt? with
      | some n => x.eqInt n
      | none => false
    | a, .float y =>
      match a.asInt? with
      | some n => y.eqInt n
      | none => false
    | .octets x, .octets y => x == y
    | .id i, .id j => i == j
    | .money m, .money n => m.amount.numEq n.amount
    | a, b =>
      match a.asInt?, b.asInt? with
      | some m, some n => m == n
      | _, _ => false

mutual

/-- Equality of values. -/
def equal : Datum → Datum → Bool
  | .list xs, .list ys => equalItems xs ys
  | .tuple xs, .tuple ys => equalItems xs ys
  | .dict es, .dict fs => es.length == fs.length && includedIn es fs
  | a, b => equalAtoms a b

/-- Equality of lists, element by element. -/
def equalItems : List Datum → List Datum → Bool
  | [], [] => true
  | x :: xs, y :: ys => equal x y && equalItems xs ys
  | _, _ => false

/-- Every entry of the first mapping has an equal one in the second. -/
def includedIn : List (Datum × Datum) → List (Datum × Datum) → Bool
  | [], _ => true
  | (k, v) :: es, fs => (fs.any fun f ↦ equal k f.1 && equal v f.2) && includedIn es fs

end

/-- The value under a key of a mapping. -/
def get? (key : Datum) (entries : List (Datum × Datum)) : Option Datum :=
  (entries.find? fun e ↦ e.1.equal key).map Prod.snd

/-- The value under a text key of a mapping. -/
def field? (key : String) (entries : List (Datum × Datum)) : Option Datum :=
  get? (.str key) entries

/-- Entries with a value put under a key: in the place of the key if it is there, else at the
end. -/
def put (key value : Datum) : List (Datum × Datum) → List (Datum × Datum)
  | [] => [(key, value)]
  | (k, v) :: es => if k.equal key then (k, value) :: es else (k, v) :: put key value es

end CatalogQuery.Datum
