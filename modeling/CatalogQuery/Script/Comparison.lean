import CatalogQuery.Datum.Equal
import CatalogQuery.Script.Value

/-!
# Comparing values

Three comparisons, from the finest to the coarsest. `Value.same` holds of a value and itself.
`Value.equal` holds of values that hold equal things: data compare as data do, an object equals
another one of its class, and parts need only be the same or equal, so that a part which does not
equal itself makes no difference. `Value.hashKey?` gives a value that can be a key a list of
numbers; values with equal lists share their place in a mapping, and equal values do.
-/

namespace CatalogQuery.Script

namespace Value

/-! ### Same values -/

/-- Data without parts that are the same through and through. -/
def sameAtom : Datum → Datum → Bool
  | .null, .null => true
  | .bool a, .bool b => a == b
  | .int a, .int b => a == b
  | .float a, .float b => a == b
  | .text a, .text b => a == b
  | .octets a, .octets b => a == b
  | .word a, .word b => a == b
  | _, _ => false

mutual

/-- Values with the same content, whatever their marks. -/
def sameContent : Value → Value → Bool
  | .atom _ a, .atom _ b => sameAtom a b
  | .list _ xs, .list _ ys => sameContents xs ys
  | .tuple _ xs, .tuple _ ys => sameContents xs ys
  | .dict _ es, .dict _ fs => sameEntries es fs
  | .set _ xs, .set _ ys => sameContents xs ys
  | .object _ c xs, .object _ d ys => c == d && sameContents xs ys
  | _, _ => false

/-- Lists of values with the same content. -/
def sameContents : List Value → List Value → Bool
  | [], [] => true
  | x :: xs, y :: ys => sameContent x y && sameContents xs ys
  | _, _ => false

/-- Entries with the same content. -/
def sameEntries : List (Value × Value) → List (Value × Value) → Bool
  | [], [] => true
  | (k, v) :: es, (l, w) :: fs => sameContent k l && sameContent v w && sameEntries es fs
  | _, _ => false

end

/-- A value and itself. -/
def same (v w : Value) : Bool :=
  match v.mark, w.mark with
  | .number m, .number n => m == n
  | .shared, .shared => sameContent v w
  | _, _ => false

/-! ### Equal values -/

mutual

/-- Values that hold equal things. -/
def equal : Value → Value → Bool
  | .atom _ a, .atom _ b => a.equal b
  | .list _ xs, .list _ ys => alikeAll xs ys
  | .tuple _ xs, .tuple _ ys => alikeAll xs ys
  | .dict _ es, .dict _ fs => es.length == fs.length && includedIn es fs
  | .set _ xs, .set _ ys => xs.length == ys.length && membersOf xs ys
  | .object _ c xs, .object _ d ys => c == d && alikeAll xs ys
  | _, _ => false

/-- Lists whose items are the same or equal, one by one. -/
def alikeAll : List Value → List Value → Bool
  | [], [] => true
  | x :: xs, y :: ys => (same x y || equal x y) && alikeAll xs ys
  | _, _ => false

/-- Every entry of the first mapping has one in the second that is the same or equal. -/
def includedIn : List (Value × Value) → List (Value × Value) → Bool
  | [], _ => true
  | (k, v) :: es, fs =>
    (fs.any fun f ↦ (same k f.1 || equal k f.1) && (same v f.2 || equal v f.2)) && includedIn es fs

/-- Every value of the first list equals one of the second. -/
def membersOf : List Value → List Value → Bool
  | [], _ => true
  | x :: xs, ys => (ys.any fun y ↦ equal x y) && membersOf xs ys

end

/-- Values that are the same or equal. -/
def alike (v w : Value) : Bool :=
  same v w || equal v w

/-- Values of which each is added to those before it, unless an equal one is there. -/
def distinct (vs : List Value) : List Value :=
  vs.foldl (fun done v ↦ if done.any (alike v) then done else done ++ [v]) []

/-- The value under a key of a mapping. -/
def get? (key : Value) (entries : List (Value × Value)) : Option Value :=
  (entries.find? fun e ↦ alike e.1 key).map Prod.snd

/-- Entries with a value put under a key: in the place of the key if it is there, else at the
end. -/
def put (key value : Value) : List (Value × Value) → List (Value × Value)
  | [] => [(key, value)]
  | (k, v) :: es => if alike k key then (k, value) :: es else (k, v) :: put key value es

/-! ### Keys -/

/-- The modulus of number keys, a prime. -/
def keyModulus : Nat := Nat.pow 2 61 - 1

/-- The key of a number given by its sign and its magnitude; minus one shares its key with minus
two. -/
def signedKey (negative : Bool) (magnitude : Nat) : List Nat :=
  let m := magnitude % keyModulus
  if m = 0 then [0, 0]
  else if negative then [0, 1, if m = 1 then 2 else m]
  else [0, 2, m]

/-- The key of a decimal number; equal numbers of other classes have the same one. -/
def floatKey (mark : Mark) : Binary64 → List Nat
  | .finite s m e _ =>
    let power := ((e : Int) - Binary64.unitScale) % 61
    signedKey s (m * Nat.pow 2 power.toNat)
  | .inf s => signedKey s 314159
  | .nan =>
    match mark with
    | .number n => [1, n + 1]
    | _ => [1, 0]

/-- A number in octets, the least first. -/
def littleEndian : Nat → Nat → List Nat
  | 0, _ => []
  | size + 1, n => n % 256 :: littleEndian size (n / 256)

/-- The octets that a text is kept in: as few for each code point as the largest one needs. -/
def storage (ps : List Nat) : List Nat :=
  let size := if ps.all (· < 0x100) then 1 else if ps.all (· < 0x10000) then 2 else 4
  ps.flatMap (littleEndian size)

/-- The key of octets; without any it is that of zero. -/
def octetsKey (bs : List Nat) : List Nat :=
  if bs.isEmpty then [0, 0] else 2 :: bs.length :: bs

/-- The key of data without parts. -/
def atomKey (mark : Mark) (d : Datum) : List Nat :=
  match d with
  | .int n => signedKey (n < 0) n.natAbs
  | .bool b => signedKey false (if b then 1 else 0)
  | .float x => floatKey mark x
  | .octets bs => octetsKey (bs.map UInt8.toNat)
  | d =>
    match d.asText? with
    | some t => octetsKey (storage t.points)
    | none => [3]

/-- The key of a tuple of keys. -/
def tupleKey (keys : List (List Nat)) : List Nat :=
  4 :: keys.length :: keys.flatten

/-- The order of keys. -/
def keyLe (a b : List Nat) : Bool :=
  !(b < a)

mutual

/-- The key of a value that can be one. An object has the key of the tuple of its parts; a payload
with a single part has the key of that part. -/
def hashKey? : Value → Option (List Nat)
  | .atom m d => some (atomKey m d)
  | .tuple _ xs => (hashKeys? xs).map tupleKey
  | .set _ xs => (hashKeys? xs).map fun keys ↦ 5 :: tupleKey (keys.mergeSort keyLe)
  | .object _ cls xs =>
    (hashKeys? xs).map fun keys ↦
      match keys with
      | [key] => if cls.isPayload then key else tupleKey [key]
      | keys => tupleKey keys
  | .list .. | .dict .. => none

/-- The keys of values that can be ones. -/
def hashKeys? : List Value → Option (List (List Nat))
  | [] => some []
  | x :: xs =>
    match hashKey? x, hashKeys? xs with
    | some k, some ks => some (k :: ks)
    | _, _ => none

end

/-- A value that can be the key of a mapping: there is no list or mapping in it. -/
def isHashable (v : Value) : Bool :=
  (hashKey? v).isSome

end Value

end CatalogQuery.Script
