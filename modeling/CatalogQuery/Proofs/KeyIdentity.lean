import CatalogQuery.Datum.Equal
import Mathlib.Data.List.Basic

/-!
# What tells keys apart

Keys are compared by `Datum.equal`, which looks through classes: a truth value equals a number, an
integer a decimal number, a word its wire form. What is left of a value when its class is forgotten
is its `Datum.identity`, and two values of which one is a key are equal exactly if they have the
same one (`Datum.equal_iff`). A key is a value that equals itself (`Datum.isKey`): a number that is
none equals nothing, and lists and mappings are not compared as keys.

So equality among keys is symmetric and transitive, and that is all that a mapping rests on: what
was put under a key is found under every key that equals it and under no other (`Datum.get?_put`),
and the keys keep their places (`Datum.map_fst_put`).

## Why a value and its identity

`Datum.equal` is a case distinction over two values, and it is neither reflexive nor an equality: a
number that is none is not equal to itself, and `1`, `1.0` and `true` are equal without being the
same. Proofs about mappings would have to go through these cases wherever two keys are compared.
`Datum.identity` moves them to one place: it is a function of **one** value, and comparison becomes
equality of what it answers.

The price is a condition, that one of the two values is a key. It is needed because `Identity.other`
stands for everything that is not compared: two lists have the same identity and are not equal. A
mapping asks for the condition only of the keys that are put into it, never of those that it already
has.

Numbers are compared by their values, exactly and without rounding. A finite number is an integer in
units of the least positive one, and so is an integer (`NumberValue.ofInt`), whatever its size.
-/

namespace CatalogQuery

/-! ### Identities -/

/-- The value of a number, whatever its class. -/
inductive NumberValue where
  /-- Not a number. -/
  | nan
  /-- An infinity, by its sign. -/
  | infinity (negative : Bool)
  /-- A finite number as the integer that it is when scaled. -/
  | scaled (n : Int)

namespace NumberValue

/-- The value of a binary64 number. -/
def ofBinary64 : Binary64 → NumberValue
  | .nan => .nan
  | .inf negative => .infinity negative
  | .finite negative m e _ => .scaled (Binary64.scaled negative m e)

/-- The value of an integer. -/
def ofInt (n : Int) : NumberValue :=
  .scaled (n * Nat.pow 2 Binary64.unitScale)

/-- No number has a value that is none. -/
def isNan : NumberValue → Bool
  | .nan => true
  | _ => false

/-- Integers of different values have different identities. -/
theorem ofInt_inj {m n : Int} : ofInt m = ofInt n ↔ m = n := by
  have hscale : ∀ k, ((Nat.pow 2 k : Nat) : Int) ≠ 0 :=
    fun k ↦ Int.natCast_ne_zero.2 (Nat.ne_of_gt (Nat.two_pow_pos k))
  rw [ofInt, ofInt, scaled.injEq]
  exact ⟨Int.eq_of_mul_eq_mul_right (hscale Binary64.unitScale), fun h ↦ h ▸ rfl⟩

end NumberValue

/-- What a value is told apart by. -/
inductive Identity where
  /-- The identity of null. -/
  | nothing
  /-- A number, a truth value included, by its value. -/
  | number (value : NumberValue)
  /-- A text or a word, by its code points. -/
  | points (ps : List Nat)
  /-- Octets, by what they are. -/
  | octets (bytes : List UInt8)
  /-- An identifier, by its parts. -/
  | id (i : Id)
  /-- An amount, by the value of its number. -/
  | money (amount : NumberValue)
  /-- A tuple, by the identities of its items. -/
  | items (identities : List Identity)
  /-- A value that is not compared as a key. -/
  | other

namespace Identity

mutual

/-- The values of this identity equal each other. -/
def isKey : Identity → Bool
  | .number value => !value.isNan
  | .money amount => !amount.isNan
  | .items is => areKeys is
  | .other => false
  | _ => true

/-- All of the identities are keys. -/
def areKeys : List Identity → Bool
  | [] => true
  | i :: is => isKey i && areKeys is

end

end Identity

namespace Datum

mutual

/-- What a value is told apart by, whatever its class. -/
def identity : Datum → Identity
  | .null => .nothing
  | .bool b => .number (.ofInt (if b then 1 else 0))
  | .int n => .number (.ofInt n)
  | .float x => .number (.ofBinary64 x)
  | .text t => .points t.points
  | .word w => .points (codePoints w.wire.toList)
  | .octets bytes => .octets bytes
  | .id i => .id i
  | .money m => .money (.ofBinary64 m.amount)
  | .tuple xs => .items (identities xs)
  | .list _ | .dict _ | .foreign .. => .other

/-- What the items of a tuple are told apart by. -/
def identities : List Datum → List Identity
  | [] => []
  | x :: xs => identity x :: identities xs

end

/-- A key of a mapping that equals itself: there is no list, mapping or object of another class in
it, and no number that is none. -/
def isKey (d : Datum) : Bool :=
  d.identity.isKey

variable {a b c k d : Datum} {es : List (Datum × Datum)}

/-! ### Equality is equality of identities -/

/-- Two numbers are equal exactly if they have the same value, unless both are none. -/
theorem numEq_iff {x y : Binary64}
    (h : (NumberValue.ofBinary64 x).isNan = false ∨ (NumberValue.ofBinary64 y).isNan = false) :
    x.numEq y = true ↔ NumberValue.ofBinary64 x = .ofBinary64 y := by
  cases x <;> cases y <;> simp_all [Binary64.numEq, NumberValue.ofBinary64, NumberValue.isNan]

/-- A number equals an integer exactly if it has its value. -/
theorem eqInt_iff {x : Binary64} {n : Int} :
    x.eqInt n = true ↔ NumberValue.ofBinary64 x = .ofInt n := by
  cases x with
  | nan | inf => exact iff_of_false Bool.false_ne_true fun h ↦ by cases h
  | finite negative m e =>
    rw [Binary64.eqInt, beq_iff_eq, NumberValue.ofBinary64, NumberValue.ofInt,
      NumberValue.scaled.injEq]

/-- Values that are not tuples, of which one is a key, are equal exactly if they have the same
identity. -/
theorem equalAtoms_iff (h : a.isKey = true ∨ b.isKey = true) (hatom : ∀ xs, a ≠ .tuple xs) :
    a.equalAtoms b = true ↔ a.identity = b.identity := by
  cases a <;> cases b <;>
    simp_all [equalAtoms, asText?, asInt?, identity, isKey, Identity.isKey, numEq_iff, eqInt_iff,
      NumberValue.ofInt_inj]
  -- An integer and a decimal number are compared the other way round.
  all_goals exact eq_comm

mutual

/-- **Two values of which one is a key are equal exactly if they have the same identity.** -/
theorem equal_iff : ∀ {a b : Datum}, (a.isKey = true ∨ b.isKey = true) →
    (a.equal b = true ↔ a.identity = b.identity)
  | .tuple xs, b, h => by
    cases b with
    | tuple ys =>
      rw [equal, identity, identity, Identity.items.injEq]
      exact equalItems_iff h
    | _ => simp [equal, equalAtoms, asText?, asInt?, identity]
  | .list _, b, h | .dict _, b, h | .foreign .., b, h => by
    cases b <;> simp_all [equal, equalAtoms, asText?, asInt?, identity, isKey, Identity.isKey]
  | .null, b, h | .bool _, b, h | .int _, b, h | .float _, b, h | .text _, b, h
  | .word _, b, h | .octets _, b, h | .id _, b, h | .money _, b, h => by
    rw [equal]
    · exact equalAtoms_iff h (by simp)
    all_goals simp

/-- Items in a row are equal exactly if their identities are, one by one. -/
theorem equalItems_iff : ∀ {xs ys : List Datum},
    (Identity.areKeys (identities xs) = true ∨ Identity.areKeys (identities ys) = true) →
      (equalItems xs ys = true ↔ identities xs = identities ys)
  | [], [], _ => by simp [equalItems]
  | [], _ :: _, _ => by simp [equalItems, identities]
  | _ :: _, [], _ => by simp [equalItems, identities]
  | x :: xs, y :: ys, h => by
    simp only [identities, Identity.areKeys, Bool.and_eq_true] at h
    have hx : x.isKey = true ∨ y.isKey = true := h.imp And.left And.left
    rw [equalItems, Bool.and_eq_true, equal_iff hx, equalItems_iff (h.imp And.right And.right),
      identities, identities, List.cons.injEq]

end

theorem equal_self (h : a.isKey = true) : a.equal a = true :=
  (equal_iff (.inl h)).2 rfl

theorem equal_comm (h : a.isKey = true) (b : Datum) : a.equal b = b.equal a := by
  rw [Bool.eq_iff_iff, equal_iff (.inl h), equal_iff (.inr h)]
  exact eq_comm

/-- Equal keys equal the same values. -/
theorem equal_congr (hb : b.isKey = true) (h : a.equal b = true) (c : Datum) :
    a.equal c = b.equal c := by
  have hab : a.identity = b.identity := (equal_iff (.inr hb)).1 h
  have ha : a.isKey = true := by rwa [isKey, hab]
  rw [Bool.eq_iff_iff, equal_iff (.inl ha), equal_iff (.inl hb), hab]

/-- The same values equal equal keys. -/
theorem equal_congr_right (hb : b.isKey = true) (h : b.equal a = true) (c : Datum) :
    c.equal a = c.equal b := by
  have hba : b.identity = a.identity := (equal_iff (.inl hb)).1 h
  have ha : a.isKey = true := by rwa [isKey, ← hba]
  rw [Bool.eq_iff_iff, equal_iff (.inr ha), equal_iff (.inr hb), hba]

/-! ### Looking up and putting -/

theorem get?_cons (a k d : Datum) (es : List (Datum × Datum)) :
    get? a ((k, d) :: es) = if k.equal a then some d else get? a es := by
  rw [get?, List.find?_cons]
  split <;> simp [*, get?]

/-- Equal keys find the same. -/
theorem get?_congr (hb : b.isKey = true) (h : b.equal a = true) (es : List (Datum × Datum)) :
    get? a es = get? b es := by
  rw [get?, get?, funext fun e : Datum × Datum ↦ equal_congr_right hb h e.1]

/-- **What is put under a key is found under the keys that equal it**, and nothing else is found
elsewhere. -/
theorem get?_put (hb : b.isKey = true) (a d : Datum) (es : List (Datum × Datum)) :
    get? a (put b d es) = if b.equal a then some d else get? a es := by
  induction es with
  | nil =>
    rw [put, get?_cons]
  | cons e es ih =>
    obtain ⟨k, v⟩ := e
    rw [put]
    -- The entry in front either has the key, and is replaced, or is passed over; in both cases it
    -- is compared with the key that is looked up as well.
    cases hk : k.equal b with
    | true =>
      rw [if_pos rfl, get?_cons, get?_cons, equal_congr hb hk]
      split <;> rfl
    | false =>
      rw [if_neg Bool.false_ne_true, get?_cons, get?_cons, ih]
      cases ha : b.equal a with
      | false => rfl
      | true =>
        rw [equal_congr_right hb ha, hk]
        rfl

/-- What is found under a key may be put there again. -/
theorem put_of_get?_eq_some (h : get? b es = some d) : put b d es = es := by
  induction es with
  | nil => cases h
  | cons e es ih =>
    obtain ⟨k, v⟩ := e
    rw [get?_cons] at h
    rw [put]
    split at h
    · rename_i hk
      rw [if_pos hk, Option.some.inj h]
    · rename_i hk
      rw [if_neg hk, ih h]

/-- A key keeps its place, and a new one comes last. -/
theorem map_fst_put (b d : Datum) (es : List (Datum × Datum)) :
    (put b d es).map Prod.fst = es.map Prod.fst ++ if (get? b es).isSome then [] else [b] := by
  induction es with
  | nil => rfl
  | cons e es ih =>
    obtain ⟨k, v⟩ := e
    rw [put, get?_cons]
    split
    · simp
    · simp [ih]

end Datum

end CatalogQuery
