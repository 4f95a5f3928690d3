import CatalogQuery.Datum
import CatalogQuery.Number.Numeral
import CatalogQuery.Text.Encoding

/-!
# Reading JSON

Octets to data. A body is decoded to code points (`Encoding.ofOctets`) and then read as exactly one
value with blanks around it. Beyond the standard, `NaN`, `Infinity` and `-Infinity` are numbers. A
numeral without fraction and exponent is an integer of any size within the digit limit, any other a
binary64 number. A key that occurs twice in an object keeps its first place and takes its last
value.

Reading fails in three ways (`ReadError`), and the first fault in reading order decides which: the
octets are no text, an integer has too many digits, or the text is no value.

The readers of nested values count steps down; `read` starts them with twice the length of the text,
and no step is taken without consuming a code point or being followed by one that does.
-/

namespace CatalogQuery.Json

/-- Why a body is no JSON value. -/
inductive ReadError where
  /-- The text is not of the form of a value. -/
  | malformed
  /-- The octets are no text in any of the encoding forms. -/
  | undecodable
  /-- An integer has more digits than the limit. -/
  | tooManyDigits
  deriving DecidableEq, Repr

/-- The four blanks between tokens. -/
def isBlank (p : Nat) : Bool :=
  p == 0x20 || p == 0x09 || p == 0x0A || p == 0x0D

/-- The text from its first code point that is no blank. -/
def skipBlanks (ps : List Nat) : List Nat :=
  ps.dropWhile isBlank

/-! ### Strings -/

/-- The value of a hexadecimal digit. -/
def hexValue? (p : Nat) : Option Nat :=
  if 0x30 ≤ p && p ≤ 0x39 then some (p - 0x30)
  else if 0x61 ≤ p && p ≤ 0x66 then some (p - 0x57)
  else if 0x41 ≤ p && p ≤ 0x46 then some (p - 0x37)
  else none

/-- The unit named by four hexadecimal digits. -/
def hexUnit? (a b c d : Nat) : Option Nat := do
  let a ← hexValue? a
  let b ← hexValue? b
  let c ← hexValue? c
  let d ← hexValue? d
  return a * 0x1000 + b * 0x100 + c * 0x10 + d

/-- The code point that a letter after a backslash stands for. -/
def escaped? (p : Nat) : Option Nat :=
  match p with
  | 0x22 => some 0x22
  | 0x5C => some 0x5C
  | 0x2F => some 0x2F
  | 0x62 => some 0x08
  | 0x66 => some 0x0C
  | 0x6E => some 0x0A
  | 0x72 => some 0x0D
  | 0x74 => some 0x09
  | _ => none

/-- A code point of a string, and whether a numeric escape named it. -/
structure StringUnit where
  /-- The code point. -/
  point : Nat
  /-- A numeric escape named it. -/
  named : Bool
  deriving DecidableEq, Repr

/-- The units of a string after its opening quote, and what follows its closing quote. -/
def units : (before : List StringUnit) → (ps : List Nat) →
    Except ReadError (List StringUnit × List Nat)
  | _, [] => .error .malformed
  | before, 0x22 :: rest => .ok (before.reverse, rest)
  | before, 0x5C :: 0x75 :: a :: b :: c :: d :: rest =>
    match hexUnit? a b c d with
    | none => .error .malformed
    | some u => units (⟨u, true⟩ :: before) rest
  | before, 0x5C :: p :: rest =>
    match escaped? p with
    | some e => units (⟨e, false⟩ :: before) rest
    | none => .error .malformed
  | before, p :: rest =>
    if p < 0x20 || p = 0x5C then .error .malformed else units (⟨p, false⟩ :: before) rest

/-- The code points of a string: two neighbouring numeric escapes that name the halves of a
surrogate pair name one code point. -/
def joinNamed : List StringUnit → List Nat
  | [] => []
  | [u] => [u.point]
  | u :: v :: rest =>
    if u.named && v.named && Encoding.isHigh u.point && Encoding.isLow v.point then
      Encoding.joinPair u.point v.point :: joinNamed rest
    else u.point :: joinNamed (v :: rest)

/-- The text of a string after its opening quote, and what follows its closing quote. -/
def string (ps : List Nat) : Except ReadError (Text × List Nat) :=
  (units [] ps).map fun (us, rest) ↦ (.ofPoints (joinNamed us), rest)

/-! ### Numbers -/

/-- The whole part of a number: a zero, or digits that do not begin with one. -/
def wholePart? : List Nat → Option (List Nat × List Nat)
  | 0x30 :: rest => some ([0x30], rest)
  | ps =>
    match ps.takeWhile Numeral.isDigit with
    | [] => none
    | digits => some (digits, ps.dropWhile Numeral.isDigit)

/-- The fraction of a number, if a point and a digit follow. -/
def fractionPart : List Nat → List Nat × List Nat
  | 0x2E :: rest =>
    match rest.takeWhile Numeral.isDigit with
    | [] => ([], 0x2E :: rest)
    | digits => (digits, rest.dropWhile Numeral.isDigit)
  | ps => ([], ps)

/-- The exponent of a number, if its letter and a digit follow. -/
def exponentPart : List Nat → Option Int × List Nat
  | [] => (none, [])
  | p :: ps =>
    if p = 0x65 || p = 0x45 then
      let (negative, digits) := Numeral.sign ps
      match digits.takeWhile Numeral.isDigit with
      | [] => (none, p :: ps)
      | ds =>
        let n : Int := ofDigitValues (Numeral.values ds)
        (some (if negative then -n else n), digits.dropWhile Numeral.isDigit)
    else (none, p :: ps)

/-- A number without its sign, and what follows it. -/
def number (negative : Bool) (ps : List Nat) : Except ReadError (Datum × List Nat) :=
  match wholePart? ps with
  | none => .error .malformed
  | some (whole, rest) =>
    let (fraction, rest) := fractionPart rest
    let (exponent, rest) := exponentPart rest
    if fraction.isEmpty && exponent.isNone then
      if integerDigitLimit < whole.length then .error .tooManyDigits
      else
        let n : Int := ofDigitValues (Numeral.values whole)
        .ok (.int (if negative then -n else n), rest)
    else
      let digits := ofDigitValues (Numeral.values (whole ++ fraction))
      .ok (.float (.ofDecimal negative digits (exponent.getD 0 - fraction.length)), rest)

/-! ### Values -/

/-- The value of a name, and what follows it. -/
def named? (ps : List Nat) : Option (Datum × List Nat) :=
  let names : List (String × Datum) :=
    [("null", .null), ("true", .bool true), ("false", .bool false), ("NaN", .float .nan),
      ("Infinity", .float (.inf false)), ("-Infinity", .float (.inf true))]
  names.findSome? fun (name, d) ↦ (Id.after? (codePoints name.toList) ps).map (d, ·)

/-- The entries with a value put under a key: in its place if the key is there, else at the end. -/
def setEntry (key : Datum) (value : Datum) : List (Datum × Datum) → List (Datum × Datum)
  | [] => [(key, value)]
  | (k, v) :: es =>
    match k, key with
    | .text s, .text t => if s = t then (k, value) :: es else (k, v) :: setEntry key value es
    | _, _ => (k, v) :: setEntry key value es

/-- The mapping of the members of an object. -/
def ofMembers (members : List (Text × Datum)) : Datum :=
  .dict (members.foldl (fun es m ↦ setEntry (.text m.1) m.2 es) [])

mutual

/-- A value at the start of a text, and what follows it. -/
def value : (steps : Nat) → (ps : List Nat) → Except ReadError (Datum × List Nat)
  | 0, _ => .error .malformed
  | steps + 1, ps =>
    match ps with
    | 0x22 :: rest => (string rest).map fun (t, rest) ↦ (.text t, rest)
    | 0x7B :: rest =>
      match skipBlanks rest with
      | 0x7D :: rest => .ok (.dict [], rest)
      | rest => (members steps rest).map fun (ms, rest) ↦ (ofMembers ms, rest)
    | 0x5B :: rest =>
      match skipBlanks rest with
      | 0x5D :: rest => .ok (.list [], rest)
      | rest => (elements steps rest).map fun (xs, rest) ↦ (.list xs, rest)
    | ps =>
      match named? ps with
      | some found => .ok found
      | none =>
        match ps with
        | 0x2D :: rest => number true rest
        | ps => number false ps

/-- The members of an object from its first key on, and what follows the closing brace. -/
def members : (steps : Nat) → (ps : List Nat) → Except ReadError (List (Text × Datum) × List Nat)
  | 0, _ => .error .malformed
  | steps + 1, ps =>
    match ps with
    | 0x22 :: rest => do
      let (key, rest) ← string rest
      match skipBlanks rest with
      | 0x3A :: rest =>
        let (v, rest) ← value steps (skipBlanks rest)
        match skipBlanks rest with
        | 0x7D :: rest => return ([(key, v)], rest)
        | 0x2C :: rest =>
          let (ms, rest) ← members steps (skipBlanks rest)
          return ((key, v) :: ms, rest)
        | _ => .error .malformed
      | _ => .error .malformed
    | _ => .error .malformed

/-- The elements of an array from its first on, and what follows the closing bracket. -/
def elements : (steps : Nat) → (ps : List Nat) → Except ReadError (List Datum × List Nat)
  | 0, _ => .error .malformed
  | steps + 1, ps => do
    let (x, rest) ← value steps ps
    match skipBlanks rest with
    | 0x5D :: rest => return ([x], rest)
    | 0x2C :: rest =>
      let (xs, rest) ← elements steps (skipBlanks rest)
      return (x :: xs, rest)
    | _ => .error .malformed

end

/-- The value that a text of code points holds. -/
def readPoints (ps : List Nat) : Except ReadError Datum :=
  match value (2 * ps.length + 2) (skipBlanks ps) with
  | .error e => .error e
  | .ok (d, rest) => if (skipBlanks rest).isEmpty then .ok d else .error .malformed

/-- The value that a body holds. -/
def read (body : List UInt8) : Except ReadError Datum :=
  match Encoding.ofOctets (body.map UInt8.toNat) with
  | none => .error .undecodable
  | some ps => readPoints ps

end CatalogQuery.Json
