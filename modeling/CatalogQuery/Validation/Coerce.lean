import CatalogQuery.Datum.Equal
import CatalogQuery.Number.Numeral
import CatalogQuery.Text.Encoding
import CatalogQuery.Validation.Issue

/-!
# Lenient readings of single values

How a field of a given type takes a value of another class. A text field takes texts; an integer
field also truth values, whole decimal numbers and integer texts; a number field also integers,
truth values and decimal texts; a truth field also the numbers zero and one and a few words. The
texts of numbers are ASCII; blanks around them and single underscores inside are passed over. Octets
stand for the text that they encode.
-/

namespace CatalogQuery.Coerce

/-- The text that octets encode, if they encode characters. -/
def textOfOctets? (bytes : List UInt8) : Option Text :=
  match Encoding.decode8 (bytes.map UInt8.toNat) with
  | some ps => if ps.all Text.isScalar then some (.ofPoints ps) else none
  | none => none

/-- The text without the blanks around it. -/
def trim (ps : List Nat) : List Nat :=
  ((ps.dropWhile CodePoint.isNumeralBlank).reverse.dropWhile CodePoint.isNumeralBlank).reverse

/-- Underscores are removed if none is first, last or next to another. -/
def dropUnderscores? (ps : List Nat) : Option (List Nat) :=
  if ps.head? = some 0x5F || ps.getLast? = some 0x5F then none
  else if (ps.zip ps.tail).any fun (p, q) ↦ p == 0x5F && q == 0x5F then none
  else some (ps.filter (· != 0x5F))

/-- A point and the zeros after it are removed, if there is a zero. -/
def dropZeroFraction (ps : List Nat) : List Nat :=
  match ps.dropWhile (· != 0x2E) with
  | 0x2E :: 0x30 :: zeros => if zeros.all (· == 0x30) then ps.takeWhile (· != 0x2E) else ps
  | _ => ps

/-- A digit other than zero or a minus ends the zeros before a number. -/
def endsZeros (p : Nat) : Bool := (0x31 ≤ p && p ≤ 0x39) || p == 0x2D

/-- A text without the zeros before its number. Among the zeros after the first may be underscores;
of zeros alone the last character stays. -/
def dropZeros? (ps : List Nat) : Option (List Nat) :=
  match ps with
  | 0x30 :: rest =>
    match rest.dropWhile fun p ↦ p == 0x30 || p == 0x5F with
    | [] => some (ps.drop rest.length)
    | p :: after => if endsZeros p then some (p :: after) else none
  | p :: rest => if endsZeros p then some (p :: rest) else none
  | [] => none

/-- What a text is as an integer in plain form. -/
inductive PlainInt where
  | number (n : Int)
  /-- The sign and the digits are more characters than the digit limit. -/
  | tooLong
  | malformed
  deriving DecidableEq, Repr

/-- The text as an integer in plain form: a minus or none, and digits that start with no zero, or a
zero alone. A run of digits that is too long decides before what follows it is looked at, and a
minus counts as one of its characters. -/
def plainInt (ps : List Nat) : PlainInt :=
  let (negative, unsigned) := match ps with
    | 0x2D :: rest => (true, rest)
    | rest => (false, rest)
  let digits := unsigned.takeWhile Numeral.isDigit
  if digits.head? = some 0x30 then
    if unsigned = [0x30] then .number 0 else .malformed
  else if integerDigitLimit < digits.length + (if negative then 1 else 0) then .tooLong
  else if digits.isEmpty || digits.length < unsigned.length then .malformed
  else
    let n := ofDigitValues (Numeral.values digits)
    .number (if negative then -n else n)

/-- A text in plain form but for blanks, a plus sign, zeros, underscores and a fraction of zeros, in
that form. A sign stands before the zeros or after them, and only once, but for a plus before the
zeros with a minus after them. -/
def cleaned? (ps : List Nat) : Option (List Nat) :=
  let (negative, unsigned) := match dropZeroFraction (trim ps) with
    | 0x2D :: rest => (true, rest)
    | 0x2B :: 0x2D :: _ => (false, [])
    | 0x2B :: rest => (false, rest)
    | rest => (false, rest)
  ((dropZeros? unsigned).bind dropUnderscores?).map fun qs ↦ if negative then 0x2D :: qs else qs

/-- The integer of a text. Only a text that is too long as it stands is told to be: one that is too
long when it is cleaned is malformed. -/
def intOfText (t : Text) : Checked Int :=
  match t with
  | .broken _ => .fail .stringUnicode
  | .str s =>
    let ps := codePoints s.toList
    match plainInt ps with
    | .number n => .ok n
    | .tooLong => .fail .intParsingSize
    | .malformed =>
      match (cleaned? ps).map plainInt with
      | some (.number n) => .ok n
      | _ => .fail .intParsing

/-- The integer of a decimal number: it is whole and strictly between the bounds of a signed word of
64 bits. -/
def intOfFloat (x : Binary64) : Checked Int :=
  if !x.isFinite then .fail .finiteNumber
  else
    match x.toInt? with
    | none => .fail .intFromFloat
    | some n => if -Nat.pow 2 63 < n && n < Nat.pow 2 63 then .ok n else .fail .intParsingSize

/-- An integer field. -/
def int : Datum → Checked Int
  | .int n => .ok n
  | .bool b => .ok (if b then 1 else 0)
  | .float x => intOfFloat x
  | .text t => intOfText t
  | .word w => intOfText (.str w.wire)
  | _ => .fail .intType

/-- The number that code points without underscores denote. -/
def decimal? (ps : List Nat) : Option Binary64 :=
  let (negative, rest) := Numeral.sign ps
  Numeral.unsigned? negative rest

/-- The number of a text. Either blanks stand around it or underscores within it, not both. -/
def floatOfText (t : Text) : Checked Binary64 :=
  match t with
  | .broken _ => .fail .stringUnicode
  | .str s =>
    let ps := codePoints s.toList
    match (decimal? (trim ps)).orElse fun _ ↦ (dropUnderscores? ps).bind decimal? with
    | some x => .ok x
    | none => .fail .floatParsing

/-- A number field. -/
def float : Datum → Checked Binary64
  | .float x => .ok x
  | .int n => (Binary64.ofInt? n).elim (.fail .floatType) .ok
  | .bool b => .ok (if b then .one else .zero false)
  | .text t => floatOfText t
  | .word w => floatOfText (.str w.wire)
  | .octets bs =>
    match textOfOctets? bs with
    | some t => floatOfText t
    | none => .fail .floatParsing
  | _ => .fail .floatType

/-- A text field. -/
def text (d : Datum) : Checked Text :=
  match d.asText? with
  | some t => .ok t
  | none => .fail .stringType

/-- A text field that also takes the octets of a text. -/
def textOrOctets (d : Datum) : Checked Text :=
  match d with
  | .octets bs =>
    match textOfOctets? bs with
    | some t => .ok t
    | none => .fail .stringUnicode
  | d => text d

/-- A field for a secret text. What is no text is refused alike, whatever it is. -/
def secret (d : Datum) : Checked Text :=
  match textOrOctets d with
  | .ok t => .ok t
  | .error _ => .fail .stringType

/-- The words that stand for truth values. -/
def boolWord? (s : String) : Option Bool :=
  let word := s.map Char.toLower
  if ["0", "off", "f", "false", "n", "no"].contains word then some false
  else if ["1", "on", "t", "true", "y", "yes"].contains word then some true
  else none

/-- The truth value of a text. -/
def boolOfText : Text → Checked Bool
  | .broken _ => .fail .boolParsing
  | .str s =>
    match boolWord? s with
    | some b => .ok b
    | none => .fail .boolParsing

/-- Zero and one stand for truth values. -/
def boolOfInt (n : Int) : Checked Bool :=
  if n = 0 then .ok false
  else if n = 1 then .ok true
  else .fail .boolParsing

/-- A truth field. Numbers are read as signed words of 64 bits; decimal numbers are whole, and
strictly between the bounds of such words. -/
def bool : Datum → Checked Bool
  | .bool b => .ok b
  | .int n => if -Nat.pow 2 63 ≤ n && n < Nat.pow 2 63 then boolOfInt n else .fail .boolType
  | .float x =>
    match x.toInt? with
    | some n => if -Nat.pow 2 63 < n && n < Nat.pow 2 63 then boolOfInt n else .fail .boolType
    | none => .fail .boolType
  | .text t => boolOfText t
  | .word w => boolOfText (.str w.wire)
  | .octets bs =>
    match textOfOctets? bs with
    | some t => boolOfText t
    | none => .fail .boolParsing
  | _ => .fail .boolType

/-- A field whose values are the words of a vocabulary. -/
def word (α : Type) [Vocabulary α] (d : Datum) : Checked α :=
  match d.asText? with
  | some (.str s) =>
    match Vocabulary.ofWire? s with
    | some w => .ok w
    | none => .fail .enum
  | _ => .fail .enum

/-- A field whose values are the words of a vocabulary, that also takes the octets of a word. -/
def wordOrOctets (α : Type) [Vocabulary α] (d : Datum) : Checked α :=
  match d with
  | .octets bs =>
    match textOfOctets? bs with
    | some t => word α (.text t)
    | none => .fail .enum
  | d => word α d

end CatalogQuery.Coerce
