import CatalogQuery.Failure

/-!
# Scalars

The leaf values of documents and replies, read strictly from data. An amount of money is a decimal
number, given as a number or as its text; a text is an optional sign, digits with at most one point,
and an optional exponent, of digits of any script, and one line break may end it. A word of a
vocabulary is given by its wire form. An identifier is given by its canonical text or by the type
and number that it is made of. What cannot be read is refused and shown; nothing is replaced by a
default.
-/

namespace CatalogQuery

/-- The number nearest to an integer; beyond the finite numbers there is none. -/
def Binary64.ofInt (n : Int) : Outcome Binary64 :=
  (Binary64.ofInt? n).elim (Outcome.fault .overflow) .ok

/-! ### Amounts of money -/

namespace Money

/-- An optional exponent with its letter, up to the end of the text. -/
def isExponent : List Nat → Bool
  | [] => true
  | p :: ps =>
    (p == 0x65 || p == 0x45) &&
      (let digits := (Numeral.sign ps).2
       !digits.isEmpty && digits.all CodePoint.isDigit)

/-- An unsigned decimal number: digits with at most one point, at least one digit, and an optional
exponent. -/
def isUnsigned (ps : List Nat) : Bool :=
  let whole := ps.takeWhile CodePoint.isDigit
  match ps.dropWhile CodePoint.isDigit with
  | 0x2E :: rest =>
    let fraction := rest.takeWhile CodePoint.isDigit
    !(whole.isEmpty && fraction.isEmpty) && isExponent (rest.dropWhile CodePoint.isDigit)
  | rest => !whole.isEmpty && isExponent rest

/-- A text without the one line break that may end it. -/
def dropLineBreak (ps : List Nat) : List Nat :=
  if ps.getLast? = some 0x0A then ps.dropLast else ps

/-- A text that has the form of an amount. -/
def isAmountText (ps : List Nat) : Bool :=
  isUnsigned (Numeral.sign (dropLineBreak ps)).2

/-- An amount that is finite. -/
def ofFloat (raw : Datum) (x : Binary64) : Outcome Money :=
  if x.isFinite then .ok ⟨x⟩ else .error (Failure.scalar raw "Money")

/-- Reads an amount. -/
def parse (raw : Datum) : Outcome Money :=
  match raw.asText? with
  | some t =>
    if isAmountText t.points then
      match Numeral.float? t.points with
      | some x => ofFloat raw x
      | none => Outcome.fault .badValue
    else .error (Failure.scalar raw "Money")
  | none =>
    match raw with
    | .int n => (Binary64.ofInt n).bind (ofFloat raw)
    | .float x => ofFloat raw x
    | _ => .error (Failure.scalar raw "Money")

end Money

/-! ### Words -/

/-- The word that a value stands for, if it has the wire form of one. -/
def Vocabulary.ofDatum? {α : Type} [Vocabulary α] (raw : Datum) : Option α :=
  match raw.asText? with
  | some (.str s) => Vocabulary.ofWire? s
  | _ => none

/-- Reads a word of a vocabulary. -/
def Vocabulary.read (α : Type) [Vocabulary α] (raw : Datum) : Outcome α :=
  match Vocabulary.ofDatum? raw with
  | some w => .ok w
  | none => .error (Failure.scalar raw (Vocabulary.title α))

/-! ### Identifiers -/

namespace Id

/-- The number of an identifier, if a value is a text of ASCII digits. -/
def number? (raw : Datum) : Option String :=
  match raw.asText? with
  | some t => if isNumber t.points then some (ofAscii t.points) else none
  | none => none

/-- Makes an identifier from a type and a number. The number is looked at first. -/
def make (type raw : Datum) : Outcome Id :=
  match number? raw with
  | none => .error (Failure.identifier raw)
  | some number =>
    match Vocabulary.ofDatum? type with
    | some entityType => .ok { entityType, number }
    | none =>
      .error (Failure.showing [type]
        (.invalidIdentifier (type.plain.append (.str ("/" ++ number)))))

/-- Makes an identifier of a known type. -/
def ofType (entityType : EntityType) (raw : Datum) : Outcome Id :=
  make (.word (.entityType entityType)) raw

/-- Reads an identifier from its canonical text. -/
def parse (raw : Datum) : Outcome Id :=
  match raw.asText? with
  | none => .error (Failure.identifier raw)
  | some t =>
    match ofPoints t.points with
    | .ok i => .ok i
    | .error part =>
      if part = t.points then .error (Failure.identifier raw)
      else .error (.invalidIdentifier (.ofPoints part))

end Id

/-! ### Numbers -/

/-- The octets of an ASCII numeral as code points. -/
def asciiPoints? (bytes : List UInt8) : Option (List Nat) :=
  if bytes.all (· < 0x80) then some (bytes.map UInt8.toNat) else none

/-- Reads a weight: a number, or the text of one. -/
def readWeight (raw : Datum) : Outcome Binary64 :=
  let refused := Failure.scalar raw "Float"
  let ofPoints? (ps : Option (List Nat)) : Outcome Binary64 :=
    match ps.bind Numeral.float? with
    | some x => .ok x
    | none => .error refused
  match raw.asText? with
  | some t => ofPoints? (some t.points)
  | none =>
    match raw with
    | .float x => .ok x
    | .octets bs => ofPoints? (asciiPoints? bs)
    | d =>
      match d.asInt? with
      | some n => Binary64.ofInt n
      | none => .error refused

/-- Reads a count: an integer, a number that is cut to one, or the text of an integer. -/
def readCount (raw : Datum) : Outcome Int :=
  let refused := Failure.scalar raw "Int"
  let ofPoints? (ps : Option (List Nat)) : Outcome Int :=
    match ps.bind Numeral.integer? with
    | some n => .ok n
    | none => .error refused
  match raw.asText? with
  | some t => ofPoints? (some t.points)
  | none =>
    match raw with
    | .float .nan => .error refused
    | .float x =>
      match x.truncate? with
      | some n => .ok n
      | none => Outcome.fault .overflow
    | .octets bs => ofPoints? (asciiPoints? bs)
    | d =>
      match d.asInt? with
      | some n => .ok n
      | none => .error refused

end CatalogQuery
