import CatalogQuery.Failure
import CatalogQuery.Number.Rounded
import CatalogQuery.Template.Piece

/-!
# Filling templates

A template is filled with the values of a tuple, one for each conversion, or with the values of a
mapping by their keys; any other value counts as a tuple of it alone. `Template.fill` fails where a
value is missing or left over, where it is not of the class that its conversion takes, and where a
conversion is cut off or of no known kind. The first fault in the order of the template decides
which fault is reported.
-/

namespace CatalogQuery.Template

/-! ### Fields -/

/-- The text of a value, parted so that it can be filled up. -/
structure Shown where
  /-- The sign of a number. -/
  sign : List Char := []
  /-- The mark of the base of a number. -/
  base : List Char := []
  /-- The code points. -/
  body : List Nat
  /-- The value is a number, which is filled up between sign and digits. -/
  isNumber : Bool := false
  deriving DecidableEq, Repr

/-- The sign of a number. -/
def signOf (f : Flags) (negative : Bool) : List Char :=
  if negative then ['-'] else if f.signed then ['+'] else if f.spaced then [' '] else []

/-- The text of a value in a field of at least `width` code points. -/
def Shown.field (s : Shown) (f : Flags) (width : Nat) : List Nat :=
  let head := codePoints (s.sign ++ s.base)
  let filling (c : Char) : List Nat :=
    List.replicate (width - (head.length + s.body.length)) c.toNat
  if f.leftAligned then head ++ s.body ++ filling ' '
  else if s.isNumber && f.zeroFilled then head ++ filling '0' ++ s.body
  else filling ' ' ++ head ++ s.body

/-! ### Kinds of conversions -/

/-- A text with everything outside of ASCII escaped. -/
def asciiOnly (cs : List Char) : List Char :=
  cs.flatMap fun c ↦
    let p := c.toNat
    if p < 0x80 then [c]
    else if p < 0x100 then '\\' :: 'x' :: hexDigits 2 p
    else if p < 0x10000 then '\\' :: 'u' :: hexDigits 4 p
    else '\\' :: 'U' :: hexDigits 8 p

/-- The text of a value of any class: plain, or displayed, with everything outside of ASCII escaped
on request. -/
def showText (kind : Char) (precision : Option Nat) (d : Datum) : Except Fault Shown :=
  if !d.hasText then .error .badValue
  else
    let ps :=
      match kind with
      | 's' => d.plain.points
      | 'r' => codePoints d.display.toList
      | _ => codePoints (asciiOnly d.display.toList)
    .ok { body := precision.elim ps ps.take }

/-- The integer that a value counts as; a decimal number is cut to its integer part where `cuts`. -/
def integerOf (cuts : Bool) (d : Datum) : Except Fault Int :=
  match d.asInt?, d with
  | some n, _ => .ok n
  | none, .float x =>
    if !cuts then .error .wrongClass
    else
      match x.truncate? with
      | some n => .ok n
      | none => .error (if x.isNan then .badValue else .overflow)
  | none, _ => .error .wrongClass

/-- The largest precision of an integer. -/
def integerPrecisionLimit : Nat := precisionLimit - 3

/-- The text of an integer: decimal, octal or hexadecimal digits, at least as many as the
precision. -/
def showInteger (kind : Char) (f : Flags) (precision : Option Nat) (d : Datum) :
    Except Fault Shown := do
  let base := if kind = 'o' then 8 else if kind = 'x' || kind = 'X' then 16 else 10
  let n ← integerOf (base = 10) d
  if integerPrecisionLimit < precision.getD 0 then .error .overflow
  else if base = 10 && !integerFits n then .error .badValue
  else
    let ds := Nat.toDigits base n.natAbs
    let digits := List.replicate (precision.getD 0 - ds.length) '0' ++ ds
    return {
      sign := signOf f (n < 0)
      base := if f.alternate && base != 10 then ['0', kind] else []
      body := codePoints (if kind = 'X' then digits.map asciiUpper else digits)
      isNumber := true }

/-- The decimal number that a value counts as. -/
def floatOf (d : Datum) : Except Fault Binary64 :=
  match d, d.asInt? with
  | .float x, _ => .ok x
  | _, some n => (Binary64.ofInt? n).elim (.error .overflow) .ok
  | _, none => .error .wrongClass

/-- The text of a decimal number; six places are shown if no precision is given. -/
def showFloat (kind : Char) (f : Flags) (precision : Option Nat) (d : Datum) :
    Except Fault Shown := do
  let x ← floatOf d
  let small := asciiLower kind
  let form : Binary64.DecimalForm :=
    if small = 'f' then .fixed else if small = 'e' then .scientific else .general
  let cs := x.roundedText form f.alternate (precision.getD 6)
  return {
    sign := signOf f x.isNegative
    body := codePoints (if kind = small then cs else cs.map asciiUpper)
    isNumber := true }

/-- The text of a character, which is given as itself or by its code point. -/
def showChar (d : Datum) : Except Fault Shown :=
  match d.asText?, d.asInt? with
  | some t, _ => if t.points.length = 1 then .ok { body := t.points } else .error .wrongClass
  | none, some n =>
    if n < 0 || 0x10FFFF < n then .error .overflow
    else .ok { body := [n.toNat] }
  | none, none => .error .wrongClass

/-- The text of a value under a conversion of the given kind. -/
def showValue (kind : Char) (f : Flags) (precision : Option Nat) (d : Datum) : Except Fault Shown :=
  if ['s', 'r', 'a'].contains kind then showText kind precision d
  else if ['d', 'i', 'u', 'o', 'x', 'X'].contains kind then showInteger kind f precision d
  else if ['e', 'E', 'f', 'F', 'g', 'G'].contains kind then showFloat kind f precision d
  else if kind = 'c' then showChar d
  else .error .badValue

/-! ### Supply of values -/

/-- The values that a template is filled with. -/
structure Supply where
  /-- The values that come next. -/
  values : List Datum
  /-- The value that keys are looked up in. -/
  mapping : Option Datum

/-- The supply that a value gives. -/
def Supply.ofDatum (d : Datum) : Supply :=
  match d with
  | .tuple xs => { values := xs, mapping := none }
  | .dict _ | .list _ | .octets _ => { values := [d], mapping := some d }
  | d => { values := [d], mapping := none }

/-- The next value. -/
def Supply.next (s : Supply) : Except Fault (Datum × Supply) :=
  match s.values with
  | d :: ds => .ok (d, { s with values := ds })
  | [] => .error .wrongClass

/-- The supply after a key: the value under it alone. -/
def Supply.select (s : Supply) (key : Key) : Except Fault Supply :=
  match key, s.mapping with
  | .absent, _ => .ok s
  | _, none => .error .wrongClass
  | .unclosed, some _ => .error .badValue
  | .named name, some (.dict es) =>
    match Datum.get? (.text name) es with
    | some d => .ok { s with values := [d] }
    | none => .error .missingKey
  | .named _, some _ => .error .wrongClass

/-- A size that is an integer of the values, between the bounds of a signed word. -/
def Supply.size (s : Supply) (limit : Nat) (size : Size) : Except Fault (Option Int × Supply) :=
  match size with
  | .absent => .ok (none, s)
  | .fixed n => .ok (some n, s)
  | .tooLarge => .error .badValue
  | .argument => do
    let (d, s) ← s.next
    match d.asInt? with
    | none => .error .wrongClass
    | some n => if n < -(limit : Int) - 1 || limit < n then .error .overflow else return (some n, s)

/-- The text of a conversion, and the supply after it. A negative width aligns at the left, and a
negative precision is zero. -/
def Supply.convert (s : Supply) (c : Conversion) : Except Fault (List Nat × Supply) := do
  let s ← s.select c.key
  let (width, s) ← s.size widthLimit c.width
  let (precision, s) ← s.size precisionLimit c.precision
  match c.kind with
  | none => .error .badValue
  | some kind =>
    let (d, s) ← s.next
    let flags := { c.flags with leftAligned := c.flags.leftAligned || width.any (· < 0) }
    let shown ← showValue kind flags (precision.map Int.toNat) d
    return (shown.field flags (width.elim 0 Int.natAbs), s)

/-- The code points of pieces. Values of a tuple that are left over are a fault. -/
def fillPieces : List Piece → Supply → Except Fault (List Nat)
  | [], s => if s.mapping.isNone && !s.values.isEmpty then .error .wrongClass else .ok []
  | .point p :: ps, s => (fillPieces ps s).map (p :: ·)
  | .conversion c :: ps, s => do
    let (made, s) ← s.convert c
    return made ++ (← fillPieces ps s)

/-- A template filled with a value. -/
def fill (template : Text) (values : Datum) : Except Fault Text :=
  (fillPieces (pieces template) (.ofDatum values)).map Text.ofPoints

end CatalogQuery.Template
