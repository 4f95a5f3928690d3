import CatalogQuery.Number.Numeral
import CatalogQuery.Text.Basic

/-!
# Pieces of templates

A template is a text in which conversions stand for values. A conversion begins with a percent sign,
after which come, in this order and all of them optional, the key of a value in parentheses, flags,
a width, a point and a precision, and a letter without meaning; the kind of the conversion ends it.
Two percent signs in a row stand for one.

`Template.pieces` cuts a template into code points and conversions. It goes by code points because
the key of a conversion may be a text with half of a surrogate pair. A conversion that is cut off by
the end of the template has no kind.
-/

namespace CatalogQuery.Template

/-- The flags of a conversion. -/
structure Flags where
  /-- The text stands at the left of its field. -/
  leftAligned : Bool := false
  /-- A number that is not negative has a plus sign. -/
  signed : Bool := false
  /-- A number that is not negative has a blank in place of its sign. -/
  spaced : Bool := false
  /-- The alternate form. -/
  alternate : Bool := false
  /-- The field of a number is filled with zeros. -/
  zeroFilled : Bool := false
  deriving DecidableEq, Repr

/-- The width or the precision of a conversion. -/
inductive Size where
  | absent
  | fixed (n : Nat)
  /-- The size is taken from the values. -/
  | argument
  /-- The size is beyond its limit. -/
  | tooLarge
  deriving DecidableEq, Repr

/-- The key of a conversion. -/
inductive Key where
  | absent
  | named (name : Text)
  /-- The closing parenthesis is missing. -/
  | unclosed
  deriving DecidableEq, Repr

/-- A conversion. -/
structure Conversion where
  /-- The key of the value. -/
  key : Key
  /-- The flags. -/
  flags : Flags
  /-- The least number of characters. -/
  width : Size
  /-- The precision. -/
  precision : Size
  /-- The kind, unless the template ends before it. -/
  kind : Option Char
  deriving DecidableEq, Repr

/-- A piece of a template: a code point that stands for itself, or a conversion. -/
inductive Piece where
  | point (p : Nat)
  | conversion (c : Conversion)
  deriving DecidableEq, Repr

/-! ### Parts of a conversion -/

/-- The percent sign, which begins a conversion. -/
def percent : Nat := 0x25

/-- The code points up to the parenthesis that closes the one before them, and what follows it; none
if there is no such parenthesis. `depth` counts the parentheses that are open besides. -/
def untilClosed? : (depth : Nat) → List Nat → Option (List Nat × List Nat)
  | _, [] => none
  | depth, p :: ps =>
    let more (depth : Nat) : Option (List Nat × List Nat) :=
      (untilClosed? depth ps).map fun (name, rest) ↦ (p :: name, rest)
    if p = '('.toNat then more (depth + 1)
    else if p = ')'.toNat then (if depth = 0 then some ([], ps) else more (depth - 1))
    else more depth

/-- The key at the start of a text, and what follows it. -/
def readKey : List Nat → Key × List Nat
  | p :: ps =>
    if p = '('.toNat then
      match untilClosed? 0 ps with
      | some (name, rest) => (.named (.ofPoints name), rest)
      | none => (.unclosed, [])
    else (.absent, p :: ps)
  | [] => (.absent, [])

/-- The flags with the one that a character stands for. -/
def Flags.set? (f : Flags) (c : Char) : Option Flags :=
  match c with
  | '-' => some { f with leftAligned := true }
  | '+' => some { f with signed := true }
  | ' ' => some { f with spaced := true }
  | '#' => some { f with alternate := true }
  | '0' => some { f with zeroFilled := true }
  | _ => none

/-- The flags at the start of a text, and what follows them. -/
def readFlags (f : Flags) : List Nat → Flags × List Nat
  | [] => (f, [])
  | p :: ps =>
    match f.set? (Text.shown p) with
    | some f => readFlags f ps
    | none => (f, p :: ps)

/-- A size at the start of a text, and what follows it: a star, or decimal digits. -/
def readSize (limit : Nat) (default : Size) (ps : List Nat) : Size × List Nat :=
  if ps.head? = some '*'.toNat then (.argument, ps.tail)
  else
    let ds := ps.takeWhile Numeral.isDigit
    let n := ofDigitValues (Numeral.values ds)
    let size : Size := if ds.isEmpty then default else if limit < n then .tooLarge else .fixed n
    (size, ps.dropWhile Numeral.isDigit)

/-- The largest width. -/
def widthLimit : Nat := Nat.pow 2 63 - 1

/-- The largest precision. -/
def precisionLimit : Nat := Nat.pow 2 31 - 1

/-- The precision at the start of a text, and what follows it; after a point alone it is zero. -/
def readPrecision (ps : List Nat) : Size × List Nat :=
  if ps.head? = some '.'.toNat then readSize precisionLimit (.fixed 0) ps.tail else (.absent, ps)

/-- What follows the letter without meaning at the start of a text, if one is there. -/
def dropLength (ps : List Nat) : List Nat :=
  if (ps.head?.map Text.shown).any ['h', 'l', 'L'].contains then ps.tail else ps

/-- The conversion after a percent sign, and what follows it. Half of a surrogate pair is no kind,
and the character that it is shown as is none either. -/
def readConversion (ps : List Nat) : Conversion × List Nat :=
  let (key, ps) := readKey ps
  let (flags, ps) := readFlags {} ps
  let (width, ps) := readSize widthLimit .absent ps
  let (precision, ps) := readPrecision ps
  let ps := dropLength ps
  ({ key, flags, width, precision, kind := ps.head?.map Text.shown }, ps.tail)

/-- The pieces of a template, at most `steps` of them. -/
def readPieces : (steps : Nat) → List Nat → List Piece
  | 0, _ => []
  | steps + 1, ps =>
    match ps with
    | [] => []
    | p :: ps =>
      if p != percent then .point p :: readPieces steps ps
      else if ps.head? = some percent then .point percent :: readPieces steps ps.tail
      else
        let (conversion, ps) := readConversion ps
        .conversion conversion :: readPieces steps ps

/-- The pieces of a template. -/
def pieces (template : Text) : List Piece :=
  readPieces template.points.length template.points

end CatalogQuery.Template
