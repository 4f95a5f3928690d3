import CatalogQuery.Text.Basic
import CatalogQuery.Number.Binary64

/-!
# Reading numerals

Integers and decimal numbers as they are typed: blanks around, an optional sign, digits of any
script, and single underscores between digits. A decimal numeral may also name an infinity or no
number. Integer numerals are limited to 4300 digits, and so is the text of an integer; the limit is
a constant of this module, and `IntegerText.fits` tells whether an integer can be written.

The readers answer `none` on any other text. They work on code points, so that a text with unpaired
surrogates can be asked too: it is never a numeral.
-/

namespace CatalogQuery

/-- The largest number of digits in the text of an integer. -/
def integerDigitLimit : Nat := 4300

/-- The integer has a text within the digit limit. -/
def integerFits (n : Int) : Bool :=
  n.natAbs < Nat.pow 10 integerDigitLimit

/-- The number that a list of digit values denotes. -/
def ofDigitValues (ds : List Nat) : Nat :=
  ds.foldl (fun n d ↦ 10 * n + d) 0

namespace Numeral

/-- The code points of a numeral: digits of any script are replaced by ASCII digits, and the blanks
around are dropped. -/
def prepare (ps : List Nat) : List Nat :=
  let bare := ((ps.dropWhile CodePoint.isNumeralBlank).reverse.dropWhile
    CodePoint.isNumeralBlank).reverse
  bare.map fun p ↦
    match CodePoint.digitValue? p with
    | some d => 0x30 + d
    | none => p

/-- An ASCII digit. -/
def isDigit (p : Nat) : Bool :=
  0x30 ≤ p && p ≤ 0x39

/-- Drops the underscores of a numeral; `none` when one does not stand between two digits. The flag
tells whether the code point before was a digit. -/
def dropUnderscores : (afterDigit : Bool) → List Nat → Option (List Nat)
  | _, [] => some []
  | afterDigit, p :: ps =>
    if p = 0x5F then
      match ps with
      | q :: _ => if afterDigit && isDigit q then dropUnderscores false ps else none
      | [] => none
    else (dropUnderscores (isDigit p) ps).map (p :: ·)

/-- An optional sign: whether it is a minus, and what follows. -/
def sign : List Nat → Bool × List Nat
  | 0x2D :: ps => (true, ps)
  | 0x2B :: ps => (false, ps)
  | ps => (false, ps)

/-- The values of ASCII digits. -/
def values (ps : List Nat) : List Nat :=
  ps.map (· - 0x30)

/-- The integer that a numeral denotes. -/
def integer? (ps : List Nat) : Option Int := do
  let bare ← dropUnderscores false (prepare ps)
  let (negative, digits) := sign bare
  if digits.isEmpty || !digits.all isDigit || integerDigitLimit < digits.length then none
  else
    let n : Int := ofDigitValues (values digits)
    some (if negative then -n else n)

/-- The exponent part of a decimal numeral, from its letter on; an absent one is zero. -/
def exponent? : List Nat → Option Int
  | [] => some 0
  | p :: ps =>
    if p = 0x65 || p = 0x45 then
      let (negative, digits) := sign ps
      if digits.isEmpty || !digits.all isDigit then none
      else
        let n : Int := ofDigitValues (values digits)
        some (if negative then -n else n)
    else none

/-- The unsigned decimal numeral `digits [. digits] [exponent]`, with at least one digit before the
exponent: its digits as one number, and its power of ten. -/
def decimal? (ps : List Nat) : Option (Nat × Int) :=
  let whole := ps.takeWhile isDigit
  let (fraction, rest) :=
    match ps.dropWhile isDigit with
    | 0x2E :: after => (after.takeWhile isDigit, after.dropWhile isDigit)
    | after => ([], after)
  if whole.isEmpty && fraction.isEmpty then none
  else (exponent? rest).map fun e ↦
    (ofDigitValues (values (whole ++ fraction)), e - fraction.length)

/-- ASCII capitals replaced by small letters. -/
def lower (p : Nat) : Nat :=
  if 0x41 ≤ p && p ≤ 0x5A then p + 0x20 else p

/-- The number that an unsigned numeral denotes, with a sign given beside it. -/
def unsigned? (negative : Bool) (ps : List Nat) : Option Binary64 :=
  let word := ps.map lower
  if word = codePoints ['i', 'n', 'f'] ||
      word = codePoints ['i', 'n', 'f', 'i', 'n', 'i', 't', 'y'] then
    some (.inf negative)
  else if word = codePoints ['n', 'a', 'n'] then some .nan
  else (decimal? ps).map fun (digits, exponent) ↦ .ofDecimal negative digits exponent

/-- The number that a decimal numeral denotes. -/
def float? (ps : List Nat) : Option Binary64 := do
  let bare ← dropUnderscores false (prepare ps)
  let (negative, digits) := sign bare
  unsigned? negative digits

end Numeral

/-- The text of an integer in decimal digits. -/
def integerText (n : Int) : String :=
  match n with
  | .ofNat m => Nat.repr m
  | .negSucc m => "-" ++ Nat.repr (m + 1)

end CatalogQuery
