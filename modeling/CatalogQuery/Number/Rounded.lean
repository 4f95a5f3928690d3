import CatalogQuery.Number.Shortest

/-!
# Rounded decimal text

The text of a binary64 number with a given number of digits, in three notations. Fixed notation
counts the digits after the point, exponent notation the digits after the first one. General
notation counts all digits; it is fixed for exponents from minus four to that count and drops zeros
at the end. The number is rounded as an exact ratio, a half to the even neighbour.
-/

namespace CatalogQuery.Binary64

/-- The notations of decimal numbers. -/
inductive DecimalForm where
  | fixed | scientific | general
  deriving DecidableEq, Repr

/-- The digits of a natural number, with zeros before them to make at least `width`. -/
def paddedDigits (width n : Nat) : List Char :=
  let ds := Nat.toDigits 10 n
  List.replicate (width - ds.length) '0' ++ ds

/-- Digits before and after a point; a point without digits after it is kept on request. -/
def withPoint (keepPoint : Bool) (whole fraction : List Char) : List Char :=
  if fraction.isEmpty && !keepPoint then whole else whole ++ '.' :: fraction

/-- Fixed notation of a ratio with a number of places after the point. -/
def fixedText (keepPoint : Bool) (places num den : Nat) : List Char :=
  let ds := paddedDigits (places + 1) (roundDiv (num * Nat.pow 10 places) den)
  let cut := ds.length - places
  withPoint keepPoint (ds.take cut) (ds.drop cut)

/-- The first `count` digits of a ratio, rounded, and the exponent of the first one. -/
def leadingDigits (count num den : Nat) : List Char × Int :=
  if num = 0 then (List.replicate count '0', 0)
  else
    let k := magnitude num den
    let (a, b) := scaleDown num den (k - count)
    let n := roundDiv a b
    if n < Nat.pow 10 count then (paddedDigits count n, k - 1) else (paddedDigits count (n / 10), k)

/-- Digits without the zeros at their end. -/
def dropZeros (ds : List Char) : List Char :=
  (ds.reverse.dropWhile (· == '0')).reverse

/-- Exponent notation of digits. -/
def scientificText (keepPoint : Bool) (ds : List Char) (exponent : Int) : List Char :=
  withPoint keepPoint (ds.take 1) (ds.drop 1) ++ 'e' :: exponentText exponent

/-- General notation of a ratio with a number of digits, which is at least one. On request zeros at
the end and the point are kept. -/
def generalText (keepPoint : Bool) (count num den : Nat) : List Char :=
  let (ds, exponent) := leadingDigits count num den
  let kept (fraction : List Char) : List Char := if keepPoint then fraction else dropZeros fraction
  if -4 ≤ exponent && exponent < count then
    match exponent with
    | .ofNat e => withPoint keepPoint (ds.take (e + 1)) (kept (ds.drop (e + 1)))
    | .negSucc e => withPoint keepPoint ['0'] (kept (List.replicate e '0' ++ ds))
  else scientificText keepPoint (ds.take 1 ++ kept (ds.drop 1)) exponent

/-- The text of the magnitude of a number in a notation with a precision. -/
def roundedText (form : DecimalForm) (keepPoint : Bool) (precision : Nat) : Binary64 → List Char
  | .nan => ['n', 'a', 'n']
  | .inf _ => ['i', 'n', 'f']
  | .finite _ mantissa exponent _ =>
    let (num, den) := ratio mantissa exponent
    match form with
    | .fixed => fixedText keepPoint precision num den
    | .scientific =>
      let (ds, e) := leadingDigits (precision + 1) num den
      scientificText keepPoint ds e
    | .general => generalText keepPoint (if precision = 0 then 1 else precision) num den

end CatalogQuery.Binary64
