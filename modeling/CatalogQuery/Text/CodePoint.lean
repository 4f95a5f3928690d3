/-!
# Code points and classes of them

A code point is a natural number below `0x110000`; the surrogates are among them, so a class can be
asked of a text that is not well formed. A class is a list of closed ranges in increasing order, as
the character database of Unicode 14.0 gives it, and `inRanges` decides membership.

Three small classes live here because they are needed everywhere: blanks, the blanks that a numeral
may be surrounded by, and decimal digits with their values. The two large ones, printable and word
code points, have modules of their own.
-/

namespace CatalogQuery.CodePoint

/-- The code point `p` lies in one of the closed ranges `rs`. -/
def inRanges (rs : List (Nat × Nat)) (p : Nat) : Bool :=
  rs.any fun r ↦ r.1 ≤ p && p ≤ r.2

/-- The code points that separate words: separators and the control characters of bidirectional
class white space, block or segment. -/
def blankRanges : List (Nat × Nat) :=
  [(0x9, 0xD), (0x1C, 0x20), (0x85, 0x85), (0xA0, 0xA0), (0x1680, 0x1680), (0x2000, 0x200A),
   (0x2028, 0x2029), (0x202F, 0x202F), (0x205F, 0x205F), (0x3000, 0x3000)]

/-- A blank code point. -/
def isBlank (p : Nat) : Bool :=
  inRanges blankRanges p

/-- A blank that may surround a numeral. The four information separators `0x1C` to `0x1F` are blank
but may not. -/
def isNumeralBlank (p : Nat) : Bool :=
  isBlank p && !(0x1C ≤ p && p ≤ 0x1F)

/-- The zeros of the decimal digit systems; each is followed by its nine other digits. -/
def decimalZeros : List Nat :=
  [0x30, 0x660, 0x6F0, 0x7C0, 0x966, 0x9E6, 0xA66, 0xAE6, 0xB66, 0xBE6, 0xC66, 0xCE6, 0xD66,
   0xDE6, 0xE50, 0xED0, 0xF20, 0x1040, 0x1090, 0x17E0, 0x1810, 0x1946, 0x19D0, 0x1A80, 0x1A90,
   0x1B50, 0x1BB0, 0x1C40, 0x1C50, 0xA620, 0xA8D0, 0xA900, 0xA9D0, 0xA9F0, 0xAA50, 0xABF0,
   0xFF10, 0x104A0, 0x10D30, 0x11066, 0x110F0, 0x11136, 0x111D0, 0x112F0, 0x11450, 0x114D0,
   0x11650, 0x116C0, 0x11730, 0x118E0, 0x11950, 0x11C50, 0x11D50, 0x11DA0, 0x16A60, 0x16AC0,
   0x16B50, 0x1D7CE, 0x1D7D8, 0x1D7E2, 0x1D7EC, 0x1D7F6, 0x1E140, 0x1E2F0, 0x1E950, 0x1FBF0]

/-- The value of a decimal digit of any script. -/
def digitValue? (p : Nat) : Option Nat :=
  (decimalZeros.find? fun z ↦ z ≤ p && p < z + 10).map (p - ·)

/-- A decimal digit of any script. -/
def isDigit (p : Nat) : Bool :=
  (digitValue? p).isSome

/-- A surrogate: a code point that is no character. -/
def isSurrogate (p : Nat) : Bool :=
  0xD800 ≤ p && p ≤ 0xDFFF

end CatalogQuery.CodePoint
