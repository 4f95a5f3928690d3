import CatalogQuery.Text.Printable

/-!
# Quoted display of texts and octets

How a text or a sequence of octets is shown inside a message. The quotation mark is single, unless
the content has a single mark and no double one; the chosen mark, the backslash and everything that
is not printable are escaped. The display of octets has the letter `b` before it and escapes every
octet outside printable ASCII.
-/

namespace CatalogQuery

/-- The last `width` hexadecimal digits of `n`, in small letters. -/
def hexDigits : (width n : Nat) → List Char
  | 0, _ => []
  | width + 1, n => hexDigits width (n / 16) ++ [Nat.digitChar (n % 16)]

@[simp] theorem length_hexDigits (width n : Nat) : (hexDigits width n).length = width := by
  induction width generalizing n with
  | zero => rfl
  | succ width ih => simp [hexDigits, ih]

namespace Quoted

/-- The quotation mark for a content: single unless only the double one is absent from it. -/
def mark (ps : List Nat) : Char :=
  if ps.contains 0x27 && !ps.contains 0x22 then '"' else '\''

/-- One code point of a text shown between marks `q`. -/
def escape (q : Char) (p : Nat) : List Char :=
  if p = q.toNat || p = 0x5C then ['\\', Char.ofNat p]
  else if p = 0x09 then ['\\', 't']
  else if p = 0x0A then ['\\', 'n']
  else if p = 0x0D then ['\\', 'r']
  else if CodePoint.isPrintable p then [Char.ofNat p]
  else if p < 0x100 then '\\' :: 'x' :: hexDigits 2 p
  else if p < 0x10000 then '\\' :: 'u' :: hexDigits 4 p
  else '\\' :: 'U' :: hexDigits 8 p

/-- The display of a text, given by its code points. -/
def display (ps : List Nat) : String :=
  let q := mark ps
  String.ofList (q :: (ps.flatMap (escape q) ++ [q]))

/-- One octet shown between marks `q`. -/
def escapeOctet (q : Char) (p : Nat) : List Char :=
  if p = q.toNat || p = 0x5C then ['\\', Char.ofNat p]
  else if p = 0x09 then ['\\', 't']
  else if p = 0x0A then ['\\', 'n']
  else if p = 0x0D then ['\\', 'r']
  else if 0x20 ≤ p && p < 0x7F then [Char.ofNat p]
  else '\\' :: 'x' :: hexDigits 2 p

/-- The display of a sequence of octets. -/
def displayOctets (octets : List UInt8) : String :=
  let ps := octets.map UInt8.toNat
  let q := mark ps
  String.ofList ('b' :: q :: (ps.flatMap (escapeOctet q) ++ [q]))

end Quoted

end CatalogQuery
