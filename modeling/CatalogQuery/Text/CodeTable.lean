import CatalogQuery.Text.Basic

/-!
# Tables of code points

A table is written as a text of rows parted by blanks; a row is a list of hexadecimal numbers parted
by points. `CodeTable.rows` reads a table. A table of ranges has rows of one or two numbers: a code
point alone, or the first and the last of a range.
-/

namespace CatalogQuery.CodeTable

/-- The value of a hexadecimal digit; small letters stand for ten and more. -/
def hexValue (c : Char) : Nat :=
  if c.isDigit then c.toNat - 0x30 else c.toNat - 0x57

/-- The number that hexadecimal digits denote. -/
def number (digits : List Char) : Nat :=
  digits.foldl (fun n c ↦ n * 16 + hexValue c) 0

/-- The words of a text, parted by spaces and line ends. -/
def words (table : String) : List (List Char) :=
  ((splitAtChar '\n' table.toList).flatMap (splitAtChar ' ')).filter (!·.isEmpty)

/-- The rows of a table. -/
def rows (table : String) : List (List Nat) :=
  (words table).map fun row ↦ (splitAtChar '.' row).map number

/-- A code point lies in the range of a row. -/
def inRow (p : Nat) : List Nat → Bool
  | [single] => p == single
  | [first, last] => first ≤ p && p ≤ last
  | _ => false

/-- A code point lies in a range of the table. -/
def contains (table : List (List Nat)) (p : Nat) : Bool :=
  table.any (inRow p)

end CatalogQuery.CodeTable
