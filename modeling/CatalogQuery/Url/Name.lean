import CatalogQuery.Text.Joining
import CatalogQuery.Url.NameTable
import CatalogQuery.Url.Punycode

/-!
# Domain names

A domain name is a list of labels. `Name.toAscii?` brings a name to its normal form: variants of
characters are replaced by the plain ones, composites are put together, and a label outside ASCII is
written in its ASCII form after `xn--`. A label that comes in that form already has to be the form
of a label that is normal itself.

A name is refused when a code point has no place in it, when a label begins with a mark or holds a
joiner without a meaning, and when labels written from the right do not keep the rule for text of
both directions.
-/

namespace CatalogQuery.Name

/-- A character that no domain name may hold. -/
def isForbidden (p : Nat) : Bool :=
  p ≤ 0x20 || p == 0x7F ||
    (codePoints ['%', '#', '/', ':', '<', '>', '?', '@', '[', '\\', ']', '^', '|']).contains p

/-- The code points of a name with each replaced by the plain ones and composites put together. -/
def normalize? (ps : List Nat) : Option (List Nat) :=
  (ps.mapM NameTable.fold).map fun qs ↦ Canonical.compose qs.flatten

/-- What precedes the ASCII form of a label. -/
def asciiMark : List Char := ['x', 'n', '-', '-']

/-- A label as it is read: its characters, and its form in ASCII. -/
structure Label where
  /-- The code points. -/
  points : List Nat
  /-- The form in ASCII. -/
  ascii : List Char

/-- A label outside ASCII is well formed. -/
def isWellFormed (ps : List Nat) : Bool :=
  !ps.head?.any Joining.isMark && Joining.isJustified [] ps

/-- The code points of a label that is given in its ASCII form. -/
def decode? (form : List Char) : Option (List Nat) := do
  let label ← Punycode.decode? form
  let ps := codePoints label
  if label.all Punycode.isBasic || !ps.all NameTable.isPlain || Canonical.compose ps != ps then none
  else some ps

/-- Reads a normal label. -/
def label? (cs : List Char) : Option Label :=
  match dropStart? asciiMark cs with
  | some form => do
    let ps ← decode? form
    if isWellFormed ps then some ⟨ps, cs⟩ else none
  | none =>
    let ps := codePoints cs
    if cs.all Punycode.isBasic then some ⟨ps, cs⟩
    else if isWellFormed ps then some ⟨ps, asciiMark ++ Punycode.encode cs⟩
    else none

/-- Labels among which something is written from the right keep the rule for both directions. -/
def isOrderly (labels : List Label) : Bool :=
  !(labels.any fun l ↦ l.points.any fun p ↦ (Direction.ofPoint p).isFromRight) ||
    labels.all fun l ↦ l.points.isEmpty || Direction.isOrderly l.points

/-- The labels of a name in normal form. -/
def labels? (ps : List Nat) : Option (List Label) := do
  let qs ← normalize? ps
  if qs.any isForbidden then none
  else
    let labels ← (splitAtChar '.' (qs.map Char.ofNat)).mapM label?
    if isOrderly labels then some labels else none

/-- A name in ASCII. -/
def toAscii? (ps : List Nat) : Option (List Char) :=
  (labels? ps).map fun labels ↦
    (joinWith "." (labels.map fun l ↦ String.ofList l.ascii)).toList

end CatalogQuery.Name
