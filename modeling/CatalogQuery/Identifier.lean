import CatalogQuery.Text.Basic
import CatalogQuery.Vocabulary

/-!
# Global identifiers

An entity is addressed as `gid://<namespace>/<type>/<number>`. `Id` keeps the three parts, with the
number verbatim, so that leading zeros survive; `Id.gid` writes the canonical text and
`Id.ofPoints` reads it. A text that has the outer form of an identifier but a number that is none
is refused with the number as the offending part, any other with the whole text.
-/

namespace CatalogQuery

/-- A global identifier. -/
structure Id where
  /-- The type of the entity. -/
  entityType : EntityType
  /-- The decimal digits of the number, verbatim. -/
  number : String
  /-- The namespace of the identifier. -/
  space : String := "shopify"
  deriving DecidableEq, Repr, Inhabited

namespace Id

/-- The namespace of everything that the shop returns. -/
def defaultSpace : String := "shopify"

/-- The canonical text of an identifier. -/
def gid (i : Id) : String :=
  "gid://" ++ i.space ++ "/" ++ Vocabulary.wire i.entityType ++ "/" ++ i.number

/-- An ASCII digit. -/
def isDigit (p : Nat) : Bool :=
  0x30 ≤ p && p ≤ 0x39

/-- An ASCII letter. -/
def isLetter (p : Nat) : Bool :=
  (0x41 ≤ p && p ≤ 0x5A) || (0x61 ≤ p && p ≤ 0x7A)

/-- A character of a namespace. -/
def isSpacePoint (p : Nat) : Bool :=
  isDigit p || isLetter p || p == 0x5F || p == 0x2D

/-- The number of an identifier: one or more ASCII digits. -/
def isNumber (ps : List Nat) : Bool :=
  !ps.isEmpty && ps.all isDigit

/-- What follows `start` in `ps`, if `ps` begins with it. -/
def after? : (start ps : List Nat) → Option (List Nat)
  | [], ps => some ps
  | _ :: _, [] => none
  | s :: start, p :: ps => if s = p then after? start ps else none

/-- The one or more leading code points of class `member`, if a slash follows them, and what follows
the slash. -/
def segment? (member : Nat → Bool) (ps : List Nat) : Option (List Nat × List Nat) :=
  match ps.takeWhile member, ps.dropWhile member with
  | p :: taken, 0x2F :: rest => some (p :: taken, rest)
  | _, _ => none

/-- The namespace, type and number of a text in the outer form of an identifier. -/
def split? (ps : List Nat) : Option (List Nat × List Nat × List Nat) := do
  let rest ← after? (codePoints "gid://".toList) ps
  let (space, rest) ← segment? isSpacePoint rest
  let (type, number) ← segment? isLetter rest
  if number.any fun p ↦ p == 0x2F || p == 0x3F then none else some (space, type, number)

/-- The text of ASCII code points. -/
def ofAscii (ps : List Nat) : String :=
  String.ofList (ps.map Char.ofNat)

/-- Reads an identifier; on failure, the part of the text that is at fault. -/
def ofPoints (ps : List Nat) : Except (List Nat) Id :=
  match split? ps with
  | none => .error ps
  | some (space, type, number) =>
    match Vocabulary.ofWire? (ofAscii type) with
    | none => .error ps
    | some entityType =>
      if isNumber number then .ok ⟨entityType, ofAscii number, ofAscii space⟩
      else .error number

end Id

end CatalogQuery
