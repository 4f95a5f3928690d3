import CatalogQuery.Text.CodePoint

/-!
# Texts

A reply may carry a text that is no sequence of characters, because an escape in it names half of a
surrogate pair and nothing names the other half. `Text` keeps the two cases apart: `str` holds
characters, `broken` the code points of a text with a surrogate among them. Everything that the
library itself composes is a `String`; only values read from a reply can be broken.

`Text.points` is the common view: all code points in order. `Text.ofPoints` is its inverse on the
form in which texts are kept (`points_ofPoints`).
-/

namespace CatalogQuery

/-- A text, possibly with unpaired surrogates. -/
inductive Text where
  /-- A text of characters. -/
  | str (s : String)
  /-- The code points of a text that has a surrogate among them. -/
  | broken (points : List Nat)
  deriving DecidableEq, Repr, Inhabited

/-- The code points of a list of characters. -/
def codePoints (cs : List Char) : List Nat :=
  cs.map Char.toNat

namespace Text

/-- The code points of a text, in order. -/
def points : Text → List Nat
  | .str s => codePoints s.toList
  | .broken ps => ps

/-- A code point that is a character. -/
def isScalar (p : Nat) : Bool :=
  p < 0x110000 && !CodePoint.isSurrogate p

/-- The text with the given code points. -/
def ofPoints (ps : List Nat) : Text :=
  if ps.all isScalar then .str (String.ofList (ps.map Char.ofNat)) else .broken ps

/-- The character that a code point is shown as; a surrogate is shown as the replacement
character. -/
def shown (p : Nat) : Char :=
  if isScalar p then Char.ofNat p else '\uFFFD'

/-- The characters of a text, each code point as it is shown. -/
def toString : Text → String
  | .str s => s
  | .broken ps => String.ofList (ps.map shown)

instance : ToString Text := ⟨toString⟩

/-- The characters of a text that has no surrogate. -/
def toString? : Text → Option String
  | .str s => some s
  | .broken _ => none

/-- A text of blanks only, the empty text included. -/
def isBlank (t : Text) : Bool :=
  t.points.all CodePoint.isBlank

/-- The text without characters. -/
def isEmpty (t : Text) : Bool :=
  t.points.isEmpty

/-- One text after the other. -/
def append : Text → Text → Text
  | .str s, .str t => .str (s ++ t)
  | s, t => ofPoints (s.points ++ t.points)

/-- The texts in order, with `separator` between neighbours. -/
def join (separator : Text) : List Text → Text
  | [] => .str ""
  | [part] => part
  | part :: next :: rest => part.append (separator.append (join separator (next :: rest)))

@[simp] theorem points_str (s : String) : (str s).points = codePoints s.toList := rfl

@[simp] theorem toString_str (s : String) : (str s).toString = s := rfl

/-- A scalar code point is the code of its character. -/
theorem toNat_ofNat_of_isScalar {p : Nat} (h : isScalar p = true) : (Char.ofNat p).toNat = p := by
  have hv : p.isValidChar := by
    simp only [isScalar, CodePoint.isSurrogate, Bool.and_eq_true, decide_eq_true_eq,
      Bool.not_eq_true', Bool.and_eq_false_iff, decide_eq_false_iff_not] at h
    simp only [Nat.isValidChar]
    omega
  rw [Char.ofNat, dif_pos hv]
  rfl

/-- A code point below the surrogates is the code of its character. -/
theorem toNat_ofNat_of_lt {p : Nat} (h : p < 0xD800) : (Char.ofNat p).toNat = p := by
  refine toNat_ofNat_of_isScalar ?_
  simp only [isScalar, CodePoint.isSurrogate, Bool.and_eq_true, decide_eq_true_eq,
    Bool.not_eq_true', Bool.and_eq_false_iff, decide_eq_false_iff_not]
  omega

/-- A scalar code point is the code of the character that it is shown as. -/
theorem toNat_shown {p : Nat} (h : isScalar p = true) : (shown p).toNat = p := by
  rw [shown, if_pos h, toNat_ofNat_of_isScalar h]

/-- No code point is lost in building a text. -/
theorem points_ofPoints (ps : List Nat) : (ofPoints ps).points = ps := by
  unfold ofPoints
  split
  · next h =>
    have key : ∀ p ∈ ps, (Char.ofNat p).toNat = p := fun p hp ↦
      toNat_ofNat_of_isScalar (List.all_eq_true.1 h p hp)
    simp only [points, codePoints, String.toList_ofList, List.map_map]
    conv => rhs; rw [← List.map_id ps]
    exact List.map_congr_left fun p hp ↦ by simpa using key p hp
  · rfl

end Text

/-! ### Lists of characters -/

/-- The parts in order, with `separator` between neighbours. -/
def joinWith (separator : String) : List String → String
  | [] => ""
  | [part] => part
  | part :: next :: rest => part ++ separator ++ joinWith separator (next :: rest)

/-- What remains of `cs` after `start`, if `cs` begins with it. -/
def dropStart? : (start cs : List Char) → Option (List Char)
  | [], cs => some cs
  | _ :: _, [] => none
  | s :: start, c :: cs => if s = c then dropStart? start cs else none

/-- Some end of the list has a property, the list itself and the empty list among them. -/
def anyEnd (p : List Char → Bool) : List Char → Bool
  | [] => p []
  | c :: cs => p (c :: cs) || anyEnd p cs

/-- `cs` cut at every occurrence of the character `sep`. -/
def splitAtChar (sep : Char) : List Char → List (List Char)
  | [] => [[]]
  | c :: cs =>
    if c = sep then [] :: splitAtChar sep cs
    else
      match splitAtChar sep cs with
      | [] => [[c]]
      | part :: parts => (c :: part) :: parts

/-- The characters of `cs` without the trailing ones of class `p`. -/
def dropTrailing (p : Char → Bool) (cs : List Char) : List Char :=
  (cs.reverse.dropWhile p).reverse

/-- The characters of `cs` without the leading and trailing ones of class `p`. -/
def trimBoth (p : Char → Bool) (cs : List Char) : List Char :=
  dropTrailing p (cs.dropWhile p)

/-- The ASCII capital of an ASCII letter; any other character is kept. -/
def asciiUpper (c : Char) : Char :=
  c.toUpper

/-- The small letter of an ASCII letter; any other character is kept. -/
def asciiLower (c : Char) : Char :=
  c.toLower

end CatalogQuery
