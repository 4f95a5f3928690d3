/-!
# Encodings of Unicode

Octets to code points in the three encoding forms. All three let an encoded surrogate pass, since a
reply may hold one; everything else that the forms exclude is refused: overlong sequences, numbers
above `0x10FFFF`, a sequence that is cut off. `ofOctets` finds the form from the mark at the start
or, without one, from where the first four octets are zero.

`utf8` goes the other way for characters.
-/

namespace CatalogQuery.Encoding

/-- A continuation octet of a sequence. -/
def isTail (b : Nat) : Bool :=
  0x80 ≤ b && b ≤ 0xBF

/-- The code point of a sequence of two octets. -/
def join2 (a b : Nat) : Nat :=
  (a - 0xC0) * 0x40 + (b - 0x80)

/-- The code point of a sequence of three octets. -/
def join3 (a b c : Nat) : Nat :=
  (a - 0xE0) * 0x1000 + (b - 0x80) * 0x40 + (c - 0x80)

/-- The code point of a sequence of four octets. -/
def join4 (a b c d : Nat) : Nat :=
  (a - 0xF0) * 0x40000 + (b - 0x80) * 0x1000 + (c - 0x80) * 0x40 + (d - 0x80)

/-- The code points of octets in the form of single octets. -/
def decode8 : List Nat → Option (List Nat)
  | [] => some []
  | a :: rest =>
    if a < 0x80 then (decode8 rest).map (a :: ·)
    else
      match rest with
      | b :: rest =>
        if 0xC2 ≤ a && a ≤ 0xDF then
          if isTail b then (decode8 rest).map (join2 a b :: ·) else none
        else
          match rest with
          | c :: rest =>
            if (a == 0xE0 && 0xA0 ≤ b && b ≤ 0xBF && isTail c) ||
                (0xE1 ≤ a && a ≤ 0xEF && isTail b && isTail c) then
              (decode8 rest).map (join3 a b c :: ·)
            else
              match rest with
              | d :: rest =>
                if ((a == 0xF0 && 0x90 ≤ b && b ≤ 0xBF) || (0xF1 ≤ a && a ≤ 0xF3 && isTail b) ||
                    (a == 0xF4 && 0x80 ≤ b && b ≤ 0x8F)) && isTail c && isTail d then
                  (decode8 rest).map (join4 a b c d :: ·)
                else none
              | [] => none
          | [] => none
      | [] => none

/-- The order of the octets of a unit. -/
inductive ByteOrder where
  | big | little
  deriving DecidableEq, Repr

/-- The unit that two octets make. -/
def unit16 (order : ByteOrder) (a b : Nat) : Nat :=
  match order with
  | .big => a * 0x100 + b
  | .little => b * 0x100 + a

/-- The units of octets taken two by two. -/
def units16 (order : ByteOrder) : List Nat → Option (List Nat)
  | [] => some []
  | [_] => none
  | a :: b :: rest => (units16 order rest).map (unit16 order a b :: ·)

/-- A unit that begins a surrogate pair. -/
def isHigh (u : Nat) : Bool :=
  0xD800 ≤ u && u ≤ 0xDBFF

/-- A unit that ends a surrogate pair. -/
def isLow (u : Nat) : Bool :=
  0xDC00 ≤ u && u ≤ 0xDFFF

/-- The code point of a surrogate pair. -/
def joinPair (high low : Nat) : Nat :=
  0x10000 + (high - 0xD800) * 0x400 + (low - 0xDC00)

/-- The code points of units of sixteen bits; a surrogate without its other half stays. -/
def joinUnits : List Nat → List Nat
  | [] => []
  | [u] => [u]
  | u :: v :: rest =>
    if isHigh u && isLow v then joinPair u v :: joinUnits rest else u :: joinUnits (v :: rest)

/-- The code points of octets in the form of units of sixteen bits. -/
def decode16 (order : ByteOrder) (octets : List Nat) : Option (List Nat) :=
  (units16 order octets).map joinUnits

/-- The code points of octets in the form of units of thirty-two bits. -/
def decode32 (order : ByteOrder) : List Nat → Option (List Nat)
  | [] => some []
  | a :: b :: c :: d :: rest =>
    let p :=
      match order with
      | .big => unit16 .big a b * 0x10000 + unit16 .big c d
      | .little => unit16 .little c d * 0x10000 + unit16 .little a b
    if p ≤ 0x10FFFF then (decode32 order rest).map (p :: ·) else none
  | _ => none

/-- The code points of octets whose form is found from their beginning. -/
def ofOctets (octets : List Nat) : Option (List Nat) :=
  match octets with
  | 0x00 :: 0x00 :: 0xFE :: 0xFF :: rest => decode32 .big rest
  | 0xFF :: 0xFE :: 0x00 :: 0x00 :: rest => decode32 .little rest
  | 0xFE :: 0xFF :: rest => decode16 .big rest
  | 0xFF :: 0xFE :: rest => decode16 .little rest
  | 0xEF :: 0xBB :: 0xBF :: rest => decode8 rest
  | a :: b :: c :: d :: _ =>
    if a = 0 then (if b ≠ 0 then decode16 .big octets else decode32 .big octets)
    else if b = 0 then
      (if c ≠ 0 || d ≠ 0 then decode16 .little octets else decode32 .little octets)
    else decode8 octets
  | [a, b] =>
    if a = 0 then decode16 .big octets
    else if b = 0 then decode16 .little octets
    else decode8 octets
  | _ => decode8 octets

/-- The octets of a character. -/
def encodeChar (c : Char) : List UInt8 :=
  String.utf8EncodeChar c

/-- The octets of a text in the form of single octets. -/
def utf8 (s : String) : List UInt8 :=
  s.toList.flatMap encodeChar

end CatalogQuery.Encoding
