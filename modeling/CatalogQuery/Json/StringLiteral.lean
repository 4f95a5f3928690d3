import CatalogQuery.Text.Basic
import CatalogQuery.Text.Quoted

/-!
# JSON string literals

The two ways in which a text is written between double quotes. The ASCII form escapes every code
point outside printable ASCII, one above `0xFFFF` as the two halves of its surrogate pair; the plain
form escapes only what it must, and shows half of a surrogate pair, which is no character, as the
replacement character. Both use the short escapes for the control characters that have one.
-/

namespace CatalogQuery.Json

/-- An escape of one code unit. -/
def unitEscape (n : Nat) : List Char :=
  '\\' :: 'u' :: hexDigits 4 n

/-- The escapes that both forms share. -/
def shortEscape? (p : Nat) : Option (List Char) :=
  match p with
  | 0x22 => some ['\\', '"']
  | 0x5C => some ['\\', '\\']
  | 0x0A => some ['\\', 'n']
  | 0x0D => some ['\\', 'r']
  | 0x09 => some ['\\', 't']
  | 0x08 => some ['\\', 'b']
  | 0x0C => some ['\\', 'f']
  | _ => none

/-- One code point in the ASCII form. -/
def escapeAscii (p : Nat) : List Char :=
  match shortEscape? p with
  | some e => e
  | none =>
    if 0x20 ≤ p && p ≤ 0x7E then [Char.ofNat p]
    else if p < 0x10000 then unitEscape p
    else
      unitEscape (0xD800 + (p - 0x10000) / 0x400) ++ unitEscape (0xDC00 + (p - 0x10000) % 0x400)

/-- One code point in the plain form. -/
def escapePlain (p : Nat) : List Char :=
  match shortEscape? p with
  | some e => e
  | none => if p < 0x20 then unitEscape p else [Text.shown p]

/-- The ASCII literal of a text given by its code points. -/
def asciiLiteral (ps : List Nat) : String :=
  String.ofList ('"' :: (ps.flatMap escapeAscii ++ ['"']))

/-- The plain literal of a text given by its code points. -/
def plainLiteral (ps : List Nat) : String :=
  String.ofList ('"' :: (ps.flatMap escapePlain ++ ['"']))

end CatalogQuery.Json
