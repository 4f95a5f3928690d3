import CatalogQuery.Text.Basic
import CatalogQuery.Text.Encoding
import CatalogQuery.Text.Quoted
import CatalogQuery.Url.Name

/-!
# Hosts of web addresses

A host is a domain name, an address of four octets or an address of eight groups. A domain name is
written in small letters, with labels outside ASCII in their ASCII form; one whose last label is a
number must be an address of octets, which may be written with fewer numbers and in other bases. An
address of groups stands in brackets and is written with its longest run of zero groups left out.
-/

namespace CatalogQuery

/-- The host of a web address. -/
inductive Host where
  /-- A domain name. -/
  | domain (name : String)
  /-- An address of four octets, as one number. -/
  | octets (address : Nat)
  /-- An address of eight groups of sixteen bits. -/
  | groups (address : List Nat)
  deriving DecidableEq, Repr

namespace Host

/-! ### Numbers -/

/-- The value of a hexadecimal digit. -/
def hexValue? (c : Char) : Option Nat :=
  if c.isDigit then some (c.toNat - 0x30)
  else if 'a' ≤ c && c ≤ 'f' then some (c.toNat - 0x57)
  else if 'A' ≤ c && c ≤ 'F' then some (c.toNat - 0x37)
  else none

/-- The number that digits of a base denote. -/
def number? (base : Nat) : List Char → Option Nat
  | [] => some 0
  | cs => cs.foldl (fun n? c ↦ do
      let n ← n?
      let d ← hexValue? c
      if d < base then some (n * base + d) else none) (some 0)

/-- A number of an address of octets: hexadecimal after `0x`, octal after `0`, else decimal. -/
def addressNumber? : List Char → Option Nat
  | [] => none
  | '0' :: 'x' :: ds => number? 16 ds
  | '0' :: 'X' :: ds => number? 16 ds
  | '0' :: d :: ds => number? 8 (d :: ds)
  | ds => number? 10 ds

/-! ### Addresses of octets -/

/-- The labels of a domain name; a point at the end is left out. -/
def labels (name : List Char) : List (List Char) :=
  match (splitAtChar '.' name).reverse with
  | [] :: rest => rest.reverse
  | ls => ls.reverse

/-- The last label of the name is a number. -/
def endsInNumber (name : List Char) : Bool :=
  match (labels name).getLast? with
  | some label =>
    (!label.isEmpty && label.all Char.isDigit) || (addressNumber? label).isSome
  | none => false

/-- The address that numbers denote: all but the last are octets, and the last one fills the
rest. -/
def joinNumbers? (ns : List Nat) : Option Nat :=
  match ns.reverse with
  | [] => none
  | last :: front =>
    if 4 < ns.length || front.any (255 < ·) || Nat.pow 256 (4 - front.length) ≤ last then none
    else
      let high := front.reverse.foldl (fun n o ↦ n * 256 + o) 0
      some (high * Nat.pow 256 (4 - front.length) + last)

/-- The address of octets that a name denotes. -/
def address? (name : List Char) : Option Nat :=
  (labels name).mapM addressNumber? >>= joinNumbers?

/-- The text of an address of octets. -/
def octetsText (n : Nat) : String :=
  joinWith "." ([n / Nat.pow 256 3 % 256, n / Nat.pow 256 2 % 256, n / 256 % 256,
    n % 256].map Nat.repr)

/-! ### Addresses of groups -/

/-- One of the four octets at the end of an address of groups: decimal and without a leading
zero. -/
def tailOctet? (cs : List Char) : Option Nat :=
  match cs with
  | [] => none
  | '0' :: _ :: _ => none
  | cs => if cs.all Char.isDigit && cs.length ≤ 3 then (number? 10 cs).filter (· ≤ 255) else none

/-- The two groups that four octets at the end make. -/
def tailGroups? (cs : List Char) : Option (List Nat) :=
  match (splitAtChar '.' cs).mapM tailOctet? with
  | some [a, b, c, d] => some [a * 256 + b, c * 256 + d]
  | _ => none

/-- A group of one to four digits. -/
def group? (cs : List Char) : Option Nat :=
  if cs.isEmpty || 4 < cs.length then none else number? 16 cs

/-- The groups of a part without a gap; only the last one may be given as octets. -/
def groupList? : List (List Char) → Option (List Nat)
  | [] => some []
  | [part] => if part.contains '.' then tailGroups? part else (group? part).map fun g ↦ [g]
  | part :: parts => do
    let g ← group? part
    let gs ← groupList? parts
    return g :: gs

/-- The groups of a part that may be empty. -/
def groupsOf? (cs : List Char) : Option (List Nat) :=
  if cs.isEmpty then some [] else groupList? (splitAtChar ':' cs)

/-- What stands before and after the first pair of neighbouring colons. -/
def cutGap? : List Char → Option (List Char × List Char)
  | ':' :: ':' :: rest => some ([], rest)
  | [] => none
  | c :: cs => (cutGap? cs).map fun (before, after) ↦ (c :: before, after)

/-- The address of groups that a text denotes. A gap stands for at least one zero group. -/
def groupAddress? (cs : List Char) : Option (List Nat) :=
  match cutGap? cs with
  | none => (groupsOf? cs).filter fun gs ↦ gs.length == 8
  | some (before, after) =>
    if before.contains '.' then none
    else do
      let front ← groupsOf? before
      let back ← groupsOf? after
      if front.length + back.length < 8 then
        some (front ++ List.replicate (8 - front.length - back.length) 0 ++ back)
      else none

/-- The length of the run of zeros at the start. -/
def zeroRun (gs : List Nat) : Nat :=
  (gs.takeWhile (· == 0)).length

/-- The place and length of the first longest run of zeros, from place `i` on. -/
def longestRun : (i : Nat) → List Nat → Nat × Nat
  | i, [] => (i, 0)
  | i, g :: gs =>
    let here := zeroRun (g :: gs)
    let later := longestRun (i + 1) gs
    if later.2 ≤ here then (i, here) else later

/-- The text of a group: hexadecimal, without leading zeros. -/
def groupText (g : Nat) : String :=
  match (hexDigits 4 g).dropWhile (· == '0') with
  | [] => "0"
  | ds => String.ofList ds

/-- The text of an address of groups, without its brackets. -/
def groupsText (gs : List Nat) : String :=
  let (place, run) := longestRun 0 gs
  if run < 2 then joinWith ":" (gs.map groupText)
  else
    joinWith ":" ((gs.take place).map groupText) ++ "::" ++
      joinWith ":" ((gs.drop (place + run)).map groupText)

/-! ### Domain names -/

/-- The octets of a text in which an escape stands for one octet. -/
def unescape : List Char → List UInt8
  | [] => []
  | '%' :: a :: b :: rest =>
    match hexValue? a, hexValue? b with
    | some h, some l => (h * 16 + l).toUInt8 :: unescape rest
    | _, _ => Encoding.encodeChar '%' ++ unescape (a :: b :: rest)
  | c :: rest => Encoding.encodeChar c ++ unescape rest

/-- A host that is no address in brackets. -/
def ofName? (cs : List Char) : Option Host := do
  let points ← Encoding.decode8 ((unescape cs).map UInt8.toNat)
  if points.all Text.isScalar then
    let name ← Name.toAscii? points
    if name.isEmpty then none
    else if endsInNumber name then (address? name).map .octets
    else some (.domain (String.ofList name))
  else none

/-- An address in brackets. -/
def ofBrackets? (cs : List Char) : Option Host :=
  match cs.reverse with
  | ']' :: inside => (groupAddress? inside.reverse).map .groups
  | _ => none

/-- The host that a text denotes. -/
def parse? : List Char → Option Host
  | '[' :: rest => ofBrackets? rest
  | cs => ofName? cs

/-- The text of a host. -/
def text : Host → String
  | .domain name => name
  | .octets n => octetsText n
  | .groups gs => "[" ++ groupsText gs ++ "]"

end Host

end CatalogQuery
