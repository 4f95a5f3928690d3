import CatalogQuery.Text.Basic
import CatalogQuery.Text.Word

/-!
# Masking of credentials

Five rules find credentials in a text: the value of the header that carries a token, tokens by their
beginnings, values that a name announces, bearer tokens, and the password of a web address. A rule
keeps what shows that a credential follows and puts a mask in place of the credential.

What a rule looks for is a sequence of parts, each of which takes as many characters as it can. No
part could leave a character to the part after it, because the class of a run never meets what
follows the run; so taking the most that fits loses no match. The matches of a rule are found from
left to right and do not overlap, and each rule is applied to what the one before it left.
-/

namespace CatalogQuery

namespace Masking

/-! ### Parts -/

/-- The small letter that a letter counts as where case is passed over. Four letters outside of
ASCII count as the letters that they are variants of. -/
def small (c : Char) : Char :=
  match c with
  | '\u0130' | '\u0131' => 'i'
  | '\u017F' => 's'
  | '\u212A' => 'k'
  | c => asciiLower c

/-- A blank. -/
def isBlank (c : Char) : Bool :=
  CodePoint.isBlank c.toNat

/-- A letter, digit or underscore of any script. -/
def isWord (c : Char) : Bool :=
  CodePoint.isWord c.toNat

/-- A part of what a rule looks for. -/
inductive Part where
  /-- The characters themselves. -/
  | exact (word : String)
  /-- A word in letters of either case. -/
  | word (word : String)
  /-- A character of a class, or none. -/
  | optional (p : Char → Bool)
  /-- A character of a class. -/
  | one (p : Char → Bool)
  /-- At least a number of characters of a class. -/
  | run (least : Nat) (p : Char → Bool)

/-- The characters of a word at the start of a text, and what follows them. -/
def takeWord (same : Char → Char → Bool) : (word cs : List Char) → Option (List Char × List Char)
  | [], cs => some ([], cs)
  | _ :: _, [] => none
  | w :: word, c :: cs =>
    if same w c then (takeWord same word cs).map fun (taken, rest) ↦ (c :: taken, rest) else none

/-- What a part takes from the start of a text, and what follows it. -/
def Part.take? : Part → List Char → Option (List Char × List Char)
  | .exact w, cs => takeWord (· == ·) w.toList cs
  | .word w, cs => takeWord (fun a b ↦ a == small b) w.toList cs
  | .optional p, cs =>
    match cs with
    | c :: rest => if p c then some ([c], rest) else some ([], cs)
    | [] => some ([], [])
  | .one p, cs =>
    match cs with
    | c :: rest => if p c then some ([c], rest) else none
    | [] => none
  | .run least p, cs =>
    let taken := cs.takeWhile p
    if taken.length < least then none else some (taken, cs.dropWhile p)

/-- What parts take one after the other from the start of a text, and what follows it. -/
def takeAll? : List Part → List Char → Option (List Char × List Char)
  | [], cs => some ([], cs)
  | part :: parts, cs =>
    (part.take? cs).bind fun (taken, rest) ↦
      (takeAll? parts rest).map fun (more, rest) ↦ (taken ++ more, rest)

end Masking

/-! ### Rules -/

/-- A rule that finds credentials. -/
structure MaskRule where
  /-- The match begins where a word begins or ends. -/
  atBoundary : Bool := false
  /-- The forms of what stands before the credential and is kept. -/
  kept : List (List Masking.Part)
  /-- The credential, with what is given up together with it. -/
  hidden : List Masking.Part
  /-- What is put in place of it. -/
  mask : String

namespace MaskRule

open Masking

/-- The place between two characters is where a word begins or ends. -/
def isBoundary (before : Option Char) (cs : List Char) : Bool :=
  before.any isWord != cs.head?.any isWord

/-- The match at the start of a text, after the character `before`: what is kept, and what follows
the match. -/
def find? (r : MaskRule) (before : Option Char) (cs : List Char) : Option (List Char × List Char) :=
  if r.atBoundary && !isBoundary before cs then none
  else
    r.kept.findSome? fun parts ↦
      (takeAll? parts cs).bind fun (kept, rest) ↦
        (takeAll? r.hidden rest).map fun (_, rest) ↦ (kept, rest)

/-- The text with the matches masked, where `skip` characters belong to a match that was masked
already. -/
def applyFrom (r : MaskRule) : (skip : Nat) → (before : Option Char) → List Char → List Char
  | _, _, [] => []
  | skip + 1, _, c :: cs => r.applyFrom skip (some c) cs
  | 0, before, c :: cs =>
    match r.find? before (c :: cs) with
    | some (kept, rest) =>
      kept ++ r.mask.toList ++ r.applyFrom (cs.length - rest.length) (some c) cs
    | none => c :: r.applyFrom 0 (some c) cs

/-- The text with the matches masked. -/
def apply (r : MaskRule) (cs : List Char) : List Char :=
  r.applyFrom 0 none cs

end MaskRule

namespace Masking

/-! ### The five rules -/

/-- A quotation mark. -/
def isQuote (c : Char) : Bool :=
  c == '\'' || c == '"'

/-- A sign between a name and its value. -/
def isAssignment (c : Char) : Bool :=
  c == ':' || c == '='

/-- A blank or a double quotation mark. -/
def isPadding (c : Char) : Bool :=
  c == '"' || isBlank c

/-- A character that a header value may hold. -/
def isHeaderValue (c : Char) : Bool :=
  !(isQuote c || isBlank c || c == ',' || c == '\x7d')

/-- A character of a secret in the alphabet of base sixty-four; letters of either case. -/
def isSecret (c : Char) : Bool :=
  (small c).isAlphanum || c == '+' || c == '/' || c == '='

/-- What stands in place of a credential. -/
def mask : String := "***MASKED***"

/-- The value of the header that carries a token. -/
def headerRule : MaskRule where
  kept := [[.word "x-shopify-access-token", .optional isQuote, .run 0 isBlank, .one isAssignment,
    .run 0 isBlank, .optional isQuote]]
  hidden := [.run 1 isHeaderValue]
  mask := mask

/-- The beginnings of tokens. -/
def tokenStarts : List String :=
  ["shpat_", "shpca_", "shppa_", "shpss_"]

/-- A token by its beginning. -/
def tokenRule : MaskRule where
  atBoundary := true
  kept := tokenStarts.map fun start ↦ [.exact start]
  hidden := [.run 1 Char.isAlphanum]
  mask := mask

/-- A value that a name announces. -/
def namedRule : MaskRule where
  kept := [
    [.word "api", .optional fun c ↦ c == '_' || c == '-', .word "key"],
    [.word "api", .optional fun c ↦ c == '_' || c == '-', .word "token"],
    [.word "token"], [.word "secret"]]
  hidden := [.run 0 isPadding, .one isAssignment, .run 0 isPadding,
    .run 20 fun c ↦ isSecret c || c == '_']
  mask := ": " ++ mask

/-- A bearer token. -/
def bearerRule : MaskRule where
  kept := [[.word "bearer", .run 1 isBlank]]
  hidden := [.run 20 isSecret]
  mask := mask

/-- The password of a web address. -/
def addressRule : MaskRule where
  kept := [[.word "http", .optional fun c ↦ small c == 's', .exact "://",
    .run 1 fun c ↦ !(c == ':' || c == '/' || isBlank c)]]
  hidden := [.exact ":", .run 1 fun c ↦ !(c == '@' || isBlank c), .exact "@"]
  mask := ":" ++ mask ++ "@"

/-- The rules in the order in which they are applied. -/
def rules : List MaskRule :=
  [headerRule, tokenRule, namedRule, bearerRule, addressRule]

/-- A text with its credentials masked. -/
def apply (s : String) : String :=
  String.ofList (rules.foldl (fun cs r ↦ r.apply cs) s.toList)

end Masking

end CatalogQuery
