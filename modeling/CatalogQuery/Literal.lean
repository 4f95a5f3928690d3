import CatalogQuery.Failure
import CatalogQuery.Json.StringLiteral

/-!
# Literals

The text of a value inside a document. A text is an ASCII string literal, an identifier the string
literal of its canonical form; a word stands bare, an amount and a number are written in decimal;
lists and tuples are bracketed, mappings are braced with bare keys. Octets have no literal, nor has
a number that is not finite; an object of another class has the one that it brings, if any. An
amount is written as it is.
-/

namespace CatalogQuery.Datum

/-- The string literal of a text. -/
def textLiteral (t : Text) : String :=
  Json.asciiLiteral t.points

/-- The key of a mapping as it stands in a document. -/
def keyLiteral (key : Datum) : Outcome String :=
  if key.hasText then .ok key.plain.toString else Outcome.fault .badValue

/-- A value without a literal. -/
def refuseLiteral (d : Datum) : Outcome String :=
  .error (Failure.showing [d] (.noLiteral d))

mutual

/-- The literal of a value. -/
def literal : Datum → Outcome String
  | .word w => .ok w.wire
  | .id i => .ok (textLiteral (.str i.gid))
  | .money m => .ok m.text
  | .bool b => .ok (if b then "true" else "false")
  | .int n => if integerFits n then .ok (integerText n) else Outcome.fault .badValue
  | .float x => if x.isFinite then .ok x.display else .error (.notFinite x)
  | .text t => .ok (textLiteral t)
  | .list xs => (literals xs).map fun ls ↦ "[" ++ joinWith ", " ls ++ "]"
  | .tuple xs => (literals xs).map fun ls ↦ "[" ++ joinWith ", " ls ++ "]"
  | .dict es => (entryLiterals es).map fun ls ↦ "\x7b " ++ joinWith ", " ls ++ " \x7d"
  | .null => .ok "null"
  | .octets bs => refuseLiteral (.octets bs)
  | .foreign o elements =>
    match o.literal? with
    | some l => if o.hasText then .ok l else Outcome.fault .badValue
    | none => refuseLiteral (.foreign o elements)

/-- The literals of the elements of a list, up to the first that has none. -/
def literals : List Datum → Outcome (List String)
  | [] => .ok []
  | x :: xs =>
    match literal x with
    | .error failure => .error failure
    | .ok l => (literals xs).map (l :: ·)

/-- The entries of a mapping, up to the first that has no literal. -/
def entryLiterals : List (Datum × Datum) → Outcome (List String)
  | [] => .ok []
  | (k, v) :: es =>
    match keyLiteral k with
    | .error failure => .error failure
    | .ok key =>
      match literal v with
      | .error failure => .error failure
      | .ok l => (entryLiterals es).map ((key ++ ": " ++ l) :: ·)

end

end CatalogQuery.Datum
