import CatalogQuery.Literal
import CatalogQuery.Script.Value

/-!
# Values as data

What the library sees of a value. `Value.toDatum` gives any value as a datum: an identifier and an
amount with the parts of one are such a datum, any other object is known from outside only, by its
class, its texts, its literal and its elements. `Value.data?` gives only values that are data
through and through, so that nothing is lost.
-/

namespace CatalogQuery.Script.Value

/-- The part of a canonical text that names the type of an identifier. -/
def typeText (type : Datum) : Text :=
  match type with
  | .word w => .str w.wire
  | d => d.plain

/-- The canonical text of an identifier with the given parts. -/
def gidText (type number space : Datum) : Text :=
  (((Text.str "gid://").append space.plain).append (.str "/")).append
    (((typeText type).append (.str "/")).append number.plain)

/-- The parts of an object that its text shows. -/
def shownParts (cls : ObjectClass) (parts : List Datum) : List (String × Datum) :=
  (cls.partNames.zip parts).filter fun p ↦ !cls.hiddenParts.contains p.1

/-- The parts of an object by name, as text. -/
def partTexts (cls : ObjectClass) (parts : List Datum) : List String :=
  (shownParts cls parts).map fun p ↦ p.1 ++ "=" ++ p.2.display

/-- What is known from outside of an object with the given parts. -/
def observe (cls : ObjectClass) (parts : List Datum) : Foreign :=
  let display := cls.name ++ "(" ++ joinWith ", " (partTexts cls parts) ++ ")"
  let hasText := (shownParts cls parts).all fun p ↦ p.2.hasText
  let known : Foreign := { className := cls.name, display, hasText }
  match cls, parts with
  | .id, [type, number, space] =>
    let gid := gidText type number space
    { known with plain := gid, literal? := some (Datum.textLiteral gid) }
  | .money, [amount] =>
    { known with plain := .str amount.display, literal? := some amount.display }
  | .document, text :: _ => { known with plain := text.plain }
  | cls, parts =>
    if cls.isPayload then { known with plain := .str (joinWith " " (partTexts cls parts)) }
      else known

/-- The elements of an object with the given parts, if it can be iterated. -/
def observeElements (cls : ObjectClass) (parts : List Datum) : Option (List Datum) :=
  if cls.isPayload then some ((cls.partNames.zip parts).map fun p ↦ .tuple [.str p.1, p.2])
  else if cls.isCollection then parts.head?.bind Datum.elements?
  else none

/-- An object with the given parts as a datum: an identifier or an amount if the parts are those of
one, else what is known from outside. -/
def asDatum (cls : ObjectClass) (parts : List Datum) : Datum :=
  match cls, parts with
  | .id, [.word (.entityType t), .str number, .str space] => .id ⟨t, number, space⟩
  | .money, [.float x] => .money ⟨x⟩
  | cls, parts => .foreign (observe cls parts) (observeElements cls parts)

/-- What is known from outside of a set. -/
def observeSet (members : List Datum) : Foreign :=
  { className := "frozenset"
    display := "frozenset(" ++
      (if members.isEmpty then ""
       else "\x7b" ++ joinWith ", " (members.map Datum.display) ++ "\x7d") ++ ")"
    hasText := members.all Datum.hasText }

mutual

/-- A value as a datum. -/
def toDatum : Value → Datum
  | .atom _ d => d
  | .list _ xs => .list (toData xs)
  | .tuple _ xs => .tuple (toData xs)
  | .dict _ es => .dict (toDataEntries es)
  | .set _ xs =>
    let members := toData xs
    .foreign (observeSet members) (some members)
  | .object _ cls xs => asDatum cls (toData xs)

/-- The items of a list as data. -/
def toData : List Value → List Datum
  | [] => []
  | x :: xs => toDatum x :: toData xs

/-- The entries of a mapping as data. -/
def toDataEntries : List (Value × Value) → List (Datum × Datum)
  | [] => []
  | (k, v) :: es => (toDatum k, toDatum v) :: toDataEntries es

end

mutual

/-- A value that is data through and through. -/
def isData : Value → Bool
  | .atom .. => true
  | .list _ xs => areData xs
  | .tuple _ xs => areData xs
  | .dict _ es => areDataEntries es
  | .set .. => false
  | .object m cls xs =>
    match toDatum (.object m cls xs) with
    | .id _ | .money _ => true
    | _ => false

/-- The items of a list are data. -/
def areData : List Value → Bool
  | [] => true
  | x :: xs => isData x && areData xs

/-- The entries of a mapping are data. -/
def areDataEntries : List (Value × Value) → Bool
  | [] => true
  | (k, v) :: es => isData k && isData v && areDataEntries es

end

/-- The datum that a value is, if it is data through and through. -/
def data? (v : Value) : Option Datum :=
  if v.isData then some v.toDatum else none

/-- A value as text, if it has one. -/
def plain (v : Value) : Outcome Text :=
  let d := v.toDatum
  if d.hasText then .ok d.plain else Outcome.fault .badValue

end CatalogQuery.Script.Value
