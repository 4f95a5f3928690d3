import CatalogQuery.Document
import CatalogQuery.Script.Operation

/-!
# Selections of any values

A selection may be made of any values. `Branch` is a field as those meet it that go through a
selection: a nested field with the fields below it, or whatever else stands in the place of a field.
`Branch.ofItems?` goes through the items of a value.

The kinds below a selection, the search for cycles and the text in a document follow the rules for
selections of the library (`FieldSet.kinds`, `checkCycles`, `FieldSet.render`), and a value that is
no field is a fault where it is met.
-/

namespace CatalogQuery.Script

/-- A field of a selection. -/
inductive Branch where
  /-- Anything but a nested field. -/
  | leaf (field : Value)
  /-- A nested field, with what is below it if its selection can be iterated. -/
  | node (name kind selection connection : Value) (below : Option (List Branch))

namespace Branch

mutual

/-- The field that a value is. -/
def ofValue : Value → Branch
  | .object _ .node [name, kind, selection, connection] =>
    .node name kind selection connection (ofItems? selection)
  | v => .leaf v

/-- The fields that the items of a value are, if it can be iterated. -/
def ofItems? : Value → Option (List Branch)
  | .atom _ d => (Value.atomElements? d).map (List.map .leaf)
  | .list _ xs => some (ofValues xs)
  | .tuple _ xs => some (ofValues xs)
  | .set _ xs => some (ofValues xs)
  | .dict _ es => some (ofKeys es)
  | .object m cls parts =>
    if cls.isPayload then (Value.items? (.object m cls parts)).map (List.map .leaf)
    else if cls.isCollection then
      match parts with
      | [part] => ofItems? part
      | _ => none
    else none

/-- The fields that values are. -/
def ofValues : List Value → List Branch
  | [] => []
  | x :: xs => ofValue x :: ofValues xs

/-- The fields that the keys of a mapping are. -/
def ofKeys : List (Value × Value) → List Branch
  | [] => []
  | (k, _) :: es => ofValue k :: ofKeys es

end

/-! ### Kinds -/

mutual

/-- The kinds selected at or below a field. -/
def kinds : Branch → Outcome (List Value)
  | .leaf v => if v.isOf .leaf then .ok [] else noSuchAttribute
  | .node _ kind selection _ below =>
    if !kind.isHashable then wrongClass
    else if selection.isOf .fields then (kindsBelow below).map (kind :: ·)
    else if selection.isOf .leaf then .ok [kind]
    else noSuchAttribute

/-- The kinds selected below a nested field. -/
def kindsBelow : Option (List Branch) → Outcome (List Value)
  | none => wrongClass
  | some bs => kindsOfAll bs

/-- The kinds selected at or below fields. -/
def kindsOfAll : List Branch → Outcome (List Value)
  | [] => .ok []
  | b :: bs => do
    let first ← kinds b
    let others ← kindsOfAll bs
    return first ++ others

end

/-! ### Cycles -/

/-- The word that names the kind of a nested field. -/
def kindWord (kind : Value) : Outcome Word :=
  match kind.word? with
  | some w => .ok w
  | none => noSuchAttribute

mutual

/-- Refuses a field with a kind at or below it that occurs above. -/
def check (above : List Value) : Branch → Outcome Unit
  | .leaf _ => .ok ()
  | .node _ kind _ _ below =>
    if !kind.isHashable then wrongClass
    else if above.any fun k ↦ Value.alike k kind then do .error (.cycle (← kindWord kind))
    else checkBelow (kind :: above) below

/-- Refuses the fields below a nested field likewise. -/
def checkBelow (above : List Value) : Option (List Branch) → Outcome Unit
  | none => wrongClass
  | some bs => checkAll above bs

/-- Refuses fields likewise, in reading order. -/
def checkAll (above : List Value) : List Branch → Outcome Unit
  | [] => .ok ()
  | b :: bs => do
    check above b
    checkAll above bs

end

/-! ### Texts -/

/-- The name of a field as the text of characters that it has to be in a list. -/
def listedName (name : Value) : Option String :=
  name.toDatum.asText?.map Text.toString

/-- The argument that bounds a list in a document. -/
def boundText (connection : Value) : Outcome String := do
  match connection with
  | .object _ .connection [first, last] =>
    let (side, count) := if first.isNull then (ListEnd.last, last) else (ListEnd.first, first)
    return side.argument ++ ": " ++ (← count.plain).toString
  | _ => noSuchAttribute

/-- The names and texts of fields in a list; every one has to be a text. -/
def joined (parts : List (Option String)) : Outcome String :=
  if parts.all Option.isSome then .ok (joinWith "," (parts.filterMap id)) else wrongClass

mutual

/-- A field as it stands in a list of fields; none if it is no text. -/
def render : Branch → Outcome (Option String)
  | .leaf v => do return listedName (← v.nameOf)
  | .node name _ _ connection below => do
    let body ← renderBelow below
    let head := (← name.plain).toString
    if connection.isNull then return some (FieldToken.plainText head body)
    else return some (FieldToken.boundedText head (← boundText connection) body)

/-- The fields below a nested field as they stand in a document. -/
def renderBelow : Option (List Branch) → Outcome String
  | none => wrongClass
  | some bs => do joined (← renderAll bs)

/-- The fields of a list as they stand in it. -/
def renderAll : List Branch → Outcome (List (Option String))
  | [] => .ok []
  | b :: bs => do
    let first ← render b
    let others ← renderAll bs
    return first :: others

end

end Branch

namespace Value

/-- The kinds that a selection or a field selects, each once. -/
def reachableKinds (v : Value) : Outcome Value := do
  let kinds ← match v with
    | .object _ .fields [tokens] => Branch.kindsBelow (Branch.ofItems? tokens)
    | v => Branch.kinds (Branch.ofValue v)
  return .set .fresh (distinct kinds)

/-- Refuses a selection of an entity of a kind in which a kind occurs below itself. -/
def checkSelection (kind fields : Value) : Outcome Unit :=
  if kind.isHashable then Branch.checkBelow [kind] (Branch.ofItems? fields) else wrongClass

/-- A selection as it stands in a document. -/
def selectionText (fields : Value) : Outcome String :=
  Branch.renderBelow (Branch.ofItems? fields)

end Value

end CatalogQuery.Script
