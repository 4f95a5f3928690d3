import CatalogQuery.Script.Attribute
import CatalogQuery.Script.View

/-!
# Documents of any values

The document of a request is the one that the library makes (`Request.build`). A value that is no
request of the library may still be asked for its document: then the document is composed from its
attributes by the same rules, and what the value lacks is a fault where it is needed.
-/

namespace CatalogQuery.Script.Value

/-- The literal of a value. -/
def literal (v : Value) : Outcome String :=
  v.toDatum.literal

/-- The operation kind of a value, by the wire form of a word. -/
def kindName (v : Value) : Outcome String := do
  (← v.attribute? "operation_kind").wire

/-- The list selection of a value, with the name that it begins with. -/
def composeList (v : Value) (head : String) : Outcome String := do
  return listField head (← selectionText (← v.attribute? "fields"))

/-- The list selection of a value within its bound. -/
def composeBoundedList (v : Value) (operation : String) : Outcome String := do
  let connection ← v.attribute? "connection"
  if connection.isNull then lacking (← v.kindName) "no connection bounds"
  else v.composeList (boundedField operation (← Branch.boundText connection))

/-- The document that reads one entity; an identifier is asked for first. -/
def composeRead (v operation : Value) : Outcome String := do
  let identifier ← v.attribute? "identifier"
  if identifier.isNull then lacking (← v.kindName) "no identifier"
  else
    let head ← operation.wire
    let literal ← identifier.literal
    return readOperation head literal (← selectionText (← v.attribute? "fields"))

/-- An assignment as it stands in a document. -/
def composeAssignment (assignment : Value) : Outcome String := do
  let (key, value) ← assignment.pair
  return assignmentText (← key.plain).toString (← value.literal)

/-- The field of the payload of an update that holds an entity of a kind. -/
def payloadFieldOf (kind : Value) : Outcome String :=
  match [Entity.product, .variant].find? fun e ↦ kind.alike (word (.entityKind e.kind)) with
  | some e => .ok e.payloadField
  | none => Outcome.fault .missingKey

/-- The document that updates one entity. -/
def composeUpdate (v : Value) (operation : String) : Outcome String := do
  let inputs ← v.attribute? "inputs"
  if inputs.isNull then lacking (← v.kindName) "no input assignments"
  else
    let assignments ← (← inputs.items).mapM composeAssignment
    let field ← payloadFieldOf (← v.attribute? "entity_kind")
    return updateOperation operation assignments field (← selectionText (← v.attribute? "fields"))

/-- The document that runs a list in bulk. -/
def composeBulkRun (v : Value) (operation : String) : Outcome String := do
  let inner ← v.attribute? "inner"
  if inner.isNull then onlyLists
  else
    let kind ← inner.attribute? "operation_kind"
    if kind.operationKind? = some .connection then
      checkSelection (← inner.attribute? "entity_kind") (← inner.attribute? "fields")
      let list ← inner.composeList (← (← inner.attribute? "operation").wire)
      return bulkRunOperation operation list (← selectionText (← v.attribute? "fields"))
    else onlyLists

/-- The text of the document of a value with the given root field. -/
def composeText (v operation : Value) : Outcome String := do
  match operation.rootField? with
  | some .bulkOperationRunQuery => v.composeBulkRun (← operation.wire)
  | some .currentBulkOperation =>
    return currentBulkOperation (← operation.wire) (← selectionText (← v.attribute? "fields"))
  | _ =>
    match (← v.attribute? "operation_kind").operationKind? with
    | some .read => v.composeRead operation
    | some .connection => return listOperation (← v.composeBoundedList (← operation.wire))
    | _ => v.composeUpdate (← operation.wire)

/-- The document of a value, composed from its attributes. -/
def compose (v : Value) : Outcome Document := do
  checkSelection (← v.attribute? "entity_kind") (← v.attribute? "fields")
  let operation ← v.attribute? "operation"
  let text ← v.composeText operation
  match operation.rootField? with
  | some f => return ⟨text, f⟩
  | none => noSuchAttribute

/-- The document of a value. -/
def document (v : Value) : Outcome Document :=
  match v.request? with
  | some r => r.build
  | none => v.compose

end CatalogQuery.Script.Value
