import CatalogQuery.Script.Branch

/-!
# Attributes

What a value can be asked for by name: the parts of an object, and what follows from them. A name
that a value does not have is a fault of its own kind.
-/

namespace CatalogQuery.Script.Value

/-- Attributes of words. -/
def wordAttribute (w : Word) : String → Outcome Value
  | "value" => .ok (own w.wire)
  | "name" => .ok (own w.label)
  | "operation_type" =>
    match w with
    | .rootField f => .ok (word (.operationType f.operationType))
    | _ => noSuchAttribute
  | _ => noSuchAttribute

/-- The wire form of a value that is a word. -/
def wire (v : Value) : Outcome String :=
  match v.word? with
  | some w => .ok w.wire
  | none => noSuchAttribute

/-- The canonical text of an identifier with the given parts; its type is a word. -/
def gid (type number space : Value) : Outcome Text := do
  let _ ← space.plain
  let _ ← type.wire
  let _ ← number.plain
  return gidText type.toDatum number.toDatum space.toDatum

/-- The root fields of the documents about an entity by operation kind. -/
def operationTags (e : Entity) : List (Value × Value) :=
  (Vocabulary.all : List OperationKind).map fun k ↦
    (word (.operationKind k), word (.rootField (e.rootField k)))

/-- The root field of the document of a query of the given operation kind. -/
def queryOperation (e : Entity) (kind : Value) : Outcome Value :=
  item (.dict .shared (operationTags e)) kind

/-- The operation kind of a bulk operation with the given root field. -/
def bulkKind (operation : Value) : OperationKind :=
  if operation.word? = some (.rootField .bulkOperationRunQuery) then .update else .read

/-- The bound of a list as an argument: its name and its count. -/
def boundArgument (first last : Value) : Value :=
  if first.isNull then ofTuple [own ListEnd.last.argument, last]
  else ofTuple [own ListEnd.first.argument, first]

/-- The words for bulk operations that will not change any more. -/
def finishedWords : List Value :=
  [BulkStatus.completed, .canceled, .expired, .failed].map fun w ↦ word (.bulkStatus w)

/-- What follows from the parts of an object. -/
def property (cls : ObjectClass) (parts : List Value) (name : String) : Outcome Value :=
  match cls, parts, name with
  | .id, [type, number, space], "gid" => do return ofText (← gid type number space)
  | .connection, [first, last], "argument" => .ok (boundArgument first last)
  | .leaf, _, "reachable_kinds" | .node, _, "reachable_kinds" | .fields, _, "reachable_kinds" =>
    reachableKinds (.object .fresh cls parts)
  | .fields, [tokens], "names" => do return ofTuple (← (← tokens.items).mapM nameOf)
  | .inputs, [assignments], "keys" => do
    return ofTuple (← (← assignments.items).mapM fun a ↦ a.pair.map Prod.fst)
  | .selection e, _, "entity_kind" | .query e, _, "entity_kind" => .ok (word (.entityKind e.kind))
  | .query e, _, "entity_type" => .ok (word (.entityType e.idType))
  | .query e, _, "operation_tags" => .ok (.dict .shared (operationTags e))
  | .query e, [_, kind, _, _, _], "operation" => queryOperation e kind
  | .bulk, _, "entity_kind" => .ok (word (.entityKind .bulkOperation))
  | .bulk, operation :: _, "operation_kind" => .ok (word (.operationKind (bulkKind operation)))
  | .bulk, _, "identifier" | .bulk, _, "connection" | .bulk, _, "inputs" => .ok null
  | .document, [_, .atom _ (.word w)], "operation_type" => wordAttribute w "operation_type"
  | .bulkOperation, _ :: status :: _, "is_finished" =>
    .ok (bool (finishedWords.any fun w ↦ status.alike w))
  | _, _, _ => noSuchAttribute

/-- An attribute of a value. -/
def attribute? (v : Value) (name : String) : Outcome Value :=
  match v with
  | .atom _ (.word w) => wordAttribute w name
  | .object _ cls parts =>
    match v.part? name with
    | some p => .ok p
    | none => property cls parts name
  | _ => noSuchAttribute

/-- The names of the parts of an entity that carry a value. -/
def fetched (v : Value) : List String :=
  match v with
  | .object _ cls parts =>
    ((cls.partNames.zip parts).filter fun p ↦ !p.2.isNull).map Prod.fst
  | _ => []

end CatalogQuery.Script.Value
