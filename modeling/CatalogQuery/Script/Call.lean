import CatalogQuery.Script.Arguments
import CatalogQuery.Script.Building

/-!
# Calls of a script

What can be called by name without a receiver: the functions that make and check documents, and
everything that makes a value. A class makes an object from its parts without looking at them, but
for bounds of lists, which are checked.
-/

namespace CatalogQuery.Script

namespace Value

/-! ### Documents -/

/-- The fields of the library that the items of a value are. -/
def listedTokens? (v : Value) : Option FieldSet :=
  (v.items?.bind tokens?).map FieldSet.mk

/-- The text of a selection. -/
def renderFields (v : Value) : Outcome String :=
  match v.listedTokens? with
  | some s => s.text
  | none => selectionText v

/-- The text of a nested field. -/
def renderComposite (v : Value) : Outcome String :=
  match v.token? with
  | some (.node n k xs c) => (FieldToken.node n k xs c).text
  | _ => do
    match ← Branch.render (.ofValue v) with
    | some s => if v.isOf .node then return s else noSuchAttribute
    | none => noSuchAttribute

/-- Checks a selection for cycles. -/
def checkFields (kind fields : Value) : Outcome Unit :=
  match kind.entityKind?, fields.listedTokens? with
  | some k, some s => checkCycles k s
  | _, _ => checkSelection kind fields

end Value

/-! ### Making objects -/

/-- A parameter that may be absent. -/
def Parameter.absent (name : String) : Parameter := .optional name .null

/-- The parameters of a class: its parts, some with defaults. A class of payloads has none, since
payloads are only read. -/
def ObjectClass.parameters : ObjectClass → Option (List Parameter)
  | .id => some [.required "entity_type", .required "number",
      .optional "namespace" (.own Id.defaultSpace)]
  | .money => some [.required "amount"]
  | .connection => some [.absent "first", .absent "last"]
  | .leaf => some [.required "name"]
  | .node => some [.required "name", .required "entity_kind", .required "selection",
      .absent "connection"]
  | .fields => some [.optional "tokens" (.ofTuple [])]
  | .inputs => some [.optional "assignments" (.ofTuple [])]
  | .selection .product => some [.optional "fields" .idOnly]
  | .selection .variant => some [.optional "fields" .idOnly, .absent "connection"]
  | .query _ => some [.optional "fields" .idOnly,
      .optional "operation_kind" (.word (.operationKind .read)), .absent "identifier",
      .absent "connection", .absent "inputs"]
  | .bulk => some [.required "operation", .absent "inner",
      .optional "fields" (.ofFields (.ofNames bulkFields))]
  | .document => some [.required "text", .required "operation"]
  | .nodes => some [.optional "nodes" (.ofTuple [])]
  | .entity e => some (.required "id" :: ((ObjectClass.entity e).partNames.tail.map .absent))
  | .bulkOperation => some [.required "id", .required "status", .absent "error_code",
      .absent "object_count", .absent "url"]
  | .success => some [.required "operation", .required "payload", .absent "extensions"]
  | .errors => some [.required "errors", .absent "data"]
  | _ => none

/-- Makes an object of a class from the values of its parameters. -/
def ObjectClass.construct (cls : ObjectClass) (parts : List Value) : Outcome Value :=
  match cls, parts with
  | .connection, [first, last] => Value.bounds first last
  | .selection .variant, [selected, bound] => Value.selectionOfVariants selected bound
  | cls, parts => .ok (.make cls parts)

/-- The classes of objects. -/
def ObjectClass.all : List ObjectClass :=
  [.id, .money, .connection, .leaf, .node, .fields, .inputs, .selection .product,
    .selection .variant, .query .product, .query .variant, .bulk, .document, .nodes,
    .entity .product, .entity .variant, .bulkOperation, .success, .errors]

/-- The class of a name. -/
def ObjectClass.ofName? (name : String) : Option ObjectClass :=
  all.find? fun cls ↦ cls.name == name

/-- The word of a vocabulary with the wire form that a value is. -/
def wordOf? (title : String) (v : Value) : Option Word :=
  match v.toDatum.asText? with
  | some (.str s) => Word.all.find? fun w ↦ w.title == title && w.wire == s
  | _ => none

/-- A word of a vocabulary from its wire form; anything else is not acceptable. -/
def makeWord (title : String) (a : Arguments) : Outcome Value := do
  match wordOf? title (← a.one "value") with
  | some w => return .word w
  | none => Outcome.fault .badValue

/-- Reads a word from its wire form; anything else is a bad scalar. -/
def readWord (α : Type) [Vocabulary α] (wrap : α → Word) (a : Arguments) : Outcome Value := do
  return .word (wrap (← Vocabulary.read α (← a.one "tag").toDatum))

/-- Makes an identifier from a type and a number. -/
def makeTypedId (a : Arguments) : Outcome Value := do
  match ← a.bind [.required "entity_type", .required "raw_id"] with
  | [type, raw] => return .ofId (← Id.make type.toDatum raw.toDatum)
  | _ => wrongClass

/-- Makes an identifier of a known type. -/
def makeIdOf (t : EntityType) (a : Arguments) : Outcome Value := do
  return .ofId (← Id.ofType t (← a.one "raw_id").toDatum)

/-- Makes a selection of variants with a bound from one end. -/
def makeBounded (ends : Value → Outcome Value) (a : Arguments) : Outcome Value := do
  Value.selectionOfVariants .idOnly (← ends (← a.one "count"))

/-- Makes a list query. -/
def makeList (e : Entity) (a : Arguments) : Outcome Value := do
  let vs ← a.bind [.absent "connection", { Parameter.absent "first" with onlyNamed := true },
    { Parameter.absent "last" with onlyNamed := true }]
  match vs with
  | [connection, first, last] => Value.forConnection e connection first last
  | _ => wrongClass

/-- Makes a selection of leaf fields, whose names are given by position. -/
def makeNames (a : Arguments) : Outcome Value :=
  if a.named.isEmpty then Value.ofNames a.positional else wrongClass

/-! ### Calls by name -/

/-- What is called by the name of a class and a name of that class. -/
def classMethod? (owner method : String) : Option (Arguments → Outcome Value) :=
  match owner, method with
  | "Id", "for_type" => some makeTypedId
  | "Id", "product" => some (makeIdOf .product)
  | "Id", "product_variant" => some (makeIdOf .productVariant)
  | "Id", "location" => some (makeIdOf .location)
  | "Id", "bulk_operation" => some (makeIdOf .bulkOperation)
  | "Id", "parse" => some fun a ↦ do return .ofId (← Id.parse (← a.one "gid").toDatum)
  | "Money", "parse" => some fun a ↦ do
    return .ofMoney .fresh (← Money.parse (← a.one "raw").toDatum)
  | "Connection", "first" => some fun a ↦ do Value.bounds (← a.one "count") .null
  | "Connection", "last" => some fun a ↦ do Value.bounds .null (← a.one "count")
  | "VariantSelection", "first" => some (makeBounded fun count ↦ Value.bounds count .null)
  | "VariantSelection", "last" => some (makeBounded fun count ↦ Value.bounds .null count)
  | "FieldSelectionSet", "of" => some makeNames
  | "ProductQueryBuilder", "for_read" => some fun a ↦ do
    Value.forRead .product (← a.one "identifier")
  | "ProductQueryBuilder", "for_update" => some fun a ↦ do
    Value.forUpdate .product (← a.one "identifier")
  | "ProductQueryBuilder", "for_connection" => some (makeList .product)
  | "ProductVariantQueryBuilder", "for_read" => some fun a ↦ do
    Value.forRead .variant (← a.one "identifier")
  | "ProductVariantQueryBuilder", "for_update" => some fun a ↦ do
    Value.forUpdate .variant (← a.one "identifier")
  | "ProductVariantQueryBuilder", "for_connection" => some (makeList .variant)
  | "BulkOperationBuilder", "run_query" => some fun a ↦ do Value.runBulk (← a.one "builder")
  | "BulkOperationBuilder", "current" => some fun a ↦ do
    a.none
    return .ofBulk .current
  | "WeightUnit", "from_wire" => some (readWord WeightUnit .weightUnit)
  | "ProductStatus", "from_wire" => some (readWord ProductStatus .productStatus)
  | "BulkOperationStatus", "from_wire" => some (readWord BulkStatus .bulkStatus)
  | _, _ => none

/-- Calls of functions, and of classes that make their values. -/
def callFunction (name : String) (a : Arguments) : Outcome Value := do
  match name with
  | "encode_literal" => return .str (← (← a.one "value").literal)
  | "compile_document" => return .str (← (← a.one "builder").document).text
  | "render_fields" => return .str (← (← a.one "fields").renderFields)
  | "render_composite" => return .str (← (← a.one "token").renderComposite)
  | "check_cycles" =>
    match ← a.bind [.required "entity_kind", .required "fields"] with
    | [kind, fields] => do
      Value.checkFields kind fields
      return .null
    | _ => wrongClass
  | name =>
    match ObjectClass.ofName? name with
    | some cls =>
      match cls.parameters with
      | some ps => cls.construct (← a.bind ps)
      | none => noSuchAttribute
    | none =>
      if Word.all.any fun w ↦ w.title == name then makeWord name a else noSuchAttribute

/-- Calls what a name stands for: a function, a class, or a name of a class. A word cannot be
called. -/
def call (name : String) (a : Arguments) : Outcome Value :=
  match splitAtChar '.' name.toList with
  | [owner, method] =>
    match classMethod? (String.ofList owner) (String.ofList method) with
    | some f => f a
    | none => if (Word.ofFullName? name).isSome then wrongClass else noSuchAttribute
  | _ => callFunction name a

end CatalogQuery.Script
