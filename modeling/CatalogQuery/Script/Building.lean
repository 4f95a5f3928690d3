import CatalogQuery.Query.Update
import CatalogQuery.Script.Composition
import CatalogQuery.Script.Embedding

/-!
# Building requests of any values

Making, selecting and assigning. Where the values at hand are what the library works with, the
result is the one that the library gives (`Query.select`, `Query.withVariants`,
`Query.updateProduct` and the like). With any other values the same steps are taken on the parts of
the objects, and what a part lacks is a fault where it is needed.

The steps on parts are always taken, because they tell which parts of the result are the very parts
that were there before: `settle` keeps them if their content is that of the library's result.
-/

namespace CatalogQuery.Script

/-- What the library gives, if it works with the values at hand, else what the steps on parts give.
Equal contents are taken from the steps on parts. -/
def settle (given : Option (Outcome Value)) (stepwise : Outcome Value) : Outcome Value :=
  match given, stepwise with
  | none, stepwise => stepwise
  | some (.error failure), _ => .error failure
  | some (.ok v), .ok w => .ok (if v.sameContent w then w else v)
  | some (.ok v), .error _ => .ok v

namespace Value

/-! ### Selections -/

/-- A tuple with one more item. -/
def appended (items v : Value) : Outcome Value :=
  match items with
  | .tuple _ xs => .ok (ofTuple (xs ++ [v]))
  | _ => wrongClass

/-- A selection with a field at the end; the selection itself if an equal field is there. -/
def addToken (fields token : Value) : Outcome Value :=
  let given := do
    let s ← fields.fields?
    let t ← token.token?
    return Except.ok (ofFields (s.add t))
  settle given <|
    match fields with
    | .object _ .fields [tokens] => do
      if ← tokens.contains token then return fields
      else return make .fields [← appended tokens token]
    | _ => noSuchAttribute

/-- The first field of a selection with a name; nothing if there is none. -/
def findToken (fields name : Value) : Outcome Value :=
  match fields with
  | .object _ .fields [tokens] => do return (← findNamed name (← tokens.items)).getD null
  | _ => noSuchAttribute

/-- A selection of leaf fields with the given names. -/
def ofNames (names : List Value) : Outcome Value :=
  names.foldlM (fun s n ↦ addToken s (make .leaf [n])) (make .fields [ofTuple []])

/-- An object that selects a leaf field more. -/
def select (v : Value) (name : String) : Outcome Value := do
  return v.withPart "fields" (← addToken (← v.part "fields") (make .leaf [own name]))

/-- A query with a nested field more, unless a different field of its name is there. -/
def embedToken (v : Value) (call name : String) (token : Value) : Outcome Value := do
  let fields ← v.part "fields"
  let existing ← findToken fields (own name)
  if existing.isNull || existing.equal token then
    return v.withPart "fields" (← addToken fields token)
  else
    .error (.misuse (← v.kindName) call
      (some (name ++ " is already selected with a different sub-selection")))

/-- The kind is selected somewhere in a selection. -/
def reaches (fields : Value) (kind : EntityKind) : Outcome Bool := do
  (← fields.attribute? "reachable_kinds").contains (word (.entityKind kind))

/-- Refuses a query to be embedded that is not of the one kind that may be. -/
def checkEmbedded (v : Value) (kind : OperationKind) (call reason : String) : Outcome Unit := do
  let found ← v.attribute? "operation_kind"
  if found.operationKind? = some kind then return ()
  else .error (.misuse (← found.wire) call (some reason))

/-- A product query that selects variants. -/
def withVariants (v variants : Value) : Outcome Value := do
  if variants.isOf (.query .variant) then
    variants.checkEmbedded .connection "with_variants" "only a connection selection can be embedded"
  else if !variants.isOf (.selection .variant) then
    .error (.notASelection "variant" variants.className)
  let fields ← variants.part "fields"
  if ← reaches fields .product then .error (.cycle (.entityKind .product))
  else
    let token := make .node [own "variants", word (.entityKind .productVariant), fields,
      ← variants.part "connection"]
    v.embedToken "with_variants" "variants" token

/-- A variant query that selects its product. -/
def withProduct (v product : Value) : Outcome Value := do
  if product.isOf (.query .product) then
    product.checkEmbedded .read "with_product" "only a read selection can be embedded"
  else if !product.isOf (.selection .product) then
    .error (.notASelection "product" product.className)
  let fields ← product.part "fields"
  if ← reaches fields .productVariant then .error (.cycle (.entityKind .productVariant))
  else
    let token := make .node [own "product", word (.entityKind .product), fields, null]
    v.embedToken "with_product" "product" token

/-- What a product query takes as its variants. -/
def variants? (v : Value) : Option Query.Variants :=
  match v.variantSelection? with
  | some s => some (.selection s)
  | none => (queryOf? .variant v).map .query

/-- What a variant query takes as its product. -/
def owner? (v : Value) : Option Query.Owner :=
  match v.productSelection? with
  | some s => some (.selection s)
  | none => (queryOf? .product v).map .query

/-! ### Assignments -/

/-- Assignments with the first of a key replaced; none if the key is not there. -/
def replaceEntry (key entry : Value) : List Value → Outcome (Option (List Value))
  | [] => .ok none
  | x :: xs => do
    let (existing, _) ← x.pair
    if existing.equal key then return some (entry :: xs)
    else return (← replaceEntry key entry xs).map (x :: ·)

/-- Assignments with a value assigned to a key: in its place if the key is there, else at the
end. -/
def assignEntry (inputs key value : Value) : Outcome Value :=
  let given := do
    let i ← inputs.inputs?
    let k ← key.string?
    let d ← value.data?
    return Except.ok (ofInputs (i.assign k d))
  settle given <|
    match inputs with
    | .object _ .inputs [assignments] => do
      let entry := ofTuple [key, value]
      match ← replaceEntry key entry (← assignments.items) with
      | some entries => return make .inputs [ofTuple entries]
      | none => return make .inputs [← appended assignments entry]
    | _ => noSuchAttribute

/-- The value of a key in a list of assignments. -/
def entryValue (key : Value) : List Value → Outcome (Option Value)
  | [] => .ok none
  | x :: xs => do
    let (existing, value) ← x.pair
    if existing.equal key then return some value else entryValue key xs

/-! ### Changes -/

/-- A value as a text; a text stays what it is. -/
def toText (v : Value) : Outcome Value :=
  match v with
  | .atom m (.text t) => .ok (.atom m (.text t))
  | v => do return ofText (← v.plain)

/-- An amount stays what it is; any other value is read as one. -/
def toMoney (v : Value) : Outcome Value :=
  if v.isOf .money then .ok v else (Convert.money v.toDatum).map ofDatum

/-- A weight; a decimal number stays what it is. -/
def toWeight (v : Value) : Outcome Value :=
  match v with
  | .atom m (.float x) => .ok (.atom m (.float x))
  | v => (Convert.weight v.toDatum).map ofDatum

/-- Tags: a text is one tag, of any other collection each item is one as text. -/
def toTags (v : Value) : Outcome Value :=
  if v.toDatum.asText?.isSome then .ok (ofList [v])
  else do return ofList (← (← v.items).mapM toText)

/-- A location: an identifier of one, or its number. -/
def toLocation (v : Value) : Outcome Value := do
  match v with
  | .object _ .id (type :: _) =>
    if type.word? = some (.entityType .location) then return v
    else .error (Failure.identifier (.text (← v.plain)))
  | v => return ofId (← Convert.location v.toDatum)

/-- The quantity available at a location, from a pair of quantity and location. -/
def toQuantity (v : Value) : Outcome Value := do
  let (available, place) ← v.pair
  let location ← toLocation place
  let n ← readCount available.toDatum
  return .dict .fresh [(own "availableQuantity", ofAtom (.int n)), (own "locationId", location)]

/-- Available quantities by location. -/
def toQuantities (v : Value) : Outcome Value := do
  return ofList (← (← v.items).mapM toQuantity)

/-- The converted value of a change of a product. -/
def toProductChange (c : ProductChange) (v : Value) : Outcome Value :=
  match c with
  | .tags => toTags v
  | .status => (Convert.status v.toDatum).map ofDatum
  | _ => toText v

/-- The converted value of a change of a variant. -/
def toVariantChange (c : VariantChange) (v : Value) : Outcome Value :=
  match c with
  | .compareAtPrice | .price => toMoney v
  | .weight => toWeight v
  | .weightUnit => (Convert.weightUnit v.toDatum).map ofDatum
  | .inventoryQuantities => toQuantities v
  | .sku | .barcode => toText v

/-- A query with a converted value assigned to a key, if the query is an update. -/
def assignConverted (v : Value) (call key : String) (converted : Outcome Value) :
    Outcome Value := do
  let inputs ← v.part "inputs"
  let kind ← v.part "operation_kind"
  if kind.operationKind? = some .update && !inputs.isNull then
    return v.withPart "inputs" (← assignEntry inputs (own key) (← converted))
  else .error (.misuse (← kind.wire) call none)

/-- A product query with a change. -/
def updateProduct (v : Value) (c : ProductChange) (value : Value) : Outcome Value :=
  let given := do
    let q ← queryOf? .product v
    let d ← value.data?
    return (q.updateProduct c d).map fun r ↦ ofQuery ⟨.product, r⟩
  let converted := toProductChange c value
  settle given <| do
    if c.isText then let _ ← converted
    v.assignConverted c.call c.key converted

/-- A variant query with a change. -/
def updateVariant (v : Value) (c : VariantChange) (value : Value) : Outcome Value :=
  let given := do
    let q ← queryOf? .variant v
    let d ← value.data?
    return (q.updateVariant c d).map fun r ↦ ofQuery ⟨.variant, r⟩
  let converted := toVariantChange c value
  settle given <| do
    if c.isText then let _ ← converted
    v.assignConverted c.call c.key converted

/-! ### Making requests -/

/-- A bound of a list from two values. -/
def bounds (first last : Value) : Outcome Value := do
  let _ ← Connection.make first.toDatum last.toDatum
  return make .connection [first, last]

/-- A selection of variants from its parts. -/
def selectionOfVariants (fields connection : Value) : Outcome Value :=
  if connection.isNull then .error (Failure.bounds .null .null)
  else .ok (make (.selection .variant) [fields, connection])

/-- A query with the selection of the identifier only. -/
def newQuery (e : Entity) (kind : OperationKind) (identifier connection inputs : Value) : Value :=
  make (.query e) [idOnly, word (.operationKind kind), identifier, connection, inputs]

/-- An identifier of the type that an entity needs. -/
def checkedId (e : Entity) (kind : OperationKind) (call : String) (identifier : Value) :
    Outcome Value :=
  match identifier with
  | .object m .id (type :: parts) =>
    if type.word? = some (.entityType e.idType) then .ok (.object m .id (type :: parts))
    else (Query.checkIdentifier e kind call identifier.toDatum).map ofId
  | v => (Query.checkIdentifier e kind call v.toDatum).map ofId

/-- A query that reads one entity. -/
def forRead (e : Entity) (identifier : Value) : Outcome Value :=
  let given := identifier.data?.map fun d ↦ (Query.forRead e d).map fun q ↦ ofQuery ⟨e, q⟩
  settle given <| do
    return newQuery e .read (← checkedId e .read "for_read" identifier) null null

/-- A query that updates one entity. -/
def forUpdate (e : Entity) (identifier : Value) : Outcome Value :=
  let given := identifier.data?.map fun d ↦ (Query.forUpdate e d).map fun q ↦ ofQuery ⟨e, q⟩
  settle given <| do
    let i ← checkedId e .update "for_update" identifier
    return newQuery e .update i null (make .inputs [ofTuple [ofTuple [own "id", i]]])

/-- A query that lists entities within a given bound, or within the bound that two counts make. -/
def forConnection (e : Entity) (connection first last : Value) : Outcome Value :=
  let given := (absentOr connection? connection).map fun c ↦
    (Query.forConnection e c first.toDatum last.toDatum).map fun q ↦ ofQuery ⟨e, q⟩
  settle given <| do
    if connection.isNull then return newQuery e .connection null (← bounds first last) null
    else if first.isNull && last.isNull then return newQuery e .connection null connection null
    else .error (Failure.bounds first.toDatum last.toDatum)

/-- The bulk run of a list query. -/
def runBulk (v : Value) : Outcome Value :=
  let given := v.query?.map fun q ↦ (BulkQuery.run q).map ofBulk
  let label :=
    match v.kindName with
    | .ok name => name
    | .error _ => "unknown"
  settle given <|
    match v with
    | .object _ (.query _) (_ :: kind :: _) =>
      if kind.operationKind? = some .connection then
        .ok (make .bulk [word (.rootField .bulkOperationRunQuery), v,
          ofFields (.ofNames bulkFields)])
      else (BulkQuery.runOrRefuse none label).map ofBulk
    | _ => (BulkQuery.runOrRefuse none label).map ofBulk

end Value

end CatalogQuery.Script
