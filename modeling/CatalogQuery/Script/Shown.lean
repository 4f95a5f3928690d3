import CatalogQuery.Script.Attribute

/-!
# Values as they are shown

A step shows its result. `Shown` is what there is to show of a value: data, collections, and objects
with named fields. Some fields of an object are not its parts but follow from them, so a value may
have nothing to show: then the step that made it fails, with the fault that showing it meets.
-/

namespace CatalogQuery.Script

/-- What there is to show of a value. -/
inductive Shown where
  /-- Data, told apart by class. -/
  | datum (d : Datum)
  /-- Data as they are. -/
  | bare (d : Datum)
  | list (items : List Shown)
  | dict (entries : List (Shown × Shown))
  /-- An object with named fields. -/
  | object (cls : ObjectClass) (fields : List (String × Shown))
  /-- Named fields of no object. -/
  | record (fields : List (String × Shown))
  deriving Inhabited

namespace Shown

/-- A text as it is. -/
def str (s : String) : Shown := .bare (.str s)

/-- The text of a value as it is. -/
def textOf (t : Text) : Shown := .bare (.text t)

/-- A set of words: their wire forms in order. -/
def words (names : List String) : Shown :=
  .list ((names.mergeSort fun a b ↦ !(b < a)).map str)

end Shown

namespace Value

/-- What there is to show of an identifier. -/
def showId (type number space : Value) : Outcome Shown := do
  return .textOf (← gid type number space)

/-- What there is to show of an amount. -/
def showMoney (amount : Value) : Outcome Shown :=
  let d := amount.toDatum
  if d.hasText then .ok (.str d.display) else Outcome.fault .badValue

/-- What there is to show of a document. -/
def showDocument (text operation : Value) : Outcome (List (String × Shown)) := do
  let wire ← operation.wire
  let type ← property .document [text, operation] "operation_type"
  match text.toDatum.asText? with
  | some t =>
    return [("text", .bare text.toDatum), ("operation", .str wire),
      ("operation_type", .str (← type.wire)),
      ("dict", .dict [(.str "query", .datum text.toDatum)]), ("str", .textOf t)]
  | none => wrongClass

/-- The fields of what is shown of a query, besides its parts. -/
def showOperation (e : Entity) (kind : Value) : Outcome (List (String × Shown)) := do
  return [("kind", .str (← kind.wire)), ("operation", .str (← (← queryOperation e kind).wire))]

/-- The fields of what is shown of a nested field. -/
def nodeFields (name : Value) (kind : String) (connection : Shown) (fields : List Shown) : Shown :=
  .record [("name", .bare name.toDatum), ("kind", .str kind), ("connection", connection),
    ("fields", .list fields)]

/-- The fields of an entity that carry a value, with their names in order. -/
def fetchedFields (cls : ObjectClass) (shown : List Shown) : List (String × Shown) :=
  let values := (cls.partNames.zip shown).filter fun f ↦
    match f.2 with
    | .datum .null => false
    | _ => true
  [("fetched", .list (values.map fun f ↦ .str f.1)), ("values", .record values)]

mutual

/-- What there is to show of a value. -/
def show? : Value → Outcome Shown
  | .atom _ d => .ok (.datum d)
  | .list _ xs => do return .list (← showAll xs)
  | .tuple _ xs => do return .list (← showAll xs)
  | .dict _ es => do return .dict (← showEntries es)
  | .set _ xs => do return .words (← xs.mapM wire)
  | .object _ .id [type, number, space] => do
    return .object .id [("text", ← showId type number space)]
  | .object _ .money [amount] => do return .object .money [("text", ← showMoney amount)]
  | .object _ .connection [first, last] => do
    return .object .connection [("first", ← show? first), ("last", ← show? last)]
  | .object _ .leaf [name] => .ok (.object .leaf [("token", .bare name.toDatum)])
  | .object _ .node [name, kind, selection, connection] => do
    let wire ← kind.wire
    let bound ← show? connection
    return .object .node [("token", nodeFields name wire bound (← showTokens selection))]
  | .object _ .fields [tokens] => do
    return .object .fields [("tokens", .list (← showTokens tokens))]
  | .object _ .inputs [assignments] => do
    return .object .inputs [("entries", .list (← showAssignments assignments))]
  | .object _ (.selection .product) [fields] => do
    return .object (.selection .product) [("fields", ← show? fields), ("connection", .datum .null)]
  | .object _ (.selection .variant) [fields, connection] => do
    return .object (.selection .variant)
      [("fields", ← show? fields), ("connection", ← show? connection)]
  | .object _ (.query e) [fields, kind, identifier, connection, inputs] => do
    let head ← showOperation e kind
    return .object (.query e) (head ++ [("identifier", ← show? identifier),
      ("connection", ← show? connection), ("fields", ← show? fields), ("inputs", ← show? inputs)])
  | .object _ .bulk [operation, inner, fields] => do
    return .object .bulk [("operation", .str (← operation.wire)),
      ("kind", .str (Vocabulary.wire (bulkKind operation))), ("inner", ← show? inner),
      ("fields", ← show? fields)]
  | .object _ .document [text, operation] => do
    return .object .document (← showDocument text operation)
  | .object _ .nodes [nodes] => do
    let items ← showItems nodes
    return .object .nodes [("nodes", .list items), ("len", .bare (.int (← size nodes)))]
  | .object _ .success [operation, payload, extensions] => do
    return .object .success [("operation", .str (← operation.wire)), ("payload", ← show? payload),
      ("extensions", ← show? extensions)]
  | .object _ .bulkOperation parts => do
    let finished ← property .bulkOperation parts "is_finished"
    let fields := fetchedFields .bulkOperation (← showAll parts)
    return .object .bulkOperation (fields ++ [("finished", .bare finished.toDatum)])
  | .object _ (.entity e) parts => do
    return .object (.entity e) (fetchedFields (.entity e) (← showAll parts))
  | .object _ cls parts => do
    return .object cls (cls.partNames.zip (← showAll parts))

/-- What there is to show of the items of a list. -/
def showAll : List Value → Outcome (List Shown)
  | [] => .ok []
  | x :: xs => do
    let first ← show? x
    let others ← showAll xs
    return first :: others

/-- What there is to show of the entries of a mapping. -/
def showEntries : List (Value × Value) → Outcome (List (Shown × Shown))
  | [] => .ok []
  | (k, v) :: es => do
    let key ← show? k
    let value ← show? v
    let others ← showEntries es
    return (key, value) :: others

/-- What there is to show of the keys of a mapping. -/
def showKeys : List (Value × Value) → Outcome (List Shown)
  | [] => .ok []
  | (k, _) :: es => do
    let first ← show? k
    let others ← showKeys es
    return first :: others

/-- What there is to show of the items of a value. -/
def showItems : Value → Outcome (List Shown)
  | .atom _ d =>
    match d.elements? with
    | some xs => .ok (xs.map .datum)
    | none => wrongClass
  | .list _ xs => showAll xs
  | .tuple _ xs => showAll xs
  | .set _ xs => showAll xs
  | .dict _ es => showKeys es
  | .object _ cls parts =>
    if cls.isPayload then do
      return (cls.partNames.zip (← showAll parts)).map fun p ↦ .list [.datum (.str p.1), p.2]
    else if cls.isCollection then
      match parts with
      | [part] => showItems part
      | _ => wrongClass
    else wrongClass

/-- What there is to show of a field in a selection. -/
def showToken : Value → Outcome Shown
  | .object _ .node [name, kind, selection, connection] => do
    let wire ← kind.wire
    let bound ← show? connection
    return nodeFields name wire bound (← showTokens selection)
  | v => do return .bare (← v.nameOf).toDatum

/-- What there is to show of several fields. -/
def showTokenAll : List Value → Outcome (List Shown)
  | [] => .ok []
  | x :: xs => do
    let first ← showToken x
    let others ← showTokenAll xs
    return first :: others

/-- What there is to show of fields that are the keys of a mapping. -/
def showTokenKeys : List (Value × Value) → Outcome (List Shown)
  | [] => .ok []
  | (k, _) :: es => do
    let first ← showToken k
    let others ← showTokenKeys es
    return first :: others

/-- What there is to show of the fields that the items of a value are. -/
def showTokens : Value → Outcome (List Shown)
  | .atom _ d =>
    match d.elements? with
    | some [] => .ok []
    | some _ => noSuchAttribute
    | none => wrongClass
  | .list _ xs => showTokenAll xs
  | .tuple _ xs => showTokenAll xs
  | .set _ xs => showTokenAll xs
  | .dict _ es => showTokenKeys es
  | .object _ cls parts =>
    if cls.isPayload then noSuchAttribute
    else if cls.isCollection then
      match parts with
      | [part] => showTokens part
      | _ => wrongClass
    else wrongClass

/-- What there is to show of an assignment. -/
def showAssignment : Value → Outcome Shown
  | .tuple _ [k, v] => do return .list [.bare k.toDatum, ← show? v]
  | .list _ [k, v] => do return .list [.bare k.toDatum, ← show? v]
  | v => do
    let (k, w) ← v.pair
    return .list [.bare k.toDatum, .datum w.toDatum]

/-- What there is to show of several assignments. -/
def showAssignmentAll : List Value → Outcome (List Shown)
  | [] => .ok []
  | x :: xs => do
    let first ← showAssignment x
    let others ← showAssignmentAll xs
    return first :: others

/-- What there is to show of the assignments that the items of a value are. -/
def showAssignments : Value → Outcome (List Shown)
  | .list _ xs => showAssignmentAll xs
  | .tuple _ xs => showAssignmentAll xs
  | .object _ .inputs [part] => showAssignments part
  | .object _ .nodes [part] => showAssignments part
  | v => do
    (← v.items).mapM fun x ↦ do
      let (k, w) ← x.pair
      return .list [.bare k.toDatum, .datum w.toDatum]

end

end Value

end CatalogQuery.Script
