import CatalogQuery.BulkQuery
import CatalogQuery.Literal

/-!
# Documents

The text of a request: one `query` or `mutation` operation with every value inlined. A selection is
a comma-separated list of fields; a nested field has its selection in braces, and a bounded one has
the nodes of its edges there. A selection that repeats an entity kind on a path from the root is
refused before anything is written (`checkCycles`).

A bulk run carries the list query as a block string, in which a run of three quotes is escaped.
-/

namespace CatalogQuery

/-! ### Cycles -/

namespace FieldToken

mutual

/-- The kind of the first nested field of a field, in reading order, that occurs above it. -/
def repeated? (above : List EntityKind) : FieldToken → Option EntityKind
  | .leaf _ => none
  | .node _ k xs _ => if above.contains k then some k else repeatedIn? (k :: above) xs

/-- The kind of the first nested field of a selection, in reading order, that occurs above it. -/
def repeatedIn? (above : List EntityKind) : List FieldToken → Option EntityKind
  | [] => none
  | x :: xs =>
    match repeated? above x with
    | some k => some k
    | none => repeatedIn? above xs

end

end FieldToken

/-- Refuses a selection of entity `kind` in which an entity kind occurs below itself. -/
def checkCycles (kind : EntityKind) (fields : FieldSet) : Outcome Unit :=
  match FieldToken.repeatedIn? [kind] fields.tokens with
  | some k => .error (.cycle (.entityKind k))
  | none => .ok ()

/-! ### Selections -/

/-- A text in braces. -/
def braced (body : String) : String :=
  "\x7b " ++ body ++ " \x7d"

/-- The selection of the nodes of a list. -/
def edgesOf (body : String) : String :=
  braced ("edges " ++ braced ("node " ++ braced body))

namespace FieldToken

/-- A nested field with the text of the fields below it. -/
def plainText (name body : String) : String :=
  name ++ " " ++ braced body

/-- A nested list with its bound and the text of the fields below it. -/
def boundedText (name bound body : String) : String :=
  name ++ "(" ++ bound ++ ") " ++ edgesOf body

mutual

/-- A field as it stands in a document. -/
def render : FieldToken → String
  | .leaf n => n
  | .node n _ xs none => plainText n (joinWith "," (renderAll xs))
  | .node n _ xs (some c) => boundedText n c.render (joinWith "," (renderAll xs))

/-- The fields of a selection as they stand in a document. -/
def renderAll : List FieldToken → List String
  | [] => []
  | x :: xs => render x :: renderAll xs

end

mutual

/-- Every bound at or below a field has a text within the digit limit. -/
def hasText : FieldToken → Bool
  | .leaf _ => true
  | .node _ _ xs c => hasTextAll xs && (c.all Connection.hasText)

/-- Every bound in a selection has a text within the digit limit. -/
def hasTextAll : List FieldToken → Bool
  | [] => true
  | x :: xs => hasText x && hasTextAll xs

end

end FieldToken

/-- A selection as it stands in a document. -/
def FieldSet.render (s : FieldSet) : String :=
  joinWith "," (FieldToken.renderAll s.tokens)

/-- A selection as it stands in a document, if its bounds have texts. -/
def FieldSet.text (s : FieldSet) : Outcome String :=
  if FieldToken.hasTextAll s.tokens then .ok s.render else Outcome.fault .badValue

/-- A field as it stands in a document, if its bounds have texts. -/
def FieldToken.text (t : FieldToken) : Outcome String :=
  if t.hasText then .ok t.render else Outcome.fault .badValue

/-- A bound as it stands in a document, if it has a text. -/
def Connection.text (c : Connection) : Outcome String :=
  if c.hasText then .ok c.render else Outcome.fault .badValue

/-! ### Block strings -/

/-- A text with every run of three quotes escaped, from left to right. -/
def escapeBlock : List Char → List Char
  | '"' :: '"' :: '"' :: cs => '\\' :: '"' :: '"' :: '"' :: escapeBlock cs
  | c :: cs => c :: escapeBlock cs
  | [] => []

/-- The block string of a text. -/
def blockString (s : String) : String :=
  "\"\"\"" ++ String.ofList (escapeBlock s.toList) ++ "\"\"\""

/-! ### Operations -/

/-- The field of the payload of an update that holds the changed entity. -/
def Entity.payloadField : Entity → String
  | .product => "product"
  | .variant => "productVariant"

/-- The document that reads one entity: its root field, the literal of the identifier, and the
selected fields. -/
def readOperation (operation literal body : String) : String :=
  "query " ++ braced (operation ++ "(id: " ++ literal ++ ") " ++ braced body)

/-- The document that updates one entity: its root field, the assignments, and the selected fields
in the field that holds the entity. -/
def updateOperation (operation : String) (assignments : List String) (payloadField body : String) :
    String :=
  "mutation " ++ braced (operation ++ "(input: " ++ braced (joinWith ", " assignments) ++ ") " ++
    braced (payloadField ++ " " ++ braced body))

/-- The document that lists entities. -/
def listOperation (list : String) : String :=
  "query " ++ braced list

/-- The list of the nodes with the selected fields; `operation` may have a bound. -/
def listField (operation body : String) : String :=
  operation ++ " " ++ edgesOf body

/-- A root field with the bound of its list. -/
def boundedField (operation bound : String) : String :=
  operation ++ "(" ++ bound ++ ")"

/-- The document that runs a list in bulk. -/
def bulkRunOperation (operation list body : String) : String :=
  "mutation " ++ braced (operation ++ "(query: " ++ blockString (braced list) ++ ") " ++
    braced ("bulkOperation " ++ braced body))

/-- The document that asks for the bulk operation in progress. -/
def currentBulkOperation (operation body : String) : String :=
  "query " ++ braced (operation ++ " " ++ braced body)

/-- An assignment of an update as it stands in a document. -/
def assignmentText (key literal : String) : String :=
  key ++ ": " ++ literal

/-- The assignments of an update as they stand in a document, up to the first without a literal. -/
def assignmentTexts : List (String × Datum) → Outcome (List String)
  | [] => .ok []
  | (key, value) :: es =>
    match value.literal with
    | .error failure => .error failure
    | .ok l => (assignmentTexts es).map (assignmentText key l :: ·)

/-- A query has no document, because of something that it lacks. -/
def lacking {α : Type} (kind reason : String) : Outcome α :=
  .error (.misuse kind "compile" (some reason))

/-- Only list queries are run in bulk. -/
def onlyLists {α : Type} : Outcome α :=
  .error (.misuse "bulk" "run_query" (some "a connection builder is required"))

namespace Query

variable {e : Entity}

/-- The list selection of a query, without a bound. -/
def listSelection (q : Query e) : Outcome String :=
  q.fields.text.map (listField (Vocabulary.wire q.operation))

/-- The list selection of a query, within its bound. -/
def boundedSelection (q : Query e) : Outcome String :=
  match q.connection with
  | none => lacking q.kindName "no connection bounds"
  | some c => do
    let bound ← c.text
    let body ← q.fields.text
    return listField (boundedField (Vocabulary.wire q.operation) bound) body

/-- The document that reads one entity. -/
def readText (q : Query e) : Outcome String :=
  match q.identifier with
  | none => lacking q.kindName "no identifier"
  | some i =>
    q.fields.text.map (readOperation (Vocabulary.wire q.operation) (Datum.textLiteral (.str i.gid)))

/-- The document that updates one entity. -/
def updateText (q : Query e) : Outcome String :=
  match q.inputs with
  | none => lacking q.kindName "no input assignments"
  | some inputs => do
    let assignments ← assignmentTexts inputs.entries
    let body ← q.fields.text
    return updateOperation (Vocabulary.wire q.operation) assignments e.payloadField body

/-- The document of a query whose selection has no cycle. -/
def text (q : Query e) : Outcome String :=
  match q.kind with
  | .read => q.readText
  | .connection => q.boundedSelection.map listOperation
  | .update => q.updateText

end Query

namespace BulkQuery

/-- The document that runs a list query in bulk. -/
def runText (b : BulkQuery) : Outcome String :=
  match b.inner with
  | none => onlyLists
  | some ⟨e, q⟩ =>
    if q.kind = .connection then do
      checkCycles e.kind q.fields
      let list ← q.listSelection
      let body ← b.fields.text
      return bulkRunOperation (Vocabulary.wire b.operation) list body
    else onlyLists

/-- The document that asks for the bulk operation in progress. -/
def currentText (b : BulkQuery) : Outcome String :=
  b.fields.text.map (currentBulkOperation (Vocabulary.wire b.operation))

/-- The document of a bulk operation whose selection has no cycle. A root field that belongs to
queries is read without an identifier, which is a misuse. -/
def text (b : BulkQuery) : Outcome String :=
  match b.operation with
  | .bulkOperationRunQuery => b.runText
  | .currentBulkOperation => b.currentText
  | _ => lacking (Vocabulary.wire b.kind) "no identifier"

end BulkQuery

/-- The document of a request. -/
def Request.compile (r : Request) : Outcome String := do
  checkCycles r.entityKind r.fields
  match r with
  | .query q => q.2.text
  | .bulk b => b.text

/-- A document and the shape of the reply that it expects. -/
structure Document where
  /-- The text of the document. -/
  text : String
  /-- The root field, which is the shape of the reply. -/
  operation : RootField
  deriving DecidableEq, Repr

namespace Document

/-- Whether the document reads or writes. -/
def operationType (d : Document) : OperationType :=
  d.operation.operationType

/-- The document as the body of a JSON request. -/
def toDatum (d : Document) : Datum :=
  .dict [(.str "query", .str d.text)]

end Document

/-- The document of a request with the shape of its reply. -/
def Request.build (r : Request) : Outcome Document :=
  r.compile.map fun text ↦ { text, operation := r.operation }

end CatalogQuery
