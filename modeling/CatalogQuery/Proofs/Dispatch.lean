import CatalogQuery.Proofs.Cycles
import CatalogQuery.Proofs.Document
import CatalogQuery.Proofs.LiteralReading

/-!
# Requests end with a document or are refused

A request need not come from the calls that make queries: it can be a query of any operation kind or
a bulk operation of any root field, with or without the identifier, the bound, the input or the list
query that its document would need. `Request.Ends` lists how compiling such a request can end, each
end with what is so of the request then.

Two coordinates decide which document is written, the root field and the operation kind, and they
come from tables that need not hold every key. `Request.dispatch` is that decision on what all
requests share, with lookups that can fail. It is `Request.compile` (`Request.dispatch_eq_compile`),
in which a table is a function of the entity: no key is looked up that is not there, and no query is
asked for the query inside of it.

## Why the tables may miss a key

In the library an operation is chosen by looking keys up, and a lookup in a table that does not hold
its key is an error of a kind that no caller expects. To say that this never happens, the lookups
have to be able to fail. The dispatch of this module is therefore written with partial tables and
with attributes that only some requests have, and is then proved equal to the total functions that
compile. That proof is a case analysis on entities and operation kinds, and each case computes.

## The ends

`Request.Ends` is an inductive predicate on the outcome, so that a request for which none of its
five ends is possible would have no outcome at all. `Request.ends_compile` follows the dispatch:
first the check of the selection, then, for a query, its operation kind, and for a bulk operation
its root field. Each kind of document has one lemma of the form `ends_…`, in which only what this
document needs has to be named. They all finish in `ends_map_fields`, since the selected fields are
written last.
-/

namespace CatalogQuery

open FieldToken

/-! ### The tables

They are written with the keys that the library has in them, and a lookup goes through them as
through any list of pairs. That every key is there has to be shown, once for each table.
-/

/-- The value of a key in a table; a key that is not there is a fault. -/
def lookUp {α β : Type} [BEq α] (key : α) (table : List (α × β)) : Outcome β :=
  match table.lookup key with
  | some b => .ok b
  | none => Outcome.fault .missingKey

/-- The root fields of the queries for an entity. -/
def Entity.rootFields : Entity → List (OperationKind × RootField)
  | .product => [(.read, .product), (.update, .productUpdate), (.connection, .products)]
  | .variant =>
    [(.read, .productVariant), (.update, .productVariantUpdate), (.connection, .productVariants)]

/-- The fields of payloads that hold the changed entity. -/
def payloadFields : List (EntityKind × String) :=
  [(.product, "product"), (.productVariant, "productVariant")]

/-- Every operation kind has a root field. -/
theorem lookUp_rootFields (e : Entity) (kind : OperationKind) :
    lookUp kind e.rootFields = .ok (e.rootField kind) := by
  cases e <;> cases kind <;> rfl

/-- A bulk operation has no field there; an entity has one. -/
theorem lookUp_payloadFields (e : Entity) : lookUp e.kind payloadFields = .ok e.payloadField := by
  cases e <;> rfl

/-! ### The dispatch

Every part of the document is asked of the request, whether it is a query or a bulk operation. What
only one of the two has is a lookup that can fail (`innerQuery`), so agreeing with the compilation
includes that it is never made of the other.
-/

namespace Request

/-- The root field: a query looks it up under its operation kind, a bulk operation has it. -/
def rootField : Request → Outcome RootField
  | .query q => lookUp q.2.kind q.1.rootFields
  | .bulk b => .ok b.operation

/-- The query inside of a bulk operation; a query has no attribute of that name. -/
def innerQuery : Request → Outcome (Option SomeQuery)
  | .query _ => Outcome.fault .noSuchAttribute
  | .bulk b => .ok b.inner

/-- The list of a request, with or without its bound. -/
def listSelection (r : Request) (bounded : Bool) : Outcome String := do
  let root ← r.rootField
  if bounded then
    match r.connection with
    | none => lacking (Vocabulary.wire r.kind) "no connection bounds"
    | some c => do
      let bound ← c.text
      let body ← r.fields.text
      return listField (boundedField (Vocabulary.wire root) bound) body
  else r.fields.text.map (listField (Vocabulary.wire root))

/-- The document that reads one entity. -/
def readText (r : Request) (root : RootField) : Outcome String :=
  match r.identifier with
  | none => lacking (Vocabulary.wire r.kind) "no identifier"
  | some i =>
    r.fields.text.map (readOperation (Vocabulary.wire root) (Datum.textLiteral (.str i.gid)))

/-- The document that updates one entity. -/
def updateText (r : Request) (root : RootField) : Outcome String :=
  match r.inputs with
  | none => lacking (Vocabulary.wire r.kind) "no input assignments"
  | some inputs => do
    let assignments ← assignmentTexts inputs.entries
    let payloadField ← lookUp r.entityKind payloadFields
    let body ← r.fields.text
    return updateOperation (Vocabulary.wire root) assignments payloadField body

/-- The document that runs a list query in bulk. -/
def runText (r : Request) (root : RootField) : Outcome String := do
  match ← r.innerQuery with
  | none => onlyLists
  | some q =>
    if q.2.kind = .connection then do
      checkCycles q.1.kind q.2.fields
      let list ← (Request.query q).listSelection false
      let body ← r.fields.text
      return bulkRunOperation (Vocabulary.wire root) list body
    else onlyLists

/-- The document of a request by its root field, if that belongs to bulk operations, and else by its
operation kind. -/
def textAs (r : Request) (root : RootField) : Outcome String :=
  match root with
  | .bulkOperationRunQuery => r.runText root
  | .currentBulkOperation => r.fields.text.map (currentBulkOperation (Vocabulary.wire root))
  | _ =>
    match r.kind with
    | .read => r.readText root
    | .connection => (r.listSelection true).map listOperation
    | .update => r.updateText root

/-- The document of a request whose selection has no cycle. -/
def dispatch (r : Request) : Outcome String := do
  checkCycles r.entityKind r.fields
  let root ← r.rootField
  r.textAs root

section Query

variable {e : Entity} (q : Query e)

theorem rootField_query : (Request.query ⟨e, q⟩).rootField = .ok q.operation :=
  lookUp_rootFields e q.kind

theorem listSelection_query : (Request.query ⟨e, q⟩).listSelection false = q.listSelection := by
  rw [listSelection, rootField_query]
  rfl

theorem boundedSelection_query :
    (Request.query ⟨e, q⟩).listSelection true = q.boundedSelection := by
  rw [listSelection, rootField_query]
  rfl

theorem updateText_query : (Request.query ⟨e, q⟩).updateText q.operation = q.updateText := by
  have hpayload : lookUp (Request.query ⟨e, q⟩).entityKind payloadFields = .ok e.payloadField :=
    lookUp_payloadFields e
  rw [updateText, hpayload]
  rfl

/-- A query is written by its operation kind: none of its root fields is one of bulk operations. -/
theorem textAs_query : (Request.query ⟨e, q⟩).textAs q.operation = q.text := by
  have hlist := boundedSelection_query q
  have hupdate := updateText_query q
  obtain ⟨fields, kind, identifier, connection, inputs⟩ := q
  cases kind with
  | read => cases e <;> rfl
  | connection => cases e <;> exact congrArg (Except.map listOperation) hlist
  | update => cases e <;> exact hupdate

end Query

/-- A bulk operation is written by its root field. -/
theorem textAs_bulk (b : BulkQuery) : (Request.bulk b).textAs b.operation = b.text := by
  obtain ⟨operation, inner, fields⟩ := b
  cases operation with
  | bulkOperationRunQuery =>
    cases inner with
    | none => rfl
    | some q =>
      show (if q.2.kind = .connection then _ else _) = _
      rw [listSelection_query]
      rfl
  -- A root field of queries is read, for which a bulk operation has no identifier.
  | _ => rfl

/-- **The dispatch is compiling**: its tables are looked up at keys that they hold, and only bulk
operations are asked for the query inside of them. -/
theorem dispatch_eq_compile (r : Request) : r.dispatch = r.compile := by
  cases r with
  | query q => rw [dispatch, compile, rootField_query, ← textAs_query q.2]; rfl
  | bulk b => rw [dispatch, compile, ← textAs_bulk b]; rfl

end Request

/-! ### How requests end

The predicates say when each end is possible, in terms of the request alone: what its document
needs, which selections and which values it would hold, and which integers. `Ends` refers to nothing
else, in particular not to the way in which a document is compiled.
-/

/-- A chain of nested fields below an entity of a kind repeats a kind. -/
def FieldSet.IsCyclic (s : FieldSet) (k : EntityKind) : Prop :=
  ∃ ks, Chain s.tokens ks ∧ ¬ (k :: ks).Nodup

namespace Request

/-- The list query that is run in bulk. -/
def listQuery? : Request → Option SomeQuery
  | .query _ => none
  | .bulk b =>
    if b.operation = .bulkOperationRunQuery then b.inner.filter (·.2.kind = .connection) else none

/-- The selections that a document of the request holds, each with the kind of the entity above
it. -/
def selections (r : Request) : List (EntityKind × FieldSet) :=
  (r.entityKind, r.fields) :: r.listQuery?.toList.map fun q ↦ (q.1.kind, q.2.fields)

/-- The values that a document of the request holds. -/
def values (r : Request) : List Datum :=
  if r.kind = .update then r.inputs.elim [] fun inputs ↦ inputs.entries.map Prod.snd else []

/-- What the document of the request needs is there. -/
def IsComplete : Request → Prop
  | .query q =>
    match q.2.kind with
    | .read => q.2.identifier.isSome
    | .connection => q.2.connection.isSome
    | .update => q.2.inputs.isSome
  | .bulk b => b.operation = .currentBulkOperation ∨ (Request.bulk b).listQuery?.isSome

/-- A selection of the document repeats an entity kind on a path from its root. -/
def HasCycle (r : Request) : Prop :=
  ∃ s ∈ r.selections, s.2.IsCyclic s.1

/-- No integer of the document is beyond the digit limit. -/
structure IntegersFit (r : Request) : Prop where
  /-- The bounds of nested lists have texts. -/
  selections : ∀ s ∈ r.selections, hasTextAll s.2.tokens = true
  /-- The bound of the list has a text. -/
  connection : ∀ c, r.connection = some c → c.hasText = true
  /-- The values of the input have texts. -/
  values : ∀ d ∈ r.values, d.hasText = true

/-- A text begins with the keyword of the operation, a brace and the root field. -/
def IsHeaded (r : Request) (text : String) : Prop :=
  ∃ rest, text =
    Vocabulary.wire r.operation.operationType ++ " \x7b " ++ Vocabulary.wire r.operation ++ rest

/-- How compiling a request ends. -/
inductive Ends (r : Request) : Outcome String → Prop
  /-- A kind is repeated, in the selection or in that of the list to run in bulk. -/
  | cycle {k : EntityKind} (h : r.HasCycle) : r.Ends (.error (.cycle (.entityKind k)))
  /-- Something is not there. -/
  | misuse {kind call : String} {reason : Option String} (h : ¬ r.IsComplete) :
      r.Ends (.error (.misuse kind call reason))
  /-- A part of a value has no literal. -/
  | refused {d x : Datum} (hd : d ∈ r.values) (hx : Datum.Occurs x d) (h : x.IsRefused) :
      r.Ends (.error x.refusal)
  /-- The document. -/
  | document {text : String} (hcomplete : r.IsComplete) (hcycle : ¬ r.HasCycle)
      (hvalues : ∀ d ∈ r.values, ∀ x, Datum.Occurs x d → ¬ x.IsRefused) (hhead : r.IsHeaded text) :
      r.Ends (.ok text)
  /-- An integer has no text. -/
  | fault (h : ¬ r.IntegersFit) : r.Ends (Outcome.fault .badValue)

end Request

/-! ### How the parts of documents end

Selections and bounds have two ends each and inputs have three. The lemmas name them, so that the
documents need not look into the writing of their parts.
-/

/-- A selection passes the check and has no cycle, or has one and fails. -/
theorem checkCycles_cases (k : EntityKind) (s : FieldSet) :
    (checkCycles k s = .ok () ∧ ¬ s.IsCyclic k) ∨
      ∃ j, checkCycles k s = .error (.cycle (.entityKind j)) ∧ s.IsCyclic k := by
  cases hcheck : checkCycles k s with
  | ok u =>
    refine .inl ⟨rfl, fun hcyclic ↦ ?_⟩
    obtain ⟨j, hj⟩ := exists_cycle_iff.2 hcyclic
    rw [hcheck] at hj
    cases hj
  | error f =>
    obtain ⟨o, -, rfl⟩ := checkCycles_eq_error_iff.1 hcheck
    exact .inr ⟨o.kind, rfl, exists_cycle_iff.1 ⟨o.kind, hcheck⟩⟩

/-- A selection is written, unless an integer in one of its bounds has no text. -/
theorem FieldSet.text_cases (s : FieldSet) :
    s.text = .ok s.render ∨ s.text = Outcome.fault .badValue ∧ hasTextAll s.tokens = false := by
  rw [text]
  cases hasTextAll s.tokens with
  | true => exact .inl rfl
  | false => exact .inr ⟨rfl, rfl⟩

/-- A bound is written, unless an integer in it has no text. -/
theorem Connection.text_cases (c : Connection) :
    c.text = .ok c.render ∨ c.text = Outcome.fault .badValue ∧ c.hasText = false := by
  rw [text]
  cases c.hasText with
  | true => exact .inl rfl
  | false => exact .inr ⟨rfl, rfl⟩

/-- How writing the assignments of an input ends. -/
theorem written_assignmentTexts (inputs : Inputs) :
    Datum.Written (inputs.entries.map Prod.snd)
      (Datum.hasTextEntries (inputs.entries.map fun e ↦ (.str e.1, e.2)))
        (assignmentTexts inputs.entries) := by
  have hwritten := Datum.written_entryLiterals (inputs.entries.map fun e ↦ (.str e.1, e.2))
  rw [← Query.assignmentTexts_eq, List.map_map] at hwritten
  exact hwritten

/-- Entries with names as keys have texts if their values do. -/
theorem hasTextEntries_eq_true {es : List (String × Datum)}
    (h : ∀ d ∈ es.map Prod.snd, d.hasText = true) :
    Datum.hasTextEntries (es.map fun e ↦ (.str e.1, e.2)) = true := by
  induction es with
  | nil => rfl
  | cons e es ih =>
    rw [List.map_cons, List.forall_mem_cons] at h
    rw [List.map_cons, Datum.hasTextEntries, h.1, ih h.2]
    rfl

namespace Request

variable {r : Request}

/-- What begins with a keyword, a brace and a root field is headed by them. -/
theorem isHeaded_braced {type : OperationType} (htype : r.operation.operationType = type)
    (rest : String) :
    r.IsHeaded (Vocabulary.wire type ++ " " ++ braced (Vocabulary.wire r.operation ++ rest)) := by
  have hopen : " \x7b " = " " ++ "\x7b " := rfl
  refine ⟨rest ++ " \x7d", ?_⟩
  simp only [htype, braced, hopen, String.append_assoc]

/-- The common frame of documents is headed. -/
theorem isHeaded_documentText {type : OperationType} (htype : r.operation.operationType = type)
    (argument selection : String) :
      r.IsHeaded (Query.documentText type r.operation argument selection) := by
  have hhead := isHeaded_braced htype ("(" ++ (argument ++ (")" ++ (" " ++ selection))))
  simpa only [Query.documentText, String.append_assoc] using hhead

/-- What is written around the selected fields is a document if they are. -/
theorem ends_map_fields {f : String → String} (hcomplete : r.IsComplete) (hcycle : ¬ r.HasCycle)
    (hvalues : ∀ d ∈ r.values, ∀ x, Datum.Occurs x d → ¬ x.IsRefused)
    (hhead : ∀ body, r.IsHeaded (f body)) :
    r.Ends (r.fields.text.map f) := by
  rcases r.fields.text_cases with htext | ⟨htext, hfalse⟩
  · rw [htext]
    exact .document hcomplete hcycle hvalues (hhead _)
  · rw [htext]
    refine .fault fun hfits ↦ ?_
    have htrue := hfits.selections (r.entityKind, r.fields) List.mem_cons_self
    rw [hfalse] at htrue
    cases htrue

/-! ### How documents end

Every document checks in a fixed order: cycles, then what has to be there, then the parts in the
order in which they are written. The first check that fails is the end of the request, so a lemma
for a later part may assume that the earlier ones have passed.
-/

section Query

variable {e : Entity} {q : Query e}

/-- An update is a mutation; all other queries read. -/
theorem operationType_query :
    (Request.query ⟨e, q⟩).operation.operationType =
      if q.kind = .update then .mutation else .query := by
  rw [operation, Query.operation]
  cases e <;> cases q.kind <;> rfl

/-- A query that is no update reads. -/
theorem operationType_of_ne_update (hkind : q.kind ≠ .update) :
    (Request.query ⟨e, q⟩).operation.operationType = .query := by
  rw [operationType_query, if_neg hkind]

/-- An input of a query that is no update is not written. -/
theorem values_eq_nil (hkind : q.kind ≠ .update) : (Request.query ⟨e, q⟩).values = [] :=
  if_neg hkind

/-- The document of an update holds the values of its input. -/
theorem values_eq_map {inputs : Inputs} (hkind : q.kind = .update)
    (hinputs : q.inputs = some inputs) :
    (Request.query ⟨e, q⟩).values = inputs.entries.map Prod.snd := by
  have hupdate : (Request.query ⟨e, q⟩).kind = .update := hkind
  rw [values, if_pos hupdate, Request.inputs, hinputs]
  rfl

/-- How the document that reads one entity ends. -/
theorem ends_readText (hcycle : ¬ (Request.query ⟨e, q⟩).HasCycle) (hkind : q.kind = .read) :
    (Request.query ⟨e, q⟩).Ends q.readText := by
  rw [Query.readText]
  cases hidentifier : q.identifier with
  | none => exact .misuse (by simp [IsComplete, hkind, hidentifier])
  | some i =>
    have hupdate : q.kind ≠ .update := by simp [hkind]
    refine ends_map_fields (by simp [IsComplete, hkind, hidentifier]) hcycle
      (by simp [values_eq_nil hupdate]) fun body ↦ ?_
    rw [Query.readOperation_eq]
    exact isHeaded_documentText (operationType_of_ne_update hupdate) _ _

/-- How the document of a list ends: the bound is looked for before the fields. -/
theorem ends_boundedSelection (hcycle : ¬ (Request.query ⟨e, q⟩).HasCycle)
    (hkind : q.kind = .connection) :
    (Request.query ⟨e, q⟩).Ends (q.boundedSelection.map listOperation) := by
  rw [Query.boundedSelection]
  cases hconnection : q.connection with
  | none => exact .misuse (by simp [IsComplete, hkind, hconnection])
  | some c =>
    rcases c.text_cases with htext | ⟨htext, hfalse⟩
    · have hupdate : q.kind ≠ .update := by simp [hkind]
      have hdocument : ((c.text >>= fun bound ↦ q.fields.text >>= fun body ↦
          pure (listField (boundedField (Vocabulary.wire q.operation) bound) body)).map
            listOperation) =
          (Request.query ⟨e, q⟩).fields.text.map fun body ↦
            listOperation (listField (boundedField (Vocabulary.wire q.operation) c.render)
              body) := by
        rw [htext, fields]
        cases q.fields.text <;> rfl
      show (Request.query ⟨e, q⟩).Ends (Except.map listOperation (c.text >>= _))
      rw [hdocument]
      refine ends_map_fields (by simp [IsComplete, hkind, hconnection]) hcycle
        (by simp [values_eq_nil hupdate]) fun body ↦ ?_
      rw [Query.listOperation_eq]
      exact isHeaded_documentText (operationType_of_ne_update hupdate) _ _
    · simp only [htext]
      exact .fault fun hfits ↦ by rw [hfits.connection c hconnection] at hfalse; cases hfalse

/-- How the document of an update ends: the assignments are written before the fields. -/
theorem ends_updateText (hcycle : ¬ (Request.query ⟨e, q⟩).HasCycle) (hkind : q.kind = .update) :
    (Request.query ⟨e, q⟩).Ends q.updateText := by
  rw [Query.updateText]
  cases hinputs : q.inputs with
  | none => exact .misuse (by simp [IsComplete, hkind, hinputs])
  | some inputs =>
    have hvalues := values_eq_map hkind hinputs
    have hwritten := written_assignmentTexts inputs
    simp only
    cases hassignments : assignmentTexts inputs.entries with
    | ok assignments =>
      rw [hassignments] at hwritten
      cases hwritten with
      | done _ hnone =>
        have htype : (Request.query ⟨e, q⟩).operation.operationType = .mutation := by
          rw [operationType_query, hkind]
          rfl
        refine ends_map_fields (by simp [IsComplete, hkind, hinputs]) hcycle (by rwa [hvalues])
          fun body ↦ ?_
        rw [Query.updateOperation_eq]
        exact isHeaded_documentText htype _ _
    | error f =>
      rw [hassignments] at hwritten
      cases hwritten with
      | refused hd hx hrefused => exact .refused (by rwa [hvalues]) hx hrefused
      | fault htext =>
        refine .fault fun hfits ↦ ?_
        have hfit := hfits.values
        rw [hvalues] at hfit
        rw [hasTextEntries_eq_true hfit] at htext
        cases htext

/-- A query without a cycle, by its operation kind. -/
theorem ends_query (hcycle : ¬ (Request.query ⟨e, q⟩).HasCycle) :
    (Request.query ⟨e, q⟩).Ends q.text := by
  rw [Query.text]
  cases hkind : q.kind with
  | read => exact ends_readText hcycle hkind
  | connection => exact ends_boundedSelection hcycle hkind
  | update => exact ends_updateText hcycle hkind

end Query

section Bulk

variable {b : BulkQuery}

/-- The document of a bulk run holds the selection of the operation and that of the list. -/
theorem selections_run {e : Entity} {q : Query e} (hkind : q.kind = .connection)
    (fields : FieldSet) :
    (Request.bulk ⟨.bulkOperationRunQuery, some ⟨e, q⟩, fields⟩).selections =
      [(.bulkOperation, fields), (e.kind, q.fields)] := by
  have hlist :
      (Request.bulk ⟨.bulkOperationRunQuery, some ⟨e, q⟩, fields⟩).listQuery? = some ⟨e, q⟩ := by
    simp only [listQuery?, if_true, Option.filter_some, hkind, decide_true]
  rw [selections, hlist]
  rfl

/-- The document of a bulk run is headed. -/
theorem isHeaded_bulkRun {inner : Option SomeQuery} {fields : FieldSet} (list body : String) :
    (Request.bulk ⟨.bulkOperationRunQuery, inner, fields⟩).IsHeaded
      (bulkRunOperation (Vocabulary.wire RootField.bulkOperationRunQuery) list body) := by
  have hkeyword : "mutation " = Vocabulary.wire OperationType.mutation ++ " " := rfl
  have htype : (Request.bulk ⟨.bulkOperationRunQuery, inner, fields⟩).operation.operationType =
      .mutation := rfl
  have hhead := isHeaded_braced htype
    ("(query: " ++ (blockString (braced list) ++
      (") " ++ braced ("bulkOperation " ++ braced body))))
  rw [bulkRunOperation, hkeyword]
  simpa only [operation, String.append_assoc] using hhead

/-- The document that asks for the bulk operation in progress is headed. -/
theorem isHeaded_currentBulk {inner : Option SomeQuery} {fields : FieldSet} (body : String) :
    (Request.bulk ⟨.currentBulkOperation, inner, fields⟩).IsHeaded
      (CatalogQuery.currentBulkOperation (Vocabulary.wire RootField.currentBulkOperation)
        body) := by
  have hkeyword : "query " = Vocabulary.wire OperationType.query ++ " " := rfl
  have htype : (Request.bulk ⟨.currentBulkOperation, inner, fields⟩).operation.operationType =
      .query := rfl
  have hhead := isHeaded_braced htype (" " ++ braced body)
  rw [CatalogQuery.currentBulkOperation, hkeyword]
  simpa only [operation, String.append_assoc] using hhead

/-- A bulk operation has no input. -/
theorem values_bulk : (Request.bulk b).values = [] := by
  rw [values]
  split <;> rfl

/-- How the document of a bulk run ends: the list is looked at before the fields of the
operation. -/
theorem ends_runText {inner : Option SomeQuery} {fields : FieldSet}
    (hown : ¬ fields.IsCyclic .bulkOperation) :
    (Request.bulk ⟨.bulkOperationRunQuery, inner, fields⟩).Ends
      (BulkQuery.runText ⟨.bulkOperationRunQuery, inner, fields⟩) := by
  rw [BulkQuery.runText]
  cases inner with
  | none => exact .misuse (by simp [IsComplete, listQuery?])
  | some q =>
    obtain ⟨e, q⟩ := q
    by_cases hkind : q.kind = .connection
    · have hselections := selections_run hkind fields
      simp only [if_pos hkind]
      rcases checkCycles_cases e.kind q.fields with ⟨hok, hinner⟩ | ⟨j, hcycle, hinner⟩
      · have hnone : ¬ (Request.bulk ⟨.bulkOperationRunQuery, some ⟨e, q⟩, fields⟩).HasCycle := by
          simp [HasCycle, hselections, hown, hinner]
        rw [hok]
        rcases q.fields.text_cases with htext | ⟨htext, hfalse⟩
        · rw [Query.listSelection, htext]
          exact ends_map_fields (.inr (by simp [listQuery?, hkind])) hnone (by simp [values_bulk])
            fun body ↦ isHeaded_bulkRun _ body
        · rw [Query.listSelection, htext]
          refine .fault fun hfits ↦ ?_
          rw [hfits.selections (e.kind, q.fields) (by simp [hselections])] at hfalse
          cases hfalse
      · rw [hcycle]
        exact .cycle ⟨(e.kind, q.fields), by simp [hselections], hinner⟩
    · simp only [if_neg hkind]
      exact .misuse (by simp [IsComplete, listQuery?, hkind])

/-- A bulk operation whose own selection has no cycle, by its root field. -/
theorem ends_bulk (hown : ¬ b.fields.IsCyclic .bulkOperation) : (Request.bulk b).Ends b.text := by
  obtain ⟨operation, inner, fields⟩ := b
  cases operation with
  | bulkOperationRunQuery => exact ends_runText hown
  | currentBulkOperation =>
    have hnone : ¬ (Request.bulk ⟨.currentBulkOperation, inner, fields⟩).HasCycle := by
      simpa [HasCycle, selections, listQuery?, entityKind, Request.fields] using hown
    exact ends_map_fields (.inl rfl) hnone (by simp [values_bulk]) isHeaded_currentBulk
  | _ => exact .misuse (by simp [IsComplete, listQuery?])

end Bulk

end Request

/-! ### Public contract -/

namespace Request

/-- How compiling a request ends. -/
theorem ends_compile (r : Request) : r.Ends r.compile := by
  rw [compile.eq_def]
  rcases checkCycles_cases r.entityKind r.fields with ⟨hok, hown⟩ | ⟨j, hcycle, hown⟩
  · rw [hok]
    cases r with
    | query q => exact ends_query (by simpa [HasCycle, selections, listQuery?] using hown)
    | bulk b => exact ends_bulk hown
  · rw [hcycle]
    exact .cycle ⟨_, List.mem_cons_self, hown⟩

/-- A refusal is of the library; a fault comes of an integer alone. -/
theorem Ends.fault_cases {r : Request} {kind : Fault} {o : Outcome String} (h : r.Ends o)
    (ho : o = .error (.fault kind)) : kind = .badValue ∧ ¬ r.IntegersFit := by
  cases h with
  | @refused d x =>
    have hrefusal : x.refusal = .fault kind := by simpa using ho
    cases x <;> cases hrefusal
  | fault hfits =>
    cases ho
    exact ⟨rfl, hfits⟩
  | cycle | misuse | document => cases ho

/-- **Every request ends with a document or is refused.** The document begins with the keyword of
its root field, a brace and the root field; without it there is a cycle, something that the document
needs is missing, or a part of a value has no literal. The only fault is that of an integer beyond
the digit limit: no table is looked up at a key that it does not hold, and no attribute is
missing. -/
theorem compile_ends (r : Request) :
    r.dispatch = r.compile ∧ r.Ends r.compile ∧
      (r.IntegersFit → ∀ kind, r.compile ≠ .error (.fault kind)) ∧
      ∀ kind, r.dispatch = .error (.fault kind) → kind = .badValue := by
  have hends := r.ends_compile
  refine ⟨r.dispatch_eq_compile, hends, fun hfits kind hkind ↦ (hends.fault_cases hkind).2 hfits,
    fun kind hkind ↦ ?_⟩
  rw [dispatch_eq_compile] at hkind
  exact (hends.fault_cases hkind).1

/-- A bulk operation with the root field of a product is read, and lacks the identifier for it. -/
example : (Request.bulk { operation := .productUpdate }).compile =
    .error (.misuse "read" "compile" (some "no identifier")) :=
  rfl

end Request

end CatalogQuery
