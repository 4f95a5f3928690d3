import CatalogQuery.Proofs.Bulk

/-!
# The list that a bulk run carries

A bulk run carries the document of a list query inside its own, as a block string.
`Query.bulkText_carries` says that nothing of it is lost and nothing leaks out: the reader of block
strings stops at the marks that close the block, whatever marks and backslashes the names in the
list hold, and what it has read by then is the list as it stands in the document of the list query
itself, less the bound of the root field.

The escaped text is that of `escapeBlock`, and `block?_escapeBlock` is the argument about runs of
marks. It is used where it is sharp: the list stands in braces, so it does not end in a mark that
would run on into the closing ones (`endsOpen_braced`).

## What carrying means

The statement has four parts, and each rules out one way of going wrong. The document is a fixed
opening, one block and a fixed closing, so nothing of the list stands outside of the block. The
reader of blocks, started at the raw text, stops exactly where the closing begins, so the block ends
neither early nor late. What it has read is the list, character by character, and stays so when
indentation and blank lines are dropped. And the document of the list query itself holds the same
list behind its bound.

The names in the list are arbitrary texts of one line, with any marks and backslashes in them.
Reached queries have names of the schema only, so for them the hypothesis is satisfied; the
statement does not need that they are reached.
-/

namespace CatalogQuery

open Grammar

namespace Query

variable {e : Entity} {q : Query e}

/-- The document of the bulk run of a list query. -/
def bulkText (q : Query e) : Outcome String := do
  let b ← BulkQuery.run ⟨e, q⟩
  (Request.bulk b).compile

/-- The selection of a list query as it stands after the bound of its root field. -/
def nodesText (q : Query e) : String :=
  " " ++ edgesOf q.fields.render

/-- The list of a query without the bound of its root field. -/
def bareList (q : Query e) : String :=
  braced (Vocabulary.wire q.operation ++ q.nodesText)

/-- The list without its bound is what the bulk run writes. -/
theorem bareList_eq (q : Query e) :
    q.bareList = braced (listField (Vocabulary.wire q.operation) q.fields.render) := by
  rw [bareList, nodesText, listField, String.append_assoc]

/-- The bound of the root field is not looked at. -/
theorem bulkText_setConnection (q : Query e) (c : Option Connection) :
    bulkText (e := e) { q with connection := c } = q.bulkText := by
  obtain ⟨fields, kind, identifier, connection, inputs⟩ := q
  cases kind <;> rfl

end Query

/-! ### The document around the list -/

/-- A bulk run before the block string of its list. -/
def bulkOpening : String :=
  "mutation \x7b bulkOperationRunQuery(query: "

/-- A bulk run after the block string of its list. -/
def bulkClosing : String :=
  ") \x7b bulkOperation \x7b id,status,errorCode,objectCount,url \x7d \x7d \x7d"

/-- A bulk run is the fixed opening, the block string of its list and the fixed closing. -/
theorem bulkRunOperation_eq_append (list : String) :
    bulkRunOperation (Vocabulary.wire RootField.bulkOperationRunQuery) list
        (FieldSet.ofNames bulkFields).render =
      bulkOpening ++ blockString (braced list) ++ bulkClosing := by
  have hopening : bulkOpening =
      "mutation " ++ ("\x7b " ++ (Vocabulary.wire RootField.bulkOperationRunQuery ++ "(query: ")) :=
        rfl
  have hclosing : bulkClosing =
      ") " ++ (braced ("bulkOperation " ++ braced (FieldSet.ofNames bulkFields).render) ++
        " \x7d") := rfl
  rw [hopening, hclosing, bulkRunOperation]
  generalize braced ("bulkOperation " ++ braced (FieldSet.ofNames bulkFields).render) = operation
  rw [braced]
  simp only [String.append_assoc]

/-- The reader of block strings stops at the marks that close the block. -/
theorem block?_blockString {s : String} (h : EndsOpen s.toList) (after : String) :
    block? (String.ofList (escapeBlock s.toList) ++ "\"\"\"" ++ after).toList =
      some (s.toList, after.toList) := by
  have hclose : "\"\"\"".toList = ['"', '"', '"'] := rfl
  rw [String.toList_append, String.toList_append, String.toList_ofList, hclose, List.append_assoc]
  exact block?_escapeBlock h after.toList

namespace Query

variable {e : Entity} {q : Query e}

/-- A query that lists entities can be run in bulk. -/
theorem run_of_kind (hkind : q.kind = .connection) :
    BulkQuery.run ⟨e, q⟩ = .ok { operation := .bulkOperationRunQuery, inner := some ⟨e, q⟩ } := by
  simp only [BulkQuery.run, BulkQuery.runOrRefuse, hkind, if_true]

theorem text_run_eq_append (hcycles : checkCycles e.kind q.fields = .ok ())
    (hbounds : FieldToken.hasTextAll q.fields.tokens = true) {b : BulkQuery}
    (hrun : BulkQuery.run ⟨e, q⟩ = .ok b) :
    b.text = .ok (bulkOpening ++ blockString q.bareList ++ bulkClosing) := by
  have htext := BulkQuery.text_run hbounds hcycles hrun
  obtain ⟨-, rfl⟩ := BulkQuery.run_eq_ok hrun
  rwa [bulkRunOperation_eq_append, ← bareList_eq] at htext

/-- The document of the bulk run of a list query without cycles. -/
theorem bulkText_eq_ok (hkind : q.kind = .connection)
    (hcycles : checkCycles e.kind q.fields = .ok ())
    (hbounds : FieldToken.hasTextAll q.fields.tokens = true) :
    q.bulkText = .ok (bulkOpening ++ blockString q.bareList ++ bulkClosing) := by
  have hrun := run_of_kind hkind
  have htext := text_run_eq_append hcycles hbounds hrun
  rw [bulkText, hrun]
  exact htext

/-- The document of a list query with its bound. -/
theorem compile_eq_of_connection (hkind : q.kind = .connection)
    (hcycles : checkCycles e.kind q.fields = .ok ())
    (hbounds : FieldToken.hasTextAll q.fields.tokens = true) {c : Connection}
    (hc : c.hasText = true) :
    (Request.query ⟨e, { q with connection := some c }⟩).compile =
      .ok ("query " ++ braced (Vocabulary.wire q.operation ++ "(" ++ c.render ++ ")" ++
        q.nodesText)) := by
  have hbound : c.text = .ok c.render := by rw [Connection.text, if_pos hc]
  have hfields : q.fields.text = .ok q.fields.render := by rw [FieldSet.text, if_pos hbounds]
  have hoperation : q.operation = e.rootField .connection := by rw [operation, hkind]
  have hlist :
      "query " ++ braced (Vocabulary.wire q.operation ++ "(" ++ c.render ++ ")" ++ q.nodesText) =
      listOperation (listField (boundedField (Vocabulary.wire q.operation) c.render)
        q.fields.render) := by
    simp only [listOperation, listField, boundedField, nodesText, String.append_assoc]
  rw [hlist, hoperation]
  simp only [Request.compile, Request.entityKind, Request.fields, hcycles]
  show text _ = _
  rw [text]
  simp only [hkind, boundedSelection, hbound, hfields]
  rfl

/-! ### Public contract -/

/-- **The list of a bulk run survives its block string,** whatever the names in it are, as long as
they end no line. The document is a fixed text around one block; the reader of block strings stops
exactly at the marks that close that block, and the text that it has read is the list of the query:
what the document of the query itself holds, less the bound of the root field, with every bound
below it. The whole is one operation, and it is the same whatever the bound of the root field is. -/
theorem bulkText_carries (hkind : q.kind = .connection)
    (hcycles : checkCycles e.kind q.fields = .ok ())
    (hnames : ∀ n ∈ FieldToken.allNamesOfList q.fields.tokens, OnOneLine n)
    (hbounds : FieldToken.hasTextAll q.fields.tokens = true) :
    ∃ raw text : String,
      text = bulkOpening ++ "\"\"\"" ++ raw ++ "\"\"\"" ++ bulkClosing ∧
      (∀ c : Option Connection, bulkText (e := e) { q with connection := c } = .ok text) ∧
      block? (raw ++ "\"\"\"" ++ bulkClosing).toList =
        some (q.bareList.toList, bulkClosing.toList) ∧
      blockText q.bareList.toList = q.bareList ∧
      Grammar.read text =
        some { type := .mutation
               name := none
               selection := [plainField "bulkOperationRunQuery" [("query", .string q.bareList)]
                [plainField "bulkOperation" [] (bulkFields.map fun n ↦ plainField n [] [])]] } ∧
      ∀ c : Connection, c.hasText = true →
        (Request.query ⟨e, { q with connection := some c }⟩).compile =
          .ok ("query " ++ braced (Vocabulary.wire q.operation ++ "(" ++ c.render ++ ")" ++
            q.nodesText)) := by
  have hline : OnOneLine q.bareList := by
    rw [bareList_eq]
    exact (BulkQuery.onOneLine_listField hnames).braced
  have hdocument : bulkOpening ++ "\"\"\"" ++ String.ofList (escapeBlock q.bareList.toList) ++
      "\"\"\"" ++ bulkClosing = bulkOpening ++ blockString q.bareList ++ bulkClosing := by
    simp only [blockString, String.append_assoc]
  refine ⟨String.ofList (escapeBlock q.bareList.toList), _, rfl, fun c ↦ ?_, ?_, ?_, ?_,
    fun c hc ↦ ?_⟩
  · rw [bulkText_setConnection, bulkText_eq_ok hkind hcycles hbounds, hdocument]
  · exact block?_blockString (endsOpen_braced _) bulkClosing
  · -- The list is one line and not blank, so the block denotes it as it stands.
    rw [blockText_of_line hline (isBlankLine_braced _), String.ofList_toList]
  · have hrun := run_of_kind hkind
    obtain ⟨text, htext, hread⟩ := BulkQuery.runText_reads hnames hbounds hcycles hrun
    rw [text_run_eq_append hcycles hbounds hrun] at htext
    cases htext
    rw [← bareList_eq] at hread
    rw [hdocument]
    exact hread
  · exact compile_eq_of_connection hkind hcycles hbounds hc

/-- Names of four marks, and of a backslash before three, over a bounded list. -/
theorem bulkText_carries_marks :
    ∃ (q : Query .product) (raw text : String),
      q.kind = .connection ∧ checkCycles Entity.product.kind q.fields = .ok () ∧
        FieldToken.allNamesOfList q.fields.tokens = ["\"\"\"\"", "\\\"\"\"", "\\"] ∧
        q.bareList = "\x7b products \x7b edges \x7b node \x7b \"\"\"\",\\\"\"\"(last: 3)" ++
          " \x7b edges \x7b node \x7b \\ \x7d \x7d \x7d \x7d \x7d \x7d \x7d" ∧
        q.bulkText = .ok text ∧ text = bulkOpening ++ "\"\"\"" ++ raw ++ "\"\"\"" ++ bulkClosing ∧
        block? (raw ++ "\"\"\"" ++ bulkClosing).toList =
          some (q.bareList.toList, bulkClosing.toList) := by
  let below : FieldToken :=
    .node "\\\"\"\"" .productVariant [.leaf "\\"] (some ⟨.last, 3, by decide⟩)
  let q : Query .product := { kind := .connection, fields := ⟨[.leaf "\"\"\"\"", below]⟩ }
  have hnames : ∀ n ∈ FieldToken.allNamesOfList q.fields.tokens, OnOneLine n := by decide
  have hbounds : FieldToken.hasTextAll q.fields.tokens = true := by decide +kernel
  obtain ⟨raw, text, htext, hcompile, hblock, -⟩ := bulkText_carries (q := q) rfl rfl hnames hbounds
  exact ⟨q, raw, text, rfl, rfl, rfl, rfl, hcompile none, htext, hblock⟩

end Query

end CatalogQuery
