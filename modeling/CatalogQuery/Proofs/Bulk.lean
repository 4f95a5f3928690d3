import CatalogQuery.Proofs.Compile
import CatalogQuery.Proofs.Grammar.Block

/-!
# Documents about bulk operations

A bulk run carries a list query as the value of an argument, in a block string. `Request.Reached`
holds of all requests that calls can reach: the reached queries, the runs of reached list queries,
and the question for the bulk operation in progress. `Request.Reached.build_reads` says for all of
them what the document is read as: one operation, with the root field of the request over its
selection (`Request.payload`).

A block string is read as its text if the text is one line. A list is one line if every name in it
is (`FieldToken.composes_onOneLine`), and that is all that `BulkQuery.runText_reads` asks of names:
quotation marks and backslashes in them do no harm. In the list of a reached query every name is a
name, which ends no line.

## A property of texts that names decide

That a list is of one line is shown by recursion over its selection, and later that nothing in a
document looks like a credential is shown by the same recursion. `FieldToken.Composes` is what the
two have in common: a property of texts that passes from the parts of a field to the whole.
`Composes.fields` is the recursion, made once; what is proved of a particular property is that it
passes from parts to wholes.

## Three kinds of requests

The question for the operation in progress has a fixed document, which is read by evaluation of its
parts. The run of a list is reached by way of the list query, whose invariant gives everything that
the list needs: names that are names, bounds with texts, and no cycle.
-/

open CatalogQuery.Attempt

namespace CatalogQuery

open Grammar

/-! ### Texts of one line

A text of one line is a text without the characters that end lines, so this passes to texts that are
put together and depends on nothing but the parts.
-/

/-- No character of a text ends a line. -/
def OnOneLine (s : String) : Prop :=
  ∀ c ∈ s.toList, isLineEnd c = false

instance (s : String) : Decidable (OnOneLine s) :=
  List.decidableBAll _ s.toList

section OnOneLine

variable {s t : String}

/-- Texts of one line stay so when they are joined. -/
theorem OnOneLine.append (hs : OnOneLine s) (ht : OnOneLine t) : OnOneLine (s ++ t) := by
  intro c hc
  rw [String.toList_append, List.mem_append] at hc
  exact hc.elim (hs c) (ht c)

/-- Texts of one line stay so with a separator of one line between them. -/
theorem OnOneLine.joinWith {parts : List String} (hs : OnOneLine s) (h : ∀ p ∈ parts, OnOneLine p) :
    OnOneLine (joinWith s parts) := by
  induction parts with
  | nil => exact fun c hc ↦ absurd hc (by simp [CatalogQuery.joinWith])
  | cons part parts ih =>
    have hpart : OnOneLine part := h part (by simp)
    have hparts := ih fun p hp ↦ h p (List.mem_cons_of_mem part hp)
    cases parts with
    | nil => exact hpart
    | cons next rest => exact (hpart.append hs).append hparts

theorem OnOneLine.braced (hs : OnOneLine s) : OnOneLine (braced s) :=
  ((by decide : OnOneLine "\x7b ").append hs).append (by decide : OnOneLine " \x7d")

theorem OnOneLine.edgesOf (hs : OnOneLine s) : OnOneLine (edgesOf s) :=
  ((by decide : OnOneLine "edges ").append
    ((by decide : OnOneLine "node ").append hs.braced).braced).braced

/-- What can continue a name ends no line. -/
theorem isLineEnd_eq_false_of_isNameContinue {c : Char} (h : isNameContinue c = true) :
    isLineEnd c = false := by
  by_contra hend
  rw [Bool.not_eq_false, isLineEnd, Bool.or_eq_true, beq_iff_eq, beq_iff_eq] at hend
  rcases hend with rfl | rfl <;> cases h

/-- A name is of one line. -/
theorem onOneLine_of_isName (h : isName s = true) : OnOneLine s := by
  unfold isName at h
  split at h
  · cases h
  · next c cs hs =>
    rw [Bool.and_eq_true] at h
    rw [OnOneLine, hs]
    refine List.forall_mem_cons.2 ⟨?_, fun d hd ↦ ?_⟩
    · exact isLineEnd_eq_false_of_isNameContinue (isNameContinue_of_isNameStart h.1)
    · exact isLineEnd_eq_false_of_isNameContinue (List.all_eq_true.1 h.2 d hd)

/-- A bound is of one line: it is a name and digits. -/
theorem onOneLine_render (c : Connection) : OnOneLine c.render := by
  have hargument : OnOneLine c.side.argument := by
    cases c.side <;> decide
  refine (hargument.append (by decide : OnOneLine ": ")).append fun d hd ↦ ?_
  have hdigit : d.isDigit = true := isDigit_of_mem_toDigits (by simpa using hd)
  exact isLineEnd_eq_false_of_isNameContinue (isNameContinue_of_isDigit hdigit)

end OnOneLine

namespace FieldToken

mutual

/-- The names at and below a field. -/
def allNames : FieldToken → List String
  | .leaf n => [n]
  | .node n _ xs _ => n :: allNamesOfList xs

/-- The names in a selection and below it. -/
def allNamesOfList : List FieldToken → List String
  | [] => []
  | x :: xs => allNames x ++ allNamesOfList xs

end

/-- A property of texts that is kept where the text of a field is put together from names. -/
structure Composes (P : String → Prop) : Prop where
  /-- A nested field. -/
  plain : ∀ {name body : String}, P name → P body → P (plainText name body)
  /-- A nested list. -/
  bounded : ∀ {name body : String} (c : Connection), P name → P body →
    P (boundedText name c.render body)
  /-- A selection. -/
  joined : ∀ {parts : List String}, (∀ p ∈ parts, P p) → P (joinWith "," parts)

section Composes

variable {P : String → Prop}

mutual

/-- A field has the property if its names have it. -/
theorem Composes.render (hP : Composes P) : ∀ {x : FieldToken}, (∀ n ∈ allNames x, P n) → P x.render
  | .leaf n, h => h n (List.mem_singleton_self n)
  | .node _ _ _ none, h => by
    obtain ⟨hname, hxs⟩ := List.forall_mem_cons.1 h
    exact hP.plain hname (hP.joined (hP.renderAll hxs))
  | .node _ _ _ (some c), h => by
    obtain ⟨hname, hxs⟩ := List.forall_mem_cons.1 h
    exact hP.bounded c hname (hP.joined (hP.renderAll hxs))

/-- The fields of a selection have the property if its names have it. -/
theorem Composes.renderAll (hP : Composes P) :
    ∀ {xs : List FieldToken}, (∀ n ∈ allNamesOfList xs, P n) →
    ∀ s ∈ FieldToken.renderAll xs, P s
  | [], _, _, hs => absurd hs List.not_mem_nil
  | _ :: _, h, _, hs => by
    obtain ⟨hx, hxs⟩ := List.forall_mem_append.1 h
    rcases List.mem_cons.1 hs with rfl | hs
    · exact hP.render hx
    · exact hP.renderAll hxs _ hs

end

/-- A selection has the property if its names have it. -/
theorem Composes.fields (hP : Composes P) {s : FieldSet} (h : ∀ n ∈ allNamesOfList s.tokens, P n) :
    P s.render :=
  hP.joined (hP.renderAll h)

end Composes

/-- A field whose names are of one line is of one line. -/
theorem composes_onOneLine : Composes OnOneLine where
  plain hname hbody := (hname.append (by decide : OnOneLine " ")).append hbody.braced
  bounded c hname hbody := by
    have hbound :=
      (hname.append (by decide : OnOneLine "(")).append (CatalogQuery.onOneLine_render c)
    exact (hbound.append (by decide : OnOneLine ") ")).append hbody.edgesOf
  joined h := (by decide : OnOneLine ",").joinWith h

mutual

/-- All names at and below a named field are of one line. -/
theorem IsNamed.onOneLine : ∀ {x : FieldToken}, x.IsNamed → ∀ n ∈ allNames x, OnOneLine n
  | .leaf _, h => List.forall_mem_singleton.2 (onOneLine_of_isName h)
  | .node .., ⟨hname, _, hxs⟩ =>
    List.forall_mem_cons.2 ⟨onOneLine_of_isName hname, AreNamed.onOneLine hxs⟩

theorem AreNamed.onOneLine :
    ∀ {xs : List FieldToken}, AreNamed xs → ∀ n ∈ allNamesOfList xs, OnOneLine n
  | [], _ => fun _ hn ↦ absurd hn List.not_mem_nil
  | _ :: _, ⟨hx, hxs⟩ => List.forall_mem_append.2 ⟨hx.onOneLine, hxs.onOneLine⟩

end

end FieldToken

/-! ### Texts in braces

A block string drops the indentation that its lines share and the blank lines at its ends. A text of
one line that begins and ends with a brace has neither, and so it is kept as it is.
-/

theorem toList_braced (s : String) :
    (braced s).toList = '\x7b' :: ' ' :: (s.toList ++ [' ', '\x7d']) := by
  simp [braced]

/-- A text in braces ends in a brace, so it does not run on into the marks that close a block. -/
theorem endsOpen_braced (s : String) : EndsOpen (braced s).toList := by
  intro c hc
  have hend : (braced s).toList = ('\x7b' :: ' ' :: s.toList ++ [' ']) ++ ['\x7d'] := by
    simp [toList_braced]
  rw [hend, List.getLast?_concat] at hc
  cases hc
  decide

/-- A text in braces is not blank. -/
theorem isBlankLine_braced (s : String) : isBlankLine (braced s).toList = false := by
  rw [toList_braced]
  rfl

/-- **The list of a query in braces is read from its block string.** -/
theorem lexes_blockString_braced {s : String} (hs : OnOneLine s) :
    Lexes (blockString (braced s)) [.string (braced s)] :=
  lexes_blockString (endsOpen_braced s) hs.braced (isBlankLine_braced s)

/-! ### Bulk documents

The two documents are written by functions of their own. Each is shown to be the frame of an
operation around an argument or none and the fields of a bulk operation.
-/

/-- The selection of the root field of a document about bulk operations. -/
def BulkQuery.payload (b : BulkQuery) : List Field :=
  if b.operation = .bulkOperationRunQuery then
    [plainField "bulkOperation" [] (FieldToken.fields b.fields.tokens)]
  else FieldToken.fields b.fields.tokens

/-- The text that runs a list in bulk, from the parts common to all documents. -/
theorem bulkRunOperation_eq (root : RootField) (list body : String) :
    bulkRunOperation (Vocabulary.wire root) list body =
      Query.documentText .mutation root ("query" ++ ": " ++ blockString (braced list))
        (braced ("bulkOperation" ++ " " ++ braced body)) := by
  have hopen : "(query: " = "(" ++ "query" ++ ": " := rfl
  have hclose : ") " = ")" ++ " " := rfl
  have hkeyword : "mutation " = Vocabulary.wire OperationType.mutation ++ " " := rfl
  have hfield : "bulkOperation " = "bulkOperation" ++ " " := rfl
  simp only [bulkRunOperation, Query.documentText, hopen, hclose, hkeyword, hfield,
    String.append_assoc]

namespace BulkQuery

/-- Only a query that lists entities can be run in bulk. -/
theorem run_eq_ok {e : Entity} {q : Query e} {b : BulkQuery} (h : run ⟨e, q⟩ = .ok b) :
    q.kind = .connection ∧ b = { operation := .bulkOperationRunQuery, inner := some ⟨e, q⟩ } := by
  simp only [run, runOrRefuse] at h
  split at h
  · next hkind =>
    cases h
    exact ⟨hkind, rfl⟩
  · cases h

/-- The fields of a bulk operation in order. -/
def tokens : List FieldToken :=
  bulkFields.map .leaf

theorem areNamed_tokens : FieldToken.AreNamed tokens :=
  Entity.areNamed_of_forall (by
    intro t ht
    obtain ⟨n, hn, rfl⟩ := List.mem_map.1 ht
    exact (by decide : ∀ n ∈ bulkFields, isName n = true) n hn)

/-- The fields that are asked of a bulk operation are read as what they stand for. -/
theorem lexes_fields :
    Lexes (FieldSet.ofNames bulkFields).render (fieldTokens (FieldToken.fields tokens)) :=
  FieldToken.lexes_joinWith (FieldToken.lexes_renderAll areNamed_tokens)

theorem fields_text :
    (FieldSet.ofNames bulkFields).text = .ok (FieldSet.ofNames bulkFields).render :=
  rfl

/-- The list of a query whose names are of one line is of one line. -/
theorem onOneLine_listField {e : Entity} {q : Query e}
    (hnames : ∀ n ∈ FieldToken.allNamesOfList q.fields.tokens, OnOneLine n) :
    OnOneLine (listField (Vocabulary.wire q.operation) q.fields.render) := by
  have hfields : OnOneLine q.fields.render := FieldToken.composes_onOneLine.fields hnames
  have hname : OnOneLine (Vocabulary.wire q.operation) :=
    onOneLine_of_isName (Query.isName_wire_rootField _)
  exact (hname.append (by decide : OnOneLine " ")).append hfields.edgesOf

/-- The document that runs a list in bulk. -/
theorem text_run {e : Entity} {q : Query e} (hbounds : FieldToken.hasTextAll q.fields.tokens = true)
    (hcycles : checkCycles e.kind q.fields = .ok ()) {b : BulkQuery} (hrun : run ⟨e, q⟩ = .ok b) :
    b.text = .ok (bulkRunOperation (Vocabulary.wire b.operation)
      (listField (Vocabulary.wire q.operation) q.fields.render)
        (FieldSet.ofNames bulkFields).render) := by
  obtain ⟨hkind, rfl⟩ := run_eq_ok hrun
  have hlist : q.listSelection = .ok (listField (Vocabulary.wire q.operation) q.fields.render) := by
    rw [Query.listSelection, FieldSet.text, if_pos hbounds]
    rfl
  rw [text, runText]
  simp only [hkind, if_true, hcycles, hlist, fields_text]
  rfl

/-- The document that runs a list in bulk is read as one operation, whose argument is the list. -/
theorem runText_reads {e : Entity} {q : Query e}
    (hnames : ∀ n ∈ FieldToken.allNamesOfList q.fields.tokens, OnOneLine n)
    (hbounds : FieldToken.hasTextAll q.fields.tokens = true)
    (hcycles : checkCycles e.kind q.fields = .ok ()) {b : BulkQuery} (hrun : run ⟨e, q⟩ = .ok b) :
    ∃ text, b.text = .ok text ∧ Grammar.read text =
      some { type := .mutation
             name := none
             selection := [plainField (Vocabulary.wire b.operation)
              [("query",
                .string (braced (listField (Vocabulary.wire q.operation) q.fields.render)))]
              b.payload] } := by
  have htext := text_run hbounds hcycles hrun
  obtain ⟨-, rfl⟩ := run_eq_ok hrun
  have hbulk : FieldToken.fields tokens ≠ [] := FieldToken.fields_ne_nil (by decide)
  have hparts : Query.PartsRead
      ("query", .string (braced (listField (Vocabulary.wire q.operation) q.fields.render)))
      [plainField "bulkOperation" [] (FieldToken.fields tokens)] _ _ :=
    ⟨Datum.lexes_entry (by decide) (lexes_blockString_braced (onOneLine_listField hnames)), trivial,
      lexes_braced (lexes_plainField "bulkOperation" (by decide) lexes_fields hbulk) (by simp),
      ⟨⟨trivial, FieldToken.fields_areProper _⟩, trivial⟩⟩
  refine ⟨_, htext, ?_⟩
  rw [bulkRunOperation_eq]
  exact hparts.read_documentText .mutation .bulkOperationRunQuery

/-- The document that asks for the bulk operation in progress is read as one operation. -/
theorem currentText_reads :
    ∃ text, current.text = .ok text ∧ Grammar.read text =
      some { type := .query
             name := none
             selection :=
               [plainField (Vocabulary.wire current.operation) [] current.payload] } := by
  have hbulk : FieldToken.fields tokens ≠ [] := FieldToken.fields_ne_nil (by decide)
  have hfield : Lexes _ (plainField (Vocabulary.wire RootField.currentBulkOperation) []
      (FieldToken.fields tokens)).tokens :=
    lexes_field (lexes_name (Query.isName_wire_rootField _)) (lexes_braced lexes_fields hbulk)
  have hoperation : Lexes (Vocabulary.wire OperationType.query ++ " " ++ _)
      (Operation.tokens { type := .query, name := none, selection := [_] }) :=
        Query.lexes_operation hfield
  exact ⟨_, rfl, Query.read_of_lexes hoperation (by simp)
    ⟨⟨trivial, FieldToken.fields_areProper _⟩, trivial⟩⟩

end BulkQuery

/-! ### Reached requests

What is reached is defined by the calls that lead to it, and the payload of a request is the tree of
its selection. Both are later used by the theorems about replies and about the log.
-/

namespace Request

variable {r : Request}

/-- A request that calls reach: a reached query, the bulk run of one, or the question for the bulk
operation in progress. -/
inductive Reached (u : Usage) : Request → Prop
  /-- A query that calls reach. -/
  | query {e : Entity} {o : Origin} {q : Query e} : Query.Reached u o q → Reached u (.query ⟨e, q⟩)
  /-- The run of a query that calls reach, if there is one. -/
  | run {e : Entity} {o : Origin} {q : Query e} {b : BulkQuery} :
      Query.Reached u o q → BulkQuery.run ⟨e, q⟩ = .ok b → Reached u (.bulk b)
  /-- The question for the bulk operation in progress. -/
  | current : Reached u (.bulk .current)

/-- The selection of the root field of the document of a request. -/
def payload : Request → List Field
  | .query q => q.2.payload
  | .bulk b => b.payload

/-- **The document of a reached request is read as one operation** with its root field over its
selection. -/
theorem Reached.build_reads (h : r.Reached .plain) :
    ∃ d arguments, r.build = .ok d ∧ Grammar.read d.text =
      some { type := r.operation.operationType
             name := none
             selection := [plainField (Vocabulary.wire r.operation) arguments r.payload] } := by
  cases h with
  | query hq =>
    obtain ⟨tree, htree⟩ := hq.exists_tree
    obtain ⟨text, hcompile, hread⟩ := hq.compile_reads htree
    obtain ⟨argument, -, rfl⟩ := Option.map_eq_some_iff.1 htree
    exact ⟨⟨text, _⟩, [argument], by rw [build, hcompile]; rfl, hread⟩
  | @run _ _ _ b hq hrun =>
    obtain ⟨text, htext, hread⟩ :=
      BulkQuery.runText_reads hq.hasText.named.onOneLine hq.hasText.bounds
        hq.invariant.selects.checkCycles_eq_ok hrun
    obtain ⟨-, rfl⟩ := BulkQuery.run_eq_ok hrun
    exact ⟨⟨text, _⟩, _, by rw [build, compile, htext]; rfl, hread⟩
  | current =>
    obtain ⟨text, htext, hread⟩ := BulkQuery.currentText_reads
    exact ⟨⟨text, _⟩, [], by rw [build, compile, htext]; rfl, hread⟩

end Request

end CatalogQuery
