import CatalogQuery.Document
import CatalogQuery.Proofs.Literal

/-!
# Documents are read as their queries

`Query.tree?` is the operation that a query stands for: its type, its root field with the arguments
of the identifier, of the bound or of the input, and below it the selected fields in order, in the
field that holds the entity of an update or in the nodes of a list.

`Query.text_reads` says that the document of a query is read as that operation. Every document is
put together from four kinds of parts, each with one lemma: a selection in braces (`lexes_braced`),
a field with its arguments before such a selection (`lexes_field`), the nodes of a list
(`lexes_edgesOf`), and the selected fields themselves, by recursion on them
(`FieldToken.lexes_render`). What the lemmas ask of a selection is that its names are names, that no
selection in it is empty, and that its bounds have texts.

## The operation of a query

`Query.tree?` is partial for one reason: a query is a record that can be made in any way, and one
that reads without an identifier or lists without a bound stands for nothing.
`Query.Reached.exists_tree` shows elsewhere that calls make no such query.

The three kinds of documents differ in the argument of the root field and in what encloses the
selected fields: nothing for an entity that is read, `edges` and `node` for a list, the field of the
entity for an update. Each kind has an equation that brings its text into one form
(`Query.documentText`) and one lemma that says that both parts of that form are read
(`Query.PartsRead`); the document as a whole is then read by `PartsRead.read_documentText`, once for
all three.

## Names that are no names

A name is written without quotation, so a selection with a name such as `id } }` would change the
document around it. `FieldToken.AreNamed` is therefore a hypothesis of the lemmas here and not a
convenience. That calls select by nothing but the names of fields is shown of reached queries.
-/

namespace CatalogQuery

open Grammar

/-! ### What a selection stands for -/

/-- The argument that bounds a list. -/
def Connection.entry (c : Connection) : String × Value :=
  (c.side.argument, .int c.count)

/-- A field without alias. -/
def plainField (name : String) (arguments : List (String × Value)) (selection : List Field) :
    Field :=
  .mk none name arguments selection

/-- The selection of the nodes of a list. -/
def edgesFields (fs : List Field) : List Field :=
  [plainField "edges" [] [plainField "node" [] fs]]

namespace FieldToken

mutual

/-- The field that a token stands for. -/
def field : FieldToken → Field
  | .leaf n => plainField n [] []
  | .node n _ xs none => plainField n [] (fields xs)
  | .node n _ xs (some c) => plainField n [c.entry] (edgesFields (fields xs))

/-- The fields that tokens stand for. -/
def fields : List FieldToken → List Field
  | [] => []
  | x :: xs => field x :: fields xs

end

mutual

/-- The names at and below a field are names, and no selection below it is empty. -/
def IsNamed : FieldToken → Prop
  | .leaf n => isName n = true
  | .node n _ xs _ => isName n = true ∧ xs ≠ [] ∧ AreNamed xs

/-- The names in a selection are names, and no selection below it is empty. -/
def AreNamed : List FieldToken → Prop
  | [] => True
  | x :: xs => IsNamed x ∧ AreNamed xs

end

theorem fields_ne_nil {xs : List FieldToken} (h : xs ≠ []) : fields xs ≠ [] := by
  cases xs with
  | nil => exact absurd rfl h
  | cons x xs => simp [fields]

end FieldToken

/-! ### Parts of documents -/

section Parts

variable {s head name bound : String} {fs : List Field} {es : List (String × Value)}

/-- A selection in braces. -/
theorem lexes_braced (h : Lexes s (fieldTokens fs)) (hne : fs ≠ []) :
    Lexes (braced s) (bracedTokens (fieldTokens fs)) := by
  have htokens : bracedTokens (fieldTokens fs) =
      .punctuator '\x7b' :: (fieldTokens fs ++ [.punctuator '\x7d']) := by
    rw [bracedTokens, isEmpty_fieldTokens, if_neg (by simpa using hne)]
  rw [htokens]
  exact (h.glue_append (g := "\x7b ") rfl).append_glue (g := " \x7d") rfl

theorem argumentTokens_singleton (e : String × Value) :
    argumentTokens [e] =
      .punctuator '(' :: (.name e.1 :: .punctuator ':' :: e.2.tokens ++ [.punctuator ')']) := by
  simp [argumentTokens, entryTokens]

/-- A name with one argument. -/
theorem lexes_call {e : String × Value} (hname : isName name = true)
    (hbound : Lexes bound (Datum.entryToken e)) :
    Lexes (name ++ "(" ++ bound ++ ")") (.name name :: argumentTokens [e]) := by
  have hopen : glueTokens "(" = [.punctuator '('] := rfl
  have hclose : glueTokens ")" = [.punctuator ')'] := rfl
  have h := ((lexes_name hname).join (g := "(") rfl (by decide) hbound).append_glue (g := ")") rfl
  rw [argumentTokens_singleton]
  simpa [Datum.entryToken, hopen, hclose] using h

/-- A field with its arguments before the selection in braces. -/
theorem lexes_field (hhead : Lexes head (.name name :: argumentTokens es))
    (hbody : Lexes s (bracedTokens (fieldTokens fs))) :
    Lexes (head ++ " " ++ s) (plainField name es fs).tokens := by
  have hspace : glueTokens " " = [] := rfl
  have h := hhead.join (g := " ") rfl (by decide) hbody
  simpa [plainField, Field.tokens, keyTokens, hspace] using h

/-- A field without arguments before the selection in braces. -/
theorem lexes_plainField (name : String) (hname : isName name = true) (h : Lexes s (fieldTokens fs))
    (hne : fs ≠ []) :
    Lexes (name ++ " " ++ braced s) (fieldTokens [plainField name [] fs]) := by
  have hfield : Lexes _ (plainField name [] fs).tokens :=
    lexes_field (lexes_name hname) (lexes_braced h hne)
  rw [fieldTokens, fieldTokens, List.append_nil]
  exact hfield

/-- The nodes of a list. -/
theorem lexes_edgesOf (h : Lexes s (fieldTokens fs)) (hne : fs ≠ []) :
    Lexes (edgesOf s) (bracedTokens (fieldTokens (edgesFields fs))) := by
  -- The two fields around the nodes have no arguments and no siblings.
  have hnode := lexes_plainField "node" (by decide) h hne
  have hedges := lexes_plainField "edges" (by decide) hnode (by simp)
  exact lexes_braced hedges (by simp [edgesFields])

/-- A bound is read as the argument of its side with its count. -/
theorem lexes_bound (c : Connection) : Lexes c.render (Datum.entryToken c.entry) := by
  have hargument : isName c.side.argument = true := by
    cases c.side <;> decide
  exact Datum.lexes_entry hargument (lexes_integerText c.count)

end Parts

/-! ### Selections -/

namespace FieldToken

theorem flatten_map_tokens_fields (xs : List FieldToken) :
    ((fields xs).map Field.tokens).flatten = fieldTokens (fields xs) := by
  induction xs with
  | nil => rfl
  | cons x xs ih => rw [fields, List.map_cons, List.flatten_cons, ih, fieldTokens]

theorem lexes_joinWith {xs : List FieldToken}
    (h : List.Forall₂ Lexes (renderAll xs) ((fields xs).map Field.tokens)) :
    Lexes (joinWith "," (renderAll xs)) (fieldTokens (fields xs)) := by
  have hjoined := Lexes.joinWith (g := ",") rfl (by decide) rfl h
  rwa [flatten_map_tokens_fields] at hjoined

mutual

/-- **A field is read as what it stands for.** -/
theorem lexes_render : ∀ {x : FieldToken}, x.IsNamed → Lexes x.render x.field.tokens
  | .leaf n, h => by
    have hname := lexes_name h
    simpa [render, field, plainField, Field.tokens, keyTokens, argumentTokens, fieldTokens,
      bracedTokens] using hname
  | .node n k xs none, ⟨hname, hne, hxs⟩ => by
    have hbelow := lexes_joinWith (lexes_renderAll hxs)
    have hfield := lexes_plainField n hname hbelow (fields_ne_nil hne)
    rwa [fieldTokens, fieldTokens, List.append_nil] at hfield
  | .node n k xs (some c), ⟨hname, hne, hxs⟩ => by
    have hbelow := lexes_joinWith (lexes_renderAll hxs)
    have hedges := lexes_edgesOf hbelow (fields_ne_nil hne)
    have hfield := lexes_field (lexes_call hname (lexes_bound c)) hedges
    -- The text joins the closing parenthesis and the blank; they are taken apart for the lemma
    -- about calls.
    have htext : render (.node n k xs (some c)) =
        n ++ "(" ++ c.render ++ ")" ++ " " ++ edgesOf (joinWith "," (renderAll xs)) := by
      have hclose : ") " = ")" ++ " " := rfl
      simp only [render, boundedText, hclose, String.append_assoc]
    rw [htext]
    exact hfield

theorem lexes_renderAll : ∀ {xs : List FieldToken}, AreNamed xs →
    List.Forall₂ Lexes (renderAll xs) ((fields xs).map Field.tokens)
  | [], _ => .nil
  | _ :: _, ⟨hx, hxs⟩ => .cons (lexes_render hx) (lexes_renderAll hxs)

end

mutual

theorem field_isProper : ∀ x : FieldToken, x.field.IsProper
  | .leaf _ => ⟨trivial, trivial⟩
  | .node _ _ xs none => ⟨trivial, fields_areProper xs⟩
  | .node _ _ xs (some _) =>
    ⟨⟨trivial, trivial⟩, ⟨trivial, ⟨trivial, fields_areProper xs⟩, trivial⟩, trivial⟩

/-- The only arguments in a selection are bounds, which are integers. -/
theorem fields_areProper : ∀ xs : List FieldToken, FieldsAreProper (fields xs)
  | [] => trivial
  | x :: xs => ⟨field_isProper x, fields_areProper xs⟩

end

end FieldToken

/-! ### What a query stands for -/

/-- The input of an update as a mapping. -/
def Inputs.toDatum (i : Inputs) : Datum :=
  .dict (i.entries.map fun e ↦ (.str e.1, e.2))

namespace Query

variable {e : Entity} {q : Query e}

/-- The argument of the root field: the identifier, the bound or the input. -/
def argument? (q : Query e) : Option (String × Value) :=
  match q.kind with
  | .read => q.identifier.map fun i ↦ ("id", .string i.gid)
  | .connection => q.connection.map Connection.entry
  | .update => q.inputs.bind fun inputs ↦ inputs.toDatum.value?.map (("input", ·))

/-- The selection of the root field: the fields themselves, the nodes of a list with them, or the
entity of an update with them. -/
def payload (q : Query e) : List Field :=
  match q.kind with
  | .read => FieldToken.fields q.fields.tokens
  | .connection => edgesFields (FieldToken.fields q.fields.tokens)
  | .update => [plainField e.payloadField [] (FieldToken.fields q.fields.tokens)]

/-- The operation that a query stands for. -/
def tree? (q : Query e) : Option Operation :=
  q.argument?.map fun argument ↦
    { type := q.operation.operationType
      name := none
      selection := [plainField (Vocabulary.wire q.operation) [argument] q.payload] }

/-! ### Operations -/

/-- A text that is read as the tokens of an operation is read as the operation. -/
theorem read_of_lexes {s : String} {o : Operation} (h : Lexes s o.tokens) (hne : o.selection ≠ [])
    (hproper : FieldsAreProper o.selection) : Grammar.read s = some o := by
  rw [Grammar.read, h.tokens?_eq, Option.bind_some]
  exact operation?_tokens hne hproper

/-- A keyword before one field in braces is read as an operation without a name. -/
theorem lexes_operation {s : String} {type : OperationType} {f : Field} (h : Lexes s f.tokens) :
    Lexes (Vocabulary.wire type ++ " " ++ braced s)
      (Operation.tokens { type, name := none, selection := [f] }) := by
  have hkeyword : isName (Vocabulary.wire type) = true := by
    cases type <;> decide
  have hspace : glueTokens " " = [] := rfl
  have hfields : Lexes s (fieldTokens [f]) := by
    rwa [fieldTokens, fieldTokens, List.append_nil]
  have hjoin := (lexes_name hkeyword).join (g := " ") rfl (by decide)
    (lexes_braced hfields (by simp))
  simpa [Operation.tokens, hspace] using hjoin

theorem isName_wire_rootField (r : RootField) : isName (Vocabulary.wire r) = true := by
  cases r <;> decide

/-- The text of a document from its parts: the keyword, the root field, its argument and its
selection. -/
def documentText (type : OperationType) (root : RootField) (argument selection : String) : String :=
  Vocabulary.wire type ++ " " ++
    braced (Vocabulary.wire root ++ "(" ++ argument ++ ")" ++ " " ++ selection)

/-- The texts of an argument and of a selection are read as what they stand for. -/
structure PartsRead (argument : String × Value) (fs : List Field) (a s : String) : Prop where
  /-- The first text is read as the argument. -/
  argument_lexes : Lexes a (Datum.entryToken argument)
  /-- The argument can be read back from its tokens. -/
  argument_isProper : argument.2.IsProper
  /-- The second text is read as the selection. -/
  selection_lexes : Lexes s (bracedTokens (fieldTokens fs))
  /-- The selection can be read back from its tokens. -/
  selection_areProper : FieldsAreProper fs

/-- **A document is read from its two parts**, whatever its type and its root field are. -/
theorem PartsRead.read_documentText {argument : String × Value} {fs : List Field} {a s : String}
    (h : PartsRead argument fs a s) (type : OperationType) (root : RootField) :
    Grammar.read (documentText type root a s) =
      some { type, name := none, selection := [plainField (Vocabulary.wire root) [argument] fs] } :=
  read_of_lexes
    (lexes_operation
      (lexes_field (lexes_call (isName_wire_rootField root) h.argument_lexes) h.selection_lexes))
    (by simp) ⟨⟨⟨h.argument_isProper, trivial⟩, h.selection_areProper⟩, trivial⟩

/-- The text that reads an entity, from the common parts. -/
theorem readOperation_eq (root : RootField) (literal body : String) :
    readOperation (Vocabulary.wire root) literal body =
      documentText .query root ("id" ++ ": " ++ literal) (braced body) := by
  have hopen : "(id: " = "(" ++ "id" ++ ": " := rfl
  have hclose : ") " = ")" ++ " " := rfl
  have hkeyword : "query " = Vocabulary.wire OperationType.query ++ " " := rfl
  simp only [readOperation, documentText, hopen, hclose, hkeyword, String.append_assoc]

/-- The text that updates an entity, from the common parts. -/
theorem updateOperation_eq (root : RootField) (assignments : List String)
    (payloadField body : String) :
    updateOperation (Vocabulary.wire root) assignments payloadField body =
      documentText .mutation root ("input" ++ ": " ++ braced (joinWith ", " assignments))
        (braced (payloadField ++ " " ++ braced body)) := by
  have hopen : "(input: " = "(" ++ "input" ++ ": " := rfl
  have hclose : ") " = ")" ++ " " := rfl
  have hkeyword : "mutation " = Vocabulary.wire OperationType.mutation ++ " " := rfl
  simp only [updateOperation, documentText, hopen, hclose, hkeyword, String.append_assoc]

/-- The text that lists entities, from the common parts. -/
theorem listOperation_eq (root : RootField) (bound body : String) :
    listOperation (listField (boundedField (Vocabulary.wire root) bound) body) =
      documentText .query root bound (edgesOf body) := by
  have hkeyword : "query " = Vocabulary.wire OperationType.query ++ " " := rfl
  simp only [listOperation, listField, boundedField, documentText, hkeyword, String.append_assoc]

/-! ### Queries -/

/-- The assignments of an update are written as the entries of a mapping. -/
theorem assignmentTexts_eq (es : List (String × Datum)) :
    assignmentTexts es = Datum.entryLiterals (es.map fun e ↦ (.str e.1, e.2)) := by
  induction es with
  | nil => rfl
  | cons e es ih =>
    obtain ⟨key, d⟩ := e
    rw [assignmentTexts, ih, List.map_cons, Datum.entryLiterals]
    rfl

/-- What the document of a query needs: a selection of names in which none is empty, and texts of
all numbers. -/
structure HasText (q : Query e) : Prop where
  /-- The names are names, and no nested selection is empty. -/
  named : FieldToken.AreNamed q.fields.tokens
  /-- Something is selected. -/
  ne_nil : q.fields.tokens ≠ []
  /-- The bounds of nested lists have texts. -/
  bounds : FieldToken.hasTextAll q.fields.tokens = true
  /-- The bound of the query has a text. -/
  bound : ∀ c, q.connection = some c → c.hasText = true
  /-- The numbers in the input have texts. -/
  numbers : ∀ inputs, q.inputs = some inputs → inputs.toDatum.HasNumbers

namespace HasText

variable (h : q.HasText)
include h

theorem fields_text : q.fields.text = .ok q.fields.render := by
  rw [FieldSet.text, if_pos h.bounds]

/-- The text of the selection is read as what the selection stands for. -/
theorem lexes_fields :
    Lexes q.fields.render (fieldTokens (FieldToken.fields q.fields.tokens)) :=
  FieldToken.lexes_joinWith (FieldToken.lexes_renderAll h.named)

theorem fields_ne_nil : FieldToken.fields q.fields.tokens ≠ [] :=
  FieldToken.fields_ne_nil h.ne_nil

/-- The document that reads one entity. -/
theorem readText_eq (hkind : q.kind = .read) {argument : String × Value}
    (hargument : q.argument? = some argument) :
    ∃ a s, q.readText = .ok (documentText .query q.operation a s) ∧
      PartsRead argument q.payload a s := by
  simp only [argument?, hkind] at hargument
  obtain ⟨i, hi, rfl⟩ := Option.map_eq_some_iff.1 hargument
  refine ⟨_, braced q.fields.render, ?_,
    Datum.lexes_entry (by decide) (Datum.lexes_textLiteral i.gid), trivial, ?_, ?_⟩
  · rw [readText, hi]
    simp only [h.fields_text, Except.map, readOperation_eq]
  · simp only [payload, hkind]
    exact lexes_braced h.lexes_fields h.fields_ne_nil
  · simp only [payload, hkind]
    exact FieldToken.fields_areProper _

/-- The document that lists entities. -/
theorem boundedSelection_eq (hkind : q.kind = .connection) {argument : String × Value}
    (hargument : q.argument? = some argument) :
    ∃ a s, q.boundedSelection.map listOperation = .ok (documentText .query q.operation a s) ∧
      PartsRead argument q.payload a s := by
  simp only [argument?, hkind] at hargument
  obtain ⟨c, hc, rfl⟩ := Option.map_eq_some_iff.1 hargument
  have hbound : c.text = .ok c.render := by
    rw [Connection.text, if_pos (h.bound c hc)]
  refine ⟨_, edgesOf q.fields.render, ?_, lexes_bound c, trivial, ?_, ?_⟩
  · rw [boundedSelection, hc]
    simp only [hbound, h.fields_text]
    exact congrArg Except.ok (listOperation_eq ..)
  · simp only [payload, hkind]
    exact lexes_edgesOf h.lexes_fields h.fields_ne_nil
  · simp only [payload, hkind]
    exact ⟨⟨trivial, ⟨trivial, FieldToken.fields_areProper _⟩, trivial⟩, trivial⟩

/-- The document that updates one entity. -/
theorem updateText_eq (hkind : q.kind = .update) {argument : String × Value}
    (hargument : q.argument? = some argument) :
    ∃ a s, q.updateText = .ok (documentText .mutation q.operation a s) ∧
      PartsRead argument q.payload a s := by
  simp only [argument?, hkind] at hargument
  obtain ⟨inputs, hinputs, hvalue⟩ := Option.bind_eq_some_iff.1 hargument
  obtain ⟨v, hv, rfl⟩ := Option.map_eq_some_iff.1 hvalue
  obtain ⟨vs, hvs, rfl⟩ := Option.map_eq_some_iff.1 hv
  obtain ⟨ls, hls, hread⟩ := Datum.entryLiterals_lexes hvs (h.numbers inputs hinputs)
  have hname : isName e.payloadField = true := by
    cases e <;> decide
  refine ⟨_, braced (e.payloadField ++ " " ++ braced q.fields.render), ?_,
    Datum.lexes_entry (by decide) (Datum.lexes_object hread), hread.proper, ?_, ?_⟩
  · rw [updateText, hinputs]
    simp only [assignmentTexts_eq, hls, h.fields_text]
    exact congrArg Except.ok (updateOperation_eq ..)
  · simp only [payload, hkind]
    exact lexes_braced (lexes_plainField _ hname h.lexes_fields h.fields_ne_nil) (by simp)
  · simp only [payload, hkind]
    exact ⟨⟨trivial, FieldToken.fields_areProper _⟩, trivial⟩

/-- **The document of a query is read as the query.** -/
theorem text_reads {o : Operation} (htree : q.tree? = some o) :
    ∃ text, q.text = .ok text ∧ Grammar.read text = some o := by
  obtain ⟨argument, hargument, rfl⟩ := Option.map_eq_some_iff.1 htree
  -- One case for each kind; all that is left in each is that the root field has the type of the
  -- kind.
  rcases hkind : q.kind with _ | _ | _
  · obtain ⟨a, s, htext, hparts⟩ := h.readText_eq hkind hargument
    refine ⟨_, by rw [text, hkind]; exact htext, ?_⟩
    rw [hparts.read_documentText, operation, hkind]
    cases e <;> rfl
  · obtain ⟨a, s, htext, hparts⟩ := h.updateText_eq hkind hargument
    refine ⟨_, by rw [text, hkind]; exact htext, ?_⟩
    rw [hparts.read_documentText, operation, hkind]
    cases e <;> rfl
  · obtain ⟨a, s, htext, hparts⟩ := h.boundedSelection_eq hkind hargument
    refine ⟨_, by rw [text, hkind]; exact htext, ?_⟩
    rw [hparts.read_documentText, operation, hkind]
    cases e <;> rfl

end HasText

end Query

end CatalogQuery
