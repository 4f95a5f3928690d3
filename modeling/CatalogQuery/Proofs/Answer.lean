import CatalogQuery.Datum.Equal
import CatalogQuery.Proofs.Document
import CatalogQuery.Proofs.Keys

/-!
# Answers to selections

What a shop answers to a selection, by the rules of the query language and without any knowledge of
products or variants. A shop holds scalars, objects with named fields, and lists (`Holding`). The
answer to a selection of an object is a mapping with one entry for each selected field, in order,
under the alias of the field or else its name; a list answers item by item, and a field that is not
held is null.

`field?_answerEntries` looks an answer up again: under a name stands the answer to the first field
of that name.

The answer is defined by recursion on what is held and not on the selection: a shop can refer to
itself in what it selects, but what it holds is finite. That is why fields are found by
`Holding.fieldAnswer`, which walks through the fields of an object, and why a selection of a field
that is not there needs no case of its own.
-/

namespace CatalogQuery

open Grammar

namespace Grammar.Field

/-- The name of a field. -/
def name : Field → String
  | .mk _ n _ _ => n

/-- The key of the answer to a field: its alias, or else its name. -/
def key : Field → String
  | .mk k n _ _ => k.getD n

/-- The selection below a field. -/
def selection : Field → List Field
  | .mk _ _ _ fs => fs

end Grammar.Field

/-- What a shop holds. -/
inductive Holding where
  /-- A scalar, or null. -/
  | scalar (d : Datum)
  /-- An object with named fields. -/
  | object (fields : List (String × Holding))
  /-- A list. -/
  | list (items : List Holding)

namespace Holding

mutual

/-- The answer to a selection. -/
def answer : Holding → List Field → Datum
  | .scalar d, _ => d
  | .object fields, selection => .dict (selection.map fun f ↦ (.str f.key, fieldAnswer fields f))
  | .list items, selection => .list (answers items selection)

/-- The answer to one field of an object. -/
def fieldAnswer : List (String × Holding) → Field → Datum
  | [], _ => .null
  | (n, h) :: fields, f => if n = f.name then answer h f.selection else fieldAnswer fields f

/-- The answers of items in order. -/
def answers : List Holding → List Field → List Datum
  | [], _ => []
  | h :: items, selection => answer h selection :: answers items selection

end

/-- Null, or a scalar that is held as `wire` writes it. -/
def nullable {α : Type} (wire : α → Datum) (o : Option α) : Holding :=
  .scalar (o.elim .null wire)

/-- A list of entities as the nodes of edges. -/
def connection (nodes : List Holding) : Holding :=
  .object [("edges", .list (nodes.map fun h ↦ .object [("node", h)]))]

variable {fields : List (String × Holding)} {selection : List Field}

/-- The items of a list answer one by one. -/
theorem answers_eq_map (items : List Holding) :
    answers items selection = items.map fun h ↦ h.answer selection := by
  induction items with
  | nil => rfl
  | cons h items ih => rw [answers, List.map_cons, ih]

/-! ### Answers to selections of fields -/

/-- The entries that answer to the fields of a selection. -/
def answerEntries (fields : List (String × Holding)) (ts : List FieldToken) :
    List (Datum × Datum) :=
  ts.map fun t ↦ (.str t.name, fieldAnswer fields t.field)

/-- The fields that are selected have no aliases, so the key of an answer is the name of the
field. -/
theorem key_field (t : FieldToken) : t.field.key = t.name := by
  rcases t with n | ⟨n, k, xs, - | c⟩ <;> rfl

/-- An object answers to the fields of a selection with one entry for each. -/
theorem answer_object_fields (fields : List (String × Holding)) (ts : List FieldToken) :
    (Holding.object fields).answer (FieldToken.fields ts) = .dict (answerEntries fields ts) := by
  have hentries : ∀ ts : List FieldToken,
      ((FieldToken.fields ts).map fun f ↦ (Datum.str f.key, fieldAnswer fields f)) =
        answerEntries fields ts := by
    intro ts
    induction ts with
    | nil => rfl
    | cons t ts ih =>
      rw [FieldToken.fields, List.map_cons, ih, key_field, answerEntries, answerEntries,
        List.map_cons]
  rw [answer, hentries]

/-- The answer to a field is the answer of the first holding of that name. -/
theorem fieldAnswer_cons (n : String) (h : Holding) (args : List (String × Value)) :
    fieldAnswer ((n, h) :: fields) (plainField n args selection) = h.answer selection := by
  rw [fieldAnswer]
  exact if_pos rfl

/-- An object with one field answers to that field. -/
theorem answer_object_singleton (n : String) (h : Holding) (args : List (String × Value)) :
    (object [(n, h)]).answer [plainField n args selection] =
      .dict [(.str n, h.answer selection)] := by
  rw [answer, List.map_singleton, fieldAnswer_cons]
  rfl

/-- A list of entities answers with the answers of its nodes. -/
theorem answer_connection (nodes : List Holding) (selection : List Field) :
    (connection nodes).answer (edgesFields selection) = .dict [(.str "edges", .list
      (nodes.map fun h ↦ .dict [(.str "node", h.answer selection)]))] := by
  rw [connection, edgesFields, answer_object_singleton, answer, answers_eq_map, List.map_map]
  simp only [Function.comp_def, answer_object_singleton]

end Holding

/-! ### Looking answers up -/

/-- Under a name stands the answer to the first field of that name. -/
theorem field?_answerEntries (fields : List (String × Holding)) (ts : List FieldToken)
    (n : String) :
    Datum.field? n (Holding.answerEntries fields ts) =
      (ts.find? fun t ↦ t.name == n).map fun t ↦ Holding.fieldAnswer fields t.field := by
  rw [Datum.field?, Datum.get?, Holding.answerEntries, List.find?_map, Option.map_map]
  simp only [Function.comp_def, Datum.equal_str]

end CatalogQuery
