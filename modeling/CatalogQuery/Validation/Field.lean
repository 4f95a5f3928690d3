import CatalogQuery.Datum.Equal
import CatalogQuery.Validation.Issue

/-!
# Fields of a checked mapping

A field is looked up by its name and checked by its type; what is wrong with it is reported under
the name. A field with a default may be absent.
-/

namespace CatalogQuery.Field

variable {α : Type}

/-- A field that must be there. -/
def required (entries : List (Datum × Datum)) (name : String) (check : Datum → Checked α) :
    Checked α :=
  match Datum.field? name entries with
  | some d => (check d).under name
  | none => .error [⟨[name], .missing⟩]

/-- A field that stands for `default` when it is absent. -/
def optional (entries : List (Datum × Datum)) (name : String) (default : α)
    (check : Datum → Checked α) : Checked α :=
  match Datum.field? name entries with
  | some d => (check d).under name
  | none => .ok default

end CatalogQuery.Field
