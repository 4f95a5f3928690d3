/-!
# Validation with located issues

A check of a composite value goes on after a fault and reports every fault with the place where it
was found. `Checked` is the outcome of a check: a value, or the issues in the order of the fields.
`Checked.ap` combines the checks of two fields and keeps the issues of both.
-/

namespace CatalogQuery

/-- What is wrong with a value. -/
inductive IssueKind where
  | missing | modelType | listType | stringType | stringUnicode
  | intType | intParsing | intParsingSize | intFromFloat | finiteNumber
  | floatType | floatParsing | boolType | boolParsing
  | enum | greaterThan | valueError | extraForbidden | noSuchAttribute | frozenField
  | urlType | urlParsing | urlScheme | urlTooLong
  deriving DecidableEq, Repr

/-- The name that an issue is reported under. -/
def IssueKind.code : IssueKind → String
  | .missing => "missing"
  | .modelType => "model_type"
  | .listType => "list_type"
  | .stringType => "string_type"
  | .stringUnicode => "string_unicode"
  | .intType => "int_type"
  | .intParsing => "int_parsing"
  | .intParsingSize => "int_parsing_size"
  | .intFromFloat => "int_from_float"
  | .finiteNumber => "finite_number"
  | .floatType => "float_type"
  | .floatParsing => "float_parsing"
  | .boolType => "bool_type"
  | .boolParsing => "bool_parsing"
  | .enum => "enum"
  | .greaterThan => "greater_than"
  | .valueError => "value_error"
  | .extraForbidden => "extra_forbidden"
  | .noSuchAttribute => "no_such_attribute"
  | .frozenField => "frozen_field"
  | .urlType => "url_type"
  | .urlParsing => "url_parsing"
  | .urlScheme => "url_scheme"
  | .urlTooLong => "url_too_long"

/-- A fault and the path of field names and list indexes that leads to it. -/
structure Issue where
  /-- The path from the checked value to the fault. -/
  path : List String
  /-- The fault. -/
  kind : IssueKind
  deriving DecidableEq, Repr

/-- The outcome of a check. -/
abbrev Checked (α : Type) := Except (List Issue) α

namespace Checked

variable {α β : Type}

/-- A check that fails at the value itself. -/
def fail (kind : IssueKind) : Checked α :=
  .error [⟨[], kind⟩]

/-- The outcome of a check made at `segment` of a larger value. -/
def under (segment : String) : Checked α → Checked α
  | .ok a => .ok a
  | .error issues => .error (issues.map fun i ↦ { i with path := segment :: i.path })

/-- A function and its argument checked side by side; the issues of the function come first. -/
def ap : Checked (α → β) → Checked α → Checked β
  | .ok f, .ok a => .ok (f a)
  | .ok _, .error issues => .error issues
  | .error issues, .ok _ => .error issues
  | .error issues, .error more => .error (issues ++ more)

/-- Checks side by side, in order. -/
def all : List (Checked α) → Checked (List α)
  | [] => .ok []
  | c :: cs => ap (Except.map List.cons c) (all cs)

/-- The issues of a check. -/
def issues : Checked α → List Issue
  | .ok _ => []
  | .error is => is

end Checked

end CatalogQuery
