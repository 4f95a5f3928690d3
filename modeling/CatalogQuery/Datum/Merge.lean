import CatalogQuery.Datum.Equal

/-!
# Merging of mappings

A mapping laid over another one. An entry of the upper mapping replaces the one under the same key,
unless both hold mappings: these are merged in turn. Keys of the lower mapping keep their places,
new keys follow in their order.

`Datum.lookup?` is the view by which a merged mapping is compared with its parts: the value that is
reached by a path of keys.
-/

namespace CatalogQuery.Datum

mutual

/-- The value under a key where `below` stood and the second is laid over it. -/
def mergeValue (below : Option Datum) : Datum → Datum
  | .dict above =>
    match below with
    | some (.dict es) => .dict (merge es above)
    | _ => .dict above
  | above => above

/-- The second mapping laid over the first. -/
def merge (below : List (Datum × Datum)) : List (Datum × Datum) → List (Datum × Datum)
  | [] => below
  | (k, v) :: above => merge (put k (mergeValue (get? k below) v) below) above

end

/-- The value that a path of keys leads to. -/
def lookup? : (path : List Datum) → (entries : List (Datum × Datum)) → Option Datum
  | [], entries => some (.dict entries)
  | [key], entries => get? key entries
  | key :: next :: path, entries =>
    match get? key entries with
    | some (.dict es) => lookup? (next :: path) es
    | _ => none

/-- Entries with a value put where a path leads to; mappings on the way are made as needed. -/
def putAt (value : Datum) : (path : List Datum) → (entries : List (Datum × Datum)) →
    List (Datum × Datum)
  | [], entries => entries
  | [key], entries => put key value entries
  | key :: next :: path, entries =>
    match get? key entries with
    | some (.dict es) => put key (.dict (putAt value (next :: path) es)) entries
    | _ => put key (.dict (putAt value (next :: path) [])) entries

end CatalogQuery.Datum
