import CatalogQuery.Text.Basic

/-!
# Paths of files

The text of a path cut into names. Slashes in a row count as one, a dot alone names nothing, and two
dots lead to the parent. Two slashes at the beginning are kept, any other number of them is one.
-/

namespace CatalogQuery

/-- A path of a file. -/
structure FilePath where
  /-- The slashes that it begins with: none, one or two. -/
  rootSlashes : Nat
  /-- The names, the dots that lead to a parent among them. -/
  names : List String
  deriving DecidableEq, Repr

namespace FilePath

/-- The path that a text denotes. -/
def ofText (text : String) : FilePath :=
  let cs := text.toList
  let slashes := (cs.takeWhile (· == '/')).length
  let names := (splitAtChar '/' cs).map String.ofList
  { rootSlashes := if 2 < slashes then 1 else slashes
    names := names.filter fun n ↦ n != "" && n != "." }

/-- The path of names below the place where relative paths begin. -/
def ofNames (names : List String) : FilePath :=
  { rootSlashes := 0, names }

/-- The text of a path; a path without names and slashes is a dot. -/
def text (p : FilePath) : String :=
  if p.rootSlashes = 0 && p.names.isEmpty then "."
  else String.ofList (List.replicate p.rootSlashes '/') ++ joinWith "/" p.names

/-- The last name of a path. -/
def lastName (p : FilePath) : String :=
  p.names.getLast?.getD ""

/-- The extension of a name: from its last dot on, unless that is its first or last character. -/
def extensionOf (name : List Char) : List Char :=
  let stem := dropTrailing (· != '.') name
  let after := name.drop stem.length
  if stem.length ≤ 1 || after.isEmpty then [] else '.' :: after

/-- The extension of a path. -/
def extension (p : FilePath) : String :=
  String.ofList (extensionOf p.lastName.toList)

end FilePath

end CatalogQuery
