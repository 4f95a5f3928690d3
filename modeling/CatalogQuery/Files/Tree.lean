import CatalogQuery.Files.Path

/-!
# Trees of files

What is stored where, as far as the search for settings can tell. A tree lists its files and
directories with the names that lead to them from the root; the directories on the way to an entry
are there too. `FileTree.find` follows a path from a directory, and every directory that it passes
must exist, also where two dots lead back out of it.
-/

namespace CatalogQuery

/-- What a name stands for. -/
inductive FileEntry where
  | file (content : List UInt8)
  | directory
  deriving DecidableEq, Repr

/-- A tree of files, as the entries with their names from the root. -/
abbrev FileTree := List (List String × FileEntry)

/-- What following a path comes to. -/
inductive Found where
  | entry (e : FileEntry)
  | nothing
  /-- A name or the path is longer than the system admits. -/
  | tooLong
  deriving DecidableEq, Repr

namespace FileTree

/-- The largest number of octets in a name. -/
def nameLimit : Nat := 255

/-- The largest number of octets in the text of a path. -/
def pathLimit : Nat := 4095

/-- What stands at a place; of entries with the same names the last counts. -/
def at? (tree : FileTree) (place : List String) : Option FileEntry :=
  match tree.reverse.find? fun e ↦ e.1 == place with
  | some e => some e.2
  | none =>
    if place.isEmpty || tree.any fun e ↦ place.isPrefixOf e.1 then some .directory else none

/-- What the names lead to from a place. -/
def follow (tree : FileTree) (place : List String) : (names : List String) → Found
  | [] =>
    match tree.at? place with
    | some e => .entry e
    | none => .nothing
  | name :: names =>
    match tree.at? place with
    | some .directory =>
      if nameLimit < name.utf8ByteSize then .tooLong
      else if name = ".." then tree.follow place.dropLast names
      else tree.follow (place ++ [name]) names
    | _ => .nothing

/-- What a path leads to from a directory. A path that begins at the root leads nowhere but to the
root itself, and a path with the null character leads nowhere. -/
def find (tree : FileTree) (start : List String) (path : FilePath) : Found :=
  if path.text.contains '\x00' then .nothing
  else if pathLimit < path.text.utf8ByteSize then .tooLong
  else if path.rootSlashes = 0 then tree.follow start path.names
  else if path.names.isEmpty then .entry .directory
  else .nothing

end FileTree

end CatalogQuery
