import CatalogQuery.Failure
import CatalogQuery.Files.Tree
import CatalogQuery.Settings.Environment
import CatalogQuery.Settings.Shop
import CatalogQuery.Yaml.Node

/-!
# Sources of settings

The settings of a shop come from a file and from the environment, which is laid over the file. The
file is the one that the caller names or else the first one that exists at six places: three names
in the working directory and three in a directory of the home. Its extension tells the format. A
file that holds nothing, or a value that is empty or zero, holds no settings; any other value than a
mapping is refused. How the contents of a file are read is left open by `Surroundings.settingsBy`;
`Surroundings.settings` reads them as JSON and YAML.
-/

namespace CatalogQuery

/-- Where settings are looked for. -/
structure Surroundings where
  /-- The files. -/
  files : FileTree
  /-- The directory where relative paths begin. -/
  working : List String
  /-- The directory of the user. -/
  home : List String
  /-- The variables. -/
  environment : Environment

/-- The formats of files of settings. -/
inductive FileFormat where
  | json | yaml
  deriving DecidableEq, Repr

/-- The format that an extension stands for. -/
def FileFormat.ofExtension? (extension : String) : Option FileFormat :=
  let small := extension.map asciiLower
  if small = ".json" then some .json
  else if small = ".yaml" || small = ".yml" then some .yaml
  else none

/-- What reads the contents of files: the value that octets hold in a format, if they hold one. -/
abbrev FileReader := FileFormat → List UInt8 → Option Datum

/-- The value that octets hold in a format. -/
def FileFormat.read? (format : FileFormat) (content : List UInt8) : Option Datum :=
  ((Coerce.textOfOctets? content).bind Text.toString?).bind fun s ↦
    match format with
    | .json => (Json.readPoints (codePoints s.toList)).toOption
    | .yaml => Yaml.read? s.toList

/-- The value that is read from an entry of the tree of files; a directory cannot be read. -/
def FileEntry.held? (read : FileReader) (format : FileFormat) : FileEntry → Option Datum
  | .file content => read format content
  | .directory => none

namespace Surroundings

/-- The entries that a file holds, which the path has led to. -/
def parse (read : FileReader) (path : FilePath) (entry : FileEntry) :
    Outcome (List (Datum × Datum)) :=
  match FileFormat.ofExtension? path.extension with
  | none => .error (.configuration (.unsupportedFormat path.extension))
  | some format =>
    match entry.held? read format with
    | none => .error (.configuration (.unreadable path.text))
    | some (.dict entries) => .ok entries
    | some d => if d.isTruthy then .error (.configuration (.noMapping path.text)) else .ok []

/-- The places of files of settings: the directory where each path begins, and the path. -/
def places (s : Surroundings) : List (List String × FilePath) :=
  let inWorking := ["shopify_gql.yaml", "shopify_gql.yml", "shopify_gql.json"]
  let inHome := ["config.yaml", "config.yml", "config.json"]
  inWorking.map (fun name ↦ (s.working, .ofNames [name])) ++
    inHome.map fun name ↦ ([], .ofNames (s.home ++ [".shopify_gql", name]))

/-- The first file that exists, and the path that led to it. -/
def search (s : Surroundings) :
    List (List String × FilePath) → Outcome (Option (FilePath × FileEntry))
  | [] => .ok none
  | (start, path) :: places =>
    match s.files.find start path with
    | .entry e => .ok (some (path, e))
    | .nothing => s.search places
    | .tooLong => Outcome.fault .system

/-- The file of settings and its path, if there is one; an empty name is none. -/
def file (s : Surroundings) (name : Option String) : Outcome (Option (FilePath × FileEntry)) :=
  let text := name.getD ""
  if text.isEmpty then s.search s.places
  else
    let path := FilePath.ofText text
    match s.files.find s.working path with
    | .entry e => .ok (some (path, e))
    | .nothing => .error (.configuration (.fileNotFound path.text))
    | .tooLong => Outcome.fault .system

/-- The entries of the file of settings. -/
def fileEntries (read : FileReader) (s : Surroundings) (name : Option String) :
    Outcome (List (Datum × Datum)) := do
  match ← s.file name with
  | some (path, entry) => parse read path entry
  | none => return []

/-- The key of an entry is a text. -/
def hasTextKey (entry : Datum × Datum) : Bool :=
  match entry.1 with
  | .text _ => true
  | _ => false

/-- The named values that the settings are made from: the environment laid over the file. -/
def entries (read : FileReader) (s : Surroundings) (name : Option String) :
    Outcome (List (Datum × Datum)) := do
  return Datum.merge (← s.fileEntries read name) s.environment.entries

/-- The settings that named values give. A value without a text for its name cannot be passed on. -/
def make (entries : List (Datum × Datum)) : Outcome ShopSettings :=
  if entries.all hasTextKey then
    match ShopSettings.ofEntries entries with
    | .ok settings => .ok settings
    | .error issues => .error (.configuration (.invalid issues))
  else Outcome.fault .wrongClass

/-- The settings of a shop from all sources, with files read by `read`. -/
def settingsBy (read : FileReader) (s : Surroundings) (name : Option String) :
    Outcome ShopSettings := do
  make (← s.entries read name)

/-- The settings of a shop from all sources. -/
def settings (s : Surroundings) (name : Option String) : Outcome ShopSettings :=
  s.settingsBy FileFormat.read? name

end Surroundings

end CatalogQuery
