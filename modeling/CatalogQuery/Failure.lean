import CatalogQuery.Datum.Display
import CatalogQuery.Datum.Equal
import CatalogQuery.Json.Reader
import CatalogQuery.Validation.Issue

/-!
# Failures

Every way in which an operation of the library can fail, as a cause with the data that explain it;
the wording is in one place, `Failure.message?`. The causes fall into three groups.

* The library's own: a bad identifier or scalar, a builder that is misused, a selection with a
  cycle, a reply that cannot be understood or answers something else, an error that the shop
  reports, and faults of configuration, credentials and network.
* Values that have no place in a document: they are refused by their class.
* Faults that no cause of the library covers and that reach the caller as they are: an operation on
  a value of the wrong class, a number that does not fit, a name that is not there (`Fault`). They
  have a kind and no wording of the library.

The wording is complete but for the details that other libraries give of an error of theirs: what a
reader of JSON or YAML, the file system or a check of fields says is left out (`Failure.reasonText`,
`Failure.configurationText`). The issues of a check are kept as data.

A failure that shows a value needs the text of that value. `Failure.scalar`, `Failure.bounds` and
`Failure.identifier` build such failures, and turn into a fault when an integer in the value is
beyond the digit limit.
-/

namespace CatalogQuery

/-- Faults that are not the library's own. -/
inductive Fault where
  /-- An operation on a value of a class that does not support it. -/
  | wrongClass
  /-- A value of the right class that is not acceptable. -/
  | badValue
  /-- A name that an object does not have. -/
  | noSuchAttribute
  /-- A number too large for its destination. -/
  | overflow
  /-- An index outside of a list. -/
  | outOfRange
  /-- A key that is not in a mapping. -/
  | missingKey
  /-- A text that has no encoding. -/
  | unencodable
  /-- A failure of the operating system. -/
  | system
  deriving DecidableEq, Repr

/-- Why a reply cannot be understood. -/
inductive DecodeReason where
  /-- The body is no JSON value. -/
  | invalidJson (error : Json.ReadError)
  /-- The value is no object. -/
  | notAnObject
  /-- There is not exactly one root field. -/
  | notOneRoot
  /-- The root field is not known. -/
  | unknownRoot (key : Text)
  /-- The payload is null where the root field does not admit it. -/
  | nullPayload (field : RootField)
  /-- The payload is not of the shape of the root field. -/
  | invalidPayload (field : RootField) (issues : List Issue)
  deriving DecidableEq, Repr

/-- What is wrong with the configuration. -/
inductive ConfigurationFault where
  /-- A client was made from neither settings nor a transport. -/
  | nothingGiven
  /-- The named file does not exist. -/
  | fileNotFound (path : String)
  /-- The file has an extension that no format belongs to. -/
  | unsupportedFormat (extension : String)
  /-- The file cannot be read. -/
  | unreadable (path : String)
  /-- The file holds something other than a mapping. -/
  | noMapping (path : String)
  /-- The settings are not valid. -/
  | invalid (issues : List Issue)
  deriving DecidableEq, Repr

/-- A failure of an operation. -/
inductive Failure where
  /-- A text is no identifier. -/
  | invalidIdentifier (raw : Text)
  /-- A call does not fit the builder that received it. -/
  | misuse (operation call : String) (reason : Option String)
  /-- The bounds of a list are not one positive count. -/
  | invalidConnection (first last : Datum)
  /-- A selection selects back into an entity kind above it. -/
  | cycle (kind : Word)
  /-- A value is no scalar of the named type. -/
  | invalidScalar (raw : Datum) (scalarType : String)
  /-- A reply or an identifier is of another kind than expected. -/
  | shapeMismatch (expected actual : String)
  /-- A reply cannot be understood. -/
  | undecodable (body : List UInt8) (reason : DecodeReason)
  /-- The shop reports errors. -/
  | remote (errors : Datum)
  /-- The configuration is at fault. -/
  | configuration (fault : ConfigurationFault)
  /-- There is no token to authenticate with. -/
  | authentication
  /-- The network failed. -/
  | transport (message : String) (url : Option String)
  /-- A request took too long. -/
  | timeout (message : String) (url : Option String) (limit : Datum)
  /-- A value has no literal in documents. -/
  | noLiteral (value : Datum)
  /-- A number that is not finite has no literal in documents. -/
  | notFinite (number : Binary64)
  /-- Something that is no selection was to be embedded. -/
  | notASelection (expected : String) (className : String)
  /-- Settings are not valid. -/
  | invalidSettings (issues : List Issue)
  /-- A fault that is not the library's own. -/
  | fault (kind : Fault)
  deriving Repr

namespace Failure

/-! ### Failures that show a value -/

/-- `failure`, unless a value that it shows has no text. -/
def showing (shown : List Datum) (failure : Failure) : Failure :=
  if shown.all Datum.hasText then failure else .fault .badValue

/-- A value is no scalar of the named type. -/
def scalar (raw : Datum) (scalarType : String) : Failure :=
  showing [raw] (.invalidScalar raw scalarType)

/-- Two bounds are not one positive count. -/
def bounds (first last : Datum) : Failure :=
  showing [first, last] (.invalidConnection first last)

/-- A value is no identifier. -/
def identifier (raw : Datum) : Failure :=
  showing [raw] (.invalidIdentifier raw.plain)

/-! ### Wording -/

/-- The wording of a bad identifier. -/
def identifierText (raw : Datum) : String :=
  "Invalid identifier: " ++ raw.display

/-- The wording of a misused builder. -/
def misuseText (operation call : String) (reason : Option String) : String :=
  let base := "Cannot call " ++ call ++ "() on a " ++ operation ++ " builder"
  match reason with
  | some r => if r.isEmpty then base else base ++ ": " ++ r
  | none => base

/-- The reason given for bad bounds. -/
def boundsReason (first last : Datum) : String :=
  "exactly one positive count is required (first=" ++ first.display ++
    ", last=" ++ last.display ++ ")"

/-- The wording of a cycle. -/
def cycleText (kind : String) : String :=
  "Nested selection selects back into " ++ kind

/-- The wording of a bad scalar. -/
def scalarText (raw : Datum) (label : String) : String :=
  "Invalid " ++ label ++ " value: " ++ raw.display

/-- The wording of a reply of another shape. -/
def mismatchText (expected actual : Datum) : String :=
  "Expected a " ++ expected.display ++ " reply but received " ++ actual.display

/-- The wording of a reply that cannot be understood. -/
def undecodableText (reason : Option String) : String :=
  let base := "Unable to parse response"
  match reason with
  | some r => if r.isEmpty then base else base ++ ": " ++ r
  | none => base

/-- The wording of a reason why a reply cannot be understood. For a text that is no JSON and for a
payload that does not check, the detail that stands behind a colon after it is left out: it is the
wording of the reader and of the checks, not of the library. -/
def reasonText : DecodeReason → String
  | .invalidJson _ => "invalid JSON"
  | .notAnObject => "top-level value is not an object"
  | .notOneRoot => "expected exactly one root field under 'data'"
  | .unknownRoot key => "unknown root field " ++ (Datum.text key).display
  | .nullPayload field => (Datum.str (Vocabulary.wire field)).display ++ " payload is null"
  | .invalidPayload field _ => (Datum.str (Vocabulary.wire field)).display ++ " payload"

/-- The part of one reported error that is its message. -/
def entryMessage (error : Datum) : Datum :=
  match error with
  | .dict es => ((Datum.field? "message" es).getD (.str "Unknown error"))
  | d => .text d.plain

/-- The reported errors as one text. -/
def remoteSummary (errors : Datum) : Text :=
  match errors with
  | .list [] => .str "empty error list"
  | .list xs => Text.join (.str "; ") (xs.map fun x ↦ (entryMessage x).plain)
  | .dict es => ((Datum.field? "message" es).getD errors).plain
  | d => d.plain

/-- The reported errors one by one; a message is given as the shop sent it. -/
def remoteMessages (errors : Datum) : List Datum :=
  match errors with
  | .list xs => xs.map entryMessage
  | d => [.text (remoteSummary d)]

/-- The wording of errors that the shop reports. -/
def remoteText (errors : Datum) : Text :=
  (Text.str "Remote error: ").append (remoteSummary errors)

/-- The path of an issue as it is listed. -/
def pathText (i : Issue) : String :=
  joinWith "." i.path

/-- The wording of a fault of configuration. The detail that stands behind a colon after the path of
a file that cannot be read is left out: it is the wording of the file system and of the readers. -/
def configurationText : ConfigurationFault → String
  | .nothingGiven => "A ShopifyConfig or a transport is required"
  | .fileNotFound path => "Config file not found: " ++ path
  | .unsupportedFormat extension => "Unsupported config file format: " ++ extension
  | .unreadable path => "Failed to parse config file " ++ path
  | .noMapping path => "Config file " ++ path ++ " must hold a mapping"
  | .invalid issues =>
    "Invalid shopify_gql configuration (" ++ joinWith ", " (issues.map pathText) ++ ")"

/-- The wording of a failure; a fault has none. -/
def message? : Failure → Option String
  | .invalidIdentifier raw => some (identifierText (.text raw))
  | .misuse operation call reason => some (misuseText operation call reason)
  | .invalidConnection first last =>
    some (misuseText "connection" "Connection" (some (boundsReason first last)))
  | .cycle kind => some (cycleText kind.wire)
  | .invalidScalar raw scalarType => some (scalarText raw scalarType)
  | .shapeMismatch expected actual => some (mismatchText (.str expected) (.str actual))
  | .undecodable _ reason => some (undecodableText (some (reasonText reason)))
  | .remote errors => some (remoteText errors).toString
  | .configuration cause => some (configurationText cause)
  | .authentication => some "Access token is required but not provided"
  | .transport message _ => some message
  | .timeout message _ _ => some message
  | .noLiteral value =>
    some ("No GraphQL literal for " ++ value.className ++ ": " ++ value.display)
  | .notFinite number =>
    some ("Non-finite number has no GraphQL literal: " ++ number.display)
  | .notASelection expected className =>
    some ("Expected a " ++ expected ++ " selection, got " ++ className)
  | .invalidSettings _ | .fault _ => none

/-- The issues that a failure carries. -/
def issues? : Failure → Option (List Issue)
  | .undecodable _ (.invalidPayload _ issues) => some issues
  | .configuration (.invalid issues) => some issues
  | .invalidSettings issues => some issues
  | _ => none

end Failure

/-- The outcome of an operation. -/
abbrev Outcome (α : Type) := Except Failure α

/-- An operation fails with a fault that is not the library's own. -/
def Outcome.fault {α : Type} (kind : Fault) : Outcome α :=
  .error (.fault kind)

end CatalogQuery
