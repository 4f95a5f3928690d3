import CatalogQuery.Failure

/-!
# Notices

What a caller is told about a failure of the library: the kinds that it belongs to, from the most
special to the general one, its message, and the details and attributes that explain it. A notice
can be made for any values, not only for those that an operation would report; the wording is that
of `Failure`.
-/

namespace CatalogQuery

/-- What a caller is told about a failure. -/
structure Notice where
  /-- The kinds of the failure, the most special first. -/
  kinds : List String
  /-- The message. -/
  message : Datum
  /-- The details by name. -/
  details : List (String × Datum) := []
  /-- The attributes by name, beside message and details. -/
  attributes : List (String × Datum) := []
  /-- The messages of the errors that the shop reported. -/
  reported : Option (List Datum) := none

namespace Notice

/-- The kind of all failures of the library. -/
def root : String := "ShopifyGQLError"

/-- A failure of a kind that adds nothing to a message and details. -/
def plain (kinds : List String) (message : Datum) (details : List (String × Datum)) : Notice :=
  { kinds := kinds ++ [root], message, details }

/-- A text as it stands inside a message. -/
def inText (d : Datum) : String :=
  d.plain.toString

/-- A reason as it stands in a message; an empty one is left out. -/
def reasonOf (reason : Datum) : Option String :=
  if reason.isTruthy then some (inText reason) else none

/-- A bad identifier. -/
def invalidIdentifier (raw : Datum) : Notice where
  kinds := ["InvalidIdentifier", root]
  message := .str (Failure.identifierText raw)
  details := [("raw", raw)]
  attributes := [("raw", raw)]

/-- A misused builder. -/
def misuse (operation call reason : Datum) : Notice where
  kinds := ["BuilderMisuse", root]
  message := .str (Failure.misuseText (inText operation) (inText call) (reasonOf reason))
  details := [("operation", operation), ("attempted_call", call)]
  attributes := [("operation", operation), ("attempted_call", call)]

/-- Bounds that are not one positive count. -/
def invalidConnection (first last : Datum) : Notice :=
  let base := misuse (.str "connection") (.str "Connection")
    (.str (Failure.boundsReason first last))
  { base with
    kinds := "InvalidConnection" :: base.kinds
    attributes := base.attributes ++ [("first", first), ("last", last)] }

/-- A selection with a cycle. -/
def cycle (kind : Datum) : Notice where
  kinds := ["CycleRejected", root]
  message := .str (Failure.cycleText (inText kind))
  details := [("entity_kind", kind)]
  attributes := [("entity_kind", kind)]

/-- A bad scalar. -/
def invalidScalar (raw scalarType : Datum) : Notice where
  kinds := ["InvalidScalar", "DecodeError", root]
  message :=
    .str (Failure.scalarText raw (if scalarType.isTruthy then inText scalarType else "scalar"))
  details := [("raw", raw)]
  attributes := [("raw", raw), ("scalar_type", scalarType)]

/-- A reply of another shape. -/
def shapeMismatch (expected actual : Datum) : Notice where
  kinds := ["ResponseShapeMismatch", "DecodeError", root]
  message := .str (Failure.mismatchText expected actual)
  details := [("expected", expected), ("actual", actual)]
  attributes := [("expected", expected), ("actual", actual)]

/-- A reply that cannot be understood. -/
def undecodable (body reason : Datum) : Notice where
  kinds := ["TransportDecodeError", "DecodeError", root]
  message := .str (Failure.undecodableText (reasonOf reason))
  details := [("raw_body", body)]
  attributes := [("raw_body", body)]

/-- Errors that the shop reports. -/
def remote (errors : Datum) : Notice where
  kinds := ["RemoteError", root]
  message := .text (Failure.remoteText errors)
  details := [("errors", errors)]
  attributes := [("errors", errors)]
  reported := some (Failure.remoteMessages errors)

/-- A failure of the network. -/
def transport (message url : Datum) (details : List (String × Datum)) : Notice where
  kinds := ["TransportError", root]
  message := message
  details := ("url", url) :: details
  attributes := [("url", url)]

/-- A request that took too long. -/
def timeout (message url limit : Datum) : Notice where
  kinds := ["TransportTimeoutError", "TransportError", root]
  message := message
  details := [("url", url), ("timeout_value", limit)]
  attributes := [("url", url), ("timeout_value", limit)]

/-- The details in the order of their names. -/
def sortedDetails (n : Notice) : List (String × Datum) :=
  n.details.mergeSort fun a b ↦ decide (a.1 ≤ b.1)

/-- The values that a message shows have texts. -/
def checked (shown : List Datum) (n : Notice) : Outcome Notice :=
  if shown.all Datum.hasText then .ok n else Outcome.fault .badValue

end Notice

end CatalogQuery
