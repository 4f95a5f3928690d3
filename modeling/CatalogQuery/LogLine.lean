import CatalogQuery.Vocabulary

/-!
# Log lines

What the library reports about its own work: the name of the reporting component, a level and a
text. Operations do not write; they answer the lines that they have to report.
-/

namespace CatalogQuery

/-- A line to be logged. -/
structure LogLine where
  /-- The component that reports. -/
  logger : String
  /-- The severity. -/
  level : LogLevel
  /-- The text. -/
  message : String
  deriving DecidableEq, Repr

namespace LogLine

/-- The component that makes documents. -/
def compiler : String := "shopify_gql.graphql.compiler"

/-- The component that classifies replies. -/
def envelope : String := "shopify_gql.graphql.envelope"

/-- The component that builds entities. -/
def materializer : String := "shopify_gql.graphql.materializer"

/-- The component that ties the others together. -/
def client : String := "shopify_gql.graphql.client"

/-- The component that sends documents. -/
def transport : String := "shopify_gql.graphql.transport"

/-- The component that configures logging. -/
def manager : String := "shopify_gql.logging.manager"

end LogLine

end CatalogQuery
