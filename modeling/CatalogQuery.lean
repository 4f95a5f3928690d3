import CatalogQuery.Script.Step
import CatalogQuery.Client
import CatalogQuery.Credentials
import CatalogQuery.Datum.Merge
import CatalogQuery.Datum.Reduced
import CatalogQuery.Failure.Notice
import CatalogQuery.Files.Path
import CatalogQuery.Files.Tree
import CatalogQuery.Http.Client
import CatalogQuery.Json.Writer
import CatalogQuery.Log.Format
import CatalogQuery.Log.Manager
import CatalogQuery.Script.CredentialSteps
import CatalogQuery.Script.HttpSteps
import CatalogQuery.Script.LogSteps
import CatalogQuery.Script.Notices
import CatalogQuery.Script.Session
import CatalogQuery.Settings.Environment
import CatalogQuery.Settings.Source
import CatalogQuery.Proofs.Decode
import CatalogQuery.Proofs.Invariant
import CatalogQuery.Proofs.JsonReader
import CatalogQuery.Proofs.Decimal
import CatalogQuery.Proofs.Grammar.Token
import CatalogQuery.Proofs.Grammar.Numeral
import CatalogQuery.Proofs.Grammar.Quoted
import CatalogQuery.Proofs.Grammar.Lexes
import CatalogQuery.Proofs.Grammar.Operation
import CatalogQuery.Proofs.Literal
import CatalogQuery.Proofs.Document
import CatalogQuery.Proofs.PlainUsage
import CatalogQuery.Proofs.Compile
import CatalogQuery.Proofs.Grammar.Block
import CatalogQuery.Proofs.Bulk
import CatalogQuery.Proofs.WireValue
import CatalogQuery.Proofs.Answer
import CatalogQuery.Proofs.Shop
import CatalogQuery.Proofs.Reply
import CatalogQuery.Proofs.Agreement
import CatalogQuery.Proofs.Shape
import CatalogQuery.Proofs.Classification
import CatalogQuery.Proofs.Edit
import CatalogQuery.Proofs.ClientRun
import CatalogQuery.Proofs.Grammar.Emptied
import CatalogQuery.Proofs.Blank
import CatalogQuery.Proofs.Sendable
import CatalogQuery.Proofs.Http.Ownership
import CatalogQuery.Proofs.Http.Interleaving
import CatalogQuery.Proofs.Settings.Overlay
import CatalogQuery.Proofs.Settings.Variables
import CatalogQuery.Proofs.Settings.Precedence
import CatalogQuery.Proofs.Settings.Loading
import CatalogQuery.Proofs.Log.Turnover
import CatalogQuery.Proofs.Log.Attachment
import CatalogQuery.Proofs.Http.Reassignment
import CatalogQuery.Proofs.LiteralReading
import CatalogQuery.Proofs.Identifier
import CatalogQuery.Proofs.Materialize
import CatalogQuery.Proofs.MergeStore
import CatalogQuery.Proofs.BulkRun
import CatalogQuery.Proofs.Cycles
import CatalogQuery.Proofs.Amount
import CatalogQuery.Proofs.IntegerNumeral
import CatalogQuery.Proofs.Change
import CatalogQuery.Proofs.IntegerPart
import CatalogQuery.Proofs.JsonLine
import CatalogQuery.Proofs.NumberChange
import CatalogQuery.Proofs.ObjectCount
import CatalogQuery.Proofs.RemoteErrors
import CatalogQuery.Proofs.Dispatch
import CatalogQuery.Proofs.Grants
import CatalogQuery.Proofs.LooseNumeral
import CatalogQuery.Proofs.Settings.Timeout
import CatalogQuery.Proofs.Log.ExecutedDocument
import CatalogQuery.Proofs.Log.Filter
import CatalogQuery.Proofs.Log.ConsoleObject
import CatalogQuery.Proofs.Log.StructuredObject
import CatalogQuery.Proofs.Growth
