import CatalogGateway.Catalog.Application
import CatalogGateway.Catalog.Documents
import CatalogGateway.ColdStart
import CatalogGateway.Context
import CatalogGateway.Encoding.Base64
import CatalogGateway.Encoding.Percent
import CatalogGateway.Entrypoint
import CatalogGateway.Envelope
import CatalogGateway.ErrorChain
import CatalogGateway.Event.Adapt
import CatalogGateway.Event.Basic
import CatalogGateway.Event.Sample
import CatalogGateway.Http.Headers
import CatalogGateway.Http.Method
import CatalogGateway.Http.Request
import CatalogGateway.Http.Response
import CatalogGateway.Http.Status
import CatalogGateway.Http.Token
import CatalogGateway.Json.Basic
import CatalogGateway.Json.Decode
import CatalogGateway.Json.Printer
import CatalogGateway.Json.Reader
import CatalogGateway.Log
import CatalogGateway.NameMap
import CatalogGateway.Number.Binary64
import CatalogGateway.Number.Decimal
import CatalogGateway.Number.Layout
import CatalogGateway.Number.Shortest
import CatalogGateway.Phase
import CatalogGateway.Problem
import CatalogGateway.Proofs.ColdStart.Calls
import CatalogGateway.Proofs.ColdStart.Race
import CatalogGateway.Proofs.Encoding.Base64
import CatalogGateway.Proofs.Encoding.Percent
import CatalogGateway.Proofs.Entrypoint.Invocation
import CatalogGateway.Proofs.Event.Formats
import CatalogGateway.Proofs.Event.Headers
import CatalogGateway.Proofs.Event.Message
import CatalogGateway.Proofs.Json.Records
import CatalogGateway.Proofs.Json.RoundTrip
import CatalogGateway.Proofs.Route.Alike
import CatalogGateway.Proofs.Route.Resolution
import CatalogGateway.Proofs.Session.Lifecycle
import CatalogGateway.Proofs.Lists
import CatalogGateway.Route.Handler
import CatalogGateway.Route.Match
import CatalogGateway.Route.Pattern
import CatalogGateway.Route.Table
import CatalogGateway.Service
import CatalogGateway.Session
import CatalogGateway.Settings.Catalog
import CatalogGateway.Settings.Environment
import CatalogGateway.Settings.Gateway
import CatalogGateway.Settings.Logging
import CatalogGateway.Settings.Values
import CatalogGateway.Text.Ascii
import CatalogGateway.Text.Blank
import CatalogGateway.Text.CharTables
import CatalogGateway.Text.Pieces
import CatalogGateway.Text.Quoted
import CatalogGateway.Text.Utf8
import CatalogGateway.Proofs.Event.Payload
import CatalogGateway.Proofs.Event.Room
import CatalogGateway.Proofs.Entrypoint.Crowded
import CatalogGateway.Proofs.Answer.Envelope
import CatalogGateway.Proofs.Answer.Problem
import CatalogGateway.Proofs.Answer.Recovery
import CatalogGateway.Proofs.Catalog.Application
import CatalogGateway.Proofs.Catalog.Documents
import CatalogGateway.Proofs.Text.Pieces
import CatalogGateway.Proofs.Catalog.References
import CatalogGateway.Proofs.Answer.Response
import CatalogGateway.Proofs.Answer.Secrecy
import CatalogGateway.Proofs.Catalog.Api
import CatalogGateway.Proofs.Route.Allow
import CatalogGateway.Proofs.Service.Knowledge
import CatalogGateway.Proofs.Service.Laws
import CatalogGateway.Proofs.Catalog.Identifiers
import CatalogGateway.Proofs.Event.Merging
import CatalogGateway.Proofs.Event.Paths
import CatalogGateway.Proofs.Route.Grammar
import CatalogGateway.Proofs.Route.Matching
import CatalogGateway.Proofs.Answer.Contents
import CatalogGateway.Proofs.Event.Acceptance
import CatalogGateway.Proofs.Event.Received
import CatalogGateway.Proofs.Event.Stability
import CatalogGateway.Proofs.Service.Documents
import CatalogGateway.Proofs.Service.Naming
import CatalogGateway.Proofs.Session.Chronicle
import CatalogGateway.Proofs.Settings.Gateway
