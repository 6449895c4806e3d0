import Pressroom.Address
import Pressroom.Application
import Pressroom.Command.Arguments
import Pressroom.Command.Run
import Pressroom.Config.Basic
import Pressroom.Config.Loading
import Pressroom.Config.Validation
import Pressroom.Content.Basic
import Pressroom.Content.Store
import Pressroom.Content.Wire
import Pressroom.Datum.Basic
import Pressroom.Datum.Reader
import Pressroom.Decimal.Binary64
import Pressroom.Decimal.Shortest
import Pressroom.Flash.Basic
import Pressroom.Flash.Cookie
import Pressroom.Flash.Wire
import Pressroom.Form
import Pressroom.Http.Client
import Pressroom.Http.Message
import Pressroom.Http.Server
import Pressroom.Http.Target
import Pressroom.Json.Parser
import Pressroom.Json.Printer
import Pressroom.Keyed
import Pressroom.Main
import Pressroom.Markup.Basic
import Pressroom.Metrics
import Pressroom.Page.Content
import Pressroom.Page.Context
import Pressroom.Page.Data
import Pressroom.Page.Document
import Pressroom.Page.Kind
import Pressroom.Page.Loading
import Pressroom.Route.Location
import Pressroom.Route.Path
import Pressroom.Route.Table
import Pressroom.Shutdown
import Pressroom.Slug.Asian
import Pressroom.Slug.Basic
import Pressroom.Slug.Block
import Pressroom.Slug.Form
import Pressroom.Slug.Han
import Pressroom.Slug.Hangul
import Pressroom.Slug.Indic
import Pressroom.Slug.Kana
import Pressroom.Slug.Latin
import Pressroom.Slug.NearEast
import Pressroom.Slug.Spelling
import Pressroom.Slug.Syllabic
import Pressroom.Slug.Symbol
import Pressroom.Text.Basic
import Pressroom.Text.Blank
import Pressroom.Text.Digit
import Pressroom.Text.Printable
import Pressroom.Text.Quoted
import Pressroom.Text.Utf8
import Pressroom.Toml.Document
import Pressroom.Toml.Lexeme
import Pressroom.Toml.Scalar
import Pressroom.Toml.Table
import Pressroom.Proofs.SlugReservation
import Pressroom.Proofs.StoreOperations
import Pressroom.Proofs.StoreHistory
import Pressroom.Proofs.StoreConcurrency
import Pressroom.Proofs.FormRoundTrip
import Pressroom.Proofs.PageServing
import Pressroom.Proofs.RejectedCreate
import Pressroom.Proofs.MarkupNormalForm
import Pressroom.Proofs.MarkupReading
import Pressroom.Proofs.ManifestAgreement
import Pressroom.Proofs.PageOutcome
import Pressroom.Proofs.StoreReachable
import Pressroom.Proofs.LinkTargets
import Pressroom.Proofs.FlashDelivery
import Pressroom.Proofs.RouteResolution
import Pressroom.Proofs.TagOccurrences
import Pressroom.Proofs.ContentSlot
import Pressroom.Proofs.DatumEdits
import Pressroom.Proofs.PageWeights
import Pressroom.Proofs.PageWire
import Pressroom.Proofs.ConfigWire
import Pressroom.Proofs.RouteReachability
import Pressroom.Proofs.FlashText
import Pressroom.Proofs.SlugProbing
import Pressroom.Proofs.PageAccounting
import Pressroom.Proofs.LocationGrammar
import Pressroom.Proofs.ManifestFaults
import Pressroom.Proofs.RouteListing
import Pressroom.Proofs.AttributeOccurrences
import Pressroom.Proofs.PageItems
import Pressroom.Proofs.PathRuns
import Pressroom.Proofs.TargetReading
import Pressroom.Proofs.QueryMerge
import Pressroom.Proofs.TypeCatalog
import Pressroom.Proofs.ContextRuns
