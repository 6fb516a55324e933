import LinkEmbed.Binary64.Basic
import LinkEmbed.Binary64.Reader
import LinkEmbed.Binary64.Shortest
import LinkEmbed.Cache
import LinkEmbed.Capability
import LinkEmbed.Card
import LinkEmbed.Config
import LinkEmbed.Diagnostic
import LinkEmbed.Document.Basic
import LinkEmbed.Document.Render
import LinkEmbed.Document.Traversal
import LinkEmbed.Domain.Ascii
import LinkEmbed.Domain.Label
import LinkEmbed.Domain.MappingTable
import LinkEmbed.Domain.Punycode
import LinkEmbed.EmbedError
import LinkEmbed.Embedder
import LinkEmbed.Entries
import LinkEmbed.Html.Body
import LinkEmbed.Html.Builder
import LinkEmbed.Html.Entity
import LinkEmbed.Html.EntityTable
import LinkEmbed.Html.Foreign
import LinkEmbed.Html.Frames
import LinkEmbed.Html.Head
import LinkEmbed.Html.Lexer
import LinkEmbed.Html.Page
import LinkEmbed.Html.Table
import LinkEmbed.Html.Tree
import LinkEmbed.Http.Client
import LinkEmbed.Http.Fetcher
import LinkEmbed.Json.Basic
import LinkEmbed.Json.Decode
import LinkEmbed.Json.Error
import LinkEmbed.Json.Record
import LinkEmbed.Json.Source
import LinkEmbed.Json.Writer
import LinkEmbed.Markdown.Autolink
import LinkEmbed.Markdown.Basic
import LinkEmbed.Markdown.Block
import LinkEmbed.Markdown.Component
import LinkEmbed.Markdown.Document
import LinkEmbed.Markdown.Emphasis
import LinkEmbed.Markdown.Escape
import LinkEmbed.Markdown.Extensions
import LinkEmbed.Markdown.Glyph
import LinkEmbed.Markdown.Html
import LinkEmbed.Markdown.Inline
import LinkEmbed.Markdown.Outline
import LinkEmbed.Markdown.Piece
import LinkEmbed.Markdown.Reader
import LinkEmbed.Markdown.Resource
import LinkEmbed.Markdown.Table
import LinkEmbed.Markup.Basic
import LinkEmbed.Markup.Render
import LinkEmbed.Metadata.Basic
import LinkEmbed.Metadata.Decode
import LinkEmbed.Metadata.Extract
import LinkEmbed.OEmbed.Basic
import LinkEmbed.OEmbed.Decode
import LinkEmbed.OEmbed.Preset
import LinkEmbed.OEmbed.Provider
import LinkEmbed.Position
import LinkEmbed.Preview
import LinkEmbed.Properties
import LinkEmbed.Resolve
import LinkEmbed.Scalar
import LinkEmbed.Text.Blank
import LinkEmbed.Text.Literal
import LinkEmbed.Text.Ranges
import LinkEmbed.Text.Utf8
import LinkEmbed.Toml.Basic
import LinkEmbed.Toml.Document
import LinkEmbed.Toml.Scalar
import LinkEmbed.Transformer.Basic
import LinkEmbed.Transformer.Document
import LinkEmbed.Transformer.LinkCard
import LinkEmbed.Transformer.Memory
import LinkEmbed.Unicode.CaseFold
import LinkEmbed.Unicode.Classes
import LinkEmbed.Unicode.NormalTable
import LinkEmbed.Unicode.Normalize
import LinkEmbed.Unicode.Punctuation
import LinkEmbed.Url.Basic
import LinkEmbed.Url.Host
import LinkEmbed.Url.Parser
import LinkEmbed.Url.Percent
import LinkEmbed.Proofs.Document.Place
import LinkEmbed.Proofs.Document.Eligible
import LinkEmbed.Proofs.Engine.Pass
import LinkEmbed.Proofs.Engine.FirstRendering
import LinkEmbed.Proofs.Text.Separated
import LinkEmbed.Proofs.Url.Address
import LinkEmbed.Proofs.Url.Written
import LinkEmbed.Proofs.Url.Canonical
import LinkEmbed.Proofs.Session.Cache
import LinkEmbed.Proofs.Session.Source
import LinkEmbed.Proofs.Session.Memoryless
import LinkEmbed.Proofs.Http.Pipeline
import LinkEmbed.Proofs.Session.FirstAnswer
import LinkEmbed.Proofs.Engine.Frame
import LinkEmbed.Proofs.Session.Renderable
import LinkEmbed.Proofs.Session.Again
import LinkEmbed.Proofs.Markup.Reader
import LinkEmbed.Proofs.Markup.Decodable
import LinkEmbed.Proofs.Document.Order
import LinkEmbed.Proofs.Document.Visit
import LinkEmbed.Proofs.Document.Write
import LinkEmbed.Proofs.Properties.Merge
import LinkEmbed.Proofs.Properties.Shown
import LinkEmbed.Proofs.Markup.Precedence
import LinkEmbed.Proofs.Markup.Skeleton
import LinkEmbed.Proofs.Document.Blank
import LinkEmbed.Proofs.Document.Skeleton
import LinkEmbed.Proofs.Html.Content
import LinkEmbed.Proofs.Html.Lexing
import LinkEmbed.Proofs.Html.Elements
import LinkEmbed.Proofs.Html.RoundTrip
import LinkEmbed.Proofs.Document.Lowering
import LinkEmbed.Proofs.Binary64.Value
import LinkEmbed.Proofs.Binary64.Nearest
import LinkEmbed.Proofs.Binary64.Decimal
import LinkEmbed.Proofs.OEmbed.Numbers
import LinkEmbed.Proofs.OEmbed.Fields
import LinkEmbed.Proofs.OEmbed.Schema
import LinkEmbed.Proofs.OEmbed.Integers
import LinkEmbed.Proofs.Text.Trimmed
import LinkEmbed.Proofs.Metadata.Images
import LinkEmbed.Proofs.Metadata.Texts
import LinkEmbed.Proofs.Card.Parts
import LinkEmbed.Proofs.Card.Content
import LinkEmbed.Proofs.Card.Sources
import LinkEmbed.Proofs.Properties.Map
import LinkEmbed.Proofs.Cache.Operations
import LinkEmbed.Proofs.Markdown.Shape
import LinkEmbed.Proofs.Session.Repeated
