import Sitework.Blob
import Sitework.Bundle.Archive
import Sitework.Bundle.Config
import Sitework.Bundle.Document
import Sitework.Bundle.Export
import Sitework.Bundle.FileName
import Sitework.Bundle.Inventory
import Sitework.Bundle.Manifest
import Sitework.Bundle.Webfont
import Sitework.Compilation
import Sitework.Element
import Sitework.Extraction
import Sitework.Json.Numeral
import Sitework.Json.Reader
import Sitework.Json.Record
import Sitework.Json.Text
import Sitework.Json.Token
import Sitework.Json.Value
import Sitework.Json.Writer
import Sitework.Markup.Arena
import Sitework.Markup.Html
import Sitework.Markup.Node
import Sitework.Markup.Query
import Sitework.Markup.Tree
import Sitework.Minify.Css
import Sitework.Minify.Html
import Sitework.Minify.Substitution
import Sitework.Names
import Sitework.Notice
import Sitework.Number.Binary64
import Sitework.Number.Decimal
import Sitework.Number.Format
import Sitework.Number.Hex
import Sitework.Number.Integer
import Sitework.Number.Numeral
import Sitework.Number.Rounding
import Sitework.Number.Single
import Sitework.OrderedMap
import Sitework.Page
import Sitework.Proofs.Blob
import Sitework.Proofs.Bundle.DocumentName
import Sitework.Proofs.Bundle.Export
import Sitework.Proofs.Bundle.FileName
import Sitework.Proofs.Bundle.Images
import Sitework.Proofs.Bundle.Layout
import Sitework.Proofs.Bundle.Links
import Sitework.Proofs.Bundle.Manifest
import Sitework.Proofs.Bundle.Minified
import Sitework.Proofs.Bundle.Reimport
import Sitework.Proofs.Bundle.ShownImages
import Sitework.Proofs.Bundle.Webfonts
import Sitework.Proofs.Compilation.Acyclic
import Sitework.Proofs.Compilation.Arranged
import Sitework.Proofs.Compilation.Assembled
import Sitework.Proofs.Compilation.Cached
import Sitework.Proofs.Compilation.Framed
import Sitework.Proofs.Compilation.Nesting
import Sitework.Proofs.Compilation.Nodes
import Sitework.Proofs.Compilation.Represented
import Sitework.Proofs.Element
import Sitework.Proofs.Extraction.Agreement
import Sitework.Proofs.Extraction.Kinds
import Sitework.Proofs.Extraction.Layers
import Sitework.Proofs.Extraction.Linked
import Sitework.Proofs.Extraction.Normal
import Sitework.Proofs.Extraction.Restyled
import Sitework.Proofs.Extraction.Styles
import Sitework.Proofs.Json.Finite
import Sitework.Proofs.Json.Numeral
import Sitework.Proofs.Json.Reader
import Sitework.Proofs.Json.Record
import Sitework.Proofs.Json.Text
import Sitework.Proofs.Json.Token
import Sitework.Proofs.Markup.Arena
import Sitework.Proofs.Markup.Content
import Sitework.Proofs.Markup.Edits
import Sitework.Proofs.Markup.Links
import Sitework.Proofs.Markup.Mapped
import Sitework.Proofs.Markup.Reader
import Sitework.Proofs.Markup.Tags
import Sitework.Proofs.Markup.Tree
import Sitework.Proofs.Markup.Walk
import Sitework.Proofs.Markup.Written
import Sitework.Proofs.Minify.Css
import Sitework.Proofs.Minify.Html
import Sitework.Proofs.Minify.Markup
import Sitework.Proofs.Minify.Substitution
import Sitework.Proofs.Names
import Sitework.Proofs.Number.RoundTrip
import Sitework.Proofs.OrderedMap
import Sitework.Proofs.Outcome
import Sitework.Proofs.Store
import Sitework.Proofs.Stored
import Sitework.Proofs.StoredNumbers
import Sitework.Proofs.Style.Accepted
import Sitework.Proofs.Style.Building
import Sitework.Proofs.Style.Canonical
import Sitework.Proofs.Style.Cascade
import Sitework.Proofs.Style.Codec
import Sitework.Proofs.Style.Colors
import Sitework.Proofs.Style.Completion
import Sitework.Proofs.Style.CssColors
import Sitework.Proofs.Style.Declared
import Sitework.Proofs.Style.Families
import Sitework.Proofs.Style.InPlace
import Sitework.Proofs.Style.Injective
import Sitework.Proofs.Style.LastShown
import Sitework.Proofs.Style.Meets
import Sitework.Proofs.Style.Minimal
import Sitework.Proofs.Style.Notation
import Sitework.Proofs.Style.Numbers
import Sitework.Proofs.Style.Open
import Sitework.Proofs.Style.Patterns
import Sitework.Proofs.Style.Reach
import Sitework.Proofs.Style.Recovered
import Sitework.Proofs.Style.Sameness
import Sitework.Proofs.Style.Stored
import Sitework.Proofs.Style.Tokenization
import Sitework.Proofs.Style.Tokens
import Sitework.Proofs.Style.Updates
import Sitework.Proofs.Style.Values
import Sitework.Proofs.Stylesheet.Agreement
import Sitework.Proofs.Stylesheet.Colors
import Sitework.Proofs.Stylesheet.Condensed
import Sitework.Proofs.Stylesheet.Contents
import Sitework.Proofs.Stylesheet.Identifier
import Sitework.Proofs.Stylesheet.Minified
import Sitework.Proofs.Stylesheet.Narrowed
import Sitework.Proofs.Stylesheet.Reader
import Sitework.Proofs.Stylesheet.Words
import Sitework.Proofs.Stylesheet.Written
import Sitework.Proofs.Text.Base64
import Sitework.Proofs.Text.Character
import Sitework.Proofs.Text.Split
import Sitework.Proofs.Text.Trim
import Sitework.Proofs.Validation
import Sitework.Proofs.Validation.Conditions
import Sitework.Proofs.Validation.Edits
import Sitework.Proofs.Validation.Minimal
import Sitework.Proofs.Validation.Parents
import Sitework.Proofs.Validation.Rebuilt
import Sitework.Sample
import Sitework.Store
import Sitework.Stored
import Sitework.Style.Basic
import Sitework.Style.Breakpoint
import Sitework.Style.Cascade
import Sitework.Style.Color
import Sitework.Style.ColorName
import Sitework.Style.Composite
import Sitework.Style.CssProperty
import Sitework.Style.Declarations
import Sitework.Style.InPlace
import Sitework.Style.Keyword
import Sitework.Style.Length
import Sitework.Style.Property
import Sitework.Style.Reading
import Sitework.Style.Rendering
import Sitework.Style.Selector
import Sitework.Style.Token
import Sitework.Style.Transform
import Sitework.Style.Value
import Sitework.Stylesheet
import Sitework.Text.Base64
import Sitework.Text.Blank
import Sitework.Text.Chart
import Sitework.Text.Mark
import Sitework.Text.Quoted
import Sitework.Text.Shapeless
import Sitework.Text.Split
import Sitework.Text.Utf8
import Sitework.Toml.Number
import Sitework.Toml.Reader
import Sitework.Toml.Table
import Sitework.Toml.Text
import Sitework.Url.Address
import Sitework.Url.Basic
import Sitework.Url.Composition
import Sitework.Url.Direction
import Sitework.Url.Domain
import Sitework.Url.Fold
import Sitework.Url.FoldChart
import Sitework.Url.Host
import Sitework.Url.Joining
import Sitework.Url.Label
import Sitework.Url.Pair
import Sitework.Url.Path
import Sitework.Url.Percent
import Sitework.Url.Punycode
import Sitework.Validation
