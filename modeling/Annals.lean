import Annals.CommandLine.Arguments
import Annals.CommandLine.Run
import Annals.Files.Brace
import Annals.Files.Glob
import Annals.Files.Ignore
import Annals.Files.Path
import Annals.Files.Tree
import Annals.Files.Wildcard
import Annals.Files.Workspace
import Annals.History.Block
import Annals.History.Candidate
import Annals.Html.CharacterReference
import Annals.Html.Event
import Annals.Html.Fragment
import Annals.Html.NamedCharacters
import Annals.Json.Fault
import Annals.Json.Reader
import Annals.Json.Writer
import Annals.Lint.Check
import Annals.Lint.Issue
import Annals.Lint.References
import Annals.Lint.Run
import Annals.Lint.Structure
import Annals.Lint.Wording
import Annals.Main
import Annals.Markdown.Autolink
import Annals.Markdown.BlockStart
import Annals.Markdown.Blocks
import Annals.Markdown.Definition
import Annals.Markdown.Document
import Annals.Markdown.Emphasis
import Annals.Markdown.Inlines
import Annals.Markdown.Line
import Annals.Markdown.LinkParts
import Annals.Markdown.RawHtml
import Annals.Markdown.Slug
import Annals.Markdown.Tree
import Annals.Number.DigitLimit
import Annals.Number.Double
import Annals.Number.Notation
import Annals.Number.Shortest
import Annals.Options.Basic
import Annals.Options.Context
import Annals.Pattern.Basic
import Annals.Pattern.Fault
import Annals.Pattern.LetterCase
import Annals.Pattern.Reader
import Annals.Pattern.Search
import Annals.Proofs.Lint.Account
import Annals.Release.Fetch
import Annals.Release.Index
import Annals.Release.Link
import Annals.Release.Memo
import Annals.Release.PullRequest
import Annals.Report.Basic
import Annals.Report.Markup
import Annals.Report.Screen
import Annals.Schema.Address
import Annals.Schema.Check
import Annals.Schema.Context
import Annals.Schema.Dialect
import Annals.Schema.Equality
import Annals.Schema.Evaluated
import Annals.Schema.File
import Annals.Schema.Outcome
import Annals.Schema.Registry
import Annals.Schema.Rules
import Annals.Schema.Standard
import Annals.Text.Base64
import Annals.Text.Blank
import Annals.Text.Case
import Annals.Text.CaseTable
import Annals.Text.Digit
import Annals.Text.Emoji
import Annals.Text.Identifier
import Annals.Text.Letter
import Annals.Text.Line
import Annals.Text.Printable
import Annals.Text.Punctuation
import Annals.Text.Punycode
import Annals.Text.Quoted
import Annals.Text.Ranges
import Annals.Text.Surrogate
import Annals.Text.Utf8
import Annals.Text.Width
import Annals.Value.Basic
import Annals.Value.Display
import Annals.Value.Equal
import Annals.Value.Order
import Annals.Value.Part
import Annals.Value.Sorted
import Annals.Yaml.BlockScalar
import Annals.Yaml.Construct
import Annals.Yaml.Event
import Annals.Yaml.Fault
import Annals.Yaml.FlowScalar
import Annals.Yaml.Mark
import Annals.Yaml.Node
import Annals.Yaml.Scalar
import Annals.Yaml.Scan
import Annals.Yaml.Tag
import Annals.Yaml.Token
import Annals.Proofs.Yaml.Construction
import Annals.Proofs.Yaml.Keys
import Annals.Proofs.Yaml.UniqueKeys
import Annals.Proofs.Lint.Independence
import Annals.Proofs.Lint.Separation
import Annals.Proofs.Lint.Completion
import Annals.Proofs.Markdown.PlainLines
import Annals.Proofs.Markdown.RawParts
import Annals.Proofs.Markdown.Reading
import Annals.Proofs.Html.Comment
import Annals.Proofs.Text.Words
import Annals.Proofs.History.WireFormat
import Annals.Proofs.Html.Readable
import Annals.Proofs.Yaml.Defects
import Annals.Proofs.Release.Paging
import Annals.Proofs.Release.Session
import Annals.Proofs.Yaml.Cursor
import Annals.Proofs.Yaml.Quotation
import Annals.Proofs.Yaml.Layout
import Annals.Proofs.Yaml.Tree
import Annals.Proofs.Yaml.Parsing
import Annals.Proofs.Yaml.Composition
import Annals.Proofs.Yaml.PlainNodes
import Annals.Proofs.Yaml.BlockStyle
import Annals.Proofs.Release.Address
import Annals.Proofs.Lint.Wording
import Annals.Proofs.History.Chronicle
import Annals.Proofs.History.Frame
import Annals.Proofs.Lint.Completeness
import Annals.Proofs.Lint.Outage
import Annals.Proofs.History.Mention
import Annals.Proofs.Yaml.WrittenKeys
import Annals.Proofs.Files.Outline
import Annals.Proofs.Lint.Trace
import Annals.Proofs.Lint.Steadiness
import Annals.Proofs.Lint.Workspaces
import Annals.Proofs.Lint.Regularity
import Annals.Proofs.Json.Scalars
import Annals.Proofs.Json.RoundTrip
import Annals.Proofs.Report.Fidelity
import Annals.Proofs.Markdown.Slugs
import Annals.Proofs.Yaml.Readings
import Annals.Proofs.History.Citation
import Annals.Proofs.Lint.Anchors
import Annals.Proofs.Json.Writable
import Annals.Proofs.Value.Modest
import Annals.Proofs.Schema.Outcome
import Annals.Proofs.Schema.Tame
import Annals.Proofs.Schema.Progress
import Annals.Proofs.Schema.Places
import Annals.Proofs.Lint.Answers
import Annals.Proofs.Text.Lists
import Annals.Proofs.Lint.Demand
import Annals.Proofs.Files.Address
import Annals.Proofs.Files.Globs
import Annals.Proofs.Files.Sets
import Annals.Proofs.Lint.Identity
import Annals.Proofs.Files.Patterns
import Annals.Proofs.Options.Preparation
import Annals.Proofs.Options.Scanning
import Annals.Proofs.Text.Pieces
import Annals.Proofs.Markdown.Placement
import Annals.Proofs.History.Location
import Annals.Proofs.Release.Earliest
import Annals.Proofs.Yaml.Places
import Annals.Proofs.Yaml.PlacedTokens
import Annals.Proofs.Yaml.PlacedScan
import Annals.Proofs.Yaml.PlacedEvents
import Annals.Proofs.Yaml.PlacedNodes
import Annals.Proofs.Yaml.PlacedProblems
import Annals.Proofs.Lint.Pointing
import Annals.Proofs.Files.Alternatives
import Annals.Proofs.Files.Selection
import Annals.Proofs.Text.LowerCase
import Annals.Proofs.Lint.Headings
import Annals.Proofs.Release.Faults
import Annals.Proofs.Lint.Unreleased
import Annals.Proofs.Lint.Quoting
import Annals.Proofs.Html.Nesting
import Annals.Proofs.Markdown.SlugWords
