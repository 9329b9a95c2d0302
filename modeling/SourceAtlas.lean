import SourceAtlas.Analysis.Basic
import SourceAtlas.Analysis.Input
import SourceAtlas.Command.Arguments
import SourceAtlas.Command.Basic
import SourceAtlas.Command.Display
import SourceAtlas.Command.PathText
import SourceAtlas.Command.Run
import SourceAtlas.Command.Workspace
import SourceAtlas.Decimal.Binary64
import SourceAtlas.Decimal.Digits
import SourceAtlas.Decimal.FromText
import SourceAtlas.Decimal.Written
import SourceAtlas.Enrichment.Answer
import SourceAtlas.Enrichment.Assessment
import SourceAtlas.Enrichment.Checked
import SourceAtlas.Enrichment.Controller
import SourceAtlas.Enrichment.Fields
import SourceAtlas.Enrichment.LocalAssessment
import SourceAtlas.Enrichment.Request
import SourceAtlas.Enrichment.Schema
import SourceAtlas.Failure
import SourceAtlas.Graph.Basic
import SourceAtlas.Graph.Cycle
import SourceAtlas.Graph.CycleSearch
import SourceAtlas.Json.Reader
import SourceAtlas.Json.Writer
import SourceAtlas.Language.Basic
import SourceAtlas.Language.Detect
import SourceAtlas.Language.Matchers
import SourceAtlas.Language.Matchers.Basic
import SourceAtlas.Language.Matchers.Data
import SourceAtlas.Language.Matchers.Functional
import SourceAtlas.Language.Matchers.Jvm
import SourceAtlas.Language.Matchers.Numeric
import SourceAtlas.Language.Matchers.Scripting
import SourceAtlas.Language.Matchers.Systems
import SourceAtlas.Language.Matchers.Web
import SourceAtlas.Main
import SourceAtlas.Outline.Basic
import SourceAtlas.Outline.Extract
import SourceAtlas.Outline.Report
import SourceAtlas.Outline.Symbols
import SourceAtlas.Path
import SourceAtlas.Pattern.Basic
import SourceAtlas.Pattern.CharClass
import SourceAtlas.Pattern.Match
import SourceAtlas.Proofs.Analysis.Enriched
import SourceAtlas.Proofs.Analysis.Input
import SourceAtlas.Proofs.Analysis.Noninterference
import SourceAtlas.Proofs.Analysis.Spelling
import SourceAtlas.Proofs.Command.Connections
import SourceAtlas.Proofs.Command.Credentials
import SourceAtlas.Proofs.Command.Workspace
import SourceAtlas.Proofs.Enrichment.Answer
import SourceAtlas.Proofs.Enrichment.Bounds
import SourceAtlas.Proofs.Enrichment.Copies
import SourceAtlas.Proofs.Enrichment.History
import SourceAtlas.Proofs.Enrichment.Layouts
import SourceAtlas.Proofs.Enrichment.Overlay
import SourceAtlas.Proofs.Enrichment.Payload
import SourceAtlas.Proofs.Enrichment.Reading
import SourceAtlas.Proofs.Enrichment.Relationships
import SourceAtlas.Proofs.Enrichment.Returns
import SourceAtlas.Proofs.Enrichment.RoundTrip
import SourceAtlas.Proofs.Enrichment.Run
import SourceAtlas.Proofs.Enrichment.Spelling
import SourceAtlas.Proofs.Graph.Arrows
import SourceAtlas.Proofs.Graph.Cycle
import SourceAtlas.Proofs.Graph.Invariant
import SourceAtlas.Proofs.Graph.Lookup
import SourceAtlas.Proofs.Graph.Rebuild
import SourceAtlas.Proofs.Graph.Recount
import SourceAtlas.Proofs.Graph.Rings
import SourceAtlas.Proofs.Graph.Tally
import SourceAtlas.Proofs.Graph.Walk
import SourceAtlas.Proofs.Index
import SourceAtlas.Proofs.Json.Limits
import SourceAtlas.Proofs.Outline.Branches
import SourceAtlas.Proofs.Outline.Clauses
import SourceAtlas.Proofs.Outline.Entries
import SourceAtlas.Proofs.Outline.Insertion
import SourceAtlas.Proofs.Outline.Join
import SourceAtlas.Proofs.Outline.Layout
import SourceAtlas.Proofs.Outline.Scan
import SourceAtlas.Proofs.Outline.Shift
import SourceAtlas.Proofs.Outline.Spans
import SourceAtlas.Proofs.Path
import SourceAtlas.Proofs.Path.Name
import SourceAtlas.Proofs.Path.Plain
import SourceAtlas.Proofs.Path.Tail
import SourceAtlas.Proofs.Pattern.Opening
import SourceAtlas.Proofs.Provider.Answers
import SourceAtlas.Proofs.Resolve.Accounting
import SourceAtlas.Proofs.Resolve.Growth
import SourceAtlas.Proofs.Resolve.Implied
import SourceAtlas.Proofs.Resolve.ImportedName
import SourceAtlas.Proofs.Resolve.Justified
import SourceAtlas.Proofs.Resolve.NormalKeys
import SourceAtlas.Proofs.Resolve.PathImports
import SourceAtlas.Proofs.Resolve.PathMatches
import SourceAtlas.Proofs.Resolve.Spelling
import SourceAtlas.Proofs.Resolve.Tiers
import SourceAtlas.Proofs.Search.Course
import SourceAtlas.Proofs.Search.Invariant
import SourceAtlas.Proofs.Search.Limited
import SourceAtlas.Proofs.Search.Reached
import SourceAtlas.Proofs.Search.Recursive
import SourceAtlas.Proofs.Search.Rings
import SourceAtlas.Proofs.Search.Roots
import SourceAtlas.Proofs.Search.Step
import SourceAtlas.Proofs.Settings.Loading
import SourceAtlas.Proofs.Settings.RoundTrip
import SourceAtlas.Proofs.Stats.Batches
import SourceAtlas.Proofs.Stats.Histogram
import SourceAtlas.Proofs.Text.Lines
import SourceAtlas.Proofs.Text.Marks
import SourceAtlas.Proofs.Text.Order
import SourceAtlas.Proofs.Text.Words
import SourceAtlas.Proofs.Value.Compare
import SourceAtlas.Proofs.Value.Entries
import SourceAtlas.Proofs.Value.Quotient
import SourceAtlas.Proofs.Value.Texts
import SourceAtlas.Provider.Client
import SourceAtlas.Provider.Instructions
import SourceAtlas.Provider.Message
import SourceAtlas.Resolve.Basic
import SourceAtlas.Resolve.Candidate
import SourceAtlas.Resolve.Keys
import SourceAtlas.Resolve.Tiers
import SourceAtlas.Settings.Basic
import SourceAtlas.Settings.File
import SourceAtlas.Stats.Basic
import SourceAtlas.Terminal.Block
import SourceAtlas.Terminal.Cluster
import SourceAtlas.Terminal.Color
import SourceAtlas.Terminal.Emoji
import SourceAtlas.Terminal.EmojiTable
import SourceAtlas.Terminal.Layout
import SourceAtlas.Terminal.Literal
import SourceAtlas.Terminal.Markup
import SourceAtlas.Terminal.Panel
import SourceAtlas.Terminal.Style
import SourceAtlas.Terminal.Table
import SourceAtlas.Terminal.Width
import SourceAtlas.Terminal.WidthTable
import SourceAtlas.Terminal.Wrap
import SourceAtlas.Text.Blank
import SourceAtlas.Text.Case
import SourceAtlas.Text.CaseTable
import SourceAtlas.Text.CasedTable
import SourceAtlas.Text.CodePoint
import SourceAtlas.Text.Cut
import SourceAtlas.Text.Digit
import SourceAtlas.Text.Quoted
import SourceAtlas.Text.UnprintableTable
import SourceAtlas.Text.Utf8
import SourceAtlas.Text.Word
import SourceAtlas.Text.WordTable
import SourceAtlas.Toml.Basic
import SourceAtlas.Toml.Lines
import SourceAtlas.Toml.Reader
import SourceAtlas.Toml.Scalar
import SourceAtlas.Toml.Writer
import SourceAtlas.Value.Basic
import SourceAtlas.Value.Number
import SourceAtlas.Value.Order
import SourceAtlas.Value.Shown
