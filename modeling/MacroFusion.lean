import MacroFusion.Analysis
import MacroFusion.Binary64.Basic
import MacroFusion.Binary64.Text
import MacroFusion.Catalog.AppleM
import MacroFusion.Catalog.Basic
import MacroFusion.Catalog.Draft
import MacroFusion.Catalog.NeoverseV2
import MacroFusion.Clock
import MacroFusion.CommandLine.Arguments
import MacroFusion.CommandLine.Switch
import MacroFusion.Config
import MacroFusion.Console
import MacroFusion.Detector
import MacroFusion.Diagnostic.Basic
import MacroFusion.Diagnostic.Template
import MacroFusion.Dictionary
import MacroFusion.Disassembler
import MacroFusion.Expression.Basic
import MacroFusion.Expression.Bounds
import MacroFusion.Expression.Bracket
import MacroFusion.Expression.Escape
import MacroFusion.Expression.Fits
import MacroFusion.Expression.Flags
import MacroFusion.Expression.Meaning
import MacroFusion.Expression.Reader
import MacroFusion.Expression.Trial
import MacroFusion.Expression.Width
import MacroFusion.Fault
import MacroFusion.Files.Source
import MacroFusion.Files.Tree
import MacroFusion.Finding
import MacroFusion.Instruction
import MacroFusion.Json.Basic
import MacroFusion.Json.Reader
import MacroFusion.Json.Writer
import MacroFusion.Listing.Basic
import MacroFusion.Listing.Line
import MacroFusion.Log
import MacroFusion.Main
import MacroFusion.Path
import MacroFusion.Pattern
import MacroFusion.Plugin.Basic
import MacroFusion.Plugin.Shelf
import MacroFusion.Pool
import MacroFusion.Ranking
import MacroFusion.Regex.Basic
import MacroFusion.Regex.Meaning
import MacroFusion.Regex.Partial
import MacroFusion.Registry
import MacroFusion.Report.Basic
import MacroFusion.Report.Data
import MacroFusion.Report.Markdown
import MacroFusion.Rule
import MacroFusion.Run
import MacroFusion.Session
import MacroFusion.Summary.Basic
import MacroFusion.Text.Blank
import MacroFusion.Text.CharacterName
import MacroFusion.Text.Digit
import MacroFusion.Text.Encoding
import MacroFusion.Text.Halves
import MacroFusion.Text.Identifier
import MacroFusion.Text.Integer
import MacroFusion.Text.Lines
import MacroFusion.Text.Lower
import MacroFusion.Text.Printable
import MacroFusion.Text.Quoted
import MacroFusion.Text.Ranges
import MacroFusion.Text.Search
import MacroFusion.Text.Upper
import MacroFusion.Text.Utf8
import MacroFusion.Text.Word
import MacroFusion.Web.Request
import MacroFusion.Web.Server
import MacroFusion.Proofs.Analysis.Sites
import MacroFusion.Proofs.Catalog.Separation
import MacroFusion.Proofs.Listing.Grouping
import MacroFusion.Proofs.Text.Lines
import MacroFusion.Proofs.Text.Order
import MacroFusion.Proofs.Text.Runs
import MacroFusion.Proofs.Listing.Columns
import MacroFusion.Proofs.Listing.MachineCode
import MacroFusion.Proofs.Listing.Rendering
import MacroFusion.Proofs.Binary64.Range
import MacroFusion.Proofs.Summary.Shares
import MacroFusion.Proofs.Analysis.Balance
import MacroFusion.Proofs.Registry.History
import MacroFusion.Proofs.Registry.Overview
import MacroFusion.Proofs.Run.Outcome
import MacroFusion.Proofs.Plugin.Loading
import MacroFusion.Proofs.Plugin.Depot
import MacroFusion.Proofs.Plugin.Discovery
import MacroFusion.Proofs.Catalog.Chains
import MacroFusion.Proofs.Analysis.Selection
import MacroFusion.Proofs.Analysis.Independence
import MacroFusion.Proofs.Analysis.Locality
import MacroFusion.Proofs.Run.Joining
import MacroFusion.Proofs.Catalog.Baseline
import MacroFusion.Proofs.Catalog.Complements
import MacroFusion.Proofs.Catalog.Mnemonics
import MacroFusion.Proofs.Listing.LineEndings
import MacroFusion.Proofs.Json.Extent
import MacroFusion.Proofs.Summary.Collecting
import MacroFusion.Proofs.Summary.Data
import MacroFusion.Proofs.Summary.Views
import MacroFusion.Proofs.Summary.Rankings
import MacroFusion.Proofs.Run.Size
import MacroFusion.Proofs.Web.Orders
import MacroFusion.Proofs.Web.Answers
import MacroFusion.Proofs.Web.Defaults
import MacroFusion.Proofs.Listing.Layout
import MacroFusion.Proofs.Listing.Headings
import MacroFusion.Proofs.Listing.Forms
import MacroFusion.Proofs.Listing.Grammar
import MacroFusion.Proofs.Console.Reporters
import MacroFusion.Proofs.Files.Paths
import MacroFusion.Proofs.Files.Walk
import MacroFusion.Proofs.Files.Writing
import MacroFusion.Proofs.Session.Delivery
import MacroFusion.Proofs.Summary.Breakdown
import MacroFusion.Proofs.Summary.Limits
import MacroFusion.Proofs.Report.Sections
import MacroFusion.Proofs.Plugin.Reversal
