import StepCatalog.Catalog
import StepCatalog.CommandLine.MissingSteps
import StepCatalog.CommandLine.Options
import StepCatalog.CommandLine.SearchSteps
import StepCatalog.CommandLine.Transcript
import StepCatalog.Exclusion
import StepCatalog.Extract
import StepCatalog.Fault
import StepCatalog.Feature
import StepCatalog.FileTree
import StepCatalog.Index
import StepCatalog.Json.Basic
import StepCatalog.Json.Dialect
import StepCatalog.Json.Document
import StepCatalog.Json.Encoding
import StepCatalog.Json.Fault
import StepCatalog.Json.Reader
import StepCatalog.Json.Token
import StepCatalog.Json.Writer
import StepCatalog.Main
import StepCatalog.Number.Binary64
import StepCatalog.Number.Shortest
import StepCatalog.Path
import StepCatalog.Pattern
import StepCatalog.Reconcile
import StepCatalog.Regex.Alternatives
import StepCatalog.Regex.CharTest
import StepCatalog.Regex.Escape
import StepCatalog.Regex.Fault
import StepCatalog.Regex.Matcher
import StepCatalog.Regex.Node
import StepCatalog.Regex.Parser
import StepCatalog.Regex.Program
import StepCatalog.Regex.Token
import StepCatalog.Regex.Trial
import StepCatalog.Regex.Width
import StepCatalog.Report
import StepCatalog.Runtime
import StepCatalog.Search.Rank
import StepCatalog.Search.Score
import StepCatalog.Session
import StepCatalog.Settings
import StepCatalog.Template
import StepCatalog.Text.Blank
import StepCatalog.Text.Integer
import StepCatalog.Text.Lower
import StepCatalog.Text.Quoted
import StepCatalog.Text.Split
import StepCatalog.Unicode.Case
import StepCatalog.Unicode.Identifier
import StepCatalog.Unicode.Letter
import StepCatalog.Unicode.Name
import StepCatalog.Unicode.NameTable
import StepCatalog.Unicode.Number
import StepCatalog.Unicode.Printable
import StepCatalog.Unicode.Ranges
import StepCatalog.Proofs.Template.Splitting
import StepCatalog.Proofs.Template.Parts
import StepCatalog.Proofs.Template.Reading
import StepCatalog.Proofs.Unicode.SameLetter
import StepCatalog.Proofs.Unicode.Caseless
import StepCatalog.Proofs.Regex.Deciding
import StepCatalog.Proofs.Template.Language
import StepCatalog.Proofs.Template.Display
import StepCatalog.Proofs.Catalog.Build
import StepCatalog.Proofs.Reconcile
import StepCatalog.Proofs.CommandLine.Ending
import StepCatalog.Proofs.CommandLine.Options
import StepCatalog.Proofs.CommandLine.Gate
import StepCatalog.Proofs.Session.Corpus
import StepCatalog.Proofs.Session.Machine
import StepCatalog.Proofs.Search.Ranking
import StepCatalog.Proofs.Json.Encoding
import StepCatalog.Proofs.Number.Rounding
import StepCatalog.Proofs.Json.Words
import StepCatalog.Proofs.Json.Dialects
import StepCatalog.Proofs.Json.Files
import StepCatalog.Proofs.Json.Written
import StepCatalog.Proofs.Json.Order
import StepCatalog.Proofs.Json.Decoded
import StepCatalog.Proofs.FileTree
import StepCatalog.Proofs.Json.RoundTrip
import StepCatalog.Proofs.Extract.Listing
import StepCatalog.Proofs.Text.Numerals
import StepCatalog.Proofs.Extract.Lines
import StepCatalog.Proofs.Report
import StepCatalog.Proofs.CommandLine.Search
import StepCatalog.Proofs.Regex.Alike
import StepCatalog.Proofs.Regex.Folding
import StepCatalog.Proofs.Regex.Alternatives
import StepCatalog.Proofs.Regex.Anchoring
import StepCatalog.Proofs.Regex.AnchoredReader
import StepCatalog.Proofs.Regex.AnchoredRun
import StepCatalog.Proofs.Regex.AnchoredTree
import StepCatalog.Proofs.Pattern.Anchored
import StepCatalog.Proofs.Search.Bands
import StepCatalog.Proofs.Search.Tokens
import StepCatalog.Proofs.Exclusion
import StepCatalog.Proofs.Session.Boundary
import StepCatalog.Proofs.Search.Filtering
import StepCatalog.Proofs.Text.Runs
import StepCatalog.Proofs.Search.Reach
import StepCatalog.Proofs.Search.Window
import StepCatalog.Proofs.Pattern.Trimmed
import StepCatalog.Proofs.Catalog.Parts
import StepCatalog.Proofs.Catalog.Counts
import StepCatalog.Proofs.Extract.Records
import StepCatalog.Proofs.Extract.Accounting
import StepCatalog.Proofs.Settings.Editing
import StepCatalog.Proofs.Settings.Removal
import StepCatalog.Proofs.Template.Label
import StepCatalog.Proofs.Catalog.Screens
import StepCatalog.Proofs.Session.Reports
import StepCatalog.Proofs.Template.Interleaving
import StepCatalog.Proofs.Search.Query
import StepCatalog.Proofs.Index.Generations
