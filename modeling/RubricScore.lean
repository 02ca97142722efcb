import RubricScore.Backlog.Basic
import RubricScore.Backlog.Document
import RubricScore.Backlog.Task
import RubricScore.Backlog.Text
import RubricScore.Binary64.Arithmetic
import RubricScore.Binary64.Basic
import RubricScore.Binary64.Decimal
import RubricScore.Binary64.Rounding
import RubricScore.Binary64.Spelling
import RubricScore.Category
import RubricScore.Collection
import RubricScore.CommandLine.Help
import RubricScore.CommandLine.Invocation
import RubricScore.CommandLine.Parameter
import RubricScore.CommandLine.Reading
import RubricScore.CommandLine.Run
import RubricScore.Corpus
import RubricScore.Criticality
import RubricScore.Cue
import RubricScore.Evaluation
import RubricScore.Evidence
import RubricScore.FileTree.Access
import RubricScore.FileTree.Basic
import RubricScore.FileTree.Resolution
import RubricScore.Json.Decode
import RubricScore.Json.Node
import RubricScore.Json.Number
import RubricScore.Json.Scan
import RubricScore.Json.Value
import RubricScore.Log
import RubricScore.Main
import RubricScore.Metrics.Basic
import RubricScore.Metrics.Header
import RubricScore.Metrics.Sloc
import RubricScore.OrderedMap
import RubricScore.OutputFormat
import RubricScore.Path
import RubricScore.Proofs.Backlog.Agreement
import RubricScore.Proofs.Backlog.Batches
import RubricScore.Proofs.Backlog.Display
import RubricScore.Proofs.Backlog.Lines
import RubricScore.Proofs.Backlog.Roles
import RubricScore.Proofs.Backlog.Selection
import RubricScore.Proofs.Binary64.Arithmetic
import RubricScore.Proofs.Binary64.Digits
import RubricScore.Proofs.Binary64.Display
import RubricScore.Proofs.Binary64.Rounding
import RubricScore.Proofs.Binary64.Shortest
import RubricScore.Proofs.Binary64.TotalOrder
import RubricScore.Proofs.Binary64.Zero
import RubricScore.Proofs.Collection.Exactness
import RubricScore.Proofs.Collection.Limits
import RubricScore.Proofs.CommandLine.Arrangement
import RubricScore.Proofs.CommandLine.Coverage
import RubricScore.Proofs.CommandLine.Effects
import RubricScore.Proofs.CommandLine.Meaning
import RubricScore.Proofs.CommandLine.Numerals
import RubricScore.Proofs.CommandLine.Values
import RubricScore.Proofs.CommandLine.Wording
import RubricScore.Proofs.Corpus
import RubricScore.Proofs.Criticality
import RubricScore.Proofs.Cue.Lowercase
import RubricScore.Proofs.Cue.Optimality
import RubricScore.Proofs.Cue.Separators
import RubricScore.Proofs.Evaluation.Compilation
import RubricScore.Proofs.Evaluation.Independence
import RubricScore.Proofs.Evidence.Accounting
import RubricScore.Proofs.Evidence.Additivity
import RubricScore.Proofs.Evidence.Scan
import RubricScore.Proofs.Evidence.Schedule
import RubricScore.Proofs.Except
import RubricScore.Proofs.FileTree.Access
import RubricScore.Proofs.FileTree.Places
import RubricScore.Proofs.FileTree.Resolution
import RubricScore.Proofs.Json.Acceptance
import RubricScore.Proofs.Json.Codec
import RubricScore.Proofs.Json.Finiteness
import RubricScore.Proofs.Json.Grammar
import RubricScore.Proofs.Json.Layout
import RubricScore.Proofs.Json.Numeral
import RubricScore.Proofs.Json.Parts
import RubricScore.Proofs.Json.Recognition
import RubricScore.Proofs.Json.Records
import RubricScore.Proofs.Json.Reread
import RubricScore.Proofs.Json.ShortNumeral
import RubricScore.Proofs.Json.Spelling
import RubricScore.Proofs.Json.Written
import RubricScore.Proofs.Metrics.Headers
import RubricScore.Proofs.Metrics.SourceLines
import RubricScore.Proofs.OrderedMap
import RubricScore.Proofs.Path.Order
import RubricScore.Proofs.Path.Spelling
import RubricScore.Proofs.Report.Finiteness
import RubricScore.Proofs.Report.HandOff
import RubricScore.Proofs.Report.RoundTrip
import RubricScore.Proofs.Rubric.Faults
import RubricScore.Proofs.Rubric.Labels
import RubricScore.Proofs.Rubric.Rearrangement
import RubricScore.Proofs.Rubric.Validation
import RubricScore.Proofs.ScanOptions
import RubricScore.Proofs.Scoring.Component
import RubricScore.Proofs.Scoring.Credit
import RubricScore.Proofs.Scoring.Monotonicity
import RubricScore.Proofs.Scoring.Summary
import RubricScore.Proofs.Scoring.WeightedMean
import RubricScore.Proofs.Scoring.ZeroWeights
import RubricScore.Proofs.Settings.Keys
import RubricScore.Proofs.Settings.Objects
import RubricScore.Proofs.Settings.Precedence
import RubricScore.Proofs.Settings.Sheets
import RubricScore.Proofs.Text.ByteOrder
import RubricScore.Proofs.Text.Class
import RubricScore.Proofs.Text.Decoding
import RubricScore.Proofs.Text.Lowercase
import RubricScore.Proofs.Text.Newlines
import RubricScore.Proofs.Text.Parts
import RubricScore.Proofs.Text.Titles
import RubricScore.Proofs.Text.Utf8
import RubricScore.Proofs.Toml.Grammar
import RubricScore.Proofs.Toml.Numeral
import RubricScore.Proofs.Toml.Recognition
import RubricScore.Proofs.Toml.Sheet
import RubricScore.Report.Basic
import RubricScore.Report.Document
import RubricScore.Report.Text
import RubricScore.Rubric.Basic
import RubricScore.Rubric.Document
import RubricScore.Rubric.Load
import RubricScore.Rubric.Validation
import RubricScore.ScanOptions
import RubricScore.Scoring
import RubricScore.Settings
import RubricScore.Style
import RubricScore.Text.Case
import RubricScore.Text.CaseTable
import RubricScore.Text.Class
import RubricScore.Text.Quote
import RubricScore.Text.Utf8
import RubricScore.Text.VisibleTable
import RubricScore.Text.WordTable
import RubricScore.Toml.Document
import RubricScore.Toml.Quoted
import RubricScore.Toml.Scalar
import RubricScore.Toml.Statement
import RubricScore.Toml.Value
