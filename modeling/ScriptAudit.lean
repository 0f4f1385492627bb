import ScriptAudit.Audit
import ScriptAudit.Catalog
import ScriptAudit.Catalog.Builtin
import ScriptAudit.CommandLine
import ScriptAudit.CommandLine.Options
import ScriptAudit.Config
import ScriptAudit.Datum
import ScriptAudit.Error
import ScriptAudit.Event
import ScriptAudit.FileTree
import ScriptAudit.FileTree.Walk
import ScriptAudit.Finding
import ScriptAudit.Json
import ScriptAudit.Json.Reader
import ScriptAudit.Language
import ScriptAudit.Main
import ScriptAudit.Number.Binary64
import ScriptAudit.Number.Shortest
import ScriptAudit.Number.Word
import ScriptAudit.Path
import ScriptAudit.Pattern.Backtrack
import ScriptAudit.Pattern.CharSet
import ScriptAudit.Pattern.Compiled
import ScriptAudit.Pattern.Meaning
import ScriptAudit.Pattern.Origins
import ScriptAudit.Pattern.Parser
import ScriptAudit.Pattern.Parser.Bracket
import ScriptAudit.Pattern.Parser.Escape
import ScriptAudit.Pattern.Parser.Gap
import ScriptAudit.Pattern.Parser.Property
import ScriptAudit.Pattern.Plan
import ScriptAudit.Pattern.Preference
import ScriptAudit.Pattern.Regex
import ScriptAudit.Pattern.Size
import ScriptAudit.Proofs.Audit.Absence
import ScriptAudit.Proofs.Audit.Disabling
import ScriptAudit.Proofs.Audit.Failure
import ScriptAudit.Proofs.Audit.Growth
import ScriptAudit.Proofs.Audit.Isolation
import ScriptAudit.Proofs.Audit.Noninterference
import ScriptAudit.Proofs.Audit.ReportedPaths
import ScriptAudit.Proofs.Audit.Result
import ScriptAudit.Proofs.Audit.Sarif
import ScriptAudit.Proofs.Audit.Shape
import ScriptAudit.Proofs.Audit.SkillPath
import ScriptAudit.Proofs.Audit.Spelling
import ScriptAudit.Proofs.Audit.Verdict
import ScriptAudit.Proofs.Catalog.Builtin
import ScriptAudit.Proofs.Catalog.Checks
import ScriptAudit.Proofs.Catalog.Compilation
import ScriptAudit.Proofs.Catalog.Expressions
import ScriptAudit.Proofs.Catalog.LetterCase
import ScriptAudit.Proofs.Catalog.LineEndings
import ScriptAudit.Proofs.Catalog.Listing
import ScriptAudit.Proofs.Catalog.LocalExemption
import ScriptAudit.Proofs.Catalog.OutboundRequest
import ScriptAudit.Proofs.Catalog.Padding
import ScriptAudit.Proofs.Catalog.ScanOrder
import ScriptAudit.Proofs.Catalog.SeparateCalls
import ScriptAudit.Proofs.Catalog.ShortLines
import ScriptAudit.Proofs.Catalog.YamlLoad
import ScriptAudit.Proofs.CommandLine.Delivery
import ScriptAudit.Proofs.Config.Schema
import ScriptAudit.Proofs.Datum.Records
import ScriptAudit.Proofs.FileTree.Contents
import ScriptAudit.Proofs.FileTree.Growth
import ScriptAudit.Proofs.FileTree.Locking
import ScriptAudit.Proofs.FileTree.Lookup
import ScriptAudit.Proofs.FileTree.Nodes
import ScriptAudit.Proofs.FileTree.Order
import ScriptAudit.Proofs.FileTree.Permission
import ScriptAudit.Proofs.FileTree.Spelling
import ScriptAudit.Proofs.FileTree.Traversal
import ScriptAudit.Proofs.FileTree.Walk
import ScriptAudit.Proofs.FileTree.WalkedPaths
import ScriptAudit.Proofs.FileTree.Writing
import ScriptAudit.Proofs.Json.RoundTrip
import ScriptAudit.Proofs.Language.Extension
import ScriptAudit.Proofs.Path.Canonical
import ScriptAudit.Proofs.Path.Components
import ScriptAudit.Proofs.Path.LastName
import ScriptAudit.Proofs.Path.Names
import ScriptAudit.Proofs.Path.Relative
import ScriptAudit.Proofs.Path.Texts
import ScriptAudit.Proofs.Pattern.Budget
import ScriptAudit.Proofs.Pattern.LetterCase
import ScriptAudit.Proofs.Pattern.Meaning
import ScriptAudit.Proofs.Pattern.Occurrence
import ScriptAudit.Proofs.Pattern.Origins
import ScriptAudit.Proofs.Pattern.Outline
import ScriptAudit.Proofs.Pattern.Padding
import ScriptAudit.Proofs.Pattern.Plan
import ScriptAudit.Proofs.Pattern.Readers
import ScriptAudit.Proofs.Pattern.Routing
import ScriptAudit.Proofs.Pattern.Search
import ScriptAudit.Proofs.Pattern.Visible
import ScriptAudit.Proofs.Pattern.Wording
import ScriptAudit.Proofs.Report.Console
import ScriptAudit.Proofs.Report.RoundTrip
import ScriptAudit.Proofs.Report.Sarif
import ScriptAudit.Proofs.Scan.Accounting
import ScriptAudit.Proofs.Scan.BlankLines
import ScriptAudit.Proofs.Scan.ByRule
import ScriptAudit.Proofs.Scan.Content
import ScriptAudit.Proofs.Scan.Disabling
import ScriptAudit.Proofs.Scan.Growth
import ScriptAudit.Proofs.Scan.Isolation
import ScriptAudit.Proofs.Scan.LineEndings
import ScriptAudit.Proofs.Scan.Lines
import ScriptAudit.Proofs.Scan.Order
import ScriptAudit.Proofs.Scan.Spelling
import ScriptAudit.Proofs.Text.Decoding
import ScriptAudit.Proofs.Text.Excerpt
import ScriptAudit.Proofs.Text.Letters
import ScriptAudit.Proofs.Text.Lowercase
import ScriptAudit.Proofs.Text.Pieces
import ScriptAudit.Proofs.Text.Utf8
import ScriptAudit.Proofs.Toml.Data
import ScriptAudit.Proofs.Toml.DistinctKeys
import ScriptAudit.Proofs.Toml.Reordering
import ScriptAudit.Report
import ScriptAudit.Report.Console
import ScriptAudit.Report.Format
import ScriptAudit.Report.Sarif
import ScriptAudit.RuleSet
import ScriptAudit.Scan
import ScriptAudit.Severity
import ScriptAudit.Text.Alphabetic
import ScriptAudit.Text.Blank
import ScriptAudit.Text.CaseVariant
import ScriptAudit.Text.Cased
import ScriptAudit.Text.Category
import ScriptAudit.Text.Code
import ScriptAudit.Text.Digit
import ScriptAudit.Text.Line
import ScriptAudit.Text.Lowercase
import ScriptAudit.Text.Numeric
import ScriptAudit.Text.Plain
import ScriptAudit.Text.Quoted
import ScriptAudit.Text.RangeTree
import ScriptAudit.Text.Unprintable
import ScriptAudit.Text.Utf8
import ScriptAudit.Text.Word
import ScriptAudit.Toml
import ScriptAudit.Toml.Reader
import ScriptAudit.Toml.Scalar
