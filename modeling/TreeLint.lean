import TreeLint.Analysis
import TreeLint.Decimal.Binary
import TreeLint.Decimal.Positional
import TreeLint.Decimal.Reader
import TreeLint.Decimal.Shortest
import TreeLint.Detector.Basic
import TreeLint.Document.Reader
import TreeLint.Document.Writer
import TreeLint.Error
import TreeLint.Finding.Basic
import TreeLint.Finding.Rule
import TreeLint.Finding.Suppression
import TreeLint.Json.Fault
import TreeLint.Json.Number
import TreeLint.Json.Pass
import TreeLint.Json.Reader
import TreeLint.Json.Text
import TreeLint.Language
import TreeLint.Pipeline
import TreeLint.Regex.Bracket
import TreeLint.Regex.Escape
import TreeLint.Regex.Flags
import TreeLint.Regex.Match
import TreeLint.Regex.OfString
import TreeLint.Regex.Pattern
import TreeLint.Regex.Reader
import TreeLint.Regex.Size
import TreeLint.Registry
import TreeLint.Report.Aggregate
import TreeLint.Report.Run
import TreeLint.Rules.BroadExceptionCatch
import TreeLint.Rules.Callable
import TreeLint.Rules.DangerousEval
import TreeLint.Rules.DebugOutput
import TreeLint.Rules.HardcodedCredential
import TreeLint.Rules.InsecureDeserialization
import TreeLint.Rules.MagicNumber
import TreeLint.Rules.OverSynchronization
import TreeLint.Rules.QuadraticCandidate
import TreeLint.Rules.ResourceLeak
import TreeLint.Rules.SqlInjection
import TreeLint.Rules.StringConcatInLoop
import TreeLint.Rules.UnboundedCacheGrowth
import TreeLint.Rules.UnusedBinding
import TreeLint.Settings.Basic
import TreeLint.Settings.Check
import TreeLint.Settings.Layers
import TreeLint.Settings.Reader
import TreeLint.Settings.Writer
import TreeLint.Source
import TreeLint.Text.Blank
import TreeLint.Text.Hidden
import TreeLint.Text.Lines
import TreeLint.Text.Offsets
import TreeLint.Text.Quoted
import TreeLint.Text.Search
import TreeLint.Toml.Quoted
import TreeLint.Toml.Reader
import TreeLint.Toml.Scalar
import TreeLint.Toml.Value
import TreeLint.Tree.Access
import TreeLint.Tree.Chain
import TreeLint.Tree.Descendants
import TreeLint.Tree.Kind
import TreeLint.Tree.Literal
import TreeLint.Tree.Node
import TreeLint.Tree.Scope
import TreeLint.Tree.Span
import TreeLint.Tree.TypeName
import TreeLint.Unicode.Age
import TreeLint.Unicode.Binary
import TreeLint.Unicode.Break
import TreeLint.Unicode.CaseFold
import TreeLint.Unicode.Category
import TreeLint.Unicode.CharSet
import TreeLint.Unicode.Property
import TreeLint.Unicode.Recent
import TreeLint.Unicode.Script
import TreeLint.Unicode.ScriptExtensions
import TreeLint.Unicode.Utf8
import TreeLint.Proofs.Visits
import TreeLint.Proofs.Walk
import TreeLint.Proofs.Bounds
import TreeLint.Proofs.Faults
import TreeLint.Proofs.FinalList
import TreeLint.Proofs.Reaggregation
import TreeLint.Proofs.InputOrder
import TreeLint.Proofs.Ownership
import TreeLint.Proofs.FileIndependence
import TreeLint.Proofs.CancelledRuns
import TreeLint.Proofs.DisabledRules
import TreeLint.Proofs.Replacement
import TreeLint.Proofs.Intraprocedural
import TreeLint.Proofs.CheckedSettings
import TreeLint.Proofs.DocumentRoundTrip
import TreeLint.Proofs.JoinedPatterns
import TreeLint.Proofs.Startup
import TreeLint.Proofs.SpansInText
import TreeLint.Proofs.ResourceWays
import TreeLint.Proofs.LeakVerdicts
import TreeLint.Proofs.TrustedData
import TreeLint.Proofs.TrustFixpoint
import TreeLint.Proofs.Reach
import TreeLint.Proofs.DecisionCount
import TreeLint.Proofs.QuadraticNests
import TreeLint.Proofs.SpanOrder
import TreeLint.Proofs.CredentialReports
import TreeLint.Proofs.CredentialNames
import TreeLint.Proofs.RuleFindings
import TreeLint.Proofs.UnusedBindings
import TreeLint.Proofs.TextSearch
import TreeLint.Proofs.TextLines
import TreeLint.Proofs.DirectiveLines
import TreeLint.Proofs.CommentDirectives
import TreeLint.Proofs.WrittenDirectives
import TreeLint.Proofs.BuiltInFaults
import TreeLint.Proofs.ConcatChains
import TreeLint.Proofs.QueryVerdicts
import TreeLint.Proofs.SharedLocks
import TreeLint.Proofs.LineTable
import TreeLint.Proofs.LineViews
import TreeLint.Proofs.StackWalks
import TreeLint.Proofs.SimpleNames
