import LineLint.Binary
import LineLint.Classifier
import LineLint.Command.Arguments
import LineLint.Command.Ending
import LineLint.Command.Request
import LineLint.Command.Run
import LineLint.FileTree
import LineLint.FileTree.Files
import LineLint.Hash
import LineLint.Json.Basic
import LineLint.Json.Printer
import LineLint.Json.Reader
import LineLint.Lint.Result
import LineLint.Lint.Run
import LineLint.Lint.Warning
import LineLint.Main
import LineLint.Path
import LineLint.Pattern
import LineLint.Proofs.ActionPlan
import LineLint.Proofs.BlankDocuments
import LineLint.Proofs.Bookkeeping
import LineLint.Proofs.Brackets
import LineLint.Proofs.CheckFile
import LineLint.Proofs.CommandSteps
import LineLint.Proofs.ConfigFaults
import LineLint.Proofs.ConfigLoading
import LineLint.Proofs.ConfigSearch
import LineLint.Proofs.Deliveries
import LineLint.Proofs.DetailedReport
import LineLint.Proofs.Directories
import LineLint.Proofs.Discovery
import LineLint.Proofs.Encoding
import LineLint.Proofs.ExitCodes
import LineLint.Proofs.FieldLookup
import LineLint.Proofs.FieldReadings
import LineLint.Proofs.FileNames
import LineLint.Proofs.Findings
import LineLint.Proofs.Frames
import LineLint.Proofs.HardcodedValues
import LineLint.Proofs.JsonReading
import LineLint.Proofs.JsonReport
import LineLint.Proofs.LastComponents
import LineLint.Proofs.LineBreaks
import LineLint.Proofs.LinkFree
import LineLint.Proofs.Listing
import LineLint.Proofs.Manifests
import LineLint.Proofs.Marks
import LineLint.Proofs.Matchers
import LineLint.Proofs.Messages
import LineLint.Proofs.Names
import LineLint.Proofs.Narrowing
import LineLint.Proofs.Numerals
import LineLint.Proofs.OncePerLine
import LineLint.Proofs.Outputs
import LineLint.Proofs.PatternParts
import LineLint.Proofs.Patterns
import LineLint.Proofs.Phrases
import LineLint.Proofs.Printing
import LineLint.Proofs.RankedRules
import LineLint.Proofs.Refusals
import LineLint.Proofs.Reorderings
import LineLint.Proofs.ReportLines
import LineLint.Proofs.Reported
import LineLint.Proofs.Requests
import LineLint.Proofs.Reruns
import LineLint.Proofs.Resolution
import LineLint.Proofs.Resolving
import LineLint.Proofs.ResultViews
import LineLint.Proofs.Results
import LineLint.Proofs.Returns
import LineLint.Proofs.RunOrder
import LineLint.Proofs.Runs
import LineLint.Proofs.Samples
import LineLint.Proofs.SchemaNames
import LineLint.Proofs.ShownViolations
import LineLint.Proofs.Slices
import LineLint.Proofs.Splices
import LineLint.Proofs.Styles
import LineLint.Proofs.SummaryTables
import LineLint.Proofs.Tallies
import LineLint.Proofs.TextOutput
import LineLint.Proofs.Toggles
import LineLint.Proofs.TriageRows
import LineLint.Proofs.Unseen
import LineLint.Proofs.Utf8
import LineLint.Proofs.Validation
import LineLint.Proofs.Walks
import LineLint.Proofs.Writing
import LineLint.Report.Basic
import LineLint.Report.Layout
import LineLint.Report.Sections
import LineLint.Report.Summary
import LineLint.Rule
import LineLint.Rules.BunFlags
import LineLint.Rules.Catalogue
import LineLint.Rules.Configuration
import LineLint.Rules.Deprecation
import LineLint.Screen.Emoji
import LineLint.Screen.EmojiNames
import LineLint.Screen.Lines
import LineLint.Screen.Markup
import LineLint.Screen.Parameters
import LineLint.Screen.Style
import LineLint.Screen.StyledText
import LineLint.Screen.Table
import LineLint.Screen.Views
import LineLint.Screen.Wrap
import LineLint.Settings.Basic
import LineLint.Settings.Config
import LineLint.Settings.Validation
import LineLint.Tally
import LineLint.Text.Blank
import LineLint.Text.Case
import LineLint.Text.CharacterName
import LineLint.Text.CharacterName.FromA
import LineLint.Text.CharacterName.FromC
import LineLint.Text.CharacterName.FromG
import LineLint.Text.CharacterName.FromM
import LineLint.Text.CharacterName.FromS
import LineLint.Text.Codes
import LineLint.Text.Decimal
import LineLint.Text.Grapheme
import LineLint.Text.Lines
import LineLint.Text.Printable
import LineLint.Text.Quoted
import LineLint.Text.Search
import LineLint.Text.Shortest
import LineLint.Text.Undecoded
import LineLint.Text.Utf8
import LineLint.Text.Width
import LineLint.Text.Word
import LineLint.Timestamp
import LineLint.Triage
import LineLint.Value
import LineLint.Violation
import LineLint.Yaml.Complaint
import LineLint.Yaml.Content
import LineLint.Yaml.Cursor
import LineLint.Yaml.Document
import LineLint.Yaml.KeyOrder
import LineLint.Yaml.Lexer
import LineLint.Yaml.Literal
import LineLint.Yaml.Node
import LineLint.Yaml.Scalar
import LineLint.Yaml.ScalarText
import LineLint.Yaml.Token
