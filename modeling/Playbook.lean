import Playbook.Calendar
import Playbook.Capability
import Playbook.Capability.Builtin
import Playbook.Command.Line
import Playbook.Command.Program
import Playbook.Command.Shell
import Playbook.CommandLine
import Playbook.CommandLine.Arguments
import Playbook.CommandLine.Switch
import Playbook.CommandLine.Usage
import Playbook.Comparator
import Playbook.Diagnostic
import Playbook.Diagnostic.Markup
import Playbook.Diagnostic.Schema
import Playbook.Diagnostic.Text
import Playbook.Execution
import Playbook.Execution.Action
import Playbook.Execution.Assertion
import Playbook.Execution.Items
import Playbook.Execution.Procedure
import Playbook.Fault
import Playbook.Field.Issue
import Playbook.Field.Record
import Playbook.Field.Scalar
import Playbook.FilePath
import Playbook.Files
import Playbook.Form
import Playbook.Json.Reader
import Playbook.Json.Writer
import Playbook.Lookup
import Playbook.Main
import Playbook.Name
import Playbook.Number.Binary64
import Playbook.Number.Numeral
import Playbook.Number.Power
import Playbook.Number.Shortest
import Playbook.Ordered
import Playbook.Outcome
import Playbook.Parameter
import Playbook.Pattern.Case
import Playbook.Pattern.Matcher
import Playbook.Pattern.Reader
import Playbook.Pattern.Tree
import Playbook.Plugin
import Playbook.Proofs.Accounting
import Playbook.Proofs.ActionDocuments
import Playbook.Proofs.AssertionDocuments
import Playbook.Proofs.AssertionRuns
import Playbook.Proofs.BatchCompletion
import Playbook.Proofs.BatchIsolation
import Playbook.Proofs.BatchSchedules
import Playbook.Proofs.Comparisons
import Playbook.Proofs.Decisions
import Playbook.Proofs.DocumentFaults
import Playbook.Proofs.DocumentStreams
import Playbook.Proofs.Excerpts
import Playbook.Proofs.ExportAliases
import Playbook.Proofs.ExportNames
import Playbook.Proofs.Exports
import Playbook.Proofs.Extraction
import Playbook.Proofs.Fallible
import Playbook.Proofs.FieldReading
import Playbook.Proofs.IdleKeys
import Playbook.Proofs.ImmediateActions
import Playbook.Proofs.Indices
import Playbook.Proofs.InnermostParts
import Playbook.Proofs.JsonRoundTrip
import Playbook.Proofs.LastMembers
import Playbook.Proofs.LiteralRanges
import Playbook.Proofs.LoadFaults
import Playbook.Proofs.NameGrammars
import Playbook.Proofs.NamePatterns
import Playbook.Proofs.Operands
import Playbook.Proofs.OperatorNames
import Playbook.Proofs.OperatorSpellings
import Playbook.Proofs.ParameterAliases
import Playbook.Proofs.ParameterKeys
import Playbook.Proofs.ParameterNames
import Playbook.Proofs.ParameterSplits
import Playbook.Proofs.PathMatches
import Playbook.Proofs.PathParts
import Playbook.Proofs.PathPointers
import Playbook.Proofs.PatternLanguages
import Playbook.Proofs.PlainData
import Playbook.Proofs.Procedure
import Playbook.Proofs.PropertyFlow
import Playbook.Proofs.PropertyHistory
import Playbook.Proofs.PropertyTexts
import Playbook.Proofs.RangeTexts
import Playbook.Proofs.References
import Playbook.Proofs.Registration
import Playbook.Proofs.RegistryConsistency
import Playbook.Proofs.RegistryContents
import Playbook.Proofs.RemovedKeys
import Playbook.Proofs.ReportLines
import Playbook.Proofs.Rounding
import Playbook.Proofs.RunShape
import Playbook.Proofs.ScalarTexts
import Playbook.Proofs.SortedTexts
import Playbook.Proofs.StepExecution
import Playbook.Proofs.StepFaults
import Playbook.Proofs.StepIssues
import Playbook.Proofs.StepReading
import Playbook.Proofs.StepRefusals
import Playbook.Proofs.StopPolicy
import Playbook.Proofs.StoredKeys
import Playbook.Proofs.StoredLists
import Playbook.Proofs.StoredValues
import Playbook.Proofs.Substitution
import Playbook.Proofs.Templates
import Playbook.Proofs.TextKeys
import Playbook.Proofs.ValueFaults
import Playbook.Proofs.ValueIssues
import Playbook.Properties
import Playbook.Properties.File
import Playbook.Range
import Playbook.Registry
import Playbook.Report
import Playbook.Result
import Playbook.Result.Reader
import Playbook.Run
import Playbook.Runner
import Playbook.Scenario
import Playbook.Scenario.Reader
import Playbook.Settings
import Playbook.Step
import Playbook.Step.Reader
import Playbook.Template
import Playbook.Text.Case
import Playbook.Text.CaseTables
import Playbook.Text.ClassTables
import Playbook.Text.Classes
import Playbook.Text.Encoding
import Playbook.Text.IdentifierTable
import Playbook.Text.Lines
import Playbook.Text.Quoted
import Playbook.Text.Resemblance
import Playbook.Text.Utf8
import Playbook.Value.Basic
import Playbook.Value.Entries
import Playbook.Value.Literal
import Playbook.Value.Order
import Playbook.Value.Plain
import Playbook.Yaml.Base64
import Playbook.Yaml.Block
import Playbook.Yaml.Cursor
import Playbook.Yaml.Document
import Playbook.Yaml.Event
import Playbook.Yaml.Node
import Playbook.Yaml.Pen
import Playbook.Yaml.Problem
import Playbook.Yaml.Scalar
import Playbook.Yaml.Snippet
import Playbook.Yaml.Style
import Playbook.Yaml.Token
import Playbook.Yaml.Token.Scalars
import Playbook.Yaml.Token.Stream
import Playbook.Yaml.Token.Words
import Playbook.Yaml.Writer
import Playbook.Proofs.NumeralSyntax
import Playbook.Proofs.RangeSyntax
import Playbook.Proofs.ItemVerdicts
import Playbook.Proofs.PropertyLines
import Playbook.Proofs.NearestDoubles
import Playbook.Proofs.IntegerComparisons
import Playbook.Proofs.Signs
import Playbook.Proofs.JsonGrammar
import Playbook.Proofs.JsonTokens
import Playbook.Proofs.JsonReading
import Playbook.Proofs.ItemReading
import Playbook.Proofs.Normalization
import Playbook.Proofs.UntoldFailures
