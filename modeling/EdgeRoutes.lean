import EdgeRoutes.CommandLine.Form
import EdgeRoutes.CommandLine.Invocation
import EdgeRoutes.CommandLine.Usage
import EdgeRoutes.CommandLine.Words
import EdgeRoutes.Commands
import EdgeRoutes.Data.Basic
import EdgeRoutes.Data.Fields
import EdgeRoutes.Data.Json.Reader
import EdgeRoutes.Data.Json.Writer
import EdgeRoutes.Data.Yaml.Library
import EdgeRoutes.Data.Yaml.Plain
import EdgeRoutes.Data.Yaml.Reader
import EdgeRoutes.Data.Yaml.Token
import EdgeRoutes.Data.Yaml.Writer
import EdgeRoutes.Directive.Basic
import EdgeRoutes.Directive.Load
import EdgeRoutes.Fault
import EdgeRoutes.Files.Encoding
import EdgeRoutes.Files.Error
import EdgeRoutes.Files.Path
import EdgeRoutes.Files.System
import EdgeRoutes.Generate.Blocks
import EdgeRoutes.Generate.Matchers
import EdgeRoutes.Generate.Plan
import EdgeRoutes.Generate.Source
import EdgeRoutes.Generate.Validate
import EdgeRoutes.Http.Headers
import EdgeRoutes.Http.Status
import EdgeRoutes.Http.Time
import EdgeRoutes.Http.Upstream
import EdgeRoutes.Js.Layout
import EdgeRoutes.Js.Literal
import EdgeRoutes.Log.Conversion
import EdgeRoutes.Log.Event
import EdgeRoutes.Log.Logged
import EdgeRoutes.Log.Setup
import EdgeRoutes.Main
import EdgeRoutes.Model.Address
import EdgeRoutes.Model.Basic
import EdgeRoutes.Model.Build
import EdgeRoutes.Model.View
import EdgeRoutes.Number.Binary64
import EdgeRoutes.Number.Integer
import EdgeRoutes.Number.Shortest
import EdgeRoutes.Pattern.BracketClass
import EdgeRoutes.Pattern.Grammar.Check
import EdgeRoutes.Pattern.Grammar.Escape
import EdgeRoutes.Pattern.Grammar.Flags
import EdgeRoutes.Pattern.Grammar.Item
import EdgeRoutes.Pattern.Grammar.Rejection
import EdgeRoutes.Pattern.Grammar.Token
import EdgeRoutes.Pattern.Problem
import EdgeRoutes.Pattern.Translate
import EdgeRoutes.Pattern.Translation
import EdgeRoutes.Program.Print
import EdgeRoutes.Program.Statement
import EdgeRoutes.Proofs.ClassReading
import EdgeRoutes.Proofs.Conversions
import EdgeRoutes.Proofs.Coverage
import EdgeRoutes.Proofs.Emission
import EdgeRoutes.Proofs.Execution
import EdgeRoutes.Proofs.Findings
import EdgeRoutes.Proofs.Flattening
import EdgeRoutes.Proofs.Generation
import EdgeRoutes.Proofs.GrammarFaults
import EdgeRoutes.Proofs.LocationBody
import EdgeRoutes.Proofs.LocationChoice
import EdgeRoutes.Proofs.Numerals
import EdgeRoutes.Proofs.OrderedMaps
import EdgeRoutes.Proofs.Packaging
import EdgeRoutes.Proofs.PatternConversion
import EdgeRoutes.Proofs.PatternReading
import EdgeRoutes.Proofs.RequestRouting
import EdgeRoutes.Proofs.Results
import EdgeRoutes.Proofs.Retranslation
import EdgeRoutes.Proofs.RewriteRules
import EdgeRoutes.Proofs.RoutePhases
import EdgeRoutes.Proofs.TargetAgreement
import EdgeRoutes.Proofs.Tolerance
import EdgeRoutes.Routing.Condition
import EdgeRoutes.Routing.Host
import EdgeRoutes.Routing.Path
import EdgeRoutes.Script.Basic
import EdgeRoutes.Script.Logger
import EdgeRoutes.Script.Report
import EdgeRoutes.Script.World
import EdgeRoutes.Settings.Basic
import EdgeRoutes.Settings.File
import EdgeRoutes.Target
import EdgeRoutes.Template.Basic
import EdgeRoutes.Template.EdgeHook
import EdgeRoutes.Template.Files
import EdgeRoutes.Template.Header
import EdgeRoutes.Template.Middleware
import EdgeRoutes.Template.Minimal
import EdgeRoutes.Template.Worker
import EdgeRoutes.Text.Blank
import EdgeRoutes.Text.CharSet
import EdgeRoutes.Text.CharacterName
import EdgeRoutes.Text.Cut
import EdgeRoutes.Text.Digit
import EdgeRoutes.Text.Identifier
import EdgeRoutes.Text.LowerCase
import EdgeRoutes.Text.Names.Aliases
import EdgeRoutes.Text.Names.Historic
import EdgeRoutes.Text.Names.Notations
import EdgeRoutes.Text.Names.Scripts
import EdgeRoutes.Text.Names.Syllabaries
import EdgeRoutes.Text.Names.Symbols
import EdgeRoutes.Text.Printable
import EdgeRoutes.Text.Quoted
import EdgeRoutes.Text.Word
import EdgeRoutes.Proofs.ServerChoice
import EdgeRoutes.Proofs.BlockEndings
import EdgeRoutes.Proofs.Refusal
import EdgeRoutes.Proofs.Degradation
import EdgeRoutes.Proofs.MatcherCoverage
import EdgeRoutes.Proofs.StringLiterals
import EdgeRoutes.Proofs.CodeLines
import EdgeRoutes.Proofs.CommentText
import EdgeRoutes.Proofs.CommentLines
import EdgeRoutes.Proofs.Comments
import EdgeRoutes.Proofs.LineBreaks
import EdgeRoutes.Proofs.ConditionReading
import EdgeRoutes.Proofs.HostNames
import EdgeRoutes.Proofs.UpstreamAddresses
import EdgeRoutes.Proofs.ForwardingCode
import EdgeRoutes.Proofs.UpstreamPaths
import EdgeRoutes.Proofs.CommentedCode
import EdgeRoutes.Proofs.Nesting
import EdgeRoutes.Proofs.TreeShapes
import EdgeRoutes.Proofs.TreeRoundTrip
import EdgeRoutes.Proofs.Outcomes
import EdgeRoutes.Proofs.Redirects
import EdgeRoutes.Proofs.SourceLines
import EdgeRoutes.Proofs.ScriptClasses
import EdgeRoutes.Proofs.ClassItems
import EdgeRoutes.Proofs.ClassMeaning
import EdgeRoutes.Proofs.FileChanges
import EdgeRoutes.Proofs.ScriptRuns
import EdgeRoutes.Proofs.CommandRuns
import EdgeRoutes.Proofs.Delivery
import EdgeRoutes.Proofs.HeaderMaps
import EdgeRoutes.Proofs.LowerCase
import EdgeRoutes.Proofs.AddressParts
import EdgeRoutes.Proofs.HandingOn
import EdgeRoutes.Proofs.PatternNotes
import EdgeRoutes.Proofs.DirectiveViews
import EdgeRoutes.Proofs.CachingRules
import EdgeRoutes.Proofs.BinarySums
import EdgeRoutes.Proofs.TimeValues
import EdgeRoutes.Proofs.GrammarFlags
import EdgeRoutes.Proofs.OrdinaryPatterns
import EdgeRoutes.Proofs.PatternLiterals
import EdgeRoutes.Proofs.QuotedText
import EdgeRoutes.Proofs.LoggerRuns
import EdgeRoutes.Proofs.ShortestDecimals
import EdgeRoutes.Proofs.JsonNumbers
import EdgeRoutes.Proofs.JsonRoundTrip
import EdgeRoutes.Proofs.PageFiles
import EdgeRoutes.Proofs.SettingsRoundTrip
import EdgeRoutes.Proofs.IndentationSteps
import EdgeRoutes.Proofs.ObjectLiterals
import EdgeRoutes.Proofs.AddressSplitting
import EdgeRoutes.Proofs.CheckedCopies
import EdgeRoutes.Proofs.RouteSearch
import EdgeRoutes.Proofs.BlockReading
import EdgeRoutes.Proofs.PhaseLines
import EdgeRoutes.Proofs.Paths
import EdgeRoutes.Proofs.ExpressionReading
import EdgeRoutes.Proofs.LineReading
import EdgeRoutes.Proofs.CodeRuns
import EdgeRoutes.Proofs.RoutingLines
import EdgeRoutes.Proofs.OriginLines
