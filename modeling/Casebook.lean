import Casebook.Decimal.Shortest
import Casebook.Decimal.Numeral
import Casebook.Decimal.Fixed
import Casebook.Json.Reader
import Casebook.Json.Writer
import Casebook.Text.LetterCase
import Casebook.Text.CharSet
import Casebook.Text.Category
import Casebook.Text.Subcategory
import Casebook.Text.Property
import Casebook.Text.Script
import Casebook.Text.Emoji
import Casebook.Text.Basic
import Casebook.Text.Quoted
import Casebook.Template.Value
import Casebook.Template.Token
import Casebook.Template.Expr
import Casebook.Template.Reader
import Casebook.Template.FreeNames
import Casebook.Template.Arith
import Casebook.Template.Argument
import Casebook.Template.Constant
import Casebook.Template.Directive
import Casebook.Template.Test
import Casebook.Template.Filter
import Casebook.Template.Function
import Casebook.Template.Machine
import Casebook.Template.Eval
import Casebook.Resolve.Params
import Casebook.Record
import Casebook.Suite.Step
import Casebook.Suite.Duration
import Casebook.Suite.Codec
import Casebook.Json.Path
import Casebook.Resolve.LoopBound
import Casebook.Markup.XPath
import Casebook.Pattern.Property
import Casebook.Pattern.Search
import Casebook.Assertion.Report
import Casebook.Suite.Validation
import Casebook.Run.ResultCodec
import Casebook.Run.Payload
import Casebook.Run.Journal
import Casebook.Run.State
import Casebook.Run.Request
import Casebook.Run.Response
import Casebook.Run.Engine
import Casebook.Run.SqlDriver
import Casebook.Address.Check
import Casebook.Batch.StatusChannel
import Casebook.Batch.Archive
import Casebook.Batch.Watch
import Casebook.Batch.Timeline
import Casebook.Batch.Runner
import Casebook.Yaml.Cursor
import Casebook.Yaml.Scalar
import Casebook.Yaml.Token
import Casebook.Yaml.Node
import Casebook.Yaml.Literal
import Casebook.Yaml.Datum
import Casebook.Yaml.Reading
import Casebook.Suite.Loading
import Casebook.Cli.Options
import Casebook.Cli.Program
import Casebook.Main
import Casebook.Proofs.Run.Unfolding
import Casebook.Proofs.Run.Exchange
import Casebook.Proofs.Run.Course
import Casebook.Proofs.Run.EngineCourse
import Casebook.Proofs.Run.Halting
import Casebook.Proofs.Batch.HaltedBatch
import Casebook.Proofs.Run.Cascade
import Casebook.Proofs.Run.Recursion
import Casebook.Proofs.Run.Likeness
import Casebook.Proofs.Run.Passage
import Casebook.Proofs.Run.Mirroring
import Casebook.Proofs.Run.Suppression
import Casebook.Proofs.Run.Growth
import Casebook.Proofs.Run.Verdict
import Casebook.Proofs.Run.FailedStop
import Casebook.Proofs.Run.FailureChain
import Casebook.Proofs.Run.Failures
import Casebook.Proofs.Batch.Delivery
import Casebook.Proofs.Batch.PoolRuns
import Casebook.Proofs.Run.Isolation
import Casebook.Proofs.Batch.IsolatedCases
import Casebook.Proofs.Run.Messages
import Casebook.Proofs.Run.Asking
import Casebook.Proofs.Run.Reaching
import Casebook.Proofs.Suite.Nesting
import Casebook.Proofs.Suite.StoredTree
import Casebook.Proofs.Suite.Seconds
import Casebook.Proofs.Suite.WellFormed
import Casebook.Proofs.Suite.References
import Casebook.Proofs.Batch.Admitted
import Casebook.Proofs.Batch.Ledger
import Casebook.Proofs.Batch.Supply
import Casebook.Proofs.Batch.Accounts
import Casebook.Proofs.Suite.Records
import Casebook.Proofs.Suite.RoundTrip
import Casebook.Proofs.Run.Trail
import Casebook.Proofs.Run.Connections
import Casebook.Proofs.Run.ScopeChanges
import Casebook.Proofs.Run.Alterations
import Casebook.Proofs.Run.ScopeHistory
import Casebook.Proofs.Run.SavedResults
import Casebook.Proofs.Run.Retrying
import Casebook.Proofs.Json.Reading
import Casebook.Proofs.Files
import Casebook.Proofs.Batch.StatusFile
import Casebook.Proofs.Run.DisabledSteps
import Casebook.Proofs.Suite.LoopLayout
import Casebook.Proofs.Run.ApiVerdicts
import Casebook.Proofs.Run.NestingThreshold
import Casebook.Proofs.Run.Looks
import Casebook.Proofs.Run.LoopIndex
import Casebook.Proofs.Fallible
import Casebook.Proofs.Text
import Casebook.Proofs.Decimal.Comparable
import Casebook.Proofs.Assertion.Consistency
import Casebook.Proofs.Resolve.Blocks
import Casebook.Proofs.Run.CapturedOutputs
import Casebook.Proofs.Template.Reading
import Casebook.Proofs.Template.Words
import Casebook.Proofs.Template.Scanning
import Casebook.Proofs.Template.Output
import Casebook.Proofs.Template.LonePlaceholder
import Casebook.Proofs.Json.Locations
import Casebook.Proofs.Json.Spelling
import Casebook.Proofs.Markup.Tree
import Casebook.Proofs.Markup.Order
import Casebook.Proofs.Markup.Reading
import Casebook.Proofs.Markup.Selecting
import Casebook.Proofs.Markup.Conditions
import Casebook.Proofs.Markup.Positions
import Casebook.Proofs.Decimal.Denotation
import Casebook.Proofs.Decimal.Rounding
import Casebook.Proofs.Assertion.IntegerOrder
import Casebook.Proofs.Resolve.Coercion
import Casebook.Proofs.Markup.Naming
import Casebook.Proofs.Ordering
import Casebook.Proofs.Assertion.Reporting
import Casebook.Proofs.Run.FormBodies
import Casebook.Proofs.Resolve.LoopCounts
import Casebook.Proofs.Run.LoopBodies
import Casebook.Proofs.Json.OrderedPaths
import Casebook.Proofs.Json.DocumentOrder
import Casebook.Proofs.Batch.Watching
import Casebook.Proofs.Cli.Arguments
import Casebook.Proofs.Markup.OpenElements
import Casebook.Proofs.Batch.Durations
import Casebook.Proofs.Resolve.Literals
