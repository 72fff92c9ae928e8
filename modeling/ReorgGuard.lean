import ReorgGuard.Breakdown
import ReorgGuard.Checkpoint.Conflict
import ReorgGuard.Checkpoint.Difficulty
import ReorgGuard.Checkpoint.Fault
import ReorgGuard.Checkpoint.FeedRecord
import ReorgGuard.Checkpoint.Hardcoded
import ReorgGuard.Checkpoint.Hash
import ReorgGuard.Checkpoint.Hashfile
import ReorgGuard.Checkpoint.Height
import ReorgGuard.Checkpoint.Loader
import ReorgGuard.Checkpoint.Network
import ReorgGuard.Checkpoint.Source
import ReorgGuard.Checkpoint.Store
import ReorgGuard.Checkpoint.Table
import ReorgGuard.Checkpoint.Verdict
import ReorgGuard.Checkpoint.Verification
import ReorgGuard.Command.Arguments
import ReorgGuard.Command.Run
import ReorgGuard.Command.Usage
import ReorgGuard.Command.Word
import ReorgGuard.Compression.Code
import ReorgGuard.Compression.Container
import ReorgGuard.Compression.Inflate
import ReorgGuard.Feed.Address
import ReorgGuard.Feed.Breaker
import ReorgGuard.Feed.Client
import ReorgGuard.Feed.Endpoints
import ReorgGuard.Feed.Policy
import ReorgGuard.Feed.Response
import ReorgGuard.Feed.Target
import ReorgGuard.Feed.Url
import ReorgGuard.Feed.Web
import ReorgGuard.Files
import ReorgGuard.Hostname.Direction
import ReorgGuard.Hostname.Domain
import ReorgGuard.Hostname.Label
import ReorgGuard.Hostname.Letters
import ReorgGuard.Hostname.Punycode
import ReorgGuard.Journal.Output
import ReorgGuard.Journal.Record
import ReorgGuard.Journal.Template
import ReorgGuard.Json.Printer
import ReorgGuard.Json.Reader
import ReorgGuard.Json.Token
import ReorgGuard.Main
import ReorgGuard.Moment
import ReorgGuard.Numeral.Decimal
import ReorgGuard.Numeral.Digits
import ReorgGuard.Numeral.Integer
import ReorgGuard.Numeral.Nearest
import ReorgGuard.Numeral.Places
import ReorgGuard.Numeral.Shortest
import ReorgGuard.Path
import ReorgGuard.Settings.Checked
import ReorgGuard.Settings.Config
import ReorgGuard.Settings.Environment
import ReorgGuard.Settings.File
import ReorgGuard.Settings.Gathered
import ReorgGuard.Settings.Manner
import ReorgGuard.Settings.VariableFile
import ReorgGuard.Text.Blank
import ReorgGuard.Text.Charset
import ReorgGuard.Text.CodePage
import ReorgGuard.Text.Composition
import ReorgGuard.Text.Encoding
import ReorgGuard.Text.Letters
import ReorgGuard.Text.Lines
import ReorgGuard.Text.PairSet
import ReorgGuard.Text.Percent
import ReorgGuard.Text.Plane.Chinese
import ReorgGuard.Text.Plane.Japanese
import ReorgGuard.Text.Plane.Korean
import ReorgGuard.Text.Plane.Taiwanese
import ReorgGuard.Text.Printable
import ReorgGuard.Text.Quoted
import ReorgGuard.Text.Runs
import ReorgGuard.Text.Shifted
import ReorgGuard.Text.Utf8
import ReorgGuard.Value
import ReorgGuard.Value.Lenient
import ReorgGuard.Value.Merge
import ReorgGuard.Value.Order
import ReorgGuard.Value.Whole
import ReorgGuard.Yaml.Cursor
import ReorgGuard.Yaml.Document
import ReorgGuard.Yaml.Event
import ReorgGuard.Yaml.Meaning
import ReorgGuard.Yaml.Node
import ReorgGuard.Yaml.Scalar
import ReorgGuard.Yaml.Text
import ReorgGuard.Yaml.Token
import ReorgGuard.Proofs.Numeral
import ReorgGuard.Proofs.Numeral.Spelling
import ReorgGuard.Proofs.Text.Utf8
import ReorgGuard.Proofs.Text
import ReorgGuard.Proofs.Text.Blank
import ReorgGuard.Proofs.Hash
import ReorgGuard.Proofs.Difficulty
import ReorgGuard.Proofs.Table.Shape
import ReorgGuard.Proofs.Table.Growth
import ReorgGuard.Proofs.Table.FirstWrite
import ReorgGuard.Proofs.Table.Foretelling
import ReorgGuard.Proofs.Table.Offers
import ReorgGuard.Proofs.Table.Conflicts
import ReorgGuard.Proofs.Blocks
import ReorgGuard.Proofs.Forks
import ReorgGuard.Proofs.Tightening
import ReorgGuard.Proofs.Source.Intake
import ReorgGuard.Proofs.Json
import ReorgGuard.Proofs.Json.Tokens
import ReorgGuard.Proofs.Json.RoundTrip
import ReorgGuard.Proofs.Source.FeedRecords
import ReorgGuard.Proofs.Source.HashfileHeights
import ReorgGuard.Proofs.Source.RecordForm
import ReorgGuard.Proofs.Source.WrittenHashfile
import ReorgGuard.Proofs.Hardcoded
import ReorgGuard.Proofs.Build.Layers
import ReorgGuard.Proofs.Build.Steps
import ReorgGuard.Proofs.Build.Merge
import ReorgGuard.Proofs.Build.FileOnly
import ReorgGuard.Proofs.Build.Isolation
import ReorgGuard.Proofs.Store.Reloads
import ReorgGuard.Proofs.Store.Lifecycle
import ReorgGuard.Proofs.Source.Pooling
import ReorgGuard.Proofs.Feed.Attempts
import ReorgGuard.Proofs.Feed.Calls
import ReorgGuard.Proofs.Feed.Retries
import ReorgGuard.Proofs.Feed.OpenCircuit
import ReorgGuard.Proofs.Feed.LiveEndpoints
import ReorgGuard.Proofs.Build.OptionalFeed
import ReorgGuard.Proofs.Store.Unchanged
import ReorgGuard.Proofs.Store.Export
import ReorgGuard.Proofs.Verification
import ReorgGuard.Proofs.Command.Arguments
import ReorgGuard.Proofs.Command.ExitCode
import ReorgGuard.Proofs.Value.Keys
import ReorgGuard.Proofs.Yaml.Building
import ReorgGuard.Proofs.Value.Merging
import ReorgGuard.Proofs.Yaml.Values
import ReorgGuard.Proofs.Settings.FileEntries
import ReorgGuard.Proofs.Settings.Leaves
import ReorgGuard.Proofs.Settings.ProperFields
import ReorgGuard.Proofs.Settings.RaggedLevel
import ReorgGuard.Proofs.Settings.Precedence
import ReorgGuard.Proofs.Settings.NetworkOverlay
import ReorgGuard.Proofs.Source.Accounting
import ReorgGuard.Proofs.Source.Ordering
import ReorgGuard.Proofs.Source.Repetition
import ReorgGuard.Proofs.Build.HashfileLoad
import ReorgGuard.Proofs.Feed.Scopes
import ReorgGuard.Proofs.Feed.Admission
import ReorgGuard.Proofs.Table.Arrival
import ReorgGuard.Proofs.Table.Seeding
import ReorgGuard.Proofs.Command.FileVerdict
import ReorgGuard.Proofs.Store.Difficulties
import ReorgGuard.Proofs.Table.Frozen
import ReorgGuard.Proofs.Value.SameKey
import ReorgGuard.Proofs.Value.Paths
import ReorgGuard.Proofs.Settings.BadVariables
import ReorgGuard.Proofs.Settings.Answered
