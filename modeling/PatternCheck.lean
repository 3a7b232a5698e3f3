import PatternCheck.CommandLine.Arguments
import PatternCheck.CommandLine.Flag
import PatternCheck.CommandLine.Program
import PatternCheck.CommandLine.Similarity
import PatternCheck.Decimal.Digits
import PatternCheck.Decimal.Double
import PatternCheck.Decimal.Floating
import PatternCheck.Decimal.Shortest
import PatternCheck.Files
import PatternCheck.Http.Assets
import PatternCheck.Http.BodyLimit
import PatternCheck.Http.ByteRange
import PatternCheck.Http.CrossOrigin
import PatternCheck.Http.Date
import PatternCheck.Http.MediaType
import PatternCheck.Http.Message
import PatternCheck.Http.Wire
import PatternCheck.Json.Cursor
import PatternCheck.Json.Document
import PatternCheck.Json.Problem
import PatternCheck.Json.Skim
import PatternCheck.Json.Typed
import PatternCheck.Json.Value
import PatternCheck.Json.Writer
import PatternCheck.Keyed
import PatternCheck.Log.Config
import PatternCheck.Log.Event
import PatternCheck.Log.Filter
import PatternCheck.Log.Line
import PatternCheck.Log.Logger
import PatternCheck.Main
import PatternCheck.Net.Address
import PatternCheck.Pattern.Atom
import PatternCheck.Pattern.Bracket
import PatternCheck.Pattern.Check
import PatternCheck.Pattern.Cursor
import PatternCheck.Pattern.Depth
import PatternCheck.Pattern.Document
import PatternCheck.Pattern.Fault
import PatternCheck.Pattern.Group
import PatternCheck.Pattern.Matcher
import PatternCheck.Pattern.Meaning
import PatternCheck.Pattern.Node
import PatternCheck.Pattern.Prefixes
import PatternCheck.Pattern.Reader
import PatternCheck.Pattern.Repeat
import PatternCheck.Pattern.Size
import PatternCheck.Proofs.CommandLine.Reading
import PatternCheck.Proofs.CommandLine.Starting
import PatternCheck.Proofs.Decimal.Digits
import PatternCheck.Proofs.Files
import PatternCheck.Proofs.Http.Assets
import PatternCheck.Proofs.Http.Dates
import PatternCheck.Proofs.Http.Percent
import PatternCheck.Proofs.Http.Responses
import PatternCheck.Proofs.Json.Causes
import PatternCheck.Proofs.Json.Documents
import PatternCheck.Proofs.Json.Followed
import PatternCheck.Proofs.Json.Grammar
import PatternCheck.Proofs.Json.Loops
import PatternCheck.Proofs.Json.Naturals
import PatternCheck.Proofs.Json.Numerals
import PatternCheck.Proofs.Json.Shaped
import PatternCheck.Proofs.Json.Strings
import PatternCheck.Proofs.Json.Trailing
import PatternCheck.Proofs.Json.Writing
import PatternCheck.Proofs.Keyed
import PatternCheck.Proofs.Log.Deciding
import PatternCheck.Proofs.Log.Decoded
import PatternCheck.Proofs.Log.Installing
import PatternCheck.Proofs.Log.JsonLines
import PatternCheck.Proofs.Log.Rules
import PatternCheck.Proofs.Log.Shown
import PatternCheck.Proofs.Log.Written
import PatternCheck.Proofs.Net.Addresses
import PatternCheck.Proofs.Pattern.Depth
import PatternCheck.Proofs.Pattern.Grouping
import PatternCheck.Proofs.Pattern.Known
import PatternCheck.Proofs.Pattern.Located.Item
import PatternCheck.Proofs.Pattern.Located.Reader
import PatternCheck.Proofs.Pattern.Located.Tree
import PatternCheck.Proofs.Pattern.Marked
import PatternCheck.Proofs.Pattern.Moved.Item
import PatternCheck.Proofs.Pattern.Moved.Reader
import PatternCheck.Proofs.Pattern.Moved.Tree
import PatternCheck.Proofs.Pattern.Nesting
import PatternCheck.Proofs.Pattern.Outline
import PatternCheck.Proofs.Pattern.Place
import PatternCheck.Proofs.Pattern.Preceded
import PatternCheck.Proofs.Pattern.Printed.Accepted
import PatternCheck.Proofs.Pattern.Printed.Bounds
import PatternCheck.Proofs.Pattern.Printed.Brackets
import PatternCheck.Proofs.Pattern.Printed.Counts
import PatternCheck.Proofs.Pattern.Printed.Escape
import PatternCheck.Proofs.Pattern.Printed.Escaped
import PatternCheck.Proofs.Pattern.Printed.Expression
import PatternCheck.Proofs.Pattern.Printed.Names
import PatternCheck.Proofs.Pattern.Printed.Prefixed
import PatternCheck.Proofs.Pattern.Printed.Ranges
import PatternCheck.Proofs.Pattern.Printed.Steps
import PatternCheck.Proofs.Pattern.Rejection
import PatternCheck.Proofs.Pattern.Report
import PatternCheck.Proofs.Pattern.SizeLimit
import PatternCheck.Proofs.Server.Contents
import PatternCheck.Proofs.Server.Culprits
import PatternCheck.Proofs.Server.Defaults
import PatternCheck.Proofs.Server.Layers
import PatternCheck.Proofs.Server.Leaves
import PatternCheck.Proofs.Server.Loaded
import PatternCheck.Proofs.Server.Serialised
import PatternCheck.Proofs.Server.Signals
import PatternCheck.Proofs.Server.Variables
import PatternCheck.Proofs.Service.Answers
import PatternCheck.Proofs.Service.Assets
import PatternCheck.Proofs.Service.Padding
import PatternCheck.Proofs.Service.Passage
import PatternCheck.Proofs.Service.Requests
import PatternCheck.Proofs.Service.Routes
import PatternCheck.Proofs.Service.Sharing
import PatternCheck.Proofs.Service.Statuses
import PatternCheck.Proofs.Service.Verdicts
import PatternCheck.Proofs.Settings.Documents
import PatternCheck.Proofs.Settings.Misfits
import PatternCheck.Proofs.Settings.Ordered
import PatternCheck.Proofs.Settings.Paths
import PatternCheck.Proofs.Settings.Reading
import PatternCheck.Proofs.Settings.Sources
import PatternCheck.Proofs.Shape.Fits
import PatternCheck.Proofs.Text.Blank
import PatternCheck.Proofs.Text.LastLine
import PatternCheck.Proofs.Text.Lines
import PatternCheck.Proofs.Text.Scan
import PatternCheck.Proofs.Text.Utf8
import PatternCheck.Server.Config
import PatternCheck.Server.Failure
import PatternCheck.Server.Lifecycle
import PatternCheck.Server.Loading
import PatternCheck.Server.Shutdown
import PatternCheck.Service.Endpoint
import PatternCheck.Service.Request
import PatternCheck.Service.Site
import PatternCheck.Settings.Setting
import PatternCheck.Settings.Typed
import PatternCheck.Settings.Variable
import PatternCheck.Shape.Basic
import PatternCheck.Shape.Document
import PatternCheck.Text.Blank
import PatternCheck.Text.Quoted
import PatternCheck.Text.Scan
import PatternCheck.Text.Utf8
import PatternCheck.Toml.Document
import PatternCheck.Toml.Scalar
import PatternCheck.Toml.Value
import PatternCheck.Unicode.Age
import PatternCheck.Unicode.Break
import PatternCheck.Unicode.ByteRange
import PatternCheck.Unicode.CaseFolding
import PatternCheck.Unicode.Category
import PatternCheck.Unicode.CodeSet
import PatternCheck.Unicode.Property
import PatternCheck.Unicode.RangeText
import PatternCheck.Unicode.Script
import PatternCheck.Unicode.Trait
