import OpenApi.Client
import OpenApi.Codec
import OpenApi.CommandLine.Command
import OpenApi.CommandLine.Failure
import OpenApi.CommandLine.Folder
import OpenApi.CommandLine.Pair
import OpenApi.CommandLine.Run
import OpenApi.Config
import OpenApi.DataType
import OpenApi.DateTime.Basic
import OpenApi.DateTime.Calendar
import OpenApi.DateTime.Printer
import OpenApi.DateTime.Reader
import OpenApi.Document.Basic
import OpenApi.Document.Content
import OpenApi.Document.Parameter
import OpenApi.Document.Paths
import OpenApi.Document.Reader
import OpenApi.Document.Referable
import OpenApi.Document.Schema
import OpenApi.Invocation
import OpenApi.Json.Basic
import OpenApi.Json.Number
import OpenApi.Json.Printer
import OpenApi.Json.Reader
import OpenApi.Json.Typed
import OpenApi.Logged
import OpenApi.Main
import OpenApi.Naming
import OpenApi.Number.Double
import OpenApi.Number.Reader
import OpenApi.Number.Shortest
import OpenApi.Operation
import OpenApi.OrderedMap
import OpenApi.RecordType
import OpenApi.Registry
import OpenApi.Request
import OpenApi.Resolution
import OpenApi.Response
import OpenApi.SchemaError
import OpenApi.Server
import OpenApi.Summary
import OpenApi.Text.Blank
import OpenApi.Text.CaseMapping
import OpenApi.Text.CharRange
import OpenApi.Text.Letter
import OpenApi.Text.LetterCase
import OpenApi.Text.Percent
import OpenApi.Text.Printable
import OpenApi.Text.Quoted
import OpenApi.Text.Search
import OpenApi.Text.Words
import OpenApi.Value
import OpenApi.Wrapper.ArgumentType
import OpenApi.Wrapper.Basic
import OpenApi.Wrapper.Printer
import OpenApi.Yaml.Cursor
import OpenApi.Yaml.Lexer
import OpenApi.Yaml.Node
import OpenApi.Yaml.Printer
import OpenApi.Yaml.Scalar
import OpenApi.Yaml.ScalarStyle
import OpenApi.Yaml.ScalarText
import OpenApi.Yaml.Token
import OpenApi.Yaml.Tree
import OpenApi.Yaml.Typed
import OpenApi.Proofs.Json.KeysOnce
import OpenApi.Proofs.Value
import OpenApi.Proofs.Codec.Parts
import OpenApi.Proofs.Codec.RoundTrip
import OpenApi.Proofs.Resolution.Rules
import OpenApi.Proofs.Document.Parts
import OpenApi.Proofs.Resolution.Denotes
import OpenApi.Proofs.Resolution.Circles
import OpenApi.Proofs.Resolution.Growth
import OpenApi.Proofs.Registry.Passes
import OpenApi.Proofs.Registry.Settled
import OpenApi.Proofs.Document.Components
import OpenApi.Proofs.Registry.Reordered
import OpenApi.Proofs.Registry.Accepted
import OpenApi.Proofs.Codec.Decodes
import OpenApi.Proofs.Codec.Outcomes
import OpenApi.Proofs.Codec.Decoded
import OpenApi.Proofs.Codec.Ends
import OpenApi.Proofs.Operation
import OpenApi.Proofs.Codec.Encoding
import OpenApi.Proofs.Codec.Encodable
import OpenApi.Proofs.Codec.Stable
import OpenApi.Proofs.Operation.Built
import OpenApi.Proofs.Operation.Table
import OpenApi.Proofs.Invocation.Collected
import OpenApi.Proofs.Invocation.Placeholders
import OpenApi.Proofs.Invocation.Sending
import OpenApi.Proofs.Invocation.Layers
import OpenApi.Proofs.Invocation.OwnValues
import OpenApi.Proofs.Client.Groups
import OpenApi.Proofs.Codec.LocalNames
import OpenApi.Proofs.Document.FreeTexts
import OpenApi.Proofs.Document.BareEntries
import OpenApi.Proofs.Operation.Bare
import OpenApi.Proofs.Wrapper.Built
import OpenApi.Proofs.Wrapper.Code
import OpenApi.Proofs.Wrapper.FreeTexts
import OpenApi.Proofs.Text.Words
import OpenApi.Proofs.Wrapper.Definitions
import OpenApi.Proofs.Wrapper.Names
import OpenApi.Proofs.Codec.Undeclared
import OpenApi.Proofs.Codec.MemberTags
import OpenApi.Proofs.Resolution.Reached
import OpenApi.Proofs.Document.Faults
import OpenApi.Proofs.Document.AnyOf
import OpenApi.Proofs.Operation.Chains
import OpenApi.Proofs.Operation.References
import OpenApi.Proofs.Operation.Depth
import OpenApi.Proofs.Text.Percent
import OpenApi.Proofs.Invocation.Segments
import OpenApi.Proofs.Invocation.NullArguments
import OpenApi.Proofs.Registry.History
import OpenApi.Proofs.Codec.Shape
import OpenApi.Proofs.Codec.Defaults
import OpenApi.Proofs.Invocation.DotSegments
import OpenApi.Proofs.Request
import OpenApi.Proofs.Registry.References
import OpenApi.Proofs.Json.Pointer
import OpenApi.Proofs.Operation.Merged
import OpenApi.Proofs.Registry.OwnNames
import OpenApi.Proofs.Json.Changed
import OpenApi.Proofs.Document.Replaced
import OpenApi.Proofs.Registry.Extracted
import OpenApi.Proofs.Registry.Referred
import OpenApi.Proofs.Codec.Alike
import OpenApi.Proofs.Codec.Referred
import OpenApi.Proofs.Text.Gaps
import OpenApi.Proofs.Server
import OpenApi.Proofs.DateTime.Calendar
import OpenApi.Proofs.DateTime.Written
import OpenApi.Proofs.DateTime.RoundTrip
import OpenApi.Proofs.Text.Literal
import OpenApi.Proofs.Text.IdentifierChars
import OpenApi.Proofs.Text.Identifier
import OpenApi.Proofs.Wrapper.Arguments
import OpenApi.Proofs.Wrapper.Identifiers
import OpenApi.Proofs.Related
import OpenApi.Proofs.Value.Equality
import OpenApi.Proofs.Codec.EqualValues
import OpenApi.Proofs.Operation.Responses
import OpenApi.Proofs.Text.CharSet
import OpenApi.Proofs.Text.SmallLetters
import OpenApi.Proofs.Text.Humps
import OpenApi.Proofs.Text.LocalName
import OpenApi.Proofs.Registry.Consistent
import OpenApi.Proofs.Registry.Calls
