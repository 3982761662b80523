import JobsGateway.Backend.Basic
import JobsGateway.Backend.Call
import JobsGateway.Backend.Crossing
import JobsGateway.Backend.Failure
import JobsGateway.Caller.Basic
import JobsGateway.Caller.Reader
import JobsGateway.Caller.Verifier
import JobsGateway.Client.Chunks
import JobsGateway.Client.Exchange
import JobsGateway.Client.Head
import JobsGateway.Client.Outgoing
import JobsGateway.Client.Reply
import JobsGateway.Decimal.Double
import JobsGateway.Decimal.Shortest
import JobsGateway.Gateway.Body
import JobsGateway.Gateway.Handler
import JobsGateway.Gateway.Journal
import JobsGateway.Http.Detail
import JobsGateway.Http.Fields
import JobsGateway.Http.Message
import JobsGateway.Http.Status
import JobsGateway.Json.Fault
import JobsGateway.Json.Kind
import JobsGateway.Json.Printer
import JobsGateway.Json.Reader
import JobsGateway.Log.Filter
import JobsGateway.Main
import JobsGateway.Proofs.Backend.Addressee
import JobsGateway.Proofs.Backend.Answer
import JobsGateway.Proofs.Backend.CallerFields
import JobsGateway.Proofs.Backend.Cause
import JobsGateway.Proofs.Backend.Crossing
import JobsGateway.Proofs.Backend.Discretion
import JobsGateway.Proofs.Backend.Framing
import JobsGateway.Proofs.Backend.Guard
import JobsGateway.Proofs.Backend.Recognition
import JobsGateway.Proofs.Backend.Target
import JobsGateway.Proofs.Caller.Credentials
import JobsGateway.Proofs.Caller.Draft
import JobsGateway.Proofs.Caller.Judgement
import JobsGateway.Proofs.Caller.Listing
import JobsGateway.Proofs.Caller.Record
import JobsGateway.Proofs.Client.Answer
import JobsGateway.Proofs.Client.Blanks
import JobsGateway.Proofs.Client.Chunks
import JobsGateway.Proofs.Client.Delivery
import JobsGateway.Proofs.Client.Discretion
import JobsGateway.Proofs.Client.Head
import JobsGateway.Proofs.Client.Number
import JobsGateway.Proofs.Client.Reply
import JobsGateway.Proofs.Client.Settled
import JobsGateway.Proofs.Client.Trailer
import JobsGateway.Proofs.Client.Wire
import JobsGateway.Proofs.Client.Writing
import JobsGateway.Proofs.Gateway.Admission
import JobsGateway.Proofs.Gateway.Alarms
import JobsGateway.Proofs.Gateway.Body
import JobsGateway.Proofs.Gateway.Confinement
import JobsGateway.Proofs.Gateway.Discretion
import JobsGateway.Proofs.Gateway.Exchange
import JobsGateway.Proofs.Gateway.Head
import JobsGateway.Proofs.Gateway.Length
import JobsGateway.Proofs.Gateway.Query
import JobsGateway.Proofs.Gateway.Relay
import JobsGateway.Proofs.Gateway.Routing
import JobsGateway.Proofs.Gateway.Verbatim
import JobsGateway.Proofs.Http.Fields
import JobsGateway.Proofs.Json.Grammar
import JobsGateway.Proofs.Json.Kind
import JobsGateway.Proofs.Json.Printing
import JobsGateway.Proofs.Json.Strings
import JobsGateway.Proofs.Json.Values
import JobsGateway.Proofs.Outcome
import JobsGateway.Proofs.Route.Binding
import JobsGateway.Proofs.Route.Capture
import JobsGateway.Proofs.Route.Copying
import JobsGateway.Proofs.Route.Dispatch
import JobsGateway.Proofs.Route.Filling
import JobsGateway.Proofs.Route.Selection
import JobsGateway.Proofs.Settings.Faults
import JobsGateway.Proofs.Settings.File
import JobsGateway.Proofs.Settings.Layers
import JobsGateway.Proofs.Settings.Numbers
import JobsGateway.Proofs.Settings.Origins
import JobsGateway.Proofs.Text.Decimal
import JobsGateway.Proofs.Text.Numeral
import JobsGateway.Proofs.Text.Split
import JobsGateway.Proofs.Text.Utf8
import JobsGateway.Proofs.Url.Authority
import JobsGateway.Proofs.Url.Domain
import JobsGateway.Proofs.Url.Host
import JobsGateway.Proofs.Url.Ipv4
import JobsGateway.Proofs.Url.Ipv6
import JobsGateway.Proofs.Url.Path
import JobsGateway.Proofs.Url.Percent
import JobsGateway.Proofs.Url.Prefix
import JobsGateway.Proofs.Url.Punycode
import JobsGateway.Proofs.Url.Query
import JobsGateway.Proofs.Url.Reread
import JobsGateway.Proofs.Url.Userinfo
import JobsGateway.Proofs.Yaml.Mapping
import JobsGateway.Proofs.Yaml.Number
import JobsGateway.Proofs.Yaml.Scalar
import JobsGateway.Proofs.Yaml.Tokens
import JobsGateway.Route.Basic
import JobsGateway.Route.Dispatch
import JobsGateway.Route.Table
import JobsGateway.Server.Address
import JobsGateway.Server.Listen
import JobsGateway.Server.Program
import JobsGateway.Settings.Basic
import JobsGateway.Settings.Environment
import JobsGateway.Settings.Folder
import JobsGateway.Settings.Reader
import JobsGateway.Text.Base64
import JobsGateway.Text.Blank
import JobsGateway.Text.CodeRange
import JobsGateway.Text.Decimal
import JobsGateway.Text.Duration
import JobsGateway.Text.Quoted
import JobsGateway.Text.Split
import JobsGateway.Text.Utf8
import JobsGateway.Url.Basic
import JobsGateway.Url.Domain
import JobsGateway.Url.Idna.Composition
import JobsGateway.Url.Idna.Label
import JobsGateway.Url.Idna.Mapping
import JobsGateway.Url.Idna.Punycode
import JobsGateway.Url.Ipv4
import JobsGateway.Url.Ipv6
import JobsGateway.Url.Parser
import JobsGateway.Url.Path
import JobsGateway.Url.Percent
import JobsGateway.Url.Printer
import JobsGateway.Yaml.CoreSchema
import JobsGateway.Yaml.Cursor
import JobsGateway.Yaml.Document
import JobsGateway.Yaml.Event
import JobsGateway.Yaml.EventStream
import JobsGateway.Yaml.Fault
import JobsGateway.Yaml.Found
import JobsGateway.Yaml.Property
import JobsGateway.Yaml.Scalar.Block
import JobsGateway.Yaml.Scalar.Fold
import JobsGateway.Yaml.Scalar.Plain
import JobsGateway.Yaml.Scalar.Quoted
import JobsGateway.Yaml.Token
import JobsGateway.Yaml.TokenStream
