import TokenBroker.Assembly
import TokenBroker.Base64
import TokenBroker.CommandLine.Commands
import TokenBroker.CommandLine.Footprint
import TokenBroker.CommandLine.Invocation
import TokenBroker.CommandLine.Option
import TokenBroker.CommandLine.Session
import TokenBroker.Decimal.Binary64
import TokenBroker.Decimal.Notation
import TokenBroker.Decimal.Numeral
import TokenBroker.Decimal.Shortest
import TokenBroker.Endpoint.Request
import TokenBroker.Endpoint.Response
import TokenBroker.Engine.Basic
import TokenBroker.Engine.Phase
import TokenBroker.Engine.World
import TokenBroker.Environment
import TokenBroker.Exchange.Client
import TokenBroker.Exchange.Registry
import TokenBroker.Failure
import TokenBroker.FileTree.Basic
import TokenBroker.FileTree.Home
import TokenBroker.FileTree.Path
import TokenBroker.Grant
import TokenBroker.Host
import TokenBroker.Json.Basic
import TokenBroker.Json.Literal
import TokenBroker.Json.Printer
import TokenBroker.Json.Reader
import TokenBroker.Log
import TokenBroker.Main
import TokenBroker.Output.Emoji
import TokenBroker.Output.Emoji.Pictographs
import TokenBroker.Output.Emoji.Sequences
import TokenBroker.Output.Markup
import TokenBroker.Output.Markup.Color
import TokenBroker.Output.Markup.Literal.Reader
import TokenBroker.Output.Markup.Literal.Token
import TokenBroker.Output.Markup.Style
import TokenBroker.Output.Markup.Tag
import TokenBroker.Output.Presentation
import TokenBroker.Output.Screen
import TokenBroker.Principal
import TokenBroker.Registration
import TokenBroker.Settings.Basic
import TokenBroker.Settings.Credential
import TokenBroker.Settings.Directories
import TokenBroker.Settings.File
import TokenBroker.Startup
import TokenBroker.Store.Basic
import TokenBroker.Store.Table
import TokenBroker.Text.Blank
import TokenBroker.Text.Charset
import TokenBroker.Text.ContentType
import TokenBroker.Text.Digit
import TokenBroker.Text.DoubleByte
import TokenBroker.Text.DoubleByte.Big5
import TokenBroker.Text.DoubleByte.Chinese
import TokenBroker.Text.DoubleByte.Gb
import TokenBroker.Text.DoubleByte.HongKong
import TokenBroker.Text.DoubleByte.Iso2022
import TokenBroker.Text.DoubleByte.Japanese
import TokenBroker.Text.DoubleByte.Jis
import TokenBroker.Text.DoubleByte.Korean
import TokenBroker.Text.DoubleByte.KsX1001
import TokenBroker.Text.DoubleByte.Rows
import TokenBroker.Text.Escaped
import TokenBroker.Text.Fold
import TokenBroker.Text.LowerCase
import TokenBroker.Text.Printable
import TokenBroker.Text.Punycode
import TokenBroker.Text.Quoted
import TokenBroker.Text.Reading
import TokenBroker.Text.SingleByte
import TokenBroker.Text.SingleByte.Basic
import TokenBroker.Text.SingleByte.Ebcdic
import TokenBroker.Text.SingleByte.Iso
import TokenBroker.Text.SingleByte.National
import TokenBroker.Text.SingleByte.Platforms
import TokenBroker.Text.Symbol
import TokenBroker.Text.Utf7
import TokenBroker.Text.Utf8
import TokenBroker.Text.Wide
import TokenBroker.Text.Width
import TokenBroker.Time.Calendar
import TokenBroker.Time.Clock
import TokenBroker.Time.DateTime
import TokenBroker.Time.Reader
import TokenBroker.Token
import TokenBroker.Validation
import TokenBroker.Proofs.Assembly
import TokenBroker.Proofs.Assembly.Building
import TokenBroker.Proofs.Assembly.Secrets
import TokenBroker.Proofs.Assembly.Tokens
import TokenBroker.Proofs.CommandLine.Inspecting
import TokenBroker.Proofs.CommandLine.Lockstep
import TokenBroker.Proofs.CommandLine.Registrations
import TokenBroker.Proofs.CommandLine.Reporting
import TokenBroker.Proofs.CommandLine.Resolving
import TokenBroker.Proofs.CommandLine.Tokens
import TokenBroker.Proofs.Decimal.Rounding
import TokenBroker.Proofs.Decimal.Shortest
import TokenBroker.Proofs.Decimal.WholePart
import TokenBroker.Proofs.Endpoint.Classification
import TokenBroker.Proofs.Endpoint.Reading
import TokenBroker.Proofs.Endpoint.TokenRequest
import TokenBroker.Proofs.Endpoint.TokenResponse
import TokenBroker.Proofs.Endpoint.Tokens
import TokenBroker.Proofs.Engine.Alike
import TokenBroker.Proofs.Engine.Alone
import TokenBroker.Proofs.Engine.Arithmetic
import TokenBroker.Proofs.Engine.Arrival
import TokenBroker.Proofs.Engine.Dispatch
import TokenBroker.Proofs.Engine.Entries
import TokenBroker.Proofs.Engine.Freshness
import TokenBroker.Proofs.Engine.Lifetime
import TokenBroker.Proofs.Engine.Move
import TokenBroker.Proofs.Engine.OnDisk
import TokenBroker.Proofs.Engine.Raising
import TokenBroker.Proofs.Engine.RefreshToken
import TokenBroker.Proofs.Engine.Renaming
import TokenBroker.Proofs.Engine.Scopes
import TokenBroker.Proofs.Engine.Secrets
import TokenBroker.Proofs.Engine.Standing
import TokenBroker.Proofs.Engine.Tokens
import TokenBroker.Proofs.Exchange.Client
import TokenBroker.Proofs.Exchange.Registry
import TokenBroker.Proofs.Exchange.Secrets
import TokenBroker.Proofs.Expiry
import TokenBroker.Proofs.FileTree.Entries
import TokenBroker.Proofs.FileTree.Growing
import TokenBroker.Proofs.FileTree.Rewriting
import TokenBroker.Proofs.FileTree.Tokens
import TokenBroker.Proofs.Host
import TokenBroker.Proofs.Host.Tokens
import TokenBroker.Proofs.Interleaving.Acquisition
import TokenBroker.Proofs.Interleaving.Basic
import TokenBroker.Proofs.Interleaving.Belonging
import TokenBroker.Proofs.Interleaving.Eviction
import TokenBroker.Proofs.Interleaving.Failures
import TokenBroker.Proofs.Interleaving.Faults
import TokenBroker.Proofs.Interleaving.HandedOut
import TokenBroker.Proofs.Interleaving.InFlight
import TokenBroker.Proofs.Interleaving.Installation
import TokenBroker.Proofs.Interleaving.Interaction
import TokenBroker.Proofs.Interleaving.Isolation
import TokenBroker.Proofs.Interleaving.Observed
import TokenBroker.Proofs.Interleaving.Origins
import TokenBroker.Proofs.Interleaving.Projection
import TokenBroker.Proofs.Interleaving.Raised
import TokenBroker.Proofs.Interleaving.RefreshTokens
import TokenBroker.Proofs.Interleaving.Refusal
import TokenBroker.Proofs.Interleaving.Renaming
import TokenBroker.Proofs.Interleaving.Scopes
import TokenBroker.Proofs.Interleaving.Secrets
import TokenBroker.Proofs.Interleaving.Sharing
import TokenBroker.Proofs.Interleaving.Wiring
import TokenBroker.Proofs.Interleaving.Writes
import TokenBroker.Proofs.Json.Distinct
import TokenBroker.Proofs.Json.Lines
import TokenBroker.Proofs.Json.Numbers
import TokenBroker.Proofs.Json.Reading
import TokenBroker.Proofs.Json.Strings
import TokenBroker.Proofs.Output.Markup
import TokenBroker.Proofs.Secrets
import TokenBroker.Proofs.Service.Basic
import TokenBroker.Proofs.Service.Cache
import TokenBroker.Proofs.Service.Call
import TokenBroker.Proofs.Service.Failing
import TokenBroker.Proofs.Service.OnDisk
import TokenBroker.Proofs.Service.Refinement
import TokenBroker.Proofs.Service.Renaming
import TokenBroker.Proofs.Service.Secrets
import TokenBroker.Proofs.Service.Tokens
import TokenBroker.Proofs.Service.Unreadable
import TokenBroker.Proofs.Settings.Configuring
import TokenBroker.Proofs.Settings.Loaded
import TokenBroker.Proofs.Settings.Replacing
import TokenBroker.Proofs.Settings.Saving
import TokenBroker.Proofs.Settings.Written
import TokenBroker.Proofs.Startup
import TokenBroker.Proofs.Startup.Discovery
import TokenBroker.Proofs.Startup.Timeouts
import TokenBroker.Proofs.Startup.Tokens
import TokenBroker.Proofs.Store.Entries
import TokenBroker.Proofs.Store.OnDisk
import TokenBroker.Proofs.Store.Ownership
import TokenBroker.Proofs.Store.Renaming
import TokenBroker.Proofs.Store.Tokens
import TokenBroker.Proofs.Store.Written
import TokenBroker.Proofs.Text.Digits
import TokenBroker.Proofs.Text.Fold
import TokenBroker.Proofs.Text.Pieces
import TokenBroker.Proofs.Text.Utf8
import TokenBroker.Proofs.Time.Calendar
import TokenBroker.Proofs.Time.Instants
import TokenBroker.Proofs.Time.Written
import TokenBroker.Proofs.Validation
