import Rdap.Addr.Basic
import Rdap.Addr.Family
import Rdap.Addr.Text
import Rdap.Addr.Word
import Rdap.Binary64
import Rdap.Cli.Command
import Rdap.Cli.Completion
import Rdap.Cli.Output
import Rdap.Cli.Run
import Rdap.Client.Backoff
import Rdap.Client.Error
import Rdap.Client.Header
import Rdap.Client.Interleaving
import Rdap.Client.IpLiteral
import Rdap.Client.Memo
import Rdap.Client.Options
import Rdap.Client.Session
import Rdap.Client.Sharing
import Rdap.Client.Telemetry
import Rdap.Client.Uri
import Rdap.Client.Url
import Rdap.Config.Basic
import Rdap.Config.Decode
import Rdap.Config.Load
import Rdap.Config.Setting
import Rdap.Decimal.Notation
import Rdap.Decimal.Shortest
import Rdap.Json.Basic
import Rdap.Json.Print
import Rdap.Json.Read
import Rdap.Json.Shape
import Rdap.Lock.Fifo
import Rdap.Lock.Interleaving
import Rdap.Lock.Line
import Rdap.Log.Level
import Rdap.Name.Bidi
import Rdap.Name.Domain
import Rdap.Name.Idna
import Rdap.Name.Mapping
import Rdap.Name.Punycode
import Rdap.Object.Class
import Rdap.Object.Schema
import Rdap.Object.Vcard
import Rdap.Proofs.Addr.Compressed
import Rdap.Proofs.Addr.Conversion
import Rdap.Proofs.Addr.Grammar
import Rdap.Proofs.Addr.Order
import Rdap.Proofs.Addr.Reverse
import Rdap.Proofs.Addr.Word
import Rdap.Proofs.Client.Failures
import Rdap.Proofs.Client.KeptValue
import Rdap.Proofs.Client.OwnContext
import Rdap.Proofs.Client.ParentWalk
import Rdap.Proofs.Client.Retries
import Rdap.Proofs.Client.SingleFetch
import Rdap.Proofs.Client.Snapshot
import Rdap.Proofs.Client.Waiters
import Rdap.Proofs.Config.Layers
import Rdap.Proofs.Config.Load
import Rdap.Proofs.Json.Decode
import Rdap.Proofs.Lock.Exclusion
import Rdap.Proofs.Name.Normalize
import Rdap.Proofs.Object.Dispatch
import Rdap.Proofs.Range.Blocks
import Rdap.Proofs.Range.Containment
import Rdap.Proofs.Range.Prefix
import Rdap.Proofs.Range.Reserved
import Rdap.Proofs.Range.RoundTrip
import Rdap.Proofs.Registry.Address
import Rdap.Proofs.Registry.Bootstrap
import Rdap.Proofs.Registry.Domain
import Rdap.Proofs.Registry.Rows
import Rdap.Proofs.Registry.Services
import Rdap.Proofs.Text.Case
import Rdap.Range.Basic
import Rdap.Range.Reserved
import Rdap.Range.Text
import Rdap.Registry.Bootstrap
import Rdap.Registry.Table
import Rdap.Response.Basic
import Rdap.Text.Base64
import Rdap.Text.Case
import Rdap.Text.Category
import Rdap.Text.Decomposition
import Rdap.Text.Normal
import Rdap.Text.Numeral
import Rdap.Text.Printable
import Rdap.Text.Props
import Rdap.Text.Quoted
import Rdap.Text.Table
import Rdap.Text.Utf8
import Rdap.Time.Duration
import Rdap.Time.Stamp
import Rdap.Yaml.Emit
import Rdap.Yaml.Node
import Rdap.Yaml.Parser
import Rdap.Yaml.Resolve
import Rdap.Yaml.Scanner
import Rdap.Yaml.Token
import Rdap.Yaml.Value
import Rdap.Main
