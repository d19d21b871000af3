import NetNode.Address.Basic
import NetNode.Address.Parse
import NetNode.Cli.Args
import NetNode.Cli.Log
import NetNode.Cli.Pattern
import NetNode.Cli.Program
import NetNode.Config.Basic
import NetNode.Config.Decode
import NetNode.Config.Encode
import NetNode.Config.Load
import NetNode.Decimal.Shortest
import NetNode.Error.Basic
import NetNode.Error.Classify
import NetNode.Files.Tree
import NetNode.Handlers.Echo
import NetNode.Json.Cursor
import NetNode.Json.Found
import NetNode.Json.Lex
import NetNode.Json.Read
import NetNode.Json.Schema.Text
import NetNode.Json.Schema.Tree
import NetNode.Json.Skip
import NetNode.Json.Value
import NetNode.Json.Write
import NetNode.Main
import NetNode.Net.Host
import NetNode.Node.Control
import NetNode.Node.Machine
import NetNode.Node.Session
import NetNode.Node.State
import NetNode.Node.Work
import NetNode.Os.Errno
import NetNode.Os.IoError
import NetNode.Os.Kind
import NetNode.Pool.Basic
import NetNode.Pool.Session
import NetNode.Queue.Bounded
import NetNode.Queue.Notify
import NetNode.Queue.Session
import NetNode.Proofs.Address.RoundTrip
import NetNode.Proofs.Json.ReadBack
import NetNode.Proofs.Files.ReadWrite
import NetNode.Proofs.Config.RoundTrip
import NetNode.Proofs.Config.Checks
import NetNode.Proofs.Config.Environment
import NetNode.Proofs.Config.Validation
import NetNode.Proofs.Config.StopTimeout
import NetNode.Proofs.Error.Classify
import NetNode.Proofs.Cli.Args
import NetNode.Proofs.Queue.Linearizable
import NetNode.Proofs.Queue.Wakeups
import NetNode.Proofs.Pool.Ledger
import NetNode.Proofs.Node.Interleaving
import NetNode.Proofs.Node.Shape
import NetNode.Proofs.Node.Units
import NetNode.Proofs.Node.Loans
import NetNode.Proofs.Node.Isolation
import NetNode.Proofs.Node.Lifecycle
import NetNode.Proofs.Node.Requests
import NetNode.Proofs.Node.Producer
import NetNode.Proofs.Node.Permits
import NetNode.Proofs.Node.Pace
import NetNode.Proofs.Node.Backpressure
import NetNode.Proofs.Node.Queue
import NetNode.Proofs.Node.Script
import NetNode.Proofs.Node.Failures
import NetNode.Proofs.Transport.Teardown
import NetNode.Proofs.Handlers.Echo
import NetNode.Text.Classes
import NetNode.Text.Hex
import NetNode.Text.Printable
import NetNode.Text.Quote
import NetNode.Transport.Basic
import NetNode.Transport.Session
import NetNode.Transport.Process
