import PooledTcp.Backoff
import PooledTcp.Bytes
import PooledTcp.Cli.Arguments
import PooledTcp.Cli.Course
import PooledTcp.Cli.LoadProgram
import PooledTcp.Cli.ServerProgram
import PooledTcp.Clock
import PooledTcp.Config.Load
import PooledTcp.Config.Reading
import PooledTcp.Config.Settings
import PooledTcp.Config.Validation
import PooledTcp.Config.Writing
import PooledTcp.Duration
import PooledTcp.Handler.Echo
import PooledTcp.Handler.Proxy
import PooledTcp.IoError
import PooledTcp.Keyed
import PooledTcp.LoadTest.Basic
import PooledTcp.LoadTest.Summary
import PooledTcp.Log
import PooledTcp.Log.Filter
import PooledTcp.Main
import PooledTcp.Metrics
import PooledTcp.Net.Address
import PooledTcp.Net.Host
import PooledTcp.Net.KeepAlive
import PooledTcp.Net.Rehearsal
import PooledTcp.Net.TcpFactory
import PooledTcp.Number.Binary64
import PooledTcp.Pool.Basic
import PooledTcp.Pool.Error
import PooledTcp.Pool.Limits
import PooledTcp.Pool.Note
import PooledTcp.Pool.OnHost
import PooledTcp.Pool.Opening
import PooledTcp.Pool.Rehearsal
import PooledTcp.Proofs.Backoff
import PooledTcp.Proofs.Backoff.Exact
import PooledTcp.Proofs.Backoff.Growth
import PooledTcp.Proofs.Config.Addresses
import PooledTcp.Proofs.Config.Counts
import PooledTcp.Proofs.Config.Lookup
import PooledTcp.Proofs.Config.Positional
import PooledTcp.Proofs.Config.RoundTrip
import PooledTcp.Proofs.Config.Verdicts
import PooledTcp.Proofs.Counting
import PooledTcp.Proofs.Echo.Cancelled
import PooledTcp.Proofs.Echo.Faithful
import PooledTcp.Proofs.Echo.Moves
import PooledTcp.Proofs.Echo.Wire
import PooledTcp.Proofs.LoadTest.Callers
import PooledTcp.Proofs.LoadTest.Moves
import PooledTcp.Proofs.LoadTest.Sums
import PooledTcp.Proofs.Net.HostPort
import PooledTcp.Proofs.Net.KeepAlive
import PooledTcp.Proofs.Net.SocketAddress
import PooledTcp.Proofs.Pool.Absorbed
import PooledTcp.Proofs.Pool.Accounts
import PooledTcp.Proofs.Pool.Allocation
import PooledTcp.Proofs.Pool.Alone
import PooledTcp.Proofs.Pool.Arrivals
import PooledTcp.Proofs.Pool.Books
import PooledTcp.Proofs.Pool.Capacity
import PooledTcp.Proofs.Pool.Conservation
import PooledTcp.Proofs.Pool.Counters
import PooledTcp.Proofs.Pool.Custody
import PooledTcp.Proofs.Pool.Fates
import PooledTcp.Proofs.Pool.FirstLook
import PooledTcp.Proofs.Pool.Frame
import PooledTcp.Proofs.Pool.Gauge
import PooledTcp.Proofs.Pool.Handing
import PooledTcp.Proofs.Pool.Kept
import PooledTcp.Proofs.Pool.Moves
import PooledTcp.Proofs.Pool.Opened
import PooledTcp.Proofs.Pool.Outcome
import PooledTcp.Proofs.Pool.Patience
import PooledTcp.Proofs.Pool.Provenance
import PooledTcp.Proofs.Pool.QueueOrder
import PooledTcp.Proofs.Pool.Rejections
import PooledTcp.Proofs.Pool.Room
import PooledTcp.Proofs.Pool.Rounds
import PooledTcp.Proofs.Pool.Shutdown
import PooledTcp.Proofs.Pool.Slots
import PooledTcp.Proofs.Pool.Sockets
import PooledTcp.Proofs.Pool.Stock
import PooledTcp.Proofs.Pool.Tally
import PooledTcp.Proofs.Pool.Traceless
import PooledTcp.Proofs.Pool.Wakeup
import PooledTcp.Proofs.Pool.WarmUp
import PooledTcp.Proofs.Pool.Winding
import PooledTcp.Proofs.Proxy.Ledger
import PooledTcp.Proofs.Proxy.Moves
import PooledTcp.Proofs.Proxy.Sessions
import PooledTcp.Proofs.Proxy.Settled
import PooledTcp.Proofs.Server.Closed
import PooledTcp.Proofs.Server.Courses
import PooledTcp.Proofs.Server.Drain
import PooledTcp.Proofs.Server.FailedStart
import PooledTcp.Proofs.Server.KeepAlive
import PooledTcp.Proofs.Server.Lacking
import PooledTcp.Proofs.Server.Lifecycle
import PooledTcp.Proofs.Server.Midway
import PooledTcp.Proofs.Server.Moves
import PooledTcp.Proofs.Server.Parallel
import PooledTcp.Proofs.Server.Polling
import PooledTcp.Proofs.Server.Tireless
import PooledTcp.Proofs.Server.Tracked
import PooledTcp.Proofs.Signal.Apart
import PooledTcp.Proofs.Signal.Moves
import PooledTcp.Proofs.Signal.Once
import PooledTcp.Proofs.Signal.Waits
import PooledTcp.Proofs.Stream.Deadlines
import PooledTcp.Proofs.Stream.Lockstep
import PooledTcp.Proofs.Stream.Session
import PooledTcp.Proofs.Toml.Keys
import PooledTcp.Proofs.Toml.Plain
import PooledTcp.Proofs.Toml.Written
import PooledTcp.Proofs.Tracker.Counted
import PooledTcp.Proofs.Tracker.Idle
import PooledTcp.Proofs.Tracker.Moves
import PooledTcp.Run
import PooledTcp.Server.Basic
import PooledTcp.Server.Builder
import PooledTcp.Server.Error
import PooledTcp.Server.Note
import PooledTcp.Server.OnHost
import PooledTcp.Server.Rehearsal
import PooledTcp.Signal.Basic
import PooledTcp.Signal.Kind
import PooledTcp.Signal.Rehearsal
import PooledTcp.Stream.Basic
import PooledTcp.Stream.Deadline
import PooledTcp.Stream.Pipe
import PooledTcp.Stream.Rehearsal
import PooledTcp.Task
import PooledTcp.Text.Blank
import PooledTcp.Text.Quoted
import PooledTcp.Text.Record
import PooledTcp.Text.Visible
import PooledTcp.Toml.Document
import PooledTcp.Toml.Draft
import PooledTcp.Toml.Line
import PooledTcp.Toml.Moment
import PooledTcp.Toml.Numeral
import PooledTcp.Toml.Text
import PooledTcp.Toml.Value
import PooledTcp.Tracker.Basic
import PooledTcp.Tracker.Rehearsal
