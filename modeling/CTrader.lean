import CTrader.Lib.Machine
import CTrader.Lib.History
import CTrader.Lib.Dict
import CTrader.Lib.Insertion
import CTrader.Lib.Binary64
import CTrader.Exceptions
import CTrader.Auth.Credentials
import CTrader.Auth.Session
import CTrader.Auth.StoreHistory
import CTrader.Auth.State
import CTrader.Auth.System
import CTrader.Auth.Ledger
import CTrader.Auth.Moves
import CTrader.Auth.Calls
import CTrader.Auth.Passes
import CTrader.Auth.Retry
import CTrader.Auth.Backlog
import CTrader.Auth.Backoff
import CTrader.Lib.Number
import CTrader.Auth.Suspends
import CTrader.Auth.LinkScope
import CTrader.Auth.Announcement
import CTrader.Auth.Rotation
import CTrader.Auth.Removal
import CTrader.Connection.Messages
import CTrader.Connection.Link
import CTrader.Connection.Slots
import CTrader.Connection.Desk
import CTrader.Connection.Protocol
import CTrader.Connection.Readers
import CTrader.Connection.Correlation
import CTrader.Connection.Answers
import CTrader.Connection.ErrorReplies
import CTrader.Connection.Delivery
import CTrader.Connection.Rounds
import CTrader.Connection.Shutdown
import CTrader.Connection.Redo
import CTrader.Connection.Callbacks
import CTrader.Connection.Rerun
import CTrader.Connection.Reports
import CTrader.Auth.Board
import CTrader.Auth.Loop
import CTrader.Auth.Wakeups
import CTrader.Auth.Handover
import CTrader.Auth.Snapshot
import CTrader.Auth.Disconnects
import CTrader.Auth.Probe
import CTrader.Auth.Margins
import CTrader.Auth.Drops
import CTrader.Auth.AppFlag
import CTrader.Auth.AppServer
import CTrader.Auth.Check
import CTrader.Auth.Refreshes
import CTrader.Auth.OneRefresh
import CTrader.Lib.SortedSet
import CTrader.MarketData.Standing
import CTrader.MarketData.System
import CTrader.MarketData.Restore
import CTrader.MarketData.Withdrawal
import CTrader.Lib.Bytes
import CTrader.Wire.Framing
import CTrader.Wire.Registry
import CTrader.Wire.Envelope
import CTrader.Connection.ReaderLoop
import CTrader.Lib.Decimal
import CTrader.Models.Order
import CTrader.Models.Requests
import CTrader.Models.Symbol
import CTrader.Models.Distances
import CTrader.Models.Conversions
import CTrader.Models.Deal
import CTrader.MarketData.Spot
import CTrader.Lib.Delta
import CTrader.MarketData.Ticks
import CTrader.Connection.Heartbeat
import CTrader.Connection.Beats
import CTrader.Connection.Liveness
import CTrader.Events.Emitter
import CTrader.Events.Delivery
import CTrader.Events.Unsubscribe
import CTrader.Client
import CTrader.Connection.Budget
import CTrader.Events.Registrations
import CTrader.Events.Router
import CTrader.Models.Position
import CTrader.Models.Account
import CTrader.Events.Types
import CTrader.Events.Handlers
import CTrader.Events.Pipeline
import CTrader.Lifecycle
import CTrader.Lib.Quantize
import CTrader.Lib.Shortest
import CTrader.Models.Prices
import CTrader.MarketData.Sessions
import CTrader.MarketData.History
import CTrader.Connection.Silence
import CTrader.Wire.Partial
import CTrader.Connection.Intake
import CTrader.Auth.Convergence
import CTrader.Auth.Reconnected
import CTrader.Connection.Outbox
