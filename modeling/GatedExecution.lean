import GatedExecution.Lib.GroupedSums
import GatedExecution.Lib.TreeMapEntries
import GatedExecution.Lib.Runs
import GatedExecution.Lib.Noninterference
import GatedExecution.Lib.Argmax
import GatedExecution.Lib.BigEndian
import GatedExecution.Lib.Buffer
import GatedExecution.Lib.Padding
import GatedExecution.Lib.Histories
import GatedExecution.Lib.WrappingCounter
import GatedExecution.Lib.OrderStatistics
import GatedExecution.Lib.Separated
import GatedExecution.Lib.Ownership
import GatedExecution.Lib.LineScan
import GatedExecution.Lib.RelaxedReads
import GatedExecution.Lib.KeyedLines
import GatedExecution.Core.SpscRing
import GatedExecution.Core.SpscInvariant
import GatedExecution.Core.SpscFifo
import GatedExecution.Core.SpscSize
import GatedExecution.Core.Notional
import GatedExecution.Core.Errors
import GatedExecution.Wire.FixedAscii
import GatedExecution.Wire.ByteIo
import GatedExecution.Wire.SpanIo
import GatedExecution.Wire.ByteIoLaws
import GatedExecution.Wire.FixedAsciiLaws
import GatedExecution.Itch.Types
import GatedExecution.Itch.Messages
import GatedExecution.Itch.Layout
import GatedExecution.Itch.Decode
import GatedExecution.Itch.Encode
import GatedExecution.Itch.Codec
import GatedExecution.Ouch.Decode
import GatedExecution.Ouch.Codec
import GatedExecution.Ouch.Encode
import GatedExecution.Ouch.Messages
import GatedExecution.Codec.AllOrNothing
import GatedExecution.Moldudp64.Decode
import GatedExecution.Moldudp64.Encode
import GatedExecution.Moldudp64.Codec
import GatedExecution.Moldudp64.Packet
import GatedExecution.Moldudp64.Requests
import GatedExecution.Instrument.Directory
import GatedExecution.Instrument.DirectoryRuns
import GatedExecution.Book.SymbolOrderBook
import GatedExecution.Book.Invariant
import GatedExecution.Book.Rejection
import GatedExecution.Book.LiveOrders
import GatedExecution.Book.Market
import GatedExecution.Book.Quotes
import GatedExecution.Book.Commutation
import GatedExecution.Book.VenueBook
import GatedExecution.Book.Acceptance
import GatedExecution.Bbo.NormalizedBbo
import GatedExecution.Bbo.BestAcrossVenues
import GatedExecution.Replay.ItchPacket
import GatedExecution.Replay.Apply
import GatedExecution.Replay.VenueFeeds
import GatedExecution.Replay.PacketRuns
import GatedExecution.Replay.Redelivery
import GatedExecution.Replay.Accounting
import GatedExecution.Gen.PacketFramer
import GatedExecution.Gen.MessageBuilder
import GatedExecution.Gen.BuilderFlow
import GatedExecution.Gen.BuilderRuns
import GatedExecution.Gen.SymbolCoverage
import GatedExecution.Gen.UncrossedMarket
import GatedExecution.Gen.BuilderSchedule
import GatedExecution.Execution.Backend
import GatedExecution.Execution.EncodedSubmit
import GatedExecution.Execution.SubmitQueue
import GatedExecution.Execution.AsyncBackend
import GatedExecution.Execution.AsyncSafety
import GatedExecution.Execution.AsyncStop
import GatedExecution.Execution.AsyncShutdown
import GatedExecution.Execution.OrderLifecycle
import GatedExecution.Execution.LifecycleLedger
import GatedExecution.Execution.SimulatedEngine
import GatedExecution.Execution.DpdkBackend
import GatedExecution.Execution.QueuedBackend
import GatedExecution.Execution.QueuedDrain
import GatedExecution.Execution.StatsSnapshot
import GatedExecution.Risk.RiskSupervisor
import GatedExecution.Gate.GuardrailState
import GatedExecution.Gate.GuardrailControl
import GatedExecution.Gate.RiskAgreement
import GatedExecution.Gate.ControlRuns
import GatedExecution.Gate.PermissiveGate
import GatedExecution.Gate.PushedUpdates
import GatedExecution.Gate.SymbolOverrides
import GatedExecution.Gate.OrderLimits
import GatedExecution.Gate.GatedQueue
import GatedExecution.Hardware.ReferenceGate
import GatedExecution.Hardware.SequenceTracking
import GatedExecution.Telemetry.LatencySummary
import GatedExecution.Reference.VenueFixture
import GatedExecution.Reference.SymbolFixture
import GatedExecution.Net.Sockets
import GatedExecution.Net.SocketOwners
import GatedExecution.Net.Truncation
import GatedExecution.Bench.OrderCandidates
import GatedExecution.Bench.ExecutionBenchmark
import GatedExecution.Runtime.NoHeapGuard
import GatedExecution.Apps.QueuePerf
import GatedExecution.Apps.QueuePerfSafety
import GatedExecution.Apps.QueuePerfEnd
import GatedExecution.Apps.MdGenerator
import GatedExecution.Apps.PerfReport
