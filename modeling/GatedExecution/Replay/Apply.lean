import GatedExecution.Book.VenueBook
import GatedExecution.Lib.Runs
import GatedExecution.Replay.ItchPacket

/-!
# Applying a replay

{lit}`replay/itch_replay_apply.cpp`: decoded messages go to the instrument
directory, to the books of one venue, or nowhere, and are counted.

Main results:

- Theorems {lit}`apply_stockDirectory` and {lit}`apply_bookMessage`: where a message
  goes.
-/

namespace Fgep.Replay

open Book Instrument Runs

/-! ## The applier -/

structure ItchReplayApplyStats where
  packets : UInt64 := 0
  dataPackets : UInt64 := 0
  heartbeatPackets : UInt64 := 0
  endOfSessionPackets : UInt64 := 0
  instrumentMessages : UInt64 := 0
  bookMessages : UInt64 := 0
  ignoredMessages : UInt64 := 0
  failedMessages : UInt64 := 0
  hasLastSequenceNumber : Bool := false
  lastSequenceNumber : Moldudp64.SequenceNumber := 0
deriving DecidableEq

/-- The applier with the directory and the books it refers to. -/
structure ItchReplayApplier where
  venueId : Venue.VenueId
  directory : InstrumentDirectory
  books : MultiVenueBook
  stats : ItchReplayApplyStats := {}

namespace ItchReplayApplier

/-- A directory message counts when it succeeds. -/
def applyInstrument (applier : ItchReplayApplier) (result : ErrorCode × InstrumentDirectory) :
    ErrorCode × ItchReplayApplier :=
  let stats := applier.stats
  (result.1, { applier with
    directory := result.2
    stats :=
      if result.1 = .ok then { stats with instrumentMessages := stats.instrumentMessages + 1 }
      else stats })

/-- A book message counts when it succeeds. -/
def applyBook (applier : ItchReplayApplier) (message : Itch.Message) :
    ErrorCode × ItchReplayApplier :=
  let stats := applier.stats
  let result := applier.books.apply applier.directory applier.venueId message
  (result.1, { applier with
    books := result.2
    stats :=
      if result.1 = .ok then { stats with bookMessages := stats.bookMessages + 1 } else stats })

def applyMessage (applier : ItchReplayApplier) (message : Itch.Message) :
    ErrorCode × ItchReplayApplier :=
  match message with
  | .stockDirectory concreteMessage =>
      applier.applyInstrument
        (applier.directory.applyStockDirectory applier.venueId concreteMessage)
  | .stockTradingAction concreteMessage =>
      applier.applyInstrument
        (applier.directory.applyStockTradingAction applier.venueId concreteMessage)
  | .addOrderNoMpid _ => applier.applyBook message
  | .addOrderWithMpid _ => applier.applyBook message
  | .orderExecuted _ => applier.applyBook message
  | .orderExecutedWithPrice _ => applier.applyBook message
  | .orderCancel _ => applier.applyBook message
  | .orderDelete _ => applier.applyBook message
  | .orderReplace _ => applier.applyBook message
  | .systemEvent _ | .tradeNonCross _ | .crossTrade _ | .brokenTrade _ =>
      let stats := applier.stats
      (.ok, { applier with
        stats := { stats with ignoredMessages := stats.ignoredMessages + 1 } })

/-- {lit}`apply` of one decoded message. -/
def apply (applier : ItchReplayApplier) (decodedMessage : DecodedItchMessage) :
    ErrorCode × ItchReplayApplier :=
  let stats := applier.stats
  applyMessage { applier with
    stats := { stats with
      hasLastSequenceNumber := true
      lastSequenceNumber := decodedMessage.sequenceNumber } } decodedMessage.message

/-- The loop over a packet's messages ends at the first error. -/
def applyMessages (applier : ItchReplayApplier) :
    List DecodedItchMessage → ErrorCode × ItchReplayApplier
  | [] => (.ok, applier)
  | decodedMessage :: rest =>
      let result := applier.apply decodedMessage
      if result.1 ≠ .ok then
        let stats := result.2.stats
        (result.1, { result.2 with
          stats := { stats with failedMessages := stats.failedMessages + 1 } })
      else applyMessages result.2 rest

def applyPacket (applier : ItchReplayApplier) (packet : MoldUdp64ItchReplayPacket) :
    ErrorCode × ItchReplayApplier :=
  if !Venue.isValidVenueId applier.venueId then (.invalidState, applier)
  else
    let stats := { applier.stats with packets := applier.stats.packets + 1 }
    match packet.kind with
    | .data =>
        applyMessages
          { applier with stats := { stats with dataPackets := stats.dataPackets + 1 } }
          packet.messages
    | .heartbeat =>
        (.ok, { applier with
          stats := { stats with heartbeatPackets := stats.heartbeatPackets + 1 } })
    | .endOfSession =>
        (.ok, { applier with
          stats := { stats with endOfSessionPackets := stats.endOfSessionPackets + 1 } })

/-- The codes of a sequence of calls. -/
def applyCodes (applier : ItchReplayApplier) (decodedMessages : List DecodedItchMessage) :
    List ErrorCode :=
  runOutputs (fun current decodedMessage => (current.apply decodedMessage).2)
    (fun current decodedMessage => (current.apply decodedMessage).1) applier decodedMessages

/-- The applier after a sequence of calls. -/
def applyAll (applier : ItchReplayApplier) (decodedMessages : List DecodedItchMessage) :
    ItchReplayApplier :=
  decodedMessages.foldl (fun current decodedMessage => (current.apply decodedMessage).2) applier

theorem applyCodes_cons (applier : ItchReplayApplier) (decodedMessage : DecodedItchMessage)
    (rest : List DecodedItchMessage) :
    applier.applyCodes (decodedMessage :: rest) =
      (applier.apply decodedMessage).1 :: (applier.apply decodedMessage).2.applyCodes rest := rfl

theorem applyAll_cons (applier : ItchReplayApplier) (decodedMessage : DecodedItchMessage)
    (rest : List DecodedItchMessage) :
    applier.applyAll (decodedMessage :: rest) =
      (applier.apply decodedMessage).2.applyAll rest := rfl

theorem applyCodes_append (applier : ItchReplayApplier) (first second : List DecodedItchMessage) :
    applier.applyCodes (first ++ second) =
      applier.applyCodes first ++ (applier.applyAll first).applyCodes second :=
  runOutputs_append ..

/-! ## Where a message goes -/

/-- The parts of an applier that decide what it returns. -/
def core (applier : ItchReplayApplier) :
    Venue.VenueId × InstrumentDirectory × MultiVenueBook :=
  (applier.venueId, applier.directory, applier.books)

theorem apply_stockDirectory (applier : ItchReplayApplier)
    (sequenceNumber : Moldudp64.SequenceNumber) (message : Itch.StockDirectoryMessage) :
    (applier.apply ⟨sequenceNumber, .stockDirectory message⟩).1 =
        (applier.directory.applyStockDirectory applier.venueId message).1 ∧
      (applier.apply ⟨sequenceNumber, .stockDirectory message⟩).2.core =
        (applier.venueId, (applier.directory.applyStockDirectory applier.venueId message).2,
          applier.books) :=
  ⟨rfl, rfl⟩

theorem apply_bookMessage (applier : ItchReplayApplier)
    (sequenceNumber : Moldudp64.SequenceNumber) {message : Itch.Message}
    (hbook : VenueBook.affectsOrderBook message = true) :
    (applier.apply ⟨sequenceNumber, message⟩).1 =
        (applier.books.apply applier.directory applier.venueId message).1 ∧
      (applier.apply ⟨sequenceNumber, message⟩).2.core =
        (applier.venueId, applier.directory,
          (applier.books.apply applier.directory applier.venueId message).2) := by
  cases message <;> first | exact ⟨rfl, rfl⟩ | cases hbook

end ItchReplayApplier

end Fgep.Replay
