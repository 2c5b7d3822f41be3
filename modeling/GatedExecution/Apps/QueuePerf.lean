import GatedExecution.Execution.SharedSubmitQueue

/-!
# The queue performance program

{lit}`apps/fgep_spsc_queue_perf.cpp`: a producer thread pushes numbered requests into a
submit queue until it has pushed {lit}`operations` of them or a signal arrives, and then
sets a flag; a consumer thread pops until it has seen the flag and, after that, the queue
empty.  The main thread starts both, joins both and reports what they counted.

Each thread moves by single accesses to what the threads share.  A schedule says which
thread moves next, and when a signal is delivered.
-/

namespace Fgep.Apps

open Wire Ouch Fgep.Core Fgep.Execution

variable {capacity : RingCapacity} {limit : PayloadLimit}

/-! ## The configuration -/

/-- A configuration that {lit}`parse_args` returns; {lit}`operations = 0` runs until a
signal arrives. -/
structure QueuePerfConfig (limit : PayloadLimit) where
  operations : UInt64
  payloadSize : Nat
  pos : 0 < payloadSize
  fits : payloadSize ≤ limit.size

namespace QueuePerfConfig

/-- The part of the payload array that {lit}`fill_payload` writes. -/
def payloadView (config : QueuePerfConfig limit) : Bytes :=
  (List.range config.payloadSize).map (fun index => UInt8.ofNat (index &&& 0xff))

def makeRequest (userRefNum : UserRefNum) (payload : Bytes) : BackendSubmitRequest where
  userRefNum := userRefNum
  kind := .enter
  payload := payload

/-- The request with a sequence number, which is truncated to 32 bits. -/
def requestOf (config : QueuePerfConfig limit) (sequence : UInt64) : BackendSubmitRequest :=
  makeRequest sequence.toUInt32 config.payloadView

/-- The requests with the first {lit}`count` sequence numbers. -/
def requests (config : QueuePerfConfig limit) (count : Nat) : List BackendSubmitRequest :=
  (List.range count).map (fun i => config.requestOf (UInt64.ofNat (i + 1)))

theorem requests_succ (config : QueuePerfConfig limit) (count : Nat) :
    config.requests (count + 1) =
      config.requests count ++ [config.requestOf (UInt64.ofNat (count + 1))] := by
  rw [requests, List.range_succ, List.map_append]
  rfl

theorem length_requests (config : QueuePerfConfig limit) (count : Nat) :
    (config.requests count).length = count := by
  rw [requests, List.length_map, List.length_range]

/-- Every request fits into an item. -/
theorem makeItem_requestOf (config : QueuePerfConfig limit) (sequence : UInt64) :
    (makeItem limit (config.requestOf sequence)).1 = .queued := by
  have hlength : (config.requestOf sequence).payload.length = config.payloadSize := by
    unfold requestOf makeRequest payloadView
    rw [List.length_map, List.length_range]
  rw [makeItem_status, ← List.length_pos_iff, hlength]
  exact ⟨config.pos, config.fits⟩

end QueuePerfConfig

/-! ## Threads -/

/-- The access the producer makes next. -/
inductive ProducerPc where
  | waitStart
  | testStop
  | testStopPush
  | pushing
  | countProduced
  | storeDone
  | finished
deriving DecidableEq

/-- The access the consumer makes next. -/
inductive ConsumerPc where
  | waitStart
  | loadDone
  | loadTail
  | loadHead (tail : UInt64)
  | popping
  | storeConsumed
  | storeChecksum
  | finished
deriving DecidableEq

inductive QueuePerfMove where
  | main
  | signal
  | producer
  | consumer
deriving DecidableEq

structure QueuePerfState (capacity : RingCapacity) (limit : PayloadLimit) where
  queue : BackendSubmitQueue capacity limit
  stopSignalRequested : Bool := false
  start : Bool := false
  producerDone : Bool := false
  produced : UInt64 := 0
  consumed : UInt64 := 0
  checksum : UInt64 := 0
  producer : ProducerPc := .waitStart
  sequence : UInt64 := 1
  consumer : ConsumerPc := .waitStart
  localConsumed : UInt64 := 0
  localChecksum : UInt64 := 0

/-- What the consumer does to its checksum with a request. -/
def addToChecksum (sum : UInt64) (request : BackendSubmitRequest) : UInt64 :=
  let sum := sum ^^^ request.userRefNum.toUInt64
  let sum := sum ^^^ UInt64.ofNat request.payload.length
  match request.payload.head?, request.payload.getLast? with
  | some front, some back => sum ^^^ front.toUInt64 ^^^ back.toUInt64
  | _, _ => sum

/-- The checksum of a list of requests. -/
def checksumOf (requests : List BackendSubmitRequest) : UInt64 :=
  requests.foldl addToChecksum 0

/-- What the program prints and returns. -/
structure QueuePerfOutcome where
  payloadSize : Nat
  produced : UInt64
  consumed : UInt64
  checksum : UInt64
  submitQueued : UInt64
  submitRejected : UInt64
  ringFull : UInt64
  exitCode : Nat
deriving DecidableEq

namespace QueuePerfState

def initial (buffer : Fin capacity.size → BackendSubmitQueueItem limit) :
    QueuePerfState capacity limit where
  queue := BackendSubmitQueue.initial buffer (some {})

/-- One access of the producer. -/
def producerStep (config : QueuePerfConfig limit) (state : QueuePerfState capacity limit) :
    QueuePerfState capacity limit :=
  match state.producer with
  | .waitStart => { state with producer := if !state.start then .waitStart else .testStop }
  | .testStop =>
      { state with
        producer :=
          if state.stopSignalRequested then .storeDone
          else if config.operations ≠ 0 ∧ state.sequence > config.operations then .storeDone
          else .testStopPush }
  | .testStopPush =>
      -- A signal ends the inner loop, and then the test of the outer one.
      { state with producer := if state.stopSignalRequested then .testStop else .pushing }
  | .pushing =>
      let result := state.queue.pushStep (config.requestOf state.sequence)
      { state with
        queue := result.queue
        producer :=
          match result.returned with
          | none => .pushing
          | some .queued => .countProduced
          | some _ => .testStopPush }
  | .countProduced =>
      { state with
        produced := state.produced + 1
        sequence := state.sequence + 1
        producer := .testStop }
  | .storeDone => { state with producerDone := true, producer := .finished }
  | .finished => state

/-- One access of the consumer. -/
def consumerStep (state : QueuePerfState capacity limit) : QueuePerfState capacity limit :=
  match state.consumer with
  | .waitStart => { state with consumer := if !state.start then .waitStart else .loadDone }
  | .loadDone => { state with consumer := if !state.producerDone then .popping else .loadTail }
  | .loadTail => { state with consumer := .loadHead state.queue.ring.ring.tail }
  | .loadHead tail =>
      { state with
        consumer := if state.queue.ring.ring.head - tail = 0 then .storeConsumed else .popping }
  | .popping =>
      match state.queue.popReturns with
      | none => { state with queue := state.queue.popStep }
      | some none => { state with queue := state.queue.popStep, consumer := .loadDone }
      | some (some item) =>
          { state with
            queue := state.queue.popStep
            localChecksum := addToChecksum state.localChecksum item.request
            localConsumed := state.localConsumed + 1
            consumer := .loadDone }
  | .storeConsumed => { state with consumed := state.localConsumed, consumer := .storeChecksum }
  | .storeChecksum => { state with checksum := state.localChecksum, consumer := .finished }
  | .finished => state

def step (config : QueuePerfConfig limit) (state : QueuePerfState capacity limit) :
    QueuePerfMove → QueuePerfState capacity limit
  | .main => { state with start := true }
  | .signal => { state with stopSignalRequested := true }
  | .producer => state.producerStep config
  | .consumer => state.consumerStep

def run (config : QueuePerfConfig limit) (state : QueuePerfState capacity limit)
    (schedule : List QueuePerfMove) : QueuePerfState capacity limit :=
  schedule.foldl (step config) state

/-- What the main thread reports once it has joined both threads. -/
def outcome (config : QueuePerfConfig limit) (state : QueuePerfState capacity limit) :
    Option QueuePerfOutcome :=
  if state.producer = .finished ∧ state.consumer = .finished then
    let stats := state.queue.stats.getD {}
    some {
      payloadSize := config.payloadSize
      produced := state.produced
      consumed := state.consumed
      checksum := state.checksum
      submitQueued := stats.load .submitQueued
      submitRejected := stats.load .submitRejected
      ringFull := stats.load .ringFull
      exitCode := if state.produced = state.consumed then 0 else 1 }
  else none

end QueuePerfState

end Fgep.Apps
