import GatedExecution.Execution.SubmitQueue

/-!
# The asynchronous backend

{lit}`execution/async_execution_backend.hpp` between one client thread and its worker.
The client submits requests and starts and stops the worker; the worker takes items
from the queue and hands them to the downstream backend until it is told to stop and
finds the queue empty.

Each thread moves by single accesses to what the threads share: one step of the ring,
one load or store of a flag, one counter, one call downstream.  A schedule says which
thread moves next and, for a client between two calls, what it does: overwrite its
buffer, call {lit}`submit` on a part of it, call {lit}`start` or call {lit}`stop`.

Besides what the source keeps, a state records the requests of the submit calls begun
so far, what the finished ones returned, and the requests the downstream backend was
handed.
-/

namespace Fgep.Execution

open Wire Ouch Fgep.Core

/-! ## Threads -/

/-- Where the client is: between calls, or the access its call makes next.  It is
{lit}`stopped` between calls of which the last was a {lit}`stop` that joined a worker. -/
inductive ClientPc (limit : PayloadLimit) where
  | idle
  | pushing (request : BackendSubmitRequest) (item : BackendSubmitQueueItem limit)
  | recordQueued (request : BackendSubmitRequest)
  | recordRingFull (request : BackendSubmitRequest)
  | recordRejected (request : BackendSubmitRequest) (status : BackendSubmitQueuePushStatus)
  | joining
  | stopped
deriving DecidableEq

/-- What a client between two calls does next. -/
inductive ClientCall where
  | overwrite (memory : Bytes)
  | submit (userRefNum : UserRefNum) (kind : BackendOrderKind) (offset length : Nat)
  | start
  | stop

/-- Where {lit}`worker_loop` is: the access it makes next.  A thread that is not
joinable has not been started, or was joined. -/
inductive WorkerPc (limit : PayloadLimit) where
  | notJoinable
  | storeRunning
  | loadStop
  | loadTail
  | loadHead (tail : UInt64)
  | polling
  | submitting (item : BackendSubmitQueueItem limit)
  | recording (result : BackendSubmitResult)
  | clearRunning
  | finished

inductive AsyncMove where
  | client (call : ClientCall)
  | worker

structure AsyncState (capacity : RingCapacity) (limit : PayloadLimit)
    (backend : ExecutionBackend) where
  ring : SpscState (BackendSubmitQueueItem limit) capacity
  stopRequested : Bool
  running : Bool
  stats : Option CoreStats
  downstream : backend.State
  client : ClientPc limit
  worker : WorkerPc limit
  memory : Bytes
  calls : List BackendSubmitRequest
  returned : List (BackendSubmitRequest × BackendSubmitResult)
  received : List BackendSubmitRequest

variable {capacity : RingCapacity} {limit : PayloadLimit} {backend : ExecutionBackend}

namespace AsyncState

/-- A new backend. -/
def initial (buffer : Fin capacity.size → BackendSubmitQueueItem limit)
    (downstream : backend.State) (stats : Option CoreStats) (startWorker : Bool)
    (memory : Bytes) : AsyncState capacity limit backend where
  ring := SpscState.initial buffer
  stopRequested := false
  running := false
  stats := stats
  downstream := downstream
  client := .idle
  worker := if startWorker then .storeRunning else .notJoinable
  memory := memory
  calls := []
  returned := []
  received := []

/-- An increment, if statistics are attached. -/
def record (state : AsyncState capacity limit backend) (counter : CoreCounter) :
    Option CoreStats :=
  state.stats.map (fun stats => stats.increment counter)

def rejectReasonFor : BackendSubmitQueuePushStatus → BackendRejectReason
  | .emptyPayload => .emptyPayload
  | .payloadTooLarge => .capacityExceeded
  | .queueFull => .capacityExceeded
  | .queued => .none

/-! ## The client -/

/-- The start of a call: {lit}`submit` reads the payload and makes its item, the other
two store the flag.  No worker can see the store of {lit}`start`. -/
def clientCall (state : AsyncState capacity limit backend) :
    ClientCall → AsyncState capacity limit backend
  | .overwrite memory => { state with memory := memory }
  | .submit userRefNum kind offset length =>
      let request : BackendSubmitRequest :=
        ⟨userRefNum, kind, (state.memory.drop offset).take length⟩
      let result := makeItem limit request
      { state with
        calls := state.calls ++ [request]
        client :=
          if result.1 ≠ .queued then .recordRejected request result.1
          else .pushing request result.2 }
  | .start =>
      match state.worker with
      | .notJoinable =>
          { state with stopRequested := false, worker := .storeRunning, client := .idle }
      | _ => { state with client := .idle }
  | .stop =>
      match state.worker with
      | .notJoinable => { state with stopRequested := true, client := .idle }
      | _ => { state with stopRequested := true, client := .joining }

def clientStep (state : AsyncState capacity limit backend) (call : ClientCall) :
    AsyncState capacity limit backend :=
  match state.client with
  | .idle => state.clientCall call
  | .pushing request item =>
      { state with
        ring := state.ring.step (.producer item)
        client :=
          match (pushStep state.ring.ring item state.ring.push).returned with
          | none => .pushing request item
          | some (_, true) => .recordQueued request
          | some (_, false) => .recordRingFull request }
  | .recordQueued request =>
      { state with
        stats := state.record .submitQueued
        returned := state.returned ++ [(request, makeBackendAccept request)]
        client := .idle }
  | .recordRingFull request =>
      { state with
        stats := state.record .ringFull
        client := .recordRejected request .queueFull }
  | .recordRejected request status =>
      { state with
        stats := state.record .submitRejected
        returned :=
          state.returned ++ [(request, makeBackendReject request (rejectReasonFor status))]
        client := .idle }
  | .joining =>
      -- The join blocks until the worker thread has ended.
      match state.worker with
      | .finished => { state with worker := .notJoinable, client := .stopped }
      | _ => state
  | .stopped => state.clientCall call

/-! ## The worker -/

def workerStep (state : AsyncState capacity limit backend) :
    AsyncState capacity limit backend :=
  match state.worker with
  | .notJoinable => state
  | .storeRunning => { state with running := true, worker := .loadStop }
  | .loadStop =>
      { state with worker := if !state.stopRequested then .polling else .loadTail }
  | .loadTail => { state with worker := .loadHead state.ring.ring.tail }
  | .loadHead tail =>
      { state with
        worker := if state.ring.ring.head - tail = 0 then .clearRunning else .polling }
  | .polling =>
      { state with
        ring := state.ring.step .consumer
        worker :=
          match (popStep state.ring.ring state.ring.pop).returned with
          | none => .polling
          | some (some item) => .submitting item
          | some none => .loadStop }
  | .submitting item =>
      let outcome := backend.submit state.downstream item.request
      { state with
        downstream := outcome.2
        received := state.received ++ [item.request]
        worker := .recording outcome.1 }
  | .recording result =>
      { state with
        stats :=
          if result.accepted then state.record .backendAccepted else state.record .backendRejected
        worker := .loadStop }
  | .clearRunning => { state with running := false, worker := .finished }
  | .finished => state

/-! ## Interleavings -/

def step (state : AsyncState capacity limit backend) : AsyncMove →
    AsyncState capacity limit backend
  | .client call => state.clientStep call
  | .worker => state.workerStep

def run (state : AsyncState capacity limit backend) (schedule : List AsyncMove) :
    AsyncState capacity limit backend :=
  schedule.foldl step state

/-- The requests for which {lit}`submit` returned accepted, in order. -/
def acceptedRequests (state : AsyncState capacity limit backend) :
    List BackendSubmitRequest :=
  (state.returned.filter (fun entry => entry.2.accepted)).map (fun entry => entry.1)

end AsyncState

end Fgep.Execution
