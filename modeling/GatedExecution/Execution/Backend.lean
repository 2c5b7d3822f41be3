import GatedExecution.Ouch.Messages

/-!
# Execution backends

{lit}`execution/execution_backend.hpp`: requests, results, and the interface every
backend implements.  A backend is a state with a {lit}`submit` function; what it has
been handed is told by the state it is in.

Main results:

- Definition {lit}`ExecutionBackend.submitAll`: the state after a list of requests.
- Definition {lit}`ExecutionBackend.logged`: a backend with a log of its calls.
-/

namespace Fgep.Execution

open Wire Ouch

/-! ## Requests and results -/

inductive BackendOrderKind where
  | enter
  | replace
  | cancel
deriving DecidableEq, Repr

inductive BackendSubmitDecision where
  | accepted
  | rejected
deriving DecidableEq, Repr

inductive BackendRejectReason where
  | none
  | backendClosed
  | emptyPayload
  | capacityExceeded
  | invalidEndpoint
  | socketError
  | sendFailed
  | unsupportedBackend
deriving DecidableEq, Repr

/-- The payload is what the span shows when the request is made. -/
structure BackendSubmitRequest where
  userRefNum : UserRefNum
  kind : BackendOrderKind
  payload : Bytes
deriving DecidableEq

structure BackendSubmitResult where
  decision : BackendSubmitDecision
  rejectReason : BackendRejectReason
  userRefNum : UserRefNum
  kind : BackendOrderKind
  payloadSize : Nat
deriving DecidableEq

def BackendSubmitResult.accepted (result : BackendSubmitResult) : Bool :=
  result.decision = .accepted

def BackendSubmitResult.rejected (result : BackendSubmitResult) : Bool :=
  result.decision = .rejected

def makeBackendReject (request : BackendSubmitRequest) (reason : BackendRejectReason) :
    BackendSubmitResult where
  decision := .rejected
  rejectReason := reason
  userRefNum := request.userRefNum
  kind := request.kind
  payloadSize := request.payload.length

def makeBackendAccept (request : BackendSubmitRequest) : BackendSubmitResult where
  decision := .accepted
  rejectReason := .none
  userRefNum := request.userRefNum
  kind := request.kind
  payloadSize := request.payload.length

/-! ## The interface -/

/-- An implementation of the abstract class: its state and its {lit}`submit`. -/
structure ExecutionBackend where
  State : Type
  submit : State → BackendSubmitRequest → BackendSubmitResult × State

/-- The state of a backend after it was handed some requests. -/
def ExecutionBackend.submitAll (backend : ExecutionBackend) (state : backend.State)
    (requests : List BackendSubmitRequest) : backend.State :=
  requests.foldl (fun current request => (backend.submit current request).2) state

theorem ExecutionBackend.submitAll_concat (backend : ExecutionBackend) (state : backend.State)
    (requests : List BackendSubmitRequest) (request : BackendSubmitRequest) :
    backend.submitAll state (requests ++ [request]) =
      (backend.submit (backend.submitAll state requests) request).2 :=
  List.foldl_append

/-- The same backend, with a log of the requests it was called with. -/
abbrev ExecutionBackend.logged (backend : ExecutionBackend) : ExecutionBackend where
  State := backend.State × List BackendSubmitRequest
  submit state request :=
    let outcome := backend.submit state.1 request
    (outcome.1, (outcome.2, state.2 ++ [request]))

theorem ExecutionBackend.submitAll_logged (backend : ExecutionBackend) (state : backend.State)
    (requests : List BackendSubmitRequest) :
    backend.logged.submitAll (state, []) requests =
      (backend.submitAll state requests, requests) := by
  induction requests using List.reverseRecOn with
  | nil => rfl
  | append_singleton earlier request ih =>
      rw [submitAll_concat, submitAll_concat, ih]

/-! ## The recording backend -/

structure RecordedBackendSubmit where
  userRefNum : UserRefNum
  kind : BackendOrderKind
  payload : Bytes
deriving DecidableEq

/-- The member {lit}`open_` is {lit}`isOpen`; no limit is {lit}`maxSubmissions = 0`. -/
structure RecordingExecutionBackend where
  isOpen : Bool := true
  maxSubmissions : Nat := 0
  submissions : List RecordedBackendSubmit := []
deriving DecidableEq

namespace RecordingExecutionBackend

def atCapacity (recorder : RecordingExecutionBackend) : Bool :=
  recorder.maxSubmissions ≠ 0 && recorder.submissions.length ≥ recorder.maxSubmissions

def submit (recorder : RecordingExecutionBackend) (request : BackendSubmitRequest) :
    BackendSubmitResult × RecordingExecutionBackend :=
  if !recorder.isOpen then (makeBackendReject request .backendClosed, recorder)
  else if request.payload.isEmpty then (makeBackendReject request .emptyPayload, recorder)
  else if recorder.atCapacity then (makeBackendReject request .capacityExceeded, recorder)
  else
    (makeBackendAccept request, { recorder with
      submissions :=
        recorder.submissions ++ [⟨request.userRefNum, request.kind, request.payload⟩] })

/-- The recording backend as a backend. -/
def backend : ExecutionBackend where
  State := RecordingExecutionBackend
  submit := submit

end RecordingExecutionBackend

end Fgep.Execution
