import GatedExecution.Execution.Backend
import GatedExecution.Ouch.Codec

/-!
# Submitting an encoded order

{lit}`execution/encoded_backend_submit.cpp`: an order message is encoded into a buffer of
its own length and handed to a backend, unless the encoder refuses it.  Together with the
codec this says what goes over the wire: the order that was asked for, or nothing.

Main results:

- Theorem {lit}`submitOrderToBackend_eq`: the two ways in which a call goes.
- Theorem {lit}`encoded_submit`: one call, for every backend and every message.
- Theorem {lit}`sentMessages_eq`: over a whole run the backend is sent the valid messages,
  in order.
-/

namespace Fgep.Execution

open Wire Ouch

/-! ## Results -/

inductive EncodedSubmitDecision where
  | accepted
  | rejected
deriving DecidableEq, Repr

inductive EncodedSubmitRejectSource where
  | none
  | encode
  | backend
deriving DecidableEq, Repr

structure EncodedSubmitResult where
  decision : EncodedSubmitDecision
  rejectSource : EncodedSubmitRejectSource
  encodeError : ErrorCode
  backendResult : BackendSubmitResult
deriving DecidableEq

def EncodedSubmitResult.accepted (result : EncodedSubmitResult) : Bool :=
  result.decision = .accepted

def EncodedSubmitResult.rejected (result : EncodedSubmitResult) : Bool :=
  result.decision = .rejected

/-- The backend was not asked; its result repeats number and kind. -/
def makeEncodeReject (error : ErrorCode) (userRefNum : UserRefNum) (kind : BackendOrderKind) :
    EncodedSubmitResult where
  decision := .rejected
  rejectSource := .encode
  encodeError := error
  backendResult :=
    { decision := .rejected
      rejectReason := .none
      userRefNum := userRefNum
      kind := kind
      payloadSize := 0 }

def makeBackendResult (backendResult : BackendSubmitResult) : EncodedSubmitResult where
  decision := if backendResult.accepted then .accepted else .rejected
  rejectSource := if backendResult.accepted then .none else .backend
  encodeError := .ok
  backendResult := backendResult

/-! ## The three calls -/

section Submit

variable (backend : ExecutionBackend) (state : backend.State)

def submitEncodedPayload (userRefNum : UserRefNum) (kind : BackendOrderKind) (payload : Bytes) :
    EncodedSubmitResult × backend.State :=
  let outcome := backend.submit state ⟨userRefNum, kind, payload⟩
  (makeBackendResult outcome.1, outcome.2)

/-- Shared body of the three functions.  The buffer is zeroed when it is made. -/
def encodeAndSubmit (length : Nat) (encode : EncodeM Unit) (userRefNum : UserRefNum)
    (kind : BackendOrderKind) : EncodedSubmitResult × backend.State :=
  let encoded := runEncode encode (List.replicate length 0)
  if encoded.1 ≠ .ok then (makeEncodeReject encoded.1 userRefNum kind, state)
  else submitEncodedPayload backend state userRefNum kind encoded.2

def submitEnterOrderToBackend (message : EnterOrderMessage) :
    EncodedSubmitResult × backend.State :=
  encodeAndSubmit backend state (encodedLength (.enterOrder message))
    (encodeEnterOrderMessage message) message.userRefNum .enter

def submitReplaceOrderToBackend (message : ReplaceOrderMessage) :
    EncodedSubmitResult × backend.State :=
  encodeAndSubmit backend state (encodedLength (.replaceOrder message))
    (encodeReplaceOrderMessage message) message.userRefNum .replace

def submitCancelOrderToBackend (message : CancelOrderMessage) :
    EncodedSubmitResult × backend.State :=
  encodeAndSubmit backend state (encodedLength (.cancelOrder message))
    (encodeCancelOrderMessage message) message.userRefNum .cancel

/-- The call that belongs to a message. -/
def submitOrderToBackend : Message → EncodedSubmitResult × backend.State
  | .enterOrder message => submitEnterOrderToBackend backend state message
  | .replaceOrder message => submitReplaceOrderToBackend backend state message
  | .cancelOrder message => submitCancelOrderToBackend backend state message

end Submit

/-! ## What a call does -/

def orderUserRefNum : Message → UserRefNum
  | .enterOrder message => message.userRefNum
  | .replaceOrder message => message.userRefNum
  | .cancelOrder message => message.userRefNum

def backendOrderKind : Message → BackendOrderKind
  | .enterOrder _ => .enter
  | .replaceOrder _ => .replace
  | .cancelOrder _ => .cancel

/-- The request that carries a message. -/
def orderRequest (message : Message) : BackendSubmitRequest :=
  ⟨orderUserRefNum message, backendOrderKind message, wireBytes message⟩

theorem decodeMessage_orderRequest {message : Message} (hvalid : isValidMessage message = true) :
    decodeMessage (orderRequest message).payload = .ok message :=
  decodeMessage_eq_ok_iff.mpr ⟨hvalid, rfl⟩

/-- In a zeroed buffer of the right length only validity can fail. -/
theorem runEncode_encodeMessage_zeroed (message : Message) :
    runEncode (encodeMessage message) (List.replicate (encodedLength message) 0) =
      if isValidMessage message then (.ok, wireBytes message)
      else (.invalidArgument, List.replicate (encodedLength message) 0) := by
  rw [runEncode, runOn_encodeMessage, allOrNothing, if_neg (not_not_intro List.length_replicate)]
  cases isValidMessage message <;> rfl

section Call

variable (backend : ExecutionBackend) (state : backend.State) (message : Message)

theorem submitOrderToBackend_eq_encodeAndSubmit :
    submitOrderToBackend backend state message =
      encodeAndSubmit backend state (encodedLength message) (encodeMessage message)
        (orderUserRefNum message) (backendOrderKind message) := by
  cases message <;> rfl

/-- A valid message goes to the backend, an invalid one goes nowhere. -/
theorem submitOrderToBackend_eq :
    submitOrderToBackend backend state message =
      if isValidMessage message then
        (makeBackendResult (backend.submit state (orderRequest message)).1,
          (backend.submit state (orderRequest message)).2)
      else
        (makeEncodeReject .invalidArgument (orderUserRefNum message) (backendOrderKind message),
          state) := by
  rw [submitOrderToBackend_eq_encodeAndSubmit, encodeAndSubmit, runEncode_encodeMessage_zeroed]
  cases isValidMessage message with
  | true => exact if_neg (not_not_intro rfl)
  | false => exact if_pos (fun h => by cases h)

theorem makeBackendResult_accepted (backendResult : BackendSubmitResult) :
    (makeBackendResult backendResult).accepted = backendResult.accepted := by
  unfold makeBackendResult EncodedSubmitResult.accepted
  cases backendResult.accepted <;> rfl

theorem makeBackendResult_rejectSource (backendResult : BackendSubmitResult) :
    (makeBackendResult backendResult).rejectSource ≠ .encode ∧
      ((makeBackendResult backendResult).rejectSource = .backend ↔
        backendResult.accepted = false) := by
  unfold makeBackendResult
  cases backendResult.accepted <;> simp

/-- A call asks the backend once for a valid message and never for an invalid one; the
request carries the message's number and kind and a payload that decodes to the message,
and the result tells who refused. -/
theorem encoded_submit :
    let call := submitOrderToBackend backend.logged (state, []) message
    let result := call.1
    let requests := call.2.2
    submitOrderToBackend backend state message = (result, call.2.1) ∧
      (isValidMessage message = true → ∃ request, requests = [request] ∧
        request.userRefNum = orderUserRefNum message ∧
        request.kind = backendOrderKind message ∧
        decodeMessage request.payload = .ok message) ∧
      (isValidMessage message = false → requests = []) ∧
      (result.accepted = true ↔
        ∃ request ∈ requests, (backend.submit state request).1.accepted = true) ∧
      (result.rejectSource = .encode ↔ isValidMessage message = false) ∧
      (result.rejectSource = .backend ↔
        ∃ request ∈ requests, (backend.submit state request).1.accepted = false) := by
  intro call result requests
  have hcall : call = submitOrderToBackend backend.logged (state, []) message := rfl
  have hplain := submitOrderToBackend_eq backend state message
  rw [submitOrderToBackend_eq] at hcall
  cases hvalid : isValidMessage message with
  | true =>
      rw [if_pos hvalid] at hcall hplain
      have hresult : result =
          makeBackendResult (backend.submit state (orderRequest message)).1 :=
        congrArg Prod.fst hcall
      have hrequests : requests = [orderRequest message] := congrArg (·.2.2) hcall
      obtain ⟨hnotEncode, hbackend⟩ :=
        makeBackendResult_rejectSource (backend.submit state (orderRequest message)).1
      refine ⟨?_, fun _ => ?_, fun h => absurd h (by decide), ?_, ?_, ?_⟩
      · rw [hplain, hcall, hresult]
      · exact ⟨orderRequest message, hrequests, rfl, rfl, decodeMessage_orderRequest hvalid⟩
      · rw [hresult, hrequests, makeBackendResult_accepted]
        simp
      · rw [hresult]
        exact iff_of_false hnotEncode (fun h => by cases h)
      · rw [hresult, hrequests, hbackend]
        simp
  | false =>
      rw [if_neg (ne_true_of_eq_false hvalid)] at hcall hplain
      have hresult : result = makeEncodeReject .invalidArgument (orderUserRefNum message)
          (backendOrderKind message) :=
        congrArg Prod.fst hcall
      have hrequests : requests = [] := congrArg (·.2.2) hcall
      refine ⟨?_, fun h => absurd h (by decide), fun _ => hrequests, ?_, ?_, ?_⟩
      · rw [hplain, hcall, hresult]
      · rw [hresult, hrequests]
        simp [makeEncodeReject, EncodedSubmitResult.accepted]
      · rw [hresult]
        exact iff_of_true rfl rfl
      · rw [hresult, hrequests]
        simp [makeEncodeReject]

end Call

/-! ## Whole runs -/

/-- The state of a backend after a sequence of calls. -/
def submitOrders (backend : ExecutionBackend) (state : backend.State) (messages : List Message) :
    backend.State :=
  messages.foldl (fun current message => (submitOrderToBackend backend current message).2) state

/-- The requests that a sequence of calls makes of a backend. -/
def sentRequests (backend : ExecutionBackend) (state : backend.State) (messages : List Message) :
    List BackendSubmitRequest :=
  (submitOrders backend.logged (state, []) messages).2

theorem sentRequests_eq (backend : ExecutionBackend) (state : backend.State)
    (messages : List Message) :
    sentRequests backend state messages =
      (messages.filter isValidMessage).map orderRequest := by
  induction messages using List.reverseRecOn with
  | nil => rfl
  | append_singleton earlier message ih =>
      rw [sentRequests, submitOrders] at ih ⊢
      rw [List.foldl_append, List.foldl_cons, List.foldl_nil, submitOrderToBackend_eq,
        List.filter_append, List.map_append, ← ih]
      cases hvalid : isValidMessage message <;> simp [hvalid]

/-- Decoding what the backend was sent gives the valid messages, each once and in order. -/
theorem sentMessages_eq (backend : ExecutionBackend) (state : backend.State)
    (messages : List Message) :
    (sentRequests backend state messages).map (fun request => decodeMessage request.payload) =
      (messages.filter isValidMessage).map .ok := by
  rw [sentRequests_eq, List.map_map]
  apply List.map_congr_left
  intro message hmem
  exact decodeMessage_orderRequest (List.mem_filter.mp hmem).2

end Fgep.Execution
