import GatedExecution.Execution.EncodedSubmit

/-!
# The DPDK backend

{lit}`execution/dpdk_backend.cpp`, as built with DPDK.  The library is an environment: what
it answers while a backend is set up, and in each later call the tailroom of the buffer it
hands out and the number of packets it sends.  Asked for more bytes than the tailroom it
hands out none; otherwise it hands out exactly the bytes it was asked for.

The size of a frame is computed in {lit}`std::size_t` and narrowed to 16 bits when the
bytes are asked for; an order with a long appendage makes a frame that does not fit.

Main results:

- Theorem {lit}`submitWith_not_open`: a backend that is not open touches no buffer.
- Theorem {lit}`submitWith_cases`: what an open backend does with a payload.
- Theorem {lit}`copies_within_iff`: when the payload is copied into bytes that were asked
  for.
- Theorem {lit}`dpdk_copies_within_iff`: the same for every valid order.
-/

namespace Fgep.Execution

open Wire BigEndian Ouch

/-! ## Configuration and set up -/

abbrev DpdkMacAddress := List.Vector UInt8 6

structure DpdkBackendConfig where
  ealArgs : List String := ["fgep-dpdk", "-l", "0-1", "-n", "4"]
  portId : UInt16 := 0
  queueId : UInt16 := 0
  socketId : Int32 := -1
  txDescCount : UInt16 := 1024
  burstSize : UInt16 := 32
  mbufPoolSize : UInt64 := 8192
  mbufCacheSize : UInt16 := 250
  destinationMac : DpdkMacAddress := ⟨[0xff, 0xff, 0xff, 0xff, 0xff, 0xff], rfl⟩
  sourceMac : DpdkMacAddress := ⟨[0x02, 0x00, 0x00, 0x00, 0x00, 0x01], rfl⟩
  etherType : UInt16 := 0x88B5

def isValidConfig (config : DpdkBackendConfig) : Bool :=
  config.burstSize ≠ 0 && config.mbufPoolSize ≠ 0 && config.txDescCount ≠ 0
    && config.socketId ≥ -1 && config.ealArgs.length ≥ 1

/-- What the library answers while a backend is set up. -/
structure DpdkSetup where
  ealInitialized : Bool
  availablePorts : UInt16
  poolCreated : Bool
  portConfigured : Bool

/-- The members {lit}`open_` and {lit}`mbuf_pool_` are {lit}`isOpen` and {lit}`hasPool`. -/
structure DpdkExecutionBackend where
  config : DpdkBackendConfig
  configured : Bool
  isOpen : Bool
  hasPool : Bool
  ready : isOpen = true → configured = true ∧ hasPool = true

namespace DpdkExecutionBackend

/-- A backend that was not opened, or was closed. -/
def closed (config : DpdkBackendConfig) (configured : Bool) : DpdkExecutionBackend where
  config := config
  configured := configured
  isOpen := false
  hasPool := false
  ready h := by cases h

/-- The constructor and {lit}`initialize`. -/
def new (config : DpdkBackendConfig) (setup : DpdkSetup) : DpdkExecutionBackend :=
  if hvalid : isValidConfig config = true then
    if !setup.ealInitialized then closed config true
    else if config.portId ≥ setup.availablePorts then closed config true
    else if !setup.poolCreated then closed config true
    else if !setup.portConfigured then closed config true
    else
      { config := config
        configured := isValidConfig config
        isOpen := true
        hasPool := true
        ready := fun _ => ⟨hvalid, rfl⟩ }
  else closed config false

def close (backend : DpdkExecutionBackend) : DpdkExecutionBackend :=
  closed backend.config backend.configured

theorem isOpen_new (config : DpdkBackendConfig) (setup : DpdkSetup) :
    (new config setup).isOpen = true ↔
      isValidConfig config = true ∧ setup.ealInitialized = true ∧
        config.portId < setup.availablePorts ∧ setup.poolCreated = true ∧
        setup.portConfigured = true := by
  unfold new
  split_ifs <;> simp_all [closed]

/-! ## Submitting -/

def ethernetFrameSize (payloadSize : Nat) : Nat :=
  14 + payloadSize

/-- The frame size as {lit}`rte_pktmbuf_append` takes it. -/
def narrowedFrameSize (payload : Bytes) : UInt16 :=
  UInt16.ofNat (ethernetFrameSize payload.length)

def ethernetHeader (config : DpdkBackendConfig) : Bytes :=
  config.destinationMac.toList ++ config.sourceMac.toList ++ beBytes 2 config.etherType.toNat

/-- What the library answers in one call: the tailroom of the buffer, if there is one, and
the number of packets sent. -/
structure DpdkAnswer where
  tailroom : Option Nat
  sent : UInt16

/-- What a backend does to the buffer it was handed. -/
inductive DpdkEvent where
  | append (count : UInt16)
  | writeHeader (header : Bytes)
  | copyPayload (offset : Nat) (payload : Bytes)
  | txBurst (portId queueId : UInt16)
  | free
deriving DecidableEq

/-- {lit}`submit`, with what it does to the buffer. -/
def submitWith (backend : DpdkExecutionBackend) (answer : DpdkAnswer)
    (request : BackendSubmitRequest) : BackendSubmitResult × List DpdkEvent :=
  if request.payload.isEmpty then (makeBackendReject request .emptyPayload, [])
  else if !backend.configured then (makeBackendReject request .invalidEndpoint, [])
  else if !backend.isOpen || !backend.hasPool then (makeBackendReject request .backendClosed, [])
  else
    match answer.tailroom with
    | none => (makeBackendReject request .sendFailed, [])
    | some tailroom =>
        let count := narrowedFrameSize request.payload
        if count.toNat > tailroom then
          (makeBackendReject request .sendFailed, [.append count, .free])
        else
          let events : List DpdkEvent :=
            [.append count, .writeHeader (ethernetHeader backend.config),
              .copyPayload 14 request.payload,
              .txBurst backend.config.portId backend.config.queueId]
          if answer.sent ≠ 1 then (makeBackendReject request .sendFailed, events ++ [.free])
          else (makeBackendAccept request, events)

/-- A backend in its environment: the answers of the library call by call, the number of
calls so far and what was done. -/
structure Session where
  backend : DpdkExecutionBackend
  answers : Nat → DpdkAnswer
  calls : Nat := 0
  events : List DpdkEvent := []

/-- The answer to the next call. -/
def Session.answer (session : Session) : DpdkAnswer :=
  session.answers session.calls

/-- The DPDK backend as a backend. -/
abbrev executionBackend : ExecutionBackend where
  State := Session
  submit session request :=
    let outcome := session.backend.submitWith session.answer request
    (outcome.1,
      { session with
        calls := session.calls + 1
        events := session.events ++ outcome.2 })

/-! ## The bytes asked for and the bytes copied -/

/-- Every copy ends where the bytes that were asked for end. -/
def CopiesWithin (events : List DpdkEvent) : Prop :=
  ∀ count offset payload, .append count ∈ events → .copyPayload offset payload ∈ events →
    count.toNat = offset + payload.length

theorem toNat_narrowedFrameSize (payload : Bytes) :
    (narrowedFrameSize payload).toNat = (14 + payload.length) % 2 ^ 16 :=
  UInt16.toNat_ofNat'

/-- Without an open port no buffer is touched, whatever the library would answer. -/
theorem submitWith_not_open {backend : DpdkExecutionBackend} (hopen : backend.isOpen = false)
    (answer : DpdkAnswer) (request : BackendSubmitRequest) :
    (backend.submitWith answer request).2 = [] := by
  have hready : (!backend.isOpen || !backend.hasPool) = true := by simp [hopen]
  rw [submitWith, if_pos hready]
  split_ifs <;> rfl

theorem submitWith_close (backend : DpdkExecutionBackend) (answer : DpdkAnswer)
    (request : BackendSubmitRequest) : (backend.close.submitWith answer request).2 = [] :=
  submitWith_not_open rfl answer request

/-- What an open backend does: nothing without a buffer, no copy if the buffer is too
small, and otherwise the whole frame. -/
theorem submitWith_cases {backend : DpdkExecutionBackend} (hopen : backend.isOpen = true)
    (answer : DpdkAnswer) {request : BackendSubmitRequest} (hpayload : request.payload ≠ []) :
    let events := (backend.submitWith answer request).2
    let count := narrowedFrameSize request.payload
    (answer.tailroom = none ∧ events = []) ∨
    (∃ tailroom, answer.tailroom = some tailroom ∧ tailroom < count.toNat ∧
      events = [.append count, .free]) ∨
    ∃ tailroom last, answer.tailroom = some tailroom ∧ count.toNat ≤ tailroom ∧
      (last = [] ∨ last = [.free]) ∧
      events = .append count :: .writeHeader (ethernetHeader backend.config) ::
        .copyPayload 14 request.payload ::
        .txBurst backend.config.portId backend.config.queueId :: last := by
  rcases backend.ready hopen with ⟨hconfigured, hpool⟩
  have hempty : ¬request.payload.isEmpty = true := by simpa using hpayload
  have hvalid : ¬(!backend.configured) = true := by simp [hconfigured]
  have hready : ¬(!backend.isOpen || !backend.hasPool) = true := by simp [hopen, hpool]
  intro events count
  -- The three guards are passed; what is left depends on the answer alone.
  have hevents : events = (backend.submitWith answer request).2 := rfl
  rw [submitWith, if_neg hempty, if_neg hvalid, if_neg hready] at hevents
  cases htailroom : answer.tailroom with
  | none =>
      rw [htailroom] at hevents
      exact Or.inl ⟨rfl, hevents⟩
  | some tailroom =>
      rw [htailroom] at hevents
      dsimp only at hevents
      refine Or.inr ?_
      by_cases hmore : count.toNat > tailroom
      · rw [if_pos hmore] at hevents
        exact Or.inl ⟨tailroom, rfl, hmore, hevents⟩
      · rw [if_neg hmore] at hevents
        have hfits := Nat.le_of_not_lt hmore
        by_cases hsent : answer.sent = 1
        · rw [if_neg (not_not_intro hsent)] at hevents
          exact Or.inr ⟨tailroom, [], rfl, hfits, Or.inl rfl, hevents⟩
        · rw [if_pos hsent] at hevents
          exact Or.inr ⟨tailroom, [.free], rfl, hfits, Or.inr rfl, hevents⟩

/-- A whole frame, with or without the buffer freed at its end. -/
theorem copiesWithin_frame {count : UInt16} {header payload : Bytes} {portId queueId : UInt16}
    {last : List DpdkEvent} (hlast : last = [] ∨ last = [.free]) :
    CopiesWithin (.append count :: .writeHeader header :: .copyPayload 14 payload ::
        .txBurst portId queueId :: last) ↔
      count.toNat = 14 + payload.length := by
  constructor
  · intro hwithin
    exact hwithin count 14 payload (by simp) (by simp)
  · intro hsame asked offset copied hasked hcopied
    -- One buffer request and one copy are among the events.
    rcases hlast with rfl | rfl
    all_goals
      simp only [List.mem_cons, DpdkEvent.append.injEq, DpdkEvent.copyPayload.injEq,
        reduceCtorEq, List.not_mem_nil, or_false, false_or] at hasked hcopied
      rw [hasked, hcopied.1, hcopied.2]
      exact hsame

theorem copies_within_iff {backend : DpdkExecutionBackend} (hopen : backend.isOpen = true)
    (answer : DpdkAnswer) {request : BackendSubmitRequest} (hpayload : request.payload ≠ []) :
    CopiesWithin (backend.submitWith answer request).2 ↔
      14 + request.payload.length < 2 ^ 16 ∨ answer.tailroom = none ∨
        ∃ tailroom, answer.tailroom = some tailroom ∧
          tailroom < (14 + request.payload.length) % 2 ^ 16 := by
  have hcount := toNat_narrowedFrameSize request.payload
  rcases submitWith_cases hopen answer hpayload with
    ⟨hnone, hevents⟩ | ⟨tailroom, hsome, hless, hevents⟩ |
      ⟨tailroom, last, hsome, hfits, hlast, hevents⟩
  · refine iff_of_true ?_ (Or.inr (Or.inl hnone))
    rw [hevents]
    intro count offset payload hasked
    exact absurd hasked List.not_mem_nil
  · refine iff_of_true ?_ (Or.inr (Or.inr ⟨tailroom, hsome, hcount ▸ hless⟩))
    rw [hevents]
    intro count offset payload _ hcopied
    simp at hcopied
  · rw [hcount] at hfits
    rw [hevents, copiesWithin_frame hlast, hcount, hsome]
    constructor
    · intro hsame
      exact Or.inl (by omega)
    · rintro (hlt | hnone | ⟨found, hfound, hless⟩)
      · omega
      · cases hnone
      · cases hfound
        omega

/-! ## Orders -/

theorem wireBytes_ne_nil (message : Message) : wireBytes message ≠ [] := by
  intro hnil
  have hlength := wireBytes_length message
  have hbase : 0 < baseLength (messageType message) := by
    cases message <;> exact Nat.succ_pos _
  rw [hnil, encodedLength_eq, List.length_nil] at hlength
  omega

/-- What one order makes the backend do. -/
def orderEvents (session : Session) (message : Message) : List DpdkEvent :=
  Session.events (submitOrderToBackend executionBackend { session with events := [] } message).2

theorem orderEvents_eq (session : Session) {message : Message}
    (hvalid : isValidMessage message = true) :
    orderEvents session message =
      (session.backend.submitWith session.answer (orderRequest message)).2 := by
  rw [orderEvents, submitOrderToBackend_eq, if_pos hvalid]
  exact List.nil_append _

/-- The copies into a frame stay within what was appended to it, unless the length of the frame
wraps and a buffer has room for what is left of it. -/
theorem dpdk_copies_within_iff (session : Session) (hopen : session.backend.isOpen = true)
    (message : Message) (hvalid : isValidMessage message = true) :
    CopiesWithin (orderEvents session message) ↔
      14 + encodedLength message < 2 ^ 16 ∨ session.answer.tailroom = none ∨
        ∃ tailroom, session.answer.tailroom = some tailroom ∧
          tailroom < (14 + encodedLength message) % 2 ^ 16 := by
  have hlength : (orderRequest message).payload.length = encodedLength message :=
    wireBytes_length message
  rw [orderEvents_eq session hvalid, copies_within_iff hopen _ (wireBytes_ne_nil message), hlength]

/-- A backend set up without trouble, with buffers of 2048 bytes. -/
def plainSession : Session where
  backend := new {} ⟨true, 1, true, true⟩
  answers := fun _ => ⟨some 2048, 1⟩

/-- An Enter Order with an appendage of zeros. -/
def enterWithAppendage (length : Nat) : Message :=
  .enterOrder ⟨1, .buy, 10, List.Vector.replicate 8 65, 10, .day, .visible, .agency, .eligible,
    .continuousMarket, List.Vector.replicate 14 65, List.replicate length 0⟩

theorem isValidMessage_enterWithAppendage {length : Nat} (hlength : length ≤ 65535) :
    isValidMessage (enterWithAppendage length) = true := by
  have hfits : appendageLengthFits (List.replicate length 0) = true := by
    rw [appendageLengthFits, List.length_replicate]
    exact decide_eq_true hlength
  rw [enterWithAppendage, isValidMessage, isValidEnterOrderMessage, hfits]
  rfl

theorem encodedLength_enterWithAppendage (length : Nat) :
    encodedLength (enterWithAppendage length) = 47 + length := by
  rw [enterWithAppendage, encodedLength, List.length_replicate]

theorem dpdk_copies_within_short :
    CopiesWithin (orderEvents plainSession (enterWithAppendage 0)) :=
  (dpdk_copies_within_iff plainSession rfl (enterWithAppendage 0) (by decide)).mpr
    (Or.inl (by decide))

/-- A frame of 65536 bytes: none is asked for, and a payload of 65522 is copied. -/
theorem dpdk_copies_past_the_frame :
    let message := enterWithAppendage 65475
    isValidMessage message = true ∧ plainSession.backend.isOpen = true ∧
      .append 0 ∈ orderEvents plainSession message ∧
      .copyPayload 14 (wireBytes message) ∈ orderEvents plainSession message ∧
      (wireBytes message).length = 65522 := by
  intro message
  have hvalid : isValidMessage message = true :=
    isValidMessage_enterWithAppendage (by decide)
  have hlength : (wireBytes message).length = 65522 :=
    (wireBytes_length message).trans (encodedLength_enterWithAppendage _)
  have hcount : narrowedFrameSize (orderRequest message).payload = 0 := by
    apply UInt16.toNat_inj.mp
    rw [toNat_narrowedFrameSize]
    exact congrArg (fun length => (14 + length) % 2 ^ 16) hlength
  have hopen : plainSession.backend.isOpen = true := rfl
  refine ⟨hvalid, hopen, ?_⟩
  rw [orderEvents_eq plainSession hvalid]
  rcases @submitWith_cases _ hopen plainSession.answer (orderRequest message)
      (wireBytes_ne_nil message) with
    ⟨hnone, _⟩ | ⟨tailroom, _, hless, _⟩ | ⟨_, last, _, _, _, hevents⟩
  · cases hnone
  · rw [hcount] at hless
    exact absurd hless (Nat.not_lt_zero tailroom)
  · rw [hevents, hcount]
    refine ⟨List.mem_cons_self, ?_, hlength⟩
    exact List.mem_cons_of_mem _ (List.mem_cons_of_mem _ List.mem_cons_self)

end DpdkExecutionBackend

end Fgep.Execution
