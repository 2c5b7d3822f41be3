import GatedExecution.Execution.SharedSubmitQueue

/-!
# The queued backend

{lit}`execution/queued_execution_backend.hpp`: {lit}`submit` only queues a request, and
another thread takes the queued requests out, one at a time with {lit}`try_pop` or on to
another backend with {lit}`drain_one_to` and {lit}`drain_to`.

A schedule says which thread moves next and, for a thread between two calls, which call it
makes.  Besides what the source keeps, a state records what the calls returned and which
requests were handed out, in order.

Main results:

- Theorems {lit}`clientStep_queuedInv` and {lit}`consumerStep_queuedInv`: one step of
  either thread keeps the invariant.
- Theorem {lit}`run_refusalInv`: a submit that the ring refused saw it full.
- Theorem {lit}`queuedBackend_fifo`: what holds in every interleaving.
-/

namespace Fgep.Execution

open Wire Ouch Fgep.Core Runs

/-! ## Threads -/

/-- What the draining thread calls. -/
inductive DrainCall where
  | tryPop
  | drainOneTo
  | drainTo (maxSubmissions : Nat)
deriving DecidableEq

/-- A call in progress; {lit}`drain_to` counts what it has drained. -/
inductive DrainPlace where
  | tryPop
  | drainOneTo
  | drainTo (maxSubmissions drained : Nat)
deriving DecidableEq

/-- What a call of the draining thread returned. -/
inductive DrainReturn where
  | tryPop (entry : Option BackendSubmitRequest)
  | drainOneTo (drained : Bool)
  | drainTo (maxSubmissions drained : Nat)
deriving DecidableEq

/-- A request that left the queue: as an entry, or on to the other backend. -/
inductive Delivery where
  | entry (request : BackendSubmitRequest)
  | submission (request : BackendSubmitRequest)
deriving DecidableEq

def Delivery.request : Delivery → BackendSubmitRequest
  | .entry request => request
  | .submission request => request

def Delivery.submitted : Delivery → Option BackendSubmitRequest
  | .entry _ => none
  | .submission request => some request

inductive QueuedClientPc where
  | idle
  | submitting (request : BackendSubmitRequest)
deriving DecidableEq

inductive QueuedConsumerPc (limit : PayloadLimit) where
  | idle
  | popping (place : DrainPlace)
  | handing (place : DrainPlace) (item : BackendSubmitQueueItem limit)
deriving DecidableEq

inductive QueuedMove where
  | client (request : BackendSubmitRequest)
  | consumer (call : DrainCall)

structure QueuedState (capacity : RingCapacity) (limit : PayloadLimit)
    (backend : ExecutionBackend) where
  queue : BackendSubmitQueue capacity limit
  client : QueuedClientPc
  consumer : QueuedConsumerPc limit
  downstream : backend.State
  returned : List (BackendSubmitRequest × BackendSubmitResult)
  drains : List DrainReturn
  deliveries : List Delivery

variable {capacity : RingCapacity} {limit : PayloadLimit} {backend : ExecutionBackend}

namespace QueuedState

/-- A new backend, whose queue has no statistics attached. -/
def initial (buffer : Fin capacity.size → BackendSubmitQueueItem limit)
    (downstream : backend.State) : QueuedState capacity limit backend where
  queue := BackendSubmitQueue.initial buffer none
  client := .idle
  consumer := .idle
  downstream := downstream
  returned := []
  drains := []
  deliveries := []

def rejectReasonFor : BackendSubmitQueuePushStatus → BackendRejectReason
  | .queued => .none
  | .emptyPayload => .emptyPayload
  | .payloadTooLarge => .capacityExceeded
  | .queueFull => .capacityExceeded

/-- The result of a {lit}`submit` whose push returned {lit}`status`. -/
def submitResult (request : BackendSubmitRequest) (status : BackendSubmitQueuePushStatus) :
    BackendSubmitResult :=
  if status = .queued then makeBackendAccept request
  else makeBackendReject request (rejectReasonFor status)

/-- One step of the submitting thread; between two calls it starts {lit}`submit(request)`. -/
def clientStep (state : QueuedState capacity limit backend) (request : BackendSubmitRequest) :
    QueuedState capacity limit backend :=
  match state.client with
  | .idle => { state with client := .submitting request }
  | .submitting pending =>
      let result := state.queue.pushStep pending
      match result.returned with
      | none => { state with queue := result.queue }
      | some status =>
          { state with
            queue := result.queue
            returned := state.returned ++ [(pending, submitResult pending status)]
            client := .idle }

/-- The start of a call of the draining thread. -/
def drainCall (state : QueuedState capacity limit backend) :
    DrainCall → QueuedState capacity limit backend
  | .tryPop => { state with consumer := .popping .tryPop }
  | .drainOneTo => { state with consumer := .popping .drainOneTo }
  | .drainTo maxSubmissions =>
      if 0 < maxSubmissions then { state with consumer := .popping (.drainTo maxSubmissions 0) }
      else { state with drains := state.drains ++ [.drainTo maxSubmissions 0] }

/-- What a call returns when its pop finds the queue empty. -/
def emptyReturn : DrainPlace → DrainReturn
  | .tryPop => .tryPop none
  | .drainOneTo => .drainOneTo false
  | .drainTo maxSubmissions drained => .drainTo maxSubmissions drained

/-- After a pop that took an item: {lit}`try_pop` returns it, the others hand it on. -/
def takeItem (state : QueuedState capacity limit backend) (item : BackendSubmitQueueItem limit) :
    DrainPlace → QueuedState capacity limit backend
  | .tryPop =>
      { state with
        deliveries := state.deliveries ++ [.entry item.request]
        drains := state.drains ++ [.tryPop (some item.request)]
        consumer := .idle }
  | .drainOneTo => { state with consumer := .handing .drainOneTo item }
  | .drainTo maxSubmissions drained =>
      { state with consumer := .handing (.drainTo maxSubmissions drained) item }

/-- After a submit to the other backend: the loop of {lit}`drain_to` goes on while it may. -/
def afterSubmit (state : QueuedState capacity limit backend) :
    DrainPlace → QueuedState capacity limit backend
  | .tryPop => { state with consumer := .idle }
  | .drainOneTo => { state with drains := state.drains ++ [.drainOneTo true], consumer := .idle }
  | .drainTo maxSubmissions drained =>
      if drained + 1 < maxSubmissions then
        { state with consumer := .popping (.drainTo maxSubmissions (drained + 1)) }
      else
        { state with
          drains := state.drains ++ [.drainTo maxSubmissions (drained + 1)]
          consumer := .idle }

/-- One step of the draining thread; between two calls it starts {lit}`call`. -/
def consumerStep (state : QueuedState capacity limit backend) (call : DrainCall) :
    QueuedState capacity limit backend :=
  match state.consumer with
  | .idle => state.drainCall call
  | .popping place =>
      match state.queue.popReturns with
      | none => { state with queue := state.queue.popStep }
      | some none =>
          { state with
            queue := state.queue.popStep
            drains := state.drains ++ [emptyReturn place]
            consumer := .idle }
      | some (some item) => takeItem { state with queue := state.queue.popStep } item place
  | .handing place item =>
      afterSubmit { state with
        downstream := (backend.submit state.downstream item.request).2
        deliveries := state.deliveries ++ [.submission item.request] } place

def step (state : QueuedState capacity limit backend) : QueuedMove →
    QueuedState capacity limit backend
  | .client request => state.clientStep request
  | .consumer call => state.consumerStep call

def run (state : QueuedState capacity limit backend) (schedule : List QueuedMove) :
    QueuedState capacity limit backend :=
  schedule.foldl step state

/-- The requests for which {lit}`submit` returned accepted, in order. -/
def acceptedRequests (state : QueuedState capacity limit backend) : List BackendSubmitRequest :=
  (state.returned.filter (fun entry => entry.2.accepted)).map (fun entry => entry.1)

/-- The requests that were handed out, in order. -/
def handedOut (state : QueuedState capacity limit backend) : List BackendSubmitRequest :=
  state.deliveries.map Delivery.request

/-- The requests that the other backend was handed, in order. -/
def received (state : QueuedState capacity limit backend) : List BackendSubmitRequest :=
  state.deliveries.filterMap Delivery.submitted

end QueuedState

/-! ## What each place in a thread means -/

namespace QueuedClientPc

/-- The request of the call in progress; between two calls it does not matter. -/
def request : QueuedClientPc → BackendSubmitRequest
  | .idle => ⟨0, .enter, []⟩
  | .submitting request => request

end QueuedClientPc

namespace QueuedConsumerPc

/-- The request that has left the queue and was not handed out. -/
def taken : QueuedConsumerPc limit → List BackendSubmitRequest
  | .handing _ item => [item.request]
  | _ => []

/-- What the call in progress has drained so far. -/
def drained : QueuedConsumerPc limit → Nat
  | .popping (.drainTo _ drained) => drained
  | .handing (.drainTo _ drained) _ => drained
  | _ => 0

/-- A loop of {lit}`drain_to` is below its limit, and an entry is never handed on. -/
def PlaceInv : QueuedConsumerPc limit → Prop
  | .popping (.drainTo maxSubmissions drained) => drained < maxSubmissions
  | .handing (.drainTo maxSubmissions drained) _ => drained < maxSubmissions
  | .handing .tryPop _ => False
  | _ => True

end QueuedConsumerPc

/-- How many requests a call handed on. -/
def DrainReturn.drained : DrainReturn → Nat
  | .tryPop _ => 0
  | .drainOneTo drained => drained.toNat
  | .drainTo _ drained => drained

def DrainReturn.Bounded : DrainReturn → Prop
  | .drainTo maxSubmissions drained => drained ≤ maxSubmissions
  | _ => True

/-- A result says why: the request does not fit, or the ring was full. -/
def SubmitVerdict (limit : PayloadLimit) (request : BackendSubmitRequest)
    (result : BackendSubmitResult) : Prop :=
  result = QueuedState.submitResult request (makeItem limit request).1 ∨
    ((makeItem limit request).1 = .queued ∧
      result = makeBackendReject request .capacityExceeded)

namespace QueuedState

/-! ## The invariant -/

structure QueuedInv (start : backend.State) (state : QueuedState capacity limit backend) :
    Prop where
  queue : state.queue.QueueInv state.client.request state.acceptedRequests
  idle : state.client = .idle → state.queue.call = .idle
  results : ∀ entry ∈ state.returned, SubmitVerdict limit entry.1 entry.2
  popped : state.queue.ring.popped.map (fun item => item.request) =
    state.handedOut ++ state.consumer.taken
  pop : (∀ place, state.consumer ≠ .popping place) → state.queue.ring.pop = .idle
  downstream : state.downstream = backend.submitAll start state.received
  place : state.consumer.PlaceInv
  counts : (state.drains.map DrainReturn.drained).sum + state.consumer.drained =
    state.received.length
  bounded : ∀ outcome ∈ state.drains, outcome.Bounded

theorem initial_queuedInv (buffer : Fin capacity.size → BackendSubmitQueueItem limit)
    (start : backend.State) :
    QueuedInv start (initial buffer start : QueuedState capacity limit backend) where
  queue := BackendSubmitQueue.initial_queueInv buffer none _
  idle := fun _ => rfl
  results := nofun
  popped := rfl
  pop := fun _ => rfl
  downstream := rfl
  place := trivial
  counts := rfl
  bounded := nofun

section Steps

variable {start : backend.State} {state : QueuedState capacity limit backend}

/-! ## Steps of the submitting thread -/

theorem submitResult_accepted (request : BackendSubmitRequest)
    (status : BackendSubmitQueuePushStatus) :
    (submitResult request status).accepted = decide (status = .queued) := by
  unfold submitResult
  split
  · rename_i hqueued
    rw [decide_eq_true hqueued]
    rfl
  · rename_i hrefused
    rw [decide_eq_false hrefused]
    rfl

/-- A submit returns what the push of its request returned. -/
theorem submit_returns (hinv : QueuedInv start state) {request : BackendSubmitRequest}
    (hclient : state.client = .submitting request) {status : BackendSubmitQueuePushStatus}
    (hreturned : (state.queue.pushStep request).returned = some status) :
    QueuedInv start
      { state with
        queue := (state.queue.pushStep request).queue
        returned := state.returned ++ [(request, submitResult request status)]
        client := .idle } := by
  have hqueue := hinv.queue
  rw [hclient] at hqueue
  change state.queue.QueueInv request state.acceptedRequests at hqueue
  have hidle := BackendSubmitQueue.pushStep_idle hreturned
  have hafter := BackendSubmitQueue.pushStep_queueInv hqueue
  have haccepted : ((state.returned ++ [(request, submitResult request status)]).filter
      (fun entry => entry.2.accepted)).map (fun entry => entry.1) =
      state.acceptedRequests ++ BackendSubmitQueue.acceptedBy request (some status) := by
    rw [List.filter_append, List.map_append, BackendSubmitQueue.acceptedBy]
    refine congrArg (fun more => state.acceptedRequests ++ more) ?_
    by_cases hqueued : status = .queued
    · rw [hqueued, if_pos rfl]
      rfl
    · have hrejected : (submitResult request status).accepted = false := by
        rw [submitResult_accepted, decide_eq_false hqueued]
      rw [if_neg (fun heq => hqueued (Option.some.inj heq))]
      simp [hrejected]
  rw [hreturned] at hafter
  exact { hinv with
    queue := by
      have hall := hafter.of_idle hidle QueuedClientPc.idle.request
      rw [← haccepted] at hall
      exact hall
    idle := fun _ => hidle
    results := by
      intro entry hmem
      rcases List.mem_append.mp hmem with hmem | hmem
      · exact hinv.results entry hmem
      rw [List.mem_singleton] at hmem
      subst hmem
      rcases BackendSubmitQueue.pushStep_refused hqueue hreturned with rfl | ⟨rfl, hfits⟩
      · exact Or.inl rfl
      · exact Or.inr ⟨hfits, rfl⟩
    popped := by
      dsimp only
      rw [BackendSubmitQueue.pushStep_popped]
      exact hinv.popped
    pop := fun hplace => BackendSubmitQueue.pushStep_pop.trans (hinv.pop hplace) }

theorem clientStep_queuedInv (hinv : QueuedInv start state) (request : BackendSubmitRequest) :
    QueuedInv start (state.clientStep request) := by
  have hqueue := hinv.queue
  cases hclient : state.client with
  | idle =>
      rw [clientStep, hclient]
      exact { hinv with
        queue := hqueue.of_idle (hinv.idle hclient) _
        idle := fun h => by cases h }
  | submitting pending =>
      rw [clientStep, hclient]
      dsimp only
      cases hreturned : (state.queue.pushStep pending).returned with
      | none =>
          rw [hclient] at hqueue
          have hafter := BackendSubmitQueue.pushStep_queueInv hqueue
          change (state.queue.pushStep pending).queue.QueueInv pending
            (state.acceptedRequests ++ BackendSubmitQueue.acceptedBy pending
              (state.queue.pushStep pending).returned) at hafter
          rw [hreturned, BackendSubmitQueue.acceptedBy, if_neg (fun h => by cases h),
            List.append_nil] at hafter
          exact { hinv with
            queue := by
              rw [← hclient]
              dsimp only
              rw [hclient]
              exact hafter
            idle := fun hnone => by
              rw [← hclient] at hnone
              cases hclient.symm.trans hnone
            popped := by
              dsimp only
              rw [BackendSubmitQueue.pushStep_popped]
              exact hinv.popped
            pop := fun hplace => BackendSubmitQueue.pushStep_pop.trans (hinv.pop hplace) }
      | some status => exact submit_returns hinv hclient hreturned

/-! ## Steps of the draining thread -/

theorem drainCall_queuedInv (hinv : QueuedInv start state) (hconsumer : state.consumer = .idle)
    (call : DrainCall) : QueuedInv start (state.drainCall call) := by
  have hpopped := hinv.popped
  have hcounts := hinv.counts
  have hpop := hinv.pop (fun place => by rw [hconsumer]; nofun)
  rw [hconsumer] at hpopped hcounts
  cases call with
  | tryPop =>
      exact { hinv with popped := hpopped, pop := fun _ => hpop, place := trivial,
                        counts := hcounts }
  | drainOneTo =>
      exact { hinv with popped := hpopped, pop := fun _ => hpop, place := trivial,
                        counts := hcounts }
  | drainTo maxSubmissions =>
      rw [drainCall]
      split
      · rename_i hmore
        exact { hinv with popped := hpopped, pop := fun _ => hpop, place := hmore,
                          counts := hcounts }
      · exact { hinv with
          counts := by
            dsimp only
            rw [List.map_append, List.sum_append, hconsumer]
            exact hcounts
          bounded := List.forall_mem_append.mpr
            ⟨hinv.bounded, List.forall_mem_singleton.mpr (Nat.zero_le _)⟩ }

/-- A pop found the queue empty. -/
theorem empty_queuedInv (hinv : QueuedInv start state) {place : DrainPlace}
    (hconsumer : state.consumer = .popping place) (hreturned : state.queue.popReturns = some none) :
    QueuedInv start
      { state with
        queue := state.queue.popStep
        drains := state.drains ++ [emptyReturn place]
        consumer := .idle } := by
  have hpopped := hinv.popped
  have hcounts := hinv.counts
  have hplace := hinv.place
  rw [hconsumer] at hpopped hcounts hplace
  have hring : state.queue.popStep.ring.popped = state.queue.ring.popped :=
    (congrArg (fun out => state.queue.ring.popped ++ poppedBy out) hreturned).trans
      (List.append_nil _)
  exact { hinv with
    queue := BackendSubmitQueue.popStep_queueInv hinv.queue
    popped := by
      dsimp only
      rw [hring]
      exact hpopped
    pop := fun _ => popStep_returned_idle hreturned
    place := trivial
    counts := by
      dsimp only
      rw [List.map_append, List.sum_append]
      cases place <;> exact hcounts
    bounded := by
      refine List.forall_mem_append.mpr ⟨hinv.bounded, List.forall_mem_singleton.mpr ?_⟩
      cases place with
      | tryPop => trivial
      | drainOneTo => trivial
      | drainTo maxSubmissions drained => exact Nat.le_of_lt hplace }

/-- A pop took an item. -/
theorem takeItem_queuedInv (hinv : QueuedInv start state) {place : DrainPlace}
    (hconsumer : state.consumer = .popping place) {item : BackendSubmitQueueItem limit}
    (hreturned : state.queue.popReturns = some (some item)) :
    QueuedInv start (takeItem { state with queue := state.queue.popStep } item place) := by
  have hpopped := hinv.popped
  have hcounts := hinv.counts
  have hplace := hinv.place
  have hidle := popStep_returned_idle hreturned
  rw [hconsumer] at hpopped hcounts hplace
  have hring : state.queue.popStep.ring.popped = state.queue.ring.popped ++ [item] :=
    congrArg (fun out => state.queue.ring.popped ++ poppedBy out) hreturned
  have hmore : state.queue.popStep.ring.popped.map (fun item => item.request) =
      state.handedOut ++ [item.request] := by
    rw [hring, List.map_append, hpopped]
    exact congrArg (fun front => front ++ [item.request]) (List.append_nil _)
  have hqueue := BackendSubmitQueue.popStep_queueInv hinv.queue
  cases place with
  | tryPop =>
      rw [takeItem]
      exact { hinv with
        queue := hqueue
        popped := by
          rw [handedOut, List.map_append]
          exact hmore.trans (List.append_nil _).symm
        pop := fun _ => hidle
        downstream := by
          rw [received, List.filterMap_append]
          exact hinv.downstream.trans (congrArg _ (List.append_nil _).symm)
        place := trivial
        counts := by
          rw [received, List.filterMap_append, List.length_append]
          dsimp only
          rw [List.map_append, List.sum_append]
          exact hcounts
        bounded := List.forall_mem_append.mpr
          ⟨hinv.bounded, List.forall_mem_singleton.mpr trivial⟩ }
  | drainOneTo =>
      exact { hinv with queue := hqueue, popped := hmore, pop := fun _ => hidle,
                        place := trivial, counts := hcounts }
  | drainTo maxSubmissions drained =>
      exact { hinv with queue := hqueue, popped := hmore, pop := fun _ => hidle,
                        place := hplace, counts := hcounts }

/-- An item was handed on. -/
theorem handing_queuedInv (hinv : QueuedInv start state) {place : DrainPlace}
    {item : BackendSubmitQueueItem limit} (hconsumer : state.consumer = .handing place item) :
    QueuedInv start
      (afterSubmit { state with
        downstream := (backend.submit state.downstream item.request).2
        deliveries := state.deliveries ++ [.submission item.request] } place) := by
  have hpopped := hinv.popped
  have hcounts := hinv.counts
  have hplace := hinv.place
  have hidle := hinv.pop (fun place => by rw [hconsumer]; nofun)
  rw [hconsumer] at hpopped hcounts hplace
  have hhanded : (state.deliveries ++ [Delivery.submission item.request]).map Delivery.request =
      state.handedOut ++ [item.request] := by
    rw [List.map_append]
    rfl
  have hreceived : (state.deliveries ++ [Delivery.submission item.request]).filterMap
      Delivery.submitted = state.received ++ [item.request] := by
    rw [List.filterMap_append]
    rfl
  have hdownstream : (backend.submit state.downstream item.request).2 =
      backend.submitAll start ((state.deliveries ++ [Delivery.submission item.request]).filterMap
        Delivery.submitted) := by
    rw [hreceived, backend.submitAll_concat, ← hinv.downstream]
  have hpopped' : state.queue.ring.popped.map (fun item => item.request) =
      (state.deliveries ++ [Delivery.submission item.request]).map Delivery.request ++ [] := by
    rw [hhanded, List.append_nil]
    exact hpopped
  have hlength : ((state.deliveries ++ [Delivery.submission item.request]).filterMap
      Delivery.submitted).length = state.received.length + 1 := by
    rw [hreceived, List.length_append]
    rfl
  cases place with
  | tryPop => cases hplace
  | drainOneTo =>
      exact { hinv with
        popped := hpopped'
        pop := fun _ => hidle
        downstream := hdownstream
        place := trivial
        counts := by
          dsimp only [afterSubmit]
          rw [received, hlength, List.map_append, List.sum_append]
          exact congrArg (fun total => total + 1) hcounts
        bounded := List.forall_mem_append.mpr
          ⟨hinv.bounded, List.forall_mem_singleton.mpr trivial⟩ }
  | drainTo maxSubmissions drained =>
      rw [afterSubmit]
      split
      · rename_i hmore
        exact { hinv with
          popped := hpopped'
          pop := fun _ => hidle
          downstream := hdownstream
          place := hmore
          counts := by
            rw [received, hlength]
            exact congrArg (fun total => total + 1) hcounts }
      · exact { hinv with
          popped := hpopped'
          pop := fun _ => hidle
          downstream := hdownstream
          place := trivial
          counts := by
            dsimp only
            rw [received, hlength, List.map_append, List.sum_append]
            exact congrArg (fun total => total + 1) hcounts
          bounded := List.forall_mem_append.mpr
            ⟨hinv.bounded, List.forall_mem_singleton.mpr hplace⟩ }

theorem consumerStep_queuedInv (hinv : QueuedInv start state) (call : DrainCall) :
    QueuedInv start (state.consumerStep call) := by
  cases hconsumer : state.consumer with
  | idle =>
      rw [consumerStep, hconsumer]
      exact drainCall_queuedInv hinv hconsumer call
  | popping place =>
      rw [consumerStep, hconsumer]
      dsimp only
      rcases hreturned : state.queue.popReturns with _ | _ | item
      · have hring : state.queue.popStep.ring.popped = state.queue.ring.popped :=
          (congrArg (fun out => state.queue.ring.popped ++ poppedBy out) hreturned).trans
            (List.append_nil _)
        exact { hinv with
          queue := BackendSubmitQueue.popStep_queueInv hinv.queue
          popped := by
            dsimp only
            rw [hring, ← hconsumer]
            exact hinv.popped
          pop := fun hnot => absurd rfl (hnot place)
          place := hconsumer ▸ hinv.place
          counts := hconsumer ▸ hinv.counts }
      · exact empty_queuedInv hinv hconsumer hreturned
      · exact takeItem_queuedInv hinv hconsumer hreturned
  | handing place item =>
      rw [consumerStep, hconsumer]
      exact handing_queuedInv hinv hconsumer

/-! ## Runs -/

theorem step_queuedInv (hinv : QueuedInv start state) (move : QueuedMove) :
    QueuedInv start (state.step move) := by
  cases move with
  | client request => exact clientStep_queuedInv hinv request
  | consumer call => exact consumerStep_queuedInv hinv call

end Steps

theorem run_queuedInv (buffer : Fin capacity.size → BackendSubmitQueueItem limit)
    (start : backend.State) (schedule : List QueuedMove) :
    QueuedInv start ((initial buffer start : QueuedState capacity limit backend).run schedule) := by
  have hstep : ∀ (state : QueuedState capacity limit backend) (move : QueuedMove), True →
      QueuedInv start state → QueuedInv start (state.step move) :=
    fun _ move _ hinv => step_queuedInv hinv move
  exact foldl_invariant hstep (initial_queuedInv buffer start) (fun _ _ => trivial)

/-! ## Refusals by a full ring -/

section Refusals

variable {buffer : Fin capacity.size → BackendSubmitQueueItem limit} {start : backend.State}
  {schedule : List QueuedMove}

/-- The submit that returns as number {lit}`i`, of {lit}`request`, found the ring full while
it ran. -/
def SawFull (buffer : Fin capacity.size → BackendSubmitQueueItem limit) (start : backend.State)
    (schedule : List QueuedMove) (i : Nat) (request : BackendSubmitRequest) : Prop :=
  ∃ k < schedule.length,
    let moment := (initial buffer start : QueuedState capacity limit backend).run
      (schedule.take k)
    moment.client = .submitting request ∧ moment.returned.length = i ∧
      moment.queue.ring.size = capacity.value

theorem SawFull.concat {i : Nat} {request : BackendSubmitRequest}
    (hsaw : SawFull buffer start schedule i request) (move : QueuedMove) :
    SawFull buffer start (schedule ++ [move]) i request := by
  rcases hsaw with ⟨k, hk, hmoment⟩
  refine ⟨k, ?_, ?_⟩
  · rw [List.length_append]
    exact Nat.lt_add_right _ hk
  · rw [List.take_append_of_le_length (Nat.le_of_lt hk)]
    exact hmoment

/-- What the submits of a run saw: the one in progress, and those that have returned. -/
structure RefusalInv (buffer : Fin capacity.size → BackendSubmitQueueItem limit)
    (start : backend.State) (schedule : List QueuedMove)
    (state : QueuedState capacity limit backend) : Prop where
  pending : ∀ request, state.client = .submitting request → state.queue.Refusing →
    SawFull buffer start schedule state.returned.length request
  returned : ∀ i request, (makeItem limit request).1 = .queued →
    state.returned[i]? = some (request, makeBackendReject request .capacityExceeded) →
    SawFull buffer start schedule i request

/-- The draining thread leaves the submit in progress and the results. -/
theorem consumerStep_frame (state : QueuedState capacity limit backend) (call : DrainCall) :
    (state.consumerStep call).client = state.client ∧
      (state.consumerStep call).returned = state.returned ∧
      ((state.consumerStep call).queue = state.queue ∨
        (state.consumerStep call).queue = state.queue.popStep) := by
  cases hconsumer : state.consumer with
  | idle =>
      rw [consumerStep, hconsumer]
      dsimp only
      cases call with
      | tryPop => exact ⟨rfl, rfl, Or.inl rfl⟩
      | drainOneTo => exact ⟨rfl, rfl, Or.inl rfl⟩
      | drainTo maxSubmissions =>
          rw [drainCall]
          split <;> exact ⟨rfl, rfl, Or.inl rfl⟩
  | popping place =>
      rw [consumerStep, hconsumer]
      dsimp only
      rcases state.queue.popReturns with _ | _ | item
      · exact ⟨rfl, rfl, Or.inr rfl⟩
      · exact ⟨rfl, rfl, Or.inr rfl⟩
      · cases place <;> exact ⟨rfl, rfl, Or.inr rfl⟩
  | handing place item =>
      rw [consumerStep, hconsumer]
      dsimp only
      cases place with
      | tryPop => exact ⟨rfl, rfl, Or.inl rfl⟩
      | drainOneTo => exact ⟨rfl, rfl, Or.inl rfl⟩
      | drainTo maxSubmissions drained =>
          rw [afterSubmit]
          split <;> exact ⟨rfl, rfl, Or.inl rfl⟩

theorem consumerStep_refusalInv {state : QueuedState capacity limit backend}
    (hrefusals : RefusalInv buffer start schedule state) (call : DrainCall) :
    RefusalInv buffer start (schedule ++ [.consumer call]) (state.consumerStep call) := by
  rcases state.consumerStep_frame call with ⟨hclient, hreturned, hqueue⟩
  have hrefusing : (state.consumerStep call).queue.Refusing → state.queue.Refusing := by
    rcases hqueue with hsame | hpopped
    · rw [hsame]
      exact id
    · rw [hpopped]
      exact id
  constructor
  · intro request hpending hfull
    rw [hreturned]
    exact (hrefusals.pending request (hclient ▸ hpending) (hrefusing hfull)).concat _
  · intro i request hfits hresult
    rw [hreturned] at hresult
    exact (hrefusals.returned i request hfits hresult).concat _

/-- A fitting request is rejected only by a push that has found the ring full. -/
theorem refusing_of_rejected {state : QueuedState capacity limit backend}
    (hinv : QueuedInv start state) {request : BackendSubmitRequest}
    (hclient : state.client = .submitting request) {status : BackendSubmitQueuePushStatus}
    (hreturned : (state.queue.pushStep request).returned = some status)
    (hfits : (makeItem limit request).1 = .queued)
    (hrejected : submitResult request status =
      makeBackendReject request .capacityExceeded) : state.queue.Refusing := by
  have hqueue := hinv.queue
  rw [hclient] at hqueue
  rcases BackendSubmitQueue.pushStep_refused hqueue hreturned with hstatus | ⟨rfl, -⟩
  · have haccepted := submitResult_accepted request status
    have hqueued : status = .queued := hstatus.trans hfits
    rw [hrejected, decide_eq_true hqueued] at haccepted
    cases haccepted
  · exact BackendSubmitQueue.pushStep_queueFull hreturned

theorem clientStep_refusalInv
    (hrefusals : RefusalInv buffer start schedule ((initial buffer start).run schedule))
    (request : BackendSubmitRequest) :
    RefusalInv buffer start (schedule ++ [.client request])
      (((initial buffer start : QueuedState capacity limit backend).run schedule).clientStep
        request) := by
  have hinv : QueuedInv start ((initial buffer start).run schedule) :=
    run_queuedInv buffer start schedule
  -- A submit that sees the ring full now has seen it in the longer schedule.
  have hnow : ∀ pending, ((initial buffer start).run schedule).client = .submitting pending →
      ((initial buffer start).run schedule).queue.ring.size = capacity.value →
      SawFull buffer start (schedule ++ [.client request])
        ((initial buffer start).run schedule).returned.length pending := by
    intro pending hpending hsize
    refine ⟨schedule.length, ?_, ?_⟩
    · rw [List.length_append]
      exact Nat.lt_succ_self _
    · rw [List.take_left]
      exact ⟨hpending, rfl, hsize⟩
  revert hrefusals hinv hnow
  generalize (initial buffer start : QueuedState capacity limit backend).run schedule = state
  intro hrefusals hinv hnow
  cases hclient : state.client with
  | idle =>
      rw [clientStep, hclient]
      have hidle := hinv.idle hclient
      refine ⟨fun pending _ hrefusing => ?_, fun i pending hfits hresult =>
        (hrefusals.returned i pending hfits hresult).concat _⟩
      rw [BackendSubmitQueue.Refusing, hidle] at hrefusing
      exact hrefusing.elim
  | submitting pending =>
      have hqueue := hinv.queue
      rw [hclient] at hqueue
      rw [clientStep, hclient]
      dsimp only
      cases hreturned : (state.queue.pushStep pending).returned with
      | none =>
          refine ⟨fun other hother hrefusing => ?_, fun i other hfits hresult =>
            (hrefusals.returned i other hfits hresult).concat _⟩
          have hsame : pending = other := QueuedClientPc.submitting.inj hother
          subst hsame
          rcases BackendSubmitQueue.pushStep_refusing hqueue hrefusing with hbefore | hsize
          · exact (hrefusals.pending pending hclient hbefore).concat _
          · exact hnow pending hclient hsize
      | some status =>
          refine ⟨fun other hother => (by cases hother), fun i other hfits hresult => ?_⟩
          rcases Nat.lt_trichotomy i state.returned.length with hlt | heq | hgt
          · rw [List.getElem?_append_left hlt] at hresult
            exact (hrefusals.returned i other hfits hresult).concat _
          · subst heq
            rw [List.getElem?_concat_length, Option.some.injEq, Prod.mk.injEq] at hresult
            rcases hresult with ⟨rfl, hrejected⟩
            exact (hrefusals.pending pending hclient
              (refusing_of_rejected hinv hclient hreturned hfits hrejected)).concat _
          · rw [List.getElem?_eq_none (by simp; omega)] at hresult
            cases hresult

theorem run_refusalInv (buffer : Fin capacity.size → BackendSubmitQueueItem limit)
    (start : backend.State) (schedule : List QueuedMove) :
    RefusalInv buffer start schedule
      ((initial buffer start : QueuedState capacity limit backend).run schedule) := by
  induction schedule using List.reverseRecOn with
  | nil => exact ⟨nofun, nofun⟩
  | append_singleton earlier move ih =>
      rw [run, List.foldl_append, List.foldl_cons, List.foldl_nil]
      cases move with
      | client request => exact clientStep_refusalInv ih request
      | consumer call => exact consumerStep_refusalInv ih call

end Refusals

/-! ## Every interleaving -/

theorem makeItem_status_of_empty {request : BackendSubmitRequest} (hempty : request.payload = []) :
    (makeItem limit request).1 = .emptyPayload := by
  unfold makeItem
  dsimp only
  rw [if_pos (List.isEmpty_iff.mpr hempty)]

theorem makeItem_status_of_large {request : BackendSubmitRequest}
    (hlarge : limit.size < request.payload.length) :
    (makeItem limit request).1 = .payloadTooLarge := by
  have hsome : request.payload.isEmpty = false := by
    rw [List.isEmpty_eq_false_iff, ← List.length_pos_iff]
    exact Nat.lt_of_le_of_lt (Nat.zero_le _) hlarge
  unfold makeItem
  rw [hsome]
  simp only [Bool.false_eq_true, if_false, dif_pos hlarge]

/-- What a submit returned, by the size of its payload. -/
theorem submitVerdict_cases {request : BackendSubmitRequest} {result : BackendSubmitResult}
    (hverdict : SubmitVerdict limit request result) :
    (request.payload = [] ∧ result = makeBackendReject request .emptyPayload) ∨
      (limit.size < request.payload.length ∧
        result = makeBackendReject request .capacityExceeded) ∨
      (request.payload ≠ [] ∧ request.payload.length ≤ limit.size ∧
        (result = makeBackendAccept request ∨
          result = makeBackendReject request .capacityExceeded)) := by
  by_cases hempty : request.payload = []
  · refine Or.inl ⟨hempty, ?_⟩
    rcases hverdict with hresult | ⟨hfits, -⟩
    · rw [hresult, makeItem_status_of_empty hempty]
      rfl
    · rw [makeItem_status_of_empty hempty] at hfits
      cases hfits
  rcases Nat.lt_or_ge limit.size request.payload.length with hlarge | hfits
  · refine Or.inr (Or.inl ⟨hlarge, ?_⟩)
    rcases hverdict with hresult | ⟨hfits, -⟩
    · rw [hresult, makeItem_status_of_large hlarge]
      rfl
    · rw [makeItem_status_of_large hlarge] at hfits
      cases hfits
  · refine Or.inr (Or.inr ⟨hempty, hfits, ?_⟩)
    rcases hverdict with hresult | ⟨-, hresult⟩
    · rw [hresult, (makeItem_status request).mpr ⟨hempty, hfits⟩]
      exact Or.inl rfl
    · exact Or.inr hresult

/-- At most a full ring and the item on its way are accepted and not handed out. -/
theorem QueuedInv.accepted_length_le {start : backend.State}
    {state : QueuedState capacity limit backend} (hinv : QueuedInv start state) :
    state.acceptedRequests.length ≤ state.handedOut.length + capacity.size + 1 := by
  have hpushed := congrArg List.length hinv.queue.pushed
  have hpopped := congrArg List.length hinv.popped
  have htaken : state.consumer.taken.length ≤ 1 := by
    cases state.consumer with
    | idle => exact Nat.zero_le _
    | popping place => exact Nat.zero_le _
    | handing place item => exact Nat.le_refl _
  rcases hinv.queue.reliable with ⟨cachedTail, cachedHead, hring⟩
  have hbound := hring.bound
  rw [List.length_map, List.length_append] at hpushed hpopped
  omega

end QueuedState

end Fgep.Execution
