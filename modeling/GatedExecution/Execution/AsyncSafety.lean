import GatedExecution.Execution.AsyncBackend

/-!
# Every accepted request is handed on exactly once

What the client was told is tied to what the ring was given, and what the downstream
backend was handed to what the ring gave out.  The worker ends only after it has seen
the flag, which the client sets when it begins to wait, and then the queue empty: at
that moment nothing is left between the two.

Main results:

- Theorems {lit}`clientStep_asyncInv` and {lit}`workerStep_asyncInv`: one step of
  either thread keeps the invariant.
- Theorem {lit}`run_asyncInv`: it holds after every schedule.
-/

namespace Fgep.Execution

open Wire Ouch Fgep.Core Runs WrappingCounter

variable {capacity : RingCapacity} {limit : PayloadLimit} {backend : ExecutionBackend}

/-! ## What each place in a thread means -/

namespace ClientPc

/-- The request of a call that has not returned. -/
def inCall : ClientPc limit → List BackendSubmitRequest
  | .pushing request _ => [request]
  | .recordQueued request => [request]
  | .recordRingFull request => [request]
  | .recordRejected request _ => [request]
  | _ => []

/-- The request that is in the ring though its call has not returned. -/
def published : ClientPc limit → List BackendSubmitRequest
  | .recordQueued request => [request]
  | _ => []

def waiting : ClientPc limit → Bool
  | .joining => true
  | _ => false

/-- The ring is being pushed to only inside a call, with that call's item. -/
def PushInv (push : PushPc (BackendSubmitQueueItem limit)) : ClientPc limit → Prop
  | .pushing request item => makeItem limit request = (.queued, item) ∧ push.Holds item
  | _ => push = .idle

end ClientPc

namespace WorkerPc

/-- The request that has left the ring and not reached the backend. -/
def taken : WorkerPc limit → List BackendSubmitRequest
  | .submitting item => [item.request]
  | _ => []

/-- How many results are not counted yet. -/
def unrecorded : WorkerPc limit → Nat
  | .recording _ => 1
  | _ => 0

def PopInv (pop : PopPc (BackendSubmitQueueItem limit)) : WorkerPc limit → Prop
  | .polling => True
  | _ => pop = .idle

/-- What the worker knows on its way out of the loop. -/
def ExitInv (stopRequested : Bool) (ring : SpscState (BackendSubmitQueueItem limit) capacity) :
    WorkerPc limit → Prop
  | .loadTail => stopRequested = true
  | .loadHead tail => stopRequested = true ∧ tail = ring.ring.tail
  | .clearRunning => stopRequested = true ∧ ring.contents = []
  | .finished => stopRequested = true ∧ ring.contents = []
  | _ => True

/-- Before the flag is set the worker is not on its way out. -/
theorem ExitInv.of_not_stopped {worker : WorkerPc limit}
    {ring ring' : SpscState (BackendSubmitQueueItem limit) capacity}
    (hexit : worker.ExitInv false ring) (stopRequested : Bool) :
    worker.ExitInv stopRequested ring' := by
  cases worker with
  | notJoinable => trivial
  | storeRunning => trivial
  | loadStop => trivial
  | loadTail => cases hexit
  | loadHead tail => cases hexit.1
  | polling => trivial
  | submitting item => trivial
  | recording result => trivial
  | clearRunning => cases hexit.1
  | finished => cases hexit.1

end WorkerPc

namespace AsyncState

/-! ## The invariant -/

/-- The counters, given what has returned and what was received. -/
structure Counted (stats : CoreStats) (accepted returned received unrecorded : Nat) : Prop where
  queued : stats.load .submitQueued = UInt64.ofNat accepted
  submits : stats.load .submitQueued + stats.load .submitRejected = UInt64.ofNat returned
  results : stats.load .backendAccepted + stats.load .backendRejected + UInt64.ofNat unrecorded =
    UInt64.ofNat received

section Counted

variable {stats : CoreStats} {accepted returned received : Nat}

theorem Counted.increment_submitQueued {unrecorded : Nat}
    (hcounted : Counted stats accepted returned received unrecorded) :
    Counted (stats.increment .submitQueued) (accepted + 1) (returned + 1) received unrecorded := by
  have hqueued := hcounted.queued
  have hsubmits := hcounted.submits
  constructor
  · simp only [CoreStats.load_increment, if_true, hqueued, ofNat_add_one]
  · simp only [CoreStats.load_increment, if_true, reduceCtorEq, if_false, UInt64.add_zero]
    rw [UInt64.add_assoc, UInt64.add_comm 1, ← UInt64.add_assoc, hsubmits, ofNat_add_one]
  · simp only [CoreStats.load_increment, reduceCtorEq, if_false, UInt64.add_zero]
    exact hcounted.results

theorem Counted.increment_submitRejected {unrecorded : Nat}
    (hcounted : Counted stats accepted returned received unrecorded) :
    Counted (stats.increment .submitRejected) accepted (returned + 1) received unrecorded := by
  have hsubmits := hcounted.submits
  constructor
  · simp only [CoreStats.load_increment, reduceCtorEq, if_false, UInt64.add_zero]
    exact hcounted.queued
  · simp only [CoreStats.load_increment, if_true, reduceCtorEq, if_false, UInt64.add_zero]
    rw [← UInt64.add_assoc, hsubmits, ofNat_add_one]
  · simp only [CoreStats.load_increment, reduceCtorEq, if_false, UInt64.add_zero]
    exact hcounted.results

theorem Counted.increment_ringFull {unrecorded : Nat}
    (hcounted : Counted stats accepted returned received unrecorded) :
    Counted (stats.increment .ringFull) accepted returned received unrecorded := by
  constructor
  all_goals simp only [CoreStats.load_increment, reduceCtorEq, if_false, UInt64.add_zero]
  · exact hcounted.queued
  · exact hcounted.submits
  · exact hcounted.results

/-- One more request was received and its result is not counted yet. -/
theorem Counted.receive (hcounted : Counted stats accepted returned received 0) :
    Counted stats accepted returned (received + 1) 1 where
  queued := hcounted.queued
  submits := hcounted.submits
  results := by
    have hresults : stats.load .backendAccepted + stats.load .backendRejected + 0 =
        UInt64.ofNat received := hcounted.results
    rw [UInt64.add_zero] at hresults
    rw [hresults, ← UInt64.ofNat_add]

/-- The result is counted on one of the two counters of results. -/
theorem Counted.increment_result (hcounted : Counted stats accepted returned received 1)
    {counter : CoreCounter} (hcounter : counter = .backendAccepted ∨ counter = .backendRejected) :
    Counted (stats.increment counter) accepted returned received 0 := by
  have hresults := hcounted.results
  rcases hcounter with rfl | rfl
  · constructor
    all_goals simp only [CoreStats.load_increment, if_true, reduceCtorEq, if_false, UInt64.add_zero]
    · exact hcounted.queued
    · exact hcounted.submits
    · rw [UInt64.add_assoc _ 1, UInt64.add_comm 1, ← UInt64.add_assoc]
      exact (UInt64.add_zero _).trans hresults
  · constructor
    all_goals simp only [CoreStats.load_increment, if_true, reduceCtorEq, if_false, UInt64.add_zero]
    · exact hcounted.queued
    · exact hcounted.submits
    · rw [← UInt64.add_assoc _ _ 1]
      exact (UInt64.add_zero _).trans hresults

end Counted

/-- What a state has to do with the state {lit}`start` the downstream backend began in
and with the counters {lit}`base` that were attached. -/
structure AsyncInv (start : backend.State) (base : CoreStats)
    (state : AsyncState capacity limit backend) : Prop where
  reliable : state.ring.Reliable
  downstream : state.downstream = backend.submitAll start state.received
  calls : state.calls = state.returned.map (fun entry => entry.1) ++ state.client.inCall
  pushed : state.ring.pushed.map (fun item => item.request) =
    state.acceptedRequests ++ state.client.published
  push : state.client.PushInv state.ring.push
  popped : state.ring.popped.map (fun item => item.request) =
    state.received ++ state.worker.taken
  pop : state.worker.PopInv state.ring.pop
  stop : state.worker = .notJoinable ∨ state.stopRequested = state.client.waiting
  exit : state.worker.ExitInv state.stopRequested state.ring
  joined : state.client = .stopped → state.worker = .notJoinable ∧ state.ring.contents = []
  counted : ∀ stats, state.stats = some stats →
    Counted (stats.since base) state.acceptedRequests.length state.returned.length
      state.received.length state.worker.unrecorded

theorem initial_asyncInv (buffer : Fin capacity.size → BackendSubmitQueueItem limit)
    (start : backend.State) {stats : Option CoreStats} (startWorker : Bool) (memory : Bytes)
    {base : CoreStats} (hstats : ∀ attached, stats = some attached → attached = base) :
    AsyncInv start base
      (initial buffer start stats startWorker memory : AsyncState capacity limit backend) where
  reliable := SpscState.run_reliable buffer []
  downstream := rfl
  calls := rfl
  pushed := rfl
  push := rfl
  popped := by cases startWorker <;> rfl
  pop := by cases startWorker <;> rfl
  stop := Or.inr rfl
  exit := by cases startWorker <;> trivial
  joined := nofun
  counted := by
    intro attached hattached
    rw [hstats attached hattached]
    constructor
    · rw [CoreStats.since_self]
      rfl
    · rw [CoreStats.since_self, CoreStats.since_self]
      rfl
    · rw [CoreStats.since_self, CoreStats.since_self]
      cases startWorker <;> rfl

/-! ## Steps of the client -/

section Client

variable {start : backend.State} {base : CoreStats} {state : AsyncState capacity limit backend}

theorem AsyncInv.not_stopped (hinv : AsyncInv start base state)
    (hclient : state.client.waiting = false) : state.worker.ExitInv false state.ring := by
  have hexit := hinv.exit
  rcases hinv.stop with hworker | hstop
  · rw [hworker]
    trivial
  · rwa [hstop, hclient] at hexit

/-- A client that moves on to {lit}`after` and leaves ring, worker and results alone. -/
theorem AsyncInv.moveClient (hinv : AsyncInv start base state) {after : ClientPc limit}
    {calls : List BackendSubmitRequest} {stopRequested : Bool}
    (hcalls : calls = state.returned.map (fun entry => entry.1) ++ after.inCall)
    (hpublished : after.published = state.client.published)
    (hpush : after.PushInv state.ring.push)
    (hstop : state.worker = .notJoinable ∨ stopRequested = after.waiting)
    (hexit : state.worker.ExitInv stopRequested state.ring) (hafter : after ≠ .stopped) :
    AsyncInv start base
      { state with calls := calls, stopRequested := stopRequested, client := after } :=
  { hinv with
    calls := hcalls
    pushed := hinv.pushed.trans
      (congrArg (fun published => state.acceptedRequests ++ published) hpublished.symm)
    push := hpush
    stop := hstop
    exit := hexit
    joined := fun hstopped => absurd hstopped hafter }

/-- A worker that is started where there was none. -/
theorem AsyncInv.startWorker (hinv : AsyncInv start base state)
    (hworker : state.worker = .notJoinable) (hstop : state.stopRequested = state.client.waiting)
    (hclient : state.client ≠ .stopped) :
    AsyncInv start base { state with worker := .storeRunning } := by
  have hpopped := hinv.popped
  have hpop := hinv.pop
  have hcounted := hinv.counted
  rw [hworker] at hpopped hpop hcounted
  exact { hinv with
    popped := hpopped
    pop := hpop
    stop := Or.inr hstop
    exit := trivial
    joined := fun hstopped => absurd hstopped hclient
    counted := hcounted }

/-- A client between two calls may do anything. -/
theorem clientCall_asyncInv (hinv : AsyncInv start base state)
    (hclient : state.client = .idle ∨ state.client = .stopped) (call : ClientCall) :
    AsyncInv start base (state.clientCall call) := by
  have hinCall : state.client.inCall = [] := by rcases hclient with h | h <;> rw [h] <;> rfl
  have hpublished : state.client.published = [] := by rcases hclient with h | h <;> rw [h] <;> rfl
  have hwaiting : state.client.waiting = false := by rcases hclient with h | h <;> rw [h] <;> rfl
  have hpush : state.ring.push = .idle := by
    have hpush := hinv.push
    rcases hclient with h | h <;> rw [h] at hpush <;> exact hpush
  have hcalls := hinv.calls
  have hstop := hinv.stop
  have hrunning := hinv.not_stopped hwaiting
  rw [hinCall] at hcalls
  rw [hwaiting] at hstop
  cases call with
  | overwrite memory => exact { hinv with }
  | submit userRefNum kind offset length =>
      have hbegun : ∀ request, state.calls ++ [request] =
          state.returned.map (fun entry => entry.1) ++ [request] :=
        fun request => congrArg (fun front => front ++ [request]) (hcalls.trans (List.append_nil _))
      rw [clientCall]
      split
      · exact hinv.moveClient (hbegun _) hpublished.symm hpush hstop hinv.exit nofun
      · rename_i hqueued
        rw [not_not] at hqueued
        refine hinv.moveClient (hbegun _) hpublished.symm ⟨Prod.ext hqueued rfl, ?_⟩ hstop
          hinv.exit nofun
        rw [hpush]
        trivial
  | start =>
      rw [clientCall]
      split
      · rename_i hworker
        have hidle := @AsyncInv.moveClient _ _ _ _ _ _ hinv .idle _ false hcalls hpublished.symm
          hpush (Or.inr rfl) hrunning nofun
        exact hidle.startWorker hworker rfl nofun
      · exact hinv.moveClient hcalls hpublished.symm hpush hstop hinv.exit nofun
  | stop =>
      have hexit : state.worker.ExitInv true state.ring := hrunning.of_not_stopped true
      rw [clientCall]
      split
      · rename_i hworker
        exact hinv.moveClient hcalls hpublished.symm hpush (Or.inl hworker) hexit nofun
      · exact hinv.moveClient hcalls hpublished.symm hpush (Or.inr rfl) hexit nofun

/-- What a step of the ring on behalf of a submit has to leave. -/
theorem AsyncInv.stepPush (hinv : AsyncInv start base state) {request : BackendSubmitRequest}
    {item : BackendSubmitQueueItem limit} (hclient : state.client = .pushing request item)
    {after : ClientPc limit} (hinCall : after.inCall = [request])
    (hpushed : (state.ring.step (.producer item)).pushed.map (fun item => item.request) =
      state.acceptedRequests ++ after.published)
    (hpush : after.PushInv (state.ring.step (.producer item)).push)
    (hwaiting : after.waiting = false) (hafter : after ≠ .stopped) :
    AsyncInv start base
      { state with ring := state.ring.step (.producer item), client := after } := by
  have hcalls := hinv.calls
  have hstop := hinv.stop
  have hrunning := hinv.not_stopped (by rw [hclient]; rfl)
  rw [hclient] at hcalls hstop
  exact { hinv with
    reliable := SpscState.step_reliable hinv.reliable (.producer item)
    calls := hcalls.trans
      (congrArg (fun inCall => state.returned.map (fun entry => entry.1) ++ inCall) hinCall.symm)
    pushed := hpushed
    push := hpush
    stop := hstop.imp_right (fun hflag => hflag.trans hwaiting.symm)
    exit := hrunning.of_not_stopped _
    joined := fun hstopped => absurd hstopped hafter }

/-- A step of the ring on behalf of a submit. -/
theorem pushing_asyncInv (hinv : AsyncInv start base state) {request : BackendSubmitRequest}
    {item : BackendSubmitQueueItem limit} (hclient : state.client = .pushing request item)
    (call : ClientCall) : AsyncInv start base (state.clientStep call) := by
  have hpushed := hinv.pushed
  have hpush := hinv.push
  rw [hclient] at hpushed hpush
  rcases hpush with ⟨hitem, hholds⟩
  have hring : (state.ring.step (.producer item)).pushed = state.ring.pushed ++
      pushedBy (pushStep state.ring.ring item state.ring.push).returned := rfl
  rw [clientStep, hclient]
  dsimp only
  rcases hreturned : (pushStep state.ring.ring item state.ring.push).returned with
    _ | ⟨value, _ | _⟩ <;> rw [hreturned] at hring
  · -- The push goes on.
    refine hinv.stepPush hclient rfl ?_ ⟨hitem, pushStep_holds hholds _⟩ rfl nofun
    exact (congrArg _ (hring.trans (List.append_nil _))).trans hpushed
  · -- The ring was full.
    refine hinv.stepPush hclient rfl ?_ (pushStep_returned_item hholds hreturned).2 rfl nofun
    exact (congrArg _ (hring.trans (List.append_nil _))).trans hpushed
  · -- The item is in the ring.
    rcases pushStep_returned_item hholds hreturned with ⟨rfl, hidle⟩
    refine hinv.stepPush hclient rfl ?_ hidle rfl nofun
    have hmore : (state.ring.step (.producer value)).pushed = state.ring.pushed ++ [value] := hring
    rw [hmore, List.map_append, hpushed, List.map_singleton, makeItem_request hitem]
    exact congrArg (fun front => front ++ [request]) (List.append_nil _)

/-- A submit returns; {lit}`accepted` is its request if it was accepted. -/
theorem AsyncInv.returnResult (hinv : AsyncInv start base state) {request : BackendSubmitRequest}
    {result : BackendSubmitResult} {accepted : List BackendSubmitRequest} {counter : CoreCounter}
    (haccepted : ([(request, result)].filter (fun entry => entry.2.accepted)).map
      (fun entry => entry.1) = accepted)
    (hinCall : state.client.inCall = [request]) (hpublished : state.client.published = accepted)
    (hpush : state.ring.push = .idle) (hwaiting : state.client.waiting = false)
    (hincrement : ∀ {stats : CoreStats} {count returned received unrecorded : Nat},
      Counted stats count returned received unrecorded →
        Counted (stats.increment counter) (count + accepted.length) (returned + 1) received
          unrecorded) :
    AsyncInv start base
      { state with
        stats := state.record counter
        returned := state.returned ++ [(request, result)]
        client := .idle } := by
  have hrequests : ((state.returned ++ [(request, result)]).filter
      (fun entry => entry.2.accepted)).map (fun entry => entry.1) =
        state.acceptedRequests ++ accepted := by
    rw [List.filter_append, List.map_append, haccepted]
    rfl
  exact { hinv with
    calls := by
      dsimp only
      rw [hinv.calls, hinCall, List.map_append]
      exact (List.append_nil _).symm
    pushed := by
      rw [acceptedRequests, hrequests, hinv.pushed, hpublished]
      exact (List.append_nil _).symm
    push := hpush
    stop := hinv.stop.imp_right (fun hflag => hflag.trans hwaiting)
    joined := nofun
    counted := by
      intro stats hstats
      rcases Option.map_eq_some_iff.mp hstats with ⟨before, hbefore, rfl⟩
      rw [acceptedRequests, hrequests, List.length_append, List.length_append,
        CoreStats.since_increment]
      exact hincrement (hinv.counted before hbefore) }

/-- A submit returns accepted. -/
theorem recordQueued_asyncInv (hinv : AsyncInv start base state) {request : BackendSubmitRequest}
    (hclient : state.client = .recordQueued request) (call : ClientCall) :
    AsyncInv start base (state.clientStep call) := by
  have hpush := hinv.push
  rw [hclient] at hpush
  rw [clientStep, hclient]
  exact hinv.returnResult rfl (by rw [hclient]; rfl) (by rw [hclient]; rfl) hpush
    (by rw [hclient]; rfl) Counted.increment_submitQueued

theorem recordRingFull_asyncInv (hinv : AsyncInv start base state) {request : BackendSubmitRequest}
    (hclient : state.client = .recordRingFull request) (call : ClientCall) :
    AsyncInv start base (state.clientStep call) := by
  have hcalls := hinv.calls
  have hpushed := hinv.pushed
  have hpush := hinv.push
  have hstop := hinv.stop
  rw [hclient] at hcalls hpushed hpush hstop
  rw [clientStep, hclient]
  exact { hinv with
    calls := hcalls
    pushed := hpushed
    push := hpush
    stop := hstop
    joined := nofun
    counted := by
      intro stats hstats
      rcases Option.map_eq_some_iff.mp hstats with ⟨before, hbefore, rfl⟩
      rw [CoreStats.since_increment]
      exact (hinv.counted before hbefore).increment_ringFull }

/-- A submit returns rejected. -/
theorem recordRejected_asyncInv (hinv : AsyncInv start base state) {request : BackendSubmitRequest}
    {status : BackendSubmitQueuePushStatus}
    (hclient : state.client = .recordRejected request status) (call : ClientCall) :
    AsyncInv start base (state.clientStep call) := by
  have hpush := hinv.push
  rw [hclient] at hpush
  rw [clientStep, hclient]
  exact hinv.returnResult rfl (by rw [hclient]; rfl) (by rw [hclient]; rfl) hpush
    (by rw [hclient]; rfl) Counted.increment_submitRejected

/-- {lit}`stop` returns when the worker has left the queue empty. -/
theorem joining_asyncInv (hinv : AsyncInv start base state) (hclient : state.client = .joining)
    (call : ClientCall) : AsyncInv start base (state.clientStep call) := by
  have hcalls := hinv.calls
  have hpushed := hinv.pushed
  have hpush := hinv.push
  rw [hclient] at hcalls hpushed hpush
  rw [clientStep, hclient]
  dsimp only
  split
  · rename_i hworker
    have hpopped := hinv.popped
    have hpop := hinv.pop
    have hexit := hinv.exit
    have hcounted := hinv.counted
    rw [hworker] at hpopped hpop hexit hcounted
    exact { hinv with
      calls := hcalls
      pushed := hpushed
      push := hpush
      popped := hpopped
      pop := hpop
      stop := Or.inl rfl
      exit := trivial
      joined := fun _ => ⟨rfl, hexit.2⟩
      counted := hcounted }
  · exact hinv

theorem clientStep_asyncInv (hinv : AsyncInv start base state) (call : ClientCall) :
    AsyncInv start base (state.clientStep call) := by
  cases hclient : state.client with
  | idle =>
      rw [clientStep, hclient]
      exact clientCall_asyncInv hinv (Or.inl hclient) call
  | pushing request item => exact pushing_asyncInv hinv hclient call
  | recordQueued request => exact recordQueued_asyncInv hinv hclient call
  | recordRingFull request => exact recordRingFull_asyncInv hinv hclient call
  | recordRejected request status => exact recordRejected_asyncInv hinv hclient call
  | joining => exact joining_asyncInv hinv hclient call
  | stopped =>
      rw [clientStep, hclient]
      exact clientCall_asyncInv hinv (Or.inr hclient) call

end Client

/-! ## Steps of the worker -/

section Worker

variable {start : backend.State} {base : CoreStats} {state : AsyncState capacity limit backend}

theorem AsyncInv.client_ne_stopped (hinv : AsyncInv start base state)
    (hworker : state.worker ≠ .notJoinable) : state.client ≠ .stopped :=
  fun hclient => hworker (hinv.joined hclient).1

theorem AsyncInv.stopRequested_eq (hinv : AsyncInv start base state)
    (hworker : state.worker ≠ .notJoinable) : state.stopRequested = state.client.waiting :=
  hinv.stop.resolve_left hworker

/-- A worker that moves on from `before` without receiving or recording anything. -/
theorem AsyncInv.moveWorker (hinv : AsyncInv start base state) {before after : WorkerPc limit}
    (hworker : state.worker = before) (hbefore : before ≠ .notJoinable) (running : Bool)
    (htaken : after.taken = before.taken) (hunrecorded : after.unrecorded = before.unrecorded)
    (hpop : after.PopInv state.ring.pop) (hexit : after.ExitInv state.stopRequested state.ring) :
    AsyncInv start base { state with running := running, worker := after } := by
  subst hworker
  exact { hinv with
    popped := hinv.popped.trans (congrArg (fun taken => state.received ++ taken) htaken.symm)
    pop := hpop
    stop := Or.inr (hinv.stopRequested_eq hbefore)
    exit := hexit
    joined := fun hclient => absurd hclient (hinv.client_ne_stopped hbefore)
    counted := by
      intro stats hstats
      rw [hunrecorded]
      exact hinv.counted stats hstats }

theorem loadHead_asyncInv (hinv : AsyncInv start base state) {tail : UInt64}
    (hworker : state.worker = .loadHead tail) : AsyncInv start base state.workerStep := by
  have hpop := hinv.pop
  have hexit := hinv.exit
  rw [hworker] at hpop hexit
  rcases hexit with ⟨hstop, rfl⟩
  rw [workerStep, hworker]
  dsimp only
  split
  · rename_i hzero
    -- The flag was seen first, so an empty queue stays empty.
    have hsize : state.ring.size = 0 := hzero
    have hlength := hinv.reliable.toNat_size
    rw [hsize] at hlength
    have hempty : state.ring.contents = [] := List.eq_nil_of_length_eq_zero hlength.symm
    exact hinv.moveWorker hworker nofun state.running rfl rfl hpop ⟨hstop, hempty⟩
  · exact hinv.moveWorker hworker nofun state.running rfl rfl trivial trivial

/-- What a step of the ring on behalf of the worker has to leave. -/
theorem AsyncInv.stepPop (hinv : AsyncInv start base state) (hworker : state.worker = .polling)
    {after : WorkerPc limit}
    (hpopped : (state.ring.step .consumer).popped.map (fun item => item.request) =
      state.received ++ after.taken)
    (hpop : after.PopInv (state.ring.step .consumer).pop)
    (hexit : after.ExitInv state.stopRequested (state.ring.step .consumer))
    (hunrecorded : after.unrecorded = 0) :
    AsyncInv start base { state with ring := state.ring.step .consumer, worker := after } := by
  have hcounted := hinv.counted
  have hjoinable : state.worker ≠ .notJoinable := by
    rw [hworker]
    nofun
  rw [hworker] at hcounted
  exact { hinv with
    reliable := SpscState.step_reliable hinv.reliable .consumer
    popped := hpopped
    pop := hpop
    stop := Or.inr (hinv.stopRequested_eq hjoinable)
    exit := hexit
    joined := fun hstopped => absurd hstopped (hinv.client_ne_stopped hjoinable)
    counted := by
      intro stats hstats
      rw [hunrecorded]
      exact hcounted stats hstats }

/-- A step of the ring on behalf of the worker. -/
theorem polling_asyncInv (hinv : AsyncInv start base state) (hworker : state.worker = .polling) :
    AsyncInv start base state.workerStep := by
  have hpopped := hinv.popped
  rw [hworker] at hpopped
  have hring : (state.ring.step .consumer).popped = state.ring.popped ++
      poppedBy (popStep state.ring.ring state.ring.pop).returned := rfl
  rw [workerStep, hworker]
  dsimp only
  rcases hreturned : (popStep state.ring.ring state.ring.pop).returned with _ | _ | item <;>
    rw [hreturned] at hring
  · -- The pop goes on.
    refine hinv.stepPop hworker ?_ trivial trivial rfl
    exact (congrArg _ (hring.trans (List.append_nil _))).trans hpopped
  · -- The ring was empty.
    refine hinv.stepPop hworker ?_ (popStep_returned_idle hreturned) trivial rfl
    exact (congrArg _ (hring.trans (List.append_nil _))).trans hpopped
  · -- An item has left the ring.
    refine hinv.stepPop hworker ?_ (popStep_returned_idle hreturned) trivial rfl
    have hmore : (state.ring.step .consumer).popped = state.ring.popped ++ [item] := hring
    rw [hmore, List.map_append, hpopped]
    exact congrArg (fun front => front ++ [item.request]) (List.append_nil _)

theorem submitting_asyncInv (hinv : AsyncInv start base state) {item : BackendSubmitQueueItem limit}
    (hworker : state.worker = .submitting item) : AsyncInv start base state.workerStep := by
  have hpopped := hinv.popped
  have hpop := hinv.pop
  have hcounted := hinv.counted
  have hjoinable : state.worker ≠ .notJoinable := by
    rw [hworker]
    nofun
  have hclient := hinv.client_ne_stopped hjoinable
  rw [hworker] at hpopped hpop hcounted
  rw [workerStep, hworker]
  exact { hinv with
    downstream := by
      dsimp only
      rw [backend.submitAll_concat, ← hinv.downstream]
    popped := hpopped.trans (List.append_nil _).symm
    pop := hpop
    stop := Or.inr (hinv.stopRequested_eq hjoinable)
    exit := trivial
    joined := fun hstopped => absurd hstopped hclient
    counted := by
      intro stats hstats
      rw [List.length_append]
      exact (hcounted stats hstats).receive }

theorem recording_asyncInv (hinv : AsyncInv start base state) {result : BackendSubmitResult}
    (hworker : state.worker = .recording result) : AsyncInv start base state.workerStep := by
  have hpopped := hinv.popped
  have hpop := hinv.pop
  have hcounted := hinv.counted
  have hjoinable : state.worker ≠ .notJoinable := by
    rw [hworker]
    nofun
  have hclient := hinv.client_ne_stopped hjoinable
  rw [hworker] at hpopped hpop hcounted
  have hrecord : ∀ {counter stats}, counter = .backendAccepted ∨ counter = .backendRejected →
      state.record counter = some stats →
        Counted (stats.since base) state.acceptedRequests.length state.returned.length
        state.received.length 0 := by
    intro counter stats hcounter hstats
    rcases Option.map_eq_some_iff.mp hstats with ⟨before, hbefore, rfl⟩
    rw [CoreStats.since_increment]
    exact (hcounted before hbefore).increment_result hcounter
  rw [workerStep, hworker]
  exact { hinv with
    popped := hpopped
    pop := hpop
    stop := Or.inr (hinv.stopRequested_eq hjoinable)
    exit := trivial
    joined := fun hstopped => absurd hstopped hclient
    counted := by
      intro stats hstats
      dsimp only at hstats
      split at hstats
      · exact hrecord (Or.inl rfl) hstats
      · exact hrecord (Or.inr rfl) hstats }

theorem workerStep_asyncInv (hinv : AsyncInv start base state) :
    AsyncInv start base state.workerStep := by
  have hpop := hinv.pop
  have hexit := hinv.exit
  cases hworker : state.worker with
  | notJoinable =>
      rw [workerStep, hworker]
      exact hinv
  | storeRunning =>
      rw [hworker] at hpop
      rw [workerStep, hworker]
      exact hinv.moveWorker hworker nofun true rfl rfl hpop trivial
  | loadStop =>
      rw [hworker] at hpop
      rw [workerStep, hworker]
      dsimp only
      split
      · exact hinv.moveWorker hworker nofun state.running rfl rfl trivial trivial
      · rename_i hstop
        have hstopped : state.stopRequested = true := by simpa using hstop
        exact hinv.moveWorker hworker nofun state.running rfl rfl hpop hstopped
  | loadTail =>
      rw [hworker] at hpop hexit
      rw [workerStep, hworker]
      exact hinv.moveWorker hworker nofun state.running rfl rfl hpop ⟨hexit, rfl⟩
  | loadHead tail => exact loadHead_asyncInv hinv hworker
  | polling => exact polling_asyncInv hinv hworker
  | submitting item => exact submitting_asyncInv hinv hworker
  | recording result => exact recording_asyncInv hinv hworker
  | clearRunning =>
      rw [hworker] at hpop hexit
      rw [workerStep, hworker]
      exact hinv.moveWorker hworker nofun false rfl rfl hpop hexit
  | finished =>
      rw [workerStep, hworker]
      exact hinv

end Worker

/-! ## Runs -/

theorem step_asyncInv {start : backend.State} {base : CoreStats}
    {state : AsyncState capacity limit backend} (hinv : AsyncInv start base state)
    (move : AsyncMove) : AsyncInv start base (state.step move) := by
  cases move with
  | client call => exact clientStep_asyncInv hinv call
  | worker => exact workerStep_asyncInv hinv

theorem run_asyncInv (buffer : Fin capacity.size → BackendSubmitQueueItem limit)
    (start : backend.State) {stats : Option CoreStats} (startWorker : Bool) (memory : Bytes)
    {base : CoreStats} (hstats : ∀ attached, stats = some attached → attached = base)
    (schedule : List AsyncMove) :
    AsyncInv start base ((initial buffer start stats startWorker memory :
      AsyncState capacity limit backend).run schedule) := by
  have hstep : ∀ (state : AsyncState capacity limit backend) (move : AsyncMove), True →
      AsyncInv start base state → AsyncInv start base (state.step move) :=
    fun _ move _ hinv => step_asyncInv hinv move
  exact foldl_invariant hstep (initial_asyncInv buffer start startWorker memory hstats)
    (fun _ _ => trivial)

end AsyncState

end Fgep.Execution
