import GatedExecution.Execution.AsyncStop

/-!
# The end of an asynchronous backend

The owner of an asynchronous backend may, besides submitting, starting and stopping, take
items from the queue itself with {lit}`poll_once` and {lit}`drain`, and in the end destroys
the backend.  The destructor calls {lit}`stop`, which waits for a worker if there is one;
only a worker empties the queue.

A poll of the owner makes the accesses that a poll of the worker makes, on the same ring
and with locals of its own.  While no worker can be joined it is the only consumer, and
what it does is what a worker would do at that place.

Main results:

- Theorem {lit}`run_ownerInv`: the invariant of the asynchronous backend holds for every
  owner that polls only while there is no worker.
- Theorem {lit}`destroyed_delivers_iff`: at the end of the destructor every accepted request
  was handed on exactly when there was a worker to join or nothing left in the queue.
- Theorems {lit}`destroyed_loses_request` and {lit}`poll_beside_worker_loses_request`: an
  accepted request that is lost without a worker, and one that is lost by polling beside it.
-/

namespace Fgep.Execution

open Wire Ouch Fgep.Core Runs

variable {capacity : RingCapacity} {limit : PayloadLimit} {backend : ExecutionBackend}

/-! ## The owner -/

/-- What an owner between two calls does next. -/
inductive OwnerCall where
  | client (call : ClientCall)
  | pollOnce
  | drain
  | destroy

inductive OwnerMove where
  | owner (call : OwnerCall)
  | worker

/-- Where the owner is.  {lit}`asClient` leaves it to the client of the backend to say so;
the places of a poll record whether it belongs to a {lit}`drain`. -/
inductive OwnerPc (limit : PayloadLimit) where
  | asClient
  | polling (pop : PopPc (BackendSubmitQueueItem limit)) (drains : Bool)
  | submitting (item : BackendSubmitQueueItem limit) (drains : Bool)
  | recording (result : BackendSubmitResult) (drains : Bool)
  | destroying
  | destroyed

instance (owner : OwnerPc limit) : Decidable (owner = .destroyed) :=
  match owner with
  | .destroyed => isTrue rfl
  | .asClient | .polling _ _ | .submitting _ _ | .recording _ _ | .destroying =>
      isFalse (fun h => by cases h)

def ClientPc.isBetweenCalls : ClientPc limit → Bool
  | .idle => true
  | .stopped => true
  | _ => false

theorem ClientPc.isBetweenCalls_iff {client : ClientPc limit} :
    client.isBetweenCalls = true ↔ client = .idle ∨ client = .stopped := by
  cases client <;> simp [ClientPc.isBetweenCalls]

def WorkerPc.joinable : WorkerPc limit → Bool
  | .notJoinable => false
  | _ => true

/-- {lit}`queue_.empty()`. -/
def AsyncState.empty (state : AsyncState capacity limit backend) : Bool :=
  state.ring.size == 0

structure OwnedState (capacity : RingCapacity) (limit : PayloadLimit)
    (backend : ExecutionBackend) where
  async : AsyncState capacity limit backend
  owner : OwnerPc limit

namespace OwnedState

/-- The constructor. -/
def initial (buffer : Fin capacity.size → BackendSubmitQueueItem limit)
    (downstream : backend.State) (stats : Option CoreStats) (startWorker : Bool)
    (memory : Bytes) : OwnedState capacity limit backend where
  async := AsyncState.initial buffer downstream stats startWorker memory
  owner := .asClient

def isBetweenCalls (state : OwnedState capacity limit backend) : Bool :=
  match state.owner with
  | .asClient => state.async.client.isBetweenCalls
  | _ => false

/-- The first move of a call. -/
def ownerCall (state : OwnedState capacity limit backend) :
    OwnerCall → OwnedState capacity limit backend
  | .client call => { state with async := state.async.clientCall call }
  | .pollOnce =>
      { state with async := { state.async with client := .idle }, owner := .polling .idle false }
  | .drain =>
      { state with async := { state.async with client := .idle }, owner := .polling .idle true }
  | .destroy =>
      { state with
        async := state.async.clientCall .stop
        owner := if state.async.worker.joinable then .destroying else .destroyed }

/-- One access of the owner to the ring. -/
def pollStep (state : OwnedState capacity limit backend)
    (pop : PopPc (BackendSubmitQueueItem limit)) (drains : Bool) :
    OwnedState capacity limit backend :=
  let ring := state.async.ring
  let result := popStep ring.ring pop
  { async := { state.async with
      ring := { ring with
        ring := result.ring
        popped := ring.popped ++ poppedBy result.returned } }
    owner :=
      match result.returned with
      | none => .polling result.pc drains
      | some (some item) => .submitting item drains
      -- Nothing to take ends {lit}`poll_once`, and {lit}`drain` with it.
      | some none => .asClient }

def ownerStep (state : OwnedState capacity limit backend) (call : OwnerCall) :
    OwnedState capacity limit backend :=
  match state.owner with
  | .asClient =>
      if state.async.client.isBetweenCalls then state.ownerCall call
      -- Inside a call of the client the argument is not read.
      else { state with async := state.async.clientStep .stop }
  | .polling pop drains => state.pollStep pop drains
  | .submitting item drains =>
      let outcome := backend.submit state.async.downstream item.request
      { state with
        async := { state.async with
          downstream := outcome.2
          received := state.async.received ++ [item.request] }
        owner := .recording outcome.1 drains }
  | .recording result drains =>
      { state with
        async := { state.async with
          stats :=
            if result.accepted then state.async.record .backendAccepted
            else state.async.record .backendRejected }
        owner := if drains then .polling .idle true else .asClient }
  | .destroying =>
      let async := state.async.clientStep .stop
      { state with
        async := async
        owner := if async.client = .stopped then .destroyed else .destroying }
  | .destroyed => state

def step (state : OwnedState capacity limit backend) : OwnerMove →
    OwnedState capacity limit backend
  | .owner call => state.ownerStep call
  | .worker => { state with async := state.async.workerStep }

def run (state : OwnedState capacity limit backend) (schedule : List OwnerMove) :
    OwnedState capacity limit backend :=
  schedule.foldl step state

/-- The move does not begin a poll beside a worker. -/
def pollsAlone (state : OwnedState capacity limit backend) : OwnerMove → Bool
  | .owner .pollOnce => !state.isBetweenCalls || !state.async.worker.joinable
  | .owner .drain => !state.isBetweenCalls || !state.async.worker.joinable
  | _ => true

/-- There is one consumer at a time. -/
def SingleConsumer (state : OwnedState capacity limit backend) (schedule : List OwnerMove) :
    Prop :=
  ∀ passed ∈ runOutputs step pollsAlone state schedule, passed = true

instance (state : OwnedState capacity limit backend) (schedule : List OwnerMove) :
    Decidable (state.SingleConsumer schedule) :=
  List.decidableBAll _ _

/-! ## The owner as its own worker -/

/-- The asynchronous backend with the owner's poll in the place of a worker.  The flag is
not looked at during a poll. -/
def shadow (state : OwnedState capacity limit backend) : AsyncState capacity limit backend :=
  let async := state.async
  match state.owner with
  | .polling pop _ =>
      { async with ring := { async.ring with pop := pop }, worker := .polling,
                   stopRequested := false }
  | .submitting item _ => { async with worker := .submitting item, stopRequested := false }
  | .recording result _ => { async with worker := .recording result, stopRequested := false }
  | _ => async

end OwnedState

/-- The owner has taken the place of the consumer. -/
def OwnerPc.consuming : OwnerPc limit → Bool
  | .polling _ _ => true
  | .submitting _ _ => true
  | .recording _ _ => true
  | _ => false

theorem WorkerPc.joinable_eq_false_iff {worker : WorkerPc limit} :
    worker.joinable = false ↔ worker = .notJoinable := by
  cases worker <;> simp [WorkerPc.joinable]

namespace AsyncState

section Handover

variable {start : backend.State} {base : CoreStats} {state : AsyncState capacity limit backend}

theorem AsyncInv.pop_eq_idle (hinv : AsyncInv start base state)
    (hworker : state.worker = .notJoinable) : state.ring.pop = .idle := by
  have hpop := hinv.pop
  rw [hworker] at hpop
  exact hpop

/-- A client between two calls takes the place of the worker that is not there. -/
theorem AsyncInv.beginPoll (hinv : AsyncInv start base state)
    (hclient : state.client.isBetweenCalls = true) (hworker : state.worker = .notJoinable) :
    AsyncInv start base { state with
      client := .idle, worker := .polling, stopRequested := false } := by
  have hcalls := hinv.calls
  have hpushed := hinv.pushed
  have hpush := hinv.push
  have hpopped := hinv.popped
  have hcounted := hinv.counted
  rw [hworker] at hpopped hcounted
  have hsame : state.client.inCall = [] ∧ state.client.published = [] ∧
      (state.client.PushInv state.ring.push → state.ring.push = .idle) := by
    rcases ClientPc.isBetweenCalls_iff.mp hclient with hpc | hpc <;> rw [hpc] <;>
      exact ⟨rfl, rfl, id⟩
  rw [hsame.1] at hcalls
  rw [hsame.2.1] at hpushed
  exact { hinv with
    calls := hcalls
    pushed := hpushed
    push := hsame.2.2 hpush
    popped := hpopped
    pop := trivial
    stop := Or.inr rfl
    exit := trivial
    joined := fun hstopped => by cases hstopped
    counted := hcounted }

/-- At the head of its loop a worker can be taken away. -/
theorem AsyncInv.endPoll (hinv : AsyncInv start base state)
    (hworker : state.worker = .loadStop) (stopRequested : Bool) :
    AsyncInv start base { state with worker := .notJoinable, stopRequested := stopRequested } := by
  have hpopped := hinv.popped
  have hpop := hinv.pop
  have hcounted := hinv.counted
  have hclient := hinv.client_ne_stopped (by rw [hworker]; exact fun h => by cases h)
  rw [hworker] at hpopped hpop hcounted
  exact { hinv with
    popped := hpopped
    pop := hpop
    stop := Or.inl rfl
    exit := trivial
    joined := fun hstopped => absurd hstopped hclient
    counted := hcounted }

/-- Between calls and without a worker, what was handed on is what was accepted as far as
the queue was emptied. -/
theorem AsyncInv.received_without_worker (hinv : AsyncInv start base state)
    (hclient : state.client.isBetweenCalls = true) (hworker : state.worker = .notJoinable) :
    state.received <+: state.acceptedRequests ∧
      (state.received = state.acceptedRequests ↔ state.ring.contents = []) := by
  have hpushed := hinv.pushed
  have hpopped := hinv.popped
  have hpublished : state.client.published = [] := by
    rcases ClientPc.isBetweenCalls_iff.mp hclient with hpc | hpc <;> rw [hpc] <;> rfl
  rw [hpublished, List.append_nil] at hpushed
  rw [hworker] at hpopped
  have hreceived : state.ring.popped.map (fun item => item.request) = state.received :=
    hpopped.trans (List.append_nil _)
  obtain ⟨cachedTail, cachedHead, hring⟩ := hinv.reliable
  rw [← hreceived, ← hpushed]
  refine ⟨hring.fifo.map _, fun heq => ?_, fun hempty => ?_⟩
  · have hlength := congrArg List.length heq
    rw [List.length_map, List.length_map] at hlength
    exact List.drop_eq_nil_of_le (Nat.le_of_eq hlength.symm)
  · rw [hinv.reliable.popped_eq_pushed hempty]

theorem AsyncInv.empty_iff (hinv : AsyncInv start base state) :
    state.empty = true ↔ state.ring.contents = [] := by
  rw [empty, beq_iff_eq, ← UInt64.toNat_inj, hinv.reliable.toNat_size, UInt64.toNat_zero,
    List.length_eq_zero_iff]

end Handover

end AsyncState

namespace OwnedState

open AsyncState

/-! ## The invariant -/

structure OwnerInv (start : backend.State) (base : CoreStats)
    (state : OwnedState capacity limit backend) : Prop where
  inv : AsyncInv start base state.shadow
  alone : state.owner.consuming = true → state.async.worker = .notJoinable ∧
    state.async.ring.pop = .idle ∧ state.async.client = .idle

section Step

variable {start : backend.State} {base : CoreStats} {state : OwnedState capacity limit backend}

theorem OwnerInv.of_asClient {async : AsyncState capacity limit backend}
    (hinv : AsyncInv start base async) : OwnerInv start base ⟨async, .asClient⟩ :=
  ⟨hinv, fun hconsuming => by cases hconsuming⟩

theorem OwnerInv.beginPoll (hinv : AsyncInv start base state.async)
    (hclient : state.async.client.isBetweenCalls = true)
    (hworker : state.async.worker.joinable = false) (drains : Bool) :
    OwnerInv start base
      { state with async := { state.async with client := .idle },
                   owner := .polling .idle drains } := by
  rw [WorkerPc.joinable_eq_false_iff] at hworker
  have hpop := hinv.pop_eq_idle hworker
  refine ⟨?_, fun _ => ⟨hworker, hpop, rfl⟩⟩
  have hring : { state.async.ring with pop := .idle } = state.async.ring := by
    rw [← hpop]
  have hbegun := hinv.beginPoll hclient hworker
  rw [shadow]
  dsimp only
  rw [hring]
  exact hbegun

theorem ownerCall_ownerInv (hinv : AsyncInv start base state.async)
    (hclient : state.async.client.isBetweenCalls = true) (call : OwnerCall)
    (hcall : call = .pollOnce ∨ call = .drain → state.async.worker.joinable = false)
    (howner : state.owner = .asClient) : OwnerInv start base (state.ownerCall call) := by
  have hbetween := ClientPc.isBetweenCalls_iff.mp hclient
  cases call with
  | client call =>
      rw [ownerCall, howner]
      exact .of_asClient (clientCall_asyncInv hinv hbetween call)
  | pollOnce => exact .beginPoll hinv hclient (hcall (Or.inl rfl)) false
  | drain => exact .beginPoll hinv hclient (hcall (Or.inr rfl)) true
  | destroy =>
      have hstopped := clientCall_asyncInv hinv hbetween .stop
      rw [ownerCall]
      split
      · exact ⟨hstopped, fun hconsuming => by cases hconsuming⟩
      · exact ⟨hstopped, fun hconsuming => by cases hconsuming⟩

/-- A poll of the owner is a step of the worker it stands for. -/
theorem pollStep_ownerInv (hinv : OwnerInv start base state)
    {pop : PopPc (BackendSubmitQueueItem limit)} {drains : Bool}
    (howner : state.owner = .polling pop drains) :
    OwnerInv start base (state.pollStep pop drains) := by
  obtain ⟨hworker, hidle, hclient⟩ := hinv.alone (by rw [howner]; rfl)
  have hshadow := workerStep_asyncInv hinv.inv
  rw [shadow, howner, workerStep] at hshadow
  dsimp only at hshadow
  rw [SpscState.step] at hshadow
  dsimp only at hshadow
  rw [pollStep]
  rcases hreturned : (popStep state.async.ring.ring pop).returned with _ | _ | item
  · refine ⟨?_, fun _ => ⟨hworker, hidle, hclient⟩⟩
    rw [hreturned] at hshadow
    exact hshadow
  · -- The worker that was stood for is taken away again.
    rw [hreturned, popStep_returned_idle hreturned, ← hidle] at hshadow
    have hended := hshadow.endPoll rfl state.async.stopRequested
    rw [← hworker] at hended
    exact .of_asClient hended
  · refine ⟨?_, fun _ => ⟨hworker, hidle, hclient⟩⟩
    rw [hreturned, popStep_returned_idle hreturned, ← hidle] at hshadow
    exact hshadow

theorem submitting_ownerInv (hinv : OwnerInv start base state)
    {item : BackendSubmitQueueItem limit} {drains : Bool}
    (howner : state.owner = .submitting item drains) (call : OwnerCall) :
    OwnerInv start base (state.ownerStep call) := by
  have halone := hinv.alone (by rw [howner]; rfl)
  have hshadow := workerStep_asyncInv hinv.inv
  rw [shadow, howner, workerStep] at hshadow
  rw [ownerStep, howner]
  exact ⟨hshadow, fun _ => halone⟩

theorem recording_ownerInv (hinv : OwnerInv start base state) {result : BackendSubmitResult}
    {drains : Bool} (howner : state.owner = .recording result drains) (call : OwnerCall) :
    OwnerInv start base (state.ownerStep call) := by
  obtain ⟨hworker, hidle, hclient⟩ := hinv.alone (by rw [howner]; rfl)
  have hshadow := workerStep_asyncInv hinv.inv
  rw [shadow, howner, workerStep] at hshadow
  have hended := hshadow.endPoll rfl state.async.stopRequested
  dsimp only at hended
  rw [← hworker] at hended
  rw [ownerStep, howner]
  cases drains with
  | false => exact .of_asClient hended
  | true =>
      -- The loop of {lit}`drain` polls again.
      have hagain := @OwnerInv.beginPoll _ _ _ _ _ ⟨_, .asClient⟩ hended
        (by rw [hclient]; rfl) (WorkerPc.joinable_eq_false_iff.mpr hworker) true
      dsimp only at hagain
      rw [← hclient] at hagain
      exact hagain

theorem ownerStep_ownerInv (hinv : OwnerInv start base state) (call : OwnerCall)
    (hcall : state.pollsAlone (.owner call) = true) :
    OwnerInv start base (state.ownerStep call) := by
  have hasync := hinv.inv
  cases howner : state.owner with
  | asClient =>
      rw [shadow, howner] at hasync
      rw [ownerStep, howner]
      dsimp only
      split
      · rename_i hclient
        refine ownerCall_ownerInv hasync hclient call ?_ howner
        have hbetween : state.isBetweenCalls = true := by rw [isBetweenCalls, howner, hclient]
        rintro (rfl | rfl)
        · simpa [pollsAlone, hbetween] using hcall
        · simpa [pollsAlone, hbetween] using hcall
      · exact .of_asClient (clientStep_asyncInv hasync .stop)
  | polling pop drains =>
      rw [ownerStep, howner]
      exact pollStep_ownerInv hinv howner
  | submitting item drains => exact submitting_ownerInv hinv howner call
  | recording result drains => exact recording_ownerInv hinv howner call
  | destroying =>
      rw [shadow, howner] at hasync
      rw [ownerStep, howner]
      have hstopped := clientStep_asyncInv hasync .stop
      dsimp only
      split
      · exact ⟨hstopped, fun hconsuming => by cases hconsuming⟩
      · exact ⟨hstopped, fun hconsuming => by cases hconsuming⟩
  | destroyed =>
      rw [ownerStep, howner]
      exact hinv

/-- A worker that is not there does not move. -/
theorem worker_step_of_notJoinable (hworker : state.async.worker = .notJoinable) :
    state.step .worker = state := by
  rw [step, workerStep, hworker]

theorem worker_ownerInv (hinv : OwnerInv start base state) :
    OwnerInv start base (state.step .worker) := by
  cases hconsuming : state.owner.consuming with
  | true =>
      rw [worker_step_of_notJoinable (hinv.alone hconsuming).1]
      exact hinv
  | false =>
      have hshadow : ∀ async : AsyncState capacity limit backend,
          ({ state with async := async } : OwnedState capacity limit backend).shadow = async := by
        intro async
        rw [shadow]
        cases howner : state.owner <;> first | rfl | (rw [howner] at hconsuming; cases hconsuming)
      have hasync := hinv.inv
      rw [show state = { state with async := state.async } from rfl, hshadow] at hasync
      refine ⟨?_, fun hother => ?_⟩
      · rw [step, hshadow]
        exact workerStep_asyncInv hasync
      · rw [step, hconsuming] at hother
        cases hother

theorem run_ownerInv (buffer : Fin capacity.size → BackendSubmitQueueItem limit)
    (start : backend.State) {stats : Option CoreStats} (startWorker : Bool) (memory : Bytes)
    {base : CoreStats} (hstats : ∀ attached, stats = some attached → attached = base)
    {schedule : List OwnerMove}
    (hsingle : (initial buffer start stats startWorker memory :
      OwnedState capacity limit backend).SingleConsumer schedule) :
    OwnerInv start base ((initial buffer start stats startWorker memory :
      OwnedState capacity limit backend).run schedule) := by
  have hstep : ∀ (state : OwnedState capacity limit backend) (move : OwnerMove),
      state.pollsAlone move = true → OwnerInv start base state →
      OwnerInv start base (state.step move) := by
    intro state move hmove hinv
    cases move with
    | owner call => exact ownerStep_ownerInv hinv call hmove
    | worker => exact worker_ownerInv hinv
  exact foldl_invariant_checked hstep hsingle
    (.of_asClient (initial_asyncInv buffer start startWorker memory hstats))

end Step

/-! ## The destructor -/

/-- A move of the worker. -/
def isWorkerMove : OwnerMove → Bool
  | .worker => true
  | .owner _ => false

section Destructor

variable {start : backend.State} {base : CoreStats} {state : OwnedState capacity limit backend}

/-- Inside a destructor that waits for the worker. -/
structure Destroying (start : backend.State) (base : CoreStats)
    (state : OwnedState capacity limit backend) : Prop where
  owner : state.owner = .destroying
  stopping : Stopping start base state.async

theorem step_destroying (hdestroying : Destroying start base state) (move : OwnerMove) :
    ((state.step move).owner = .destroyed ∧ AsyncInv start base (state.step move).async ∧
        (state.step move).async.client = .stopped) ∨
      (Destroying start base (state.step move) ∧
        (state.step move).async.rank ≤ state.async.rank - if isWorkerMove move then 1 else 0) := by
  obtain ⟨howner, hstopping⟩ := hdestroying
  cases move with
  | owner call =>
      have hinv := step_asyncInv hstopping.inv (.client .stop)
      rw [step, ownerStep, howner]
      dsimp only
      rcases step_stopping hstopping (.client .stop) with hstopped | ⟨hnext, hrank⟩
      · exact Or.inl ⟨if_pos hstopped, hinv, hstopped⟩
      · have hclient : (state.async.clientStep .stop).client ≠ .stopped := by
          rw [show (state.async.clientStep .stop).client = .joining from hnext.client]
          exact fun h => by cases h
        exact Or.inr ⟨⟨if_neg hclient, hnext⟩, hrank⟩
  | worker =>
      rcases step_stopping hstopping .worker with hstopped | ⟨hnext, hrank⟩
      · have hclient := state.async.workerStep_client.trans hstopping.client
        rw [show state.async.workerStep.client = .stopped from hstopped] at hclient
        cases hclient
      · exact Or.inr ⟨⟨howner, hnext⟩, hrank⟩

theorem destroyed_step (howner : state.owner = .destroyed)
    (hworker : state.async.worker = .notJoinable) (move : OwnerMove) : state.step move = state := by
  cases move with
  | owner call => rw [step, ownerStep, howner]
  | worker => exact worker_step_of_notJoinable hworker

theorem destroyed_run (howner : state.owner = .destroyed)
    (hworker : state.async.worker = .notJoinable) (schedule : List OwnerMove) :
    state.run schedule = state := by
  induction schedule with
  | nil => rfl
  | cons move rest ih =>
      rw [run, List.foldl_cons, destroyed_step howner hworker]
      exact ih

/-- What holds from the moment a destructor waits. -/
def WaitsOrDelivered (start : backend.State) (base : CoreStats)
    (state : OwnedState capacity limit backend) : Prop :=
  Destroying start base state ∨
    (state.owner = .destroyed ∧ AsyncInv start base state.async ∧ state.async.client = .stopped)

theorem step_waitsOrDelivered (hstate : WaitsOrDelivered start base state) (move : OwnerMove) :
    WaitsOrDelivered start base (state.step move) := by
  rcases hstate with hdestroying | ⟨howner, hinv, hclient⟩
  · rcases step_destroying hdestroying move with hdelivered | ⟨hnext, -⟩
    · exact Or.inr hdelivered
    · exact Or.inl hnext
  · rw [destroyed_step howner (hinv.joined hclient).1]
    exact Or.inr ⟨howner, hinv, hclient⟩

theorem run_waitsOrDelivered (hstate : WaitsOrDelivered start base state)
    (schedule : List OwnerMove) : WaitsOrDelivered start base (state.run schedule) := by
  have hstep : ∀ (state : OwnedState capacity limit backend) (move : OwnerMove), True →
      WaitsOrDelivered start base state → WaitsOrDelivered start base (state.step move) :=
    fun _ move _ hstate => step_waitsOrDelivered hstate move
  exact foldl_invariant hstep hstate (fun _ _ => trivial)

/-- The destructor ends in every schedule that gives the worker enough moves. -/
theorem destructor_returns (hdestroying : Destroying start base state) {later : List OwnerMove}
    (hmoves : state.async.rank ≤ later.countP isWorkerMove) (call : OwnerCall) :
    ∃ done, done <+: later ++ [.owner call] ∧ (state.run done).owner = .destroyed := by
  have hstep : ∀ (state : OwnedState capacity limit backend) (move : OwnerMove),
      Destroying start base state → (state.step move).owner = .destroyed ∨
        (Destroying start base (state.step move) ∧
          (state.step move).async.rank ≤ state.async.rank - if isWorkerMove move then 1 else 0) :=
    fun _ move hstate => (step_destroying hstate move).imp_left (·.1)
  rcases reaches_or_rank_le (fun state => state.owner = .destroyed) (fun state => state.async.rank)
    isWorkerMove hstep later hdestroying with ⟨done, hdone, howner⟩ | ⟨hwaits, hrank⟩
  · exact ⟨done, hdone.trans (List.prefix_append _ _), howner⟩
  · refine ⟨later ++ [.owner call], List.prefix_refl _, ?_⟩
    have hzero : (later.foldl step state).async.rank = 0 := by omega
    have hfinished := finished_of_rank_eq_zero hzero hwaits.stopping.joinable
    rw [run, List.foldl_append, List.foldl_cons, List.foldl_nil, step, ownerStep, hwaits.owner]
    dsimp only
    rw [clientStep, hwaits.stopping.client, hfinished]
    exact if_pos rfl

theorem ownerStep_destroy (hbetween : state.isBetweenCalls = true) :
    state.step (.owner .destroy) = state.ownerCall .destroy ∧ state.owner = .asClient ∧
      state.async.client.isBetweenCalls = true := by
  rw [isBetweenCalls] at hbetween
  cases howner : state.owner with
  | asClient =>
      rw [howner] at hbetween
      rw [step, ownerStep, howner]
      exact ⟨if_pos hbetween, rfl, hbetween⟩
  | polling _ _ | submitting _ _ | recording _ _ | destroying | destroyed =>
      rw [howner] at hbetween
      cases hbetween

/-- A destructor that finds a worker waits for it. -/
theorem destroying_of_joinable (hinv : AsyncInv start base state.async)
    (hclient : state.async.client.isBetweenCalls = true)
    (hworker : state.async.worker.joinable = true) :
    Destroying start base (state.ownerCall .destroy) := by
  have hjoinable : state.async.worker ≠ .notJoinable := by
    intro hnot
    rw [hnot] at hworker
    cases hworker
  have hasync : state.async.clientCall .stop =
      { state.async with stopRequested := true, client := .joining } := by
    rw [clientCall]
    split
    · rename_i hnot
      exact absurd hnot hjoinable
    · rfl
  refine ⟨if_pos hworker, ?_⟩
  have hstopped := clientCall_asyncInv hinv (ClientPc.isBetweenCalls_iff.mp hclient) .stop
  exact ⟨hstopped, by rw [ownerCall, hasync], by rw [ownerCall, hasync]; exact hjoinable⟩

end Destructor

/-- When the destructor is over, the requests that were handed on are the accepted ones if
it found a worker or an empty queue, and a proper part of them if not.  With enough moves
of the worker it does get over. -/
theorem destroyed_delivers_iff (buffer : Fin capacity.size → BackendSubmitQueueItem limit)
    (start : backend.State) (attached : Option CoreStats) (startWorker : Bool) (memory : Bytes)
    {before : List OwnerMove}
    (hsingle : (initial buffer start attached startWorker memory :
      OwnedState capacity limit backend).SingleConsumer before)
    (hbetween : ((initial buffer start attached startWorker memory :
      OwnedState capacity limit backend).run before).isBetweenCalls = true)
    (after : List OwnerMove) :
    let entered := (initial buffer start attached startWorker memory :
      OwnedState capacity limit backend).run before
    let state := entered.run (.owner .destroy :: after)
    (state.owner = .destroyed →
      state.async.received <+: state.async.acceptedRequests ∧
        (state.async.received = state.async.acceptedRequests ↔
          entered.async.worker.joinable = true ∨ entered.async.empty = true)) ∧
      ((entered.step (.owner .destroy)).async.rank ≤ after.countP isWorkerMove →
        ∀ call, ∃ done, done <+: after ++ [.owner call] ∧
          (entered.run (.owner .destroy :: done)).owner = .destroyed) := by
  intro entered state
  have howned : OwnerInv start (attached.getD {}) entered := run_ownerInv buffer start startWorker
    memory (fun base hbase => by rw [hbase]; rfl) hsingle
  obtain ⟨hdestroy, howner, hclient⟩ := ownerStep_destroy hbetween
  have hinv := howned.inv
  rw [shadow, howner] at hinv
  have hrun : ∀ moves, entered.run (.owner .destroy :: moves) =
      (entered.ownerCall .destroy).run moves := by
    intro moves
    rw [run, List.foldl_cons, hdestroy]
    rfl
  cases hworker : entered.async.worker.joinable with
  | true =>
      have hdestroying := destroying_of_joinable hinv hclient hworker
      refine ⟨fun hdestroyed => ?_, fun hmoves call => ?_⟩
      · have hend := run_waitsOrDelivered (Or.inl hdestroying) after
        rw [← hrun after] at hend
        rcases hend with hwaits | ⟨-, hdone, hstopped⟩
        · cases hwaits.owner.symm.trans hdestroyed
        · have heq := hdone.received_eq hstopped
          exact ⟨heq ▸ List.prefix_refl _, iff_of_true heq (Or.inl rfl)⟩
      · rw [hdestroy] at hmoves
        obtain ⟨done, hdone, hdestroyed⟩ := destructor_returns hdestroying hmoves call
        exact ⟨done, hdone, by rw [hrun, hdestroyed]⟩
  | false =>
      have hnot := WorkerPc.joinable_eq_false_iff.mp hworker
      have hasync : entered.ownerCall .destroy = { entered with
          async := { entered.async with stopRequested := true, client := .idle }
          owner := .destroyed } := by
        simp [ownerCall, clientCall, hnot, WorkerPc.joinable]
      have hdestroyed : (entered.ownerCall .destroy).owner = .destroyed := by rw [hasync]
      have hgone : (entered.ownerCall .destroy).async.worker = .notJoinable := by
        rw [hasync]
        exact hnot
      have hstay : ∀ moves, entered.run (.owner .destroy :: moves) =
          entered.ownerCall .destroy :=
        fun moves => (hrun moves).trans (destroyed_run hdestroyed hgone moves)
      refine ⟨fun _ => ?_, fun _ call => ⟨[], List.nil_prefix, by rw [hstay, hdestroyed]⟩⟩
      obtain ⟨hfront, heq⟩ := hinv.received_without_worker hclient hnot
      have hstate : state = entered.ownerCall .destroy := hstay after
      rw [hstate, hasync]
      refine ⟨hfront, heq.trans ?_⟩
      rw [hinv.empty_iff]
      simp

/-! Fixed runs with room for two items. -/

/-- A submit of the first {lit}`length` bytes and the four moves until it returns. -/
def submitMoves (userRefNum : UserRefNum) (length : Nat) : List OwnerMove :=
  .owner (.client (.submit userRefNum .enter 0 length)) ::
    List.replicate 4 (.owner (.client .stop))

def smallInitial (startWorker : Bool) :
    OwnedState ⟨2, by decide, by decide⟩ ⟨4, by decide, by decide⟩
      RecordingExecutionBackend.backend :=
  initial (fun _ => {}) {} none startWorker [1, 2, 3, 4]

/-- A request that the owner drains before it destroys the backend. -/
theorem destroyed_delivers_iff_drained :
    let before := submitMoves 7 2 ++ List.replicate 11 (.owner .drain)
    let state := (smallInitial false).run (before ++ [.owner .destroy])
    state.async.received = state.async.acceptedRequests ∧
      state.async.acceptedRequests = [⟨7, .enter, [1, 2]⟩] := by
  intro before state
  have hsingle : (smallInitial false).SingleConsumer before := by decide +kernel
  have hbetween : ((smallInitial false).run before).isBetweenCalls = true := by decide +kernel
  have hstate : state = ((smallInitial false).run before).run [.owner .destroy] :=
    List.foldl_append
  refine ⟨?_, by decide +kernel⟩
  rw [hstate]
  refine (((destroyed_delivers_iff _ _ _ _ _ hsingle hbetween []).1 ?_).2).mpr (Or.inr ?_)
  · decide +kernel
  · decide +kernel

/-- Without a worker an accepted request is destroyed with the backend. -/
theorem destroyed_loses_request :
    let state := (smallInitial false).run (submitMoves 7 2 ++ [.owner .destroy])
    state.owner = .destroyed ∧ state.async.acceptedRequests = [⟨7, .enter, [1, 2]⟩] ∧
      state.async.received = [] := by
  decide +kernel

/-- A worker looks at the empty queue, the owner submits and polls, the worker goes on and the
owner submits once more. -/
def overtakenWorker : List OwnerMove :=
  List.flatten [List.replicate 4 .worker, submitMoves 7 2, List.replicate 8 (.owner .pollOnce),
    List.replicate 5 .worker, submitMoves 8 3, [.owner .destroy], List.replicate 6 .worker,
    [.owner .destroy]]

/-- The worker that was overtaken by a poll of the owner has an old head.  It takes a slot that
was never filled, hands on what is in it and passes the place of the next request. -/
theorem poll_beside_worker_loses_request :
    let state := (smallInitial true).run overtakenWorker
    state.owner = .destroyed ∧
      state.async.acceptedRequests = [⟨7, .enter, [1, 2]⟩, ⟨8, .enter, [1, 2, 3]⟩] ∧
      state.async.received = [⟨7, .enter, [1, 2]⟩, ⟨0, .enter, []⟩] := by
  decide +kernel

end OwnedState

end Fgep.Execution
