import GatedExecution.Lib.RelaxedReads
import GatedExecution.Execution.AsyncStop

/-!
# Snapshots of the counters while the threads run

{lit}`CoreStats::snapshot` loads one counter after another, with relaxed loads, so the values
it returns need never have stood together.  A third thread takes snapshots of the counters of
an asynchronous backend while the client submits and the worker hands on.  Each load may
return what its counter held at any moment since the thread last loaded that counter, or since
the thread was started; the increments are read-modify-writes, so none of them is lost.

Main results:

- Theorem {lit}`step_tallied`: the counters after one step, as numbers.
- Theorem {lit}`monitoredStep_inv`: what one step of any of the three threads preserves.
- Theorem {lit}`snapshot_sound`: the snapshots taken during any run.
-/

namespace Fgep.Execution

open Wire Ouch Fgep.Core Runs RelaxedReads

/-! ## The snapshot -/

namespace CoreCounter

/-- {lit}`CoreCounter::count`. -/
abbrev count : Nat := 10

def index : CoreCounter → Fin count
  | rxPackets => 0
  | txPackets => 1
  | rxDropped => 2
  | txDropped => 3
  | rxNombuf => 4
  | submitQueued => 5
  | submitRejected => 6
  | ringFull => 7
  | backendAccepted => 8
  | backendRejected => 9

/-- The counter in a place of the array. -/
def ofIndex : Fin count → CoreCounter
  | 0 => rxPackets
  | 1 => txPackets
  | 2 => rxDropped
  | 3 => txDropped
  | 4 => rxNombuf
  | 5 => submitQueued
  | 6 => submitRejected
  | 7 => ringFull
  | 8 => backendAccepted
  | 9 => backendRejected

theorem index_ofIndex (place : Fin count) : (ofIndex place).index = place := by
  revert place
  decide

theorem ofIndex_index (counter : CoreCounter) : ofIndex counter.index = counter := by
  cases counter <;> rfl

end CoreCounter

structure CoreStatsSnapshot where
  counters : Vector UInt64 CoreCounter.count := Vector.replicate CoreCounter.count 0

def CoreStatsSnapshot.value (snapshot : CoreStatsSnapshot) (counter : CoreCounter) : UInt64 :=
  snapshot.counters[counter.index]

/-- A call of {lit}`snapshot`: the index of the loop and the result so far. -/
structure SnapshotCall where
  index : Nat := 0
  result : CoreStatsSnapshot := {}

namespace SnapshotCall

/-- One turn of the loop, whose load has returned {lit}`loaded`. -/
def turn (call : SnapshotCall) (hindex : call.index < CoreCounter.count) (loaded : UInt64) :
    SnapshotCall where
  index := call.index + 1
  result := ⟨call.result.counters.set call.index loaded hindex⟩

theorem value_turn (call : SnapshotCall) (hindex : call.index < CoreCounter.count)
    (loaded : UInt64) :
    (call.turn hindex loaded).result.value =
      Function.update call.result.value (CoreCounter.ofIndex ⟨call.index, hindex⟩) loaded := by
  funext counter
  have hplace : counter = CoreCounter.ofIndex ⟨call.index, hindex⟩ ↔
      call.index = counter.index.val := by
    constructor
    · intro heq
      rw [heq, CoreCounter.index_ofIndex]
    · intro heq
      rw [← CoreCounter.ofIndex_index counter]
      exact congrArg _ (Fin.ext heq.symm)
  unfold turn CoreStatsSnapshot.value
  rw [Function.update_apply]
  simp only [hplace]
  exact Vector.getElem_set hindex counter.index.isLt

end SnapshotCall

/-! ## The counters as numbers -/

variable {capacity : RingCapacity} {limit : PayloadLimit} {backend : ExecutionBackend}

/-- The increment of a counter that has not reached its largest value. -/
theorem CoreStats.toNat_load_increment {stats : CoreStats} {counter : CoreCounter}
    (hfits : (stats.load counter).toNat + 1 < 2 ^ 64) (other : CoreCounter) :
    ((stats.increment counter).load other).toNat =
      (stats.load other).toNat + if other = counter then 1 else 0 := by
  rw [CoreStats.load_increment]
  split
  · rename_i heq
    rw [heq]
    exact WrappingCounter.toNat_add_one hfits
  · rw [UInt64.add_zero, Nat.add_zero]

/-- The request cannot be made an item. -/
def unfit (limit : PayloadLimit) (request : BackendSubmitRequest) : Bool :=
  decide ((makeItem limit request).1 ≠ .queued)

namespace ClientPc

/-- A refusal by a full ring is counted on one counter and not yet on the other. -/
def refusing : ClientPc limit → Nat
  | .recordRejected _ .queueFull => 1
  | _ => 0

theorem refusing_eq_zero {request : BackendSubmitRequest} {status : BackendSubmitQueuePushStatus}
    (hstatus : status ≠ .queueFull) :
    (recordRejected request status : ClientPc limit).refusing = 0 := by
  cases status with
  | queueFull => exact absurd rfl hstatus
  | queued => rfl
  | emptyPayload => rfl
  | payloadTooLarge => rfl

/-- A call on its way to a rejection knows why. -/
def Refuses : ClientPc limit → Prop
  | .recordRingFull request => unfit limit request = false
  | .recordRejected request status => unfit limit request = decide (status ≠ .queueFull)
  | _ => True

end ClientPc

namespace AsyncState

/-- The returned entries that were rejected though their request fits an item. -/
def refusedByRing (limit : PayloadLimit)
    (returned : List (BackendSubmitRequest × BackendSubmitResult)) : Nat :=
  returned.countP (fun entry => !entry.2.accepted && !unfit limit entry.1)

/-- The amounts on the counters, given what has returned and what was received. -/
structure Balances (state : AsyncState capacity limit backend) (amount : CoreCounter → Nat) :
    Prop where
  queued : amount .submitQueued = state.acceptedRequests.length
  submits : amount .submitQueued + amount .submitRejected = state.returned.length
  refused : amount .ringFull = refusedByRing limit state.returned + state.client.refusing
  results : amount .backendAccepted + amount .backendRejected + state.worker.unrecorded =
    state.received.length

/-- The attached counters, as numbers. -/
structure Tallied (state : AsyncState capacity limit backend) (stats : CoreStats) : Prop where
  attached : state.stats = some stats
  refuses : state.client.Refuses
  balances : state.Balances (fun counter => (stats.load counter).toNat)

/-- A step after which the counters stand as {lit}`Tallied` says, and none is lower. -/
def Advances (state : AsyncState capacity limit backend) (stats : CoreStats) : Prop :=
  ∃ after, Tallied state after ∧
    ∀ counter, (stats.load counter).toNat ≤ (after.load counter).toNat

section Steps

variable {start : backend.State} {base : CoreStats} {state : AsyncState capacity limit backend}
  {stats : CoreStats}

/-- A step that counts nothing. -/
theorem Tallied.quiet (htallied : Tallied state stats)
    {after : AsyncState capacity limit backend} (hstats : after.stats = state.stats)
    (hreturned : after.returned = state.returned) (hreceived : after.received = state.received)
    (hrefuses : after.client.Refuses) (hrefusing : after.client.refusing = state.client.refusing)
    (hunrecorded : after.worker.unrecorded = state.worker.unrecorded) : Advances after stats := by
  have hbalances := htallied.balances
  refine ⟨stats, ⟨hstats.trans htallied.attached, hrefuses, ?_⟩, fun _ => Nat.le_refl _⟩
  exact
    { queued := by rw [acceptedRequests, hreturned]; exact hbalances.queued
      submits := by rw [hreturned]; exact hbalances.submits
      refused := by rw [hreturned, hrefusing]; exact hbalances.refused
      results := by rw [hreceived, hunrecorded]; exact hbalances.results }

/-- A step that increments one counter. -/
theorem Tallied.counts (htallied : Tallied state stats)
    {after : AsyncState capacity limit backend} {counter : CoreCounter}
    (hfits : (stats.load counter).toNat + 1 < 2 ^ 64) (hstats : after.stats = state.record counter)
    (hrefuses : after.client.Refuses)
    (hbalances : after.Balances
      (fun other => (stats.load other).toNat + if other = counter then 1 else 0)) :
    Advances after stats := by
  have hincrement := CoreStats.toNat_load_increment hfits
  refine ⟨stats.increment counter, ⟨?_, hrefuses, ?_⟩, ?_⟩
  · rw [hstats, record, htallied.attached]
    rfl
  · simp only [hincrement]
    exact hbalances
  · intro other
    rw [hincrement]
    exact Nat.le_add_right _ _

/-- The client between two calls. -/
theorem clientCall_advances (htallied : Tallied state stats)
    (hrefusing : state.client.refusing = 0) (call : ClientCall) :
    Advances (state.clientCall call) stats := by
  have hquiet : ∀ {after : AsyncState capacity limit backend}, after.stats = state.stats →
      after.returned = state.returned → after.received = state.received →
      after.client.Refuses → after.client.refusing = 0 →
      after.worker.unrecorded = state.worker.unrecorded → Advances after stats :=
    fun hstats hreturned hreceived hrefuses hzero =>
      htallied.quiet hstats hreturned hreceived hrefuses (hzero.trans hrefusing.symm)
  cases call with
  | overwrite memory => exact hquiet rfl rfl rfl htallied.refuses hrefusing rfl
  | submit userRefNum kind offset length =>
      have hstatus := fun request => @makeItem_ne_queueFull limit request
      rw [clientCall]
      split
      · rename_i hunfit
        refine hquiet rfl rfl rfl ?_ (ClientPc.refusing_eq_zero (hstatus _)) rfl
        change decide _ = decide _
        rw [decide_eq_true hunfit, decide_eq_true (hstatus _)]
      · exact hquiet rfl rfl rfl trivial rfl rfl
  | start =>
      rw [clientCall]
      split
      · rename_i hworker
        exact hquiet rfl rfl rfl trivial rfl (congrArg WorkerPc.unrecorded hworker).symm
      · exact hquiet rfl rfl rfl trivial rfl rfl
  | stop =>
      rw [clientCall]
      split <;> exact hquiet rfl rfl rfl trivial rfl rfl

/-- Everything counted so far came from a call that was made. -/
theorem AsyncInv.returned_add_inCall (hinv : AsyncInv start base state) :
    state.returned.length + state.client.inCall.length = state.calls.length := by
  rw [hinv.calls, List.length_append, List.length_map]

theorem AsyncInv.received_le (hinv : AsyncInv start base state) :
    state.received.length ≤ state.acceptedRequests.length + state.client.published.length := by
  have hpushed := congrArg List.length hinv.pushed
  have hpopped := congrArg List.length hinv.popped
  have hfifo : state.ring.popped.length ≤ state.ring.pushed.length := by
    rcases hinv.reliable with ⟨cachedTail, cachedHead, hring⟩
    exact hring.fifo.length_le
  rw [List.length_map, List.length_append] at hpushed hpopped
  omega

/-- A submit returns.  A refusal by the ring was counted before. -/
theorem Balances.returnResult {amount : CoreCounter → Nat} (hbalances : state.Balances amount)
    {request : BackendSubmitRequest} {result : BackendSubmitResult} {counter : CoreCounter}
    (hcounter : counter = if result.accepted then .submitQueued else .submitRejected)
    (hrefusing : state.client.refusing =
      if !result.accepted && !unfit limit request then 1 else 0) (recorded : Option CoreStats) :
    Balances
      { state with
        stats := recorded
        returned := state.returned ++ [(request, result)]
        client := .idle }
      (fun other => amount other + if other = counter then 1 else 0) := by
  have hqueued := hbalances.queued
  have hsubmits := hbalances.submits
  have hrefused := hbalances.refused
  have hresults := hbalances.results
  rw [hrefusing] at hrefused
  constructor
  · rw [acceptedRequests, List.filter_append, List.map_append, List.length_append, hqueued,
      hcounter]
    cases haccepted : result.accepted <;> simp [acceptedRequests, haccepted]
  · rw [List.length_append, List.length_singleton, hcounter]
    cases result.accepted <;> simp <;> omega
  · rw [refusedByRing, List.countP_append, List.countP_singleton, hrefused, hcounter]
    cases result.accepted <;> rfl
  · rw [hcounter]
    cases result.accepted <;> exact hresults

theorem clientStep_advances (hinv : AsyncInv start base state) (htallied : Tallied state stats)
    (hfits : state.calls.length < 2 ^ 64) (call : ClientCall) :
    Advances (state.clientStep call) stats := by
  have hbalances := htallied.balances
  have hcalls := hinv.returned_add_inCall
  cases hclient : state.client with
  | idle =>
      rw [clientStep, hclient]
      exact clientCall_advances htallied (congrArg ClientPc.refusing hclient) call
  | pushing request item =>
      have hrefusing := congrArg ClientPc.refusing hclient
      have hpush := hinv.push
      rw [hclient] at hpush
      rw [clientStep, hclient]
      dsimp only
      split
      · exact htallied.quiet rfl rfl rfl trivial hrefusing.symm rfl
      · exact htallied.quiet rfl rfl rfl trivial hrefusing.symm rfl
      · refine htallied.quiet rfl rfl rfl ?_ hrefusing.symm rfl
        change decide _ = false
        rw [hpush.1]
        rfl
  | recordQueued request =>
      have hsubmits := hbalances.submits
      rw [hclient] at hcalls
      change _ + 1 = _ at hcalls
      rw [clientStep, hclient]
      refine htallied.counts (by omega) rfl trivial (hbalances.returnResult rfl ?_ _)
      exact congrArg ClientPc.refusing hclient
  | recordRingFull request =>
      have hrefused := hbalances.refused
      have hle : refusedByRing limit state.returned ≤ state.returned.length :=
        List.countP_le_length
      rw [hclient] at hcalls hrefused
      change _ + 1 = _ at hcalls
      change _ = _ + 0 at hrefused
      have hrefuses := htallied.refuses
      rw [hclient] at hrefuses
      rw [clientStep, hclient]
      refine htallied.counts (by omega) rfl hrefuses ?_
      exact { hbalances with
        refused := congrArg (· + 1) hrefused }
  | recordRejected request status =>
      have hsubmits := hbalances.submits
      have hrefuses := htallied.refuses
      rw [hclient] at hcalls hrefuses
      change _ + 1 = _ at hcalls
      change unfit limit request = decide _ at hrefuses
      rw [clientStep, hclient]
      refine htallied.counts (by omega) rfl trivial (hbalances.returnResult rfl ?_ _)
      rw [hclient, hrefuses]
      cases status <;> rfl
  | joining =>
      have hrefusing := congrArg ClientPc.refusing hclient
      rw [clientStep, hclient]
      dsimp only
      split
      · rename_i hworker
        exact htallied.quiet rfl rfl rfl trivial hrefusing.symm
          (congrArg WorkerPc.unrecorded hworker).symm
      · exact htallied.quiet rfl rfl rfl htallied.refuses rfl rfl
  | stopped =>
      rw [clientStep, hclient]
      exact clientCall_advances htallied (congrArg ClientPc.refusing hclient) call

/-- A result that the worker has yet to count. -/
theorem recording_advances (hinv : AsyncInv start base state) (htallied : Tallied state stats)
    (hfits : state.calls.length < 2 ^ 64) {result : BackendSubmitResult}
    (hworker : state.worker = .recording result) : Advances state.workerStep stats := by
  have hbalances := htallied.balances
  have hcalls := hinv.returned_add_inCall
  have hreceived := hinv.received_le
  have hsubmits := hbalances.submits
  have hqueued := hbalances.queued
  have hresults := hbalances.results
  have hpublished : state.client.published.length ≤ state.client.inCall.length := by
    cases state.client <;> simp [ClientPc.published, ClientPc.inCall]
  rw [hworker] at hresults
  change _ + 1 = _ at hresults
  rw [workerStep, hworker]
  dsimp only
  split
  · exact htallied.counts (by omega) rfl htallied.refuses
      { hbalances with results := (Nat.add_right_comm _ 1 _).trans hresults }
  · exact htallied.counts (by omega) rfl htallied.refuses { hbalances with results := hresults }

/-- A result is not counted before the worker records it. -/
theorem submitting_advances (htallied : Tallied state stats) {item : BackendSubmitQueueItem limit}
    (hworker : state.worker = .submitting item) : Advances state.workerStep stats := by
  have hresults := htallied.balances.results
  rw [hworker] at hresults
  rw [workerStep, hworker]
  refine ⟨stats, ⟨htallied.attached, htallied.refuses, ?_⟩, fun _ => Nat.le_refl _⟩
  exact { htallied.balances with
    results := by
      rw [List.length_append, ← hresults]
      rfl }

theorem workerStep_advances (hinv : AsyncInv start base state) (htallied : Tallied state stats)
    (hfits : state.calls.length < 2 ^ 64) : Advances state.workerStep stats := by
  have hquiet : ∀ {after : AsyncState capacity limit backend}, after.stats = state.stats →
      after.returned = state.returned → after.received = state.received →
      after.client = state.client → after.worker.unrecorded = state.worker.unrecorded →
      Advances after stats := by
    intro after hstats hreturned hreceived hsame
    exact htallied.quiet hstats hreturned hreceived (hsame ▸ htallied.refuses) (by rw [hsame])
  cases hworker : state.worker with
  | notJoinable =>
      rw [workerStep, hworker]
      exact hquiet rfl rfl rfl rfl rfl
  | storeRunning =>
      rw [workerStep, hworker]
      exact hquiet rfl rfl rfl rfl (congrArg WorkerPc.unrecorded hworker).symm
  | loadStop =>
      rw [workerStep, hworker]
      dsimp only
      split <;> exact hquiet rfl rfl rfl rfl (congrArg WorkerPc.unrecorded hworker).symm
  | loadTail =>
      rw [workerStep, hworker]
      exact hquiet rfl rfl rfl rfl (congrArg WorkerPc.unrecorded hworker).symm
  | loadHead tail =>
      rw [workerStep, hworker]
      dsimp only
      split <;> exact hquiet rfl rfl rfl rfl (congrArg WorkerPc.unrecorded hworker).symm
  | polling =>
      rw [workerStep, hworker]
      dsimp only
      split <;> exact hquiet rfl rfl rfl rfl (congrArg WorkerPc.unrecorded hworker).symm
  | submitting item => exact submitting_advances htallied hworker
  | recording result => exact recording_advances hinv htallied hfits hworker
  | clearRunning =>
      rw [workerStep, hworker]
      exact hquiet rfl rfl rfl rfl (congrArg WorkerPc.unrecorded hworker).symm
  | finished =>
      rw [workerStep, hworker]
      exact hquiet rfl rfl rfl rfl rfl

theorem step_tallied (hinv : AsyncInv start base state) (htallied : Tallied state stats)
    (hfits : state.calls.length < 2 ^ 64) (move : AsyncMove) :
    Advances (state.step move) stats := by
  cases move with
  | client call => exact clientStep_advances hinv htallied hfits call
  | worker => exact workerStep_advances hinv htallied hfits

theorem calls_step (move : AsyncMove) : state.calls <+: (state.step move).calls := by
  have hcall : ∀ call, state.calls <+: (state.clientCall call).calls := by
    intro call
    cases call with
    | overwrite memory => exact List.prefix_rfl
    | submit userRefNum kind offset length => exact List.prefix_append _ _
    | start =>
        rw [clientCall]
        split <;> exact List.prefix_rfl
    | stop =>
        rw [clientCall]
        split <;> exact List.prefix_rfl
  cases move with
  | client call =>
      rw [step, clientStep]
      split
      · exact hcall call
      · exact List.prefix_rfl
      · exact List.prefix_rfl
      · exact List.prefix_rfl
      · exact List.prefix_rfl
      · split <;> exact List.prefix_rfl
      · exact hcall call
  | worker =>
      rw [step, workerStep]
      split <;> exact List.prefix_rfl

end Steps

end AsyncState

/-! ## A third thread -/

/-- The attached counters; a backend without any counts nothing. -/
def AsyncState.counters (state : AsyncState capacity limit backend) : CoreCounter → UInt64 :=
  (state.stats.getD {}).load

theorem AsyncState.Tallied.counters_eq {state : AsyncState capacity limit backend}
    {stats : CoreStats} (htallied : state.Tallied stats) : state.counters = stats.load := by
  rw [AsyncState.counters, htallied.attached]
  rfl

/-- A load of the monitor comes with the moment that it would read if the thread knew nothing
newer. -/
inductive MonitoredMove where
  | thread (move : AsyncMove)
  | monitor (choice : Nat)

def MonitoredMove.isMonitor : MonitoredMove → Bool
  | thread _ => false
  | monitor _ => true

/-- The backend, what its counters have held, and a thread that calls {lit}`snapshot` again
and again. -/
structure MonitoredState (capacity : RingCapacity) (limit : PayloadLimit)
    (backend : ExecutionBackend) where
  async : AsyncState capacity limit backend
  memory : Memory CoreCounter UInt64
  view : CoreCounter → Nat := fun _ => 0
  call : SnapshotCall := {}
  taken : List CoreStatsSnapshot := []

namespace MonitoredState

/-- The monitor is started: it knows what the counters hold now. -/
def watching (async : AsyncState capacity limit backend) :
    MonitoredState capacity limit backend where
  async := async
  memory := { now := async.counters }

/-- One turn of the loop of {lit}`snapshot`, or its return. -/
def monitorStep (state : MonitoredState capacity limit backend) (choice : Nat) :
    MonitoredState capacity limit backend :=
  if hindex : state.call.index < CoreCounter.count then
    let counter := CoreCounter.ofIndex ⟨state.call.index, hindex⟩
    let moment := state.memory.loadMoment state.view counter choice
    { state with
      view := Function.update state.view counter moment
      call := state.call.turn hindex (state.memory.valueAt moment counter) }
  else { state with call := {}, taken := state.taken ++ [state.call.result] }

def step (state : MonitoredState capacity limit backend) :
    MonitoredMove → MonitoredState capacity limit backend
  | .thread move =>
      let async := state.async.step move
      { state with async := async, memory := state.memory.store async.counters }
  | .monitor choice => state.monitorStep choice

def run (state : MonitoredState capacity limit backend) (schedule : List MonitoredMove) :
    MonitoredState capacity limit backend :=
  schedule.foldl step state

/-- What the monitor last saw on a counter. -/
def known (state : MonitoredState capacity limit backend) (counter : CoreCounter) : UInt64 :=
  state.memory.known state.view counter

/-- What holds while the monitor, started with the counters at {lit}`first`, takes
snapshots. -/
structure MonitorInv (start : backend.State) (first : CoreStats)
    (state : MonitoredState capacity limit backend) : Prop where
  inv : state.async.AsyncInv start {}
  tallied : ∃ stats, state.async.Tallied stats
  now : state.memory.now = state.async.counters
  growing : state.memory.Growing
  origin : state.memory.valueAt 0 = first.load
  view_le : ∀ counter, state.view counter ≤ state.memory.past.length
  read : ∀ counter : CoreCounter, counter.index.val < state.call.index →
    state.call.result.value counter = state.known counter
  taken : ∀ snapshot ∈ state.taken, ∀ counter,
    first.load counter ≤ snapshot.value counter ∧ snapshot.value counter ≤ state.known counter
  ordered : state.taken.Pairwise
    (fun earlier later => ∀ counter, earlier.value counter ≤ later.value counter)

section Steps

variable {start : backend.State} {first : CoreStats}
  {state : MonitoredState capacity limit backend}

theorem MonitorInv.first_le_known (hmonitor : MonitorInv start first state)
    (counter : CoreCounter) : first.load counter ≤ state.known counter :=
  hmonitor.origin ▸ hmonitor.growing.first_le_known counter

theorem watching_inv {async : AsyncState capacity limit backend} (hinv : async.AsyncInv start {})
    (htallied : async.Tallied first) : MonitorInv start first (watching async) where
  inv := hinv
  tallied := ⟨first, htallied⟩
  now := rfl
  growing := Memory.growing_start _
  origin := htallied.counters_eq
  view_le := fun _ => Nat.le_refl _
  read := fun _ hread => absurd hread (Nat.not_lt_zero _)
  taken := fun _ hmem => absurd hmem List.not_mem_nil
  ordered := List.Pairwise.nil

theorem thread_inv (hmonitor : MonitorInv start first state)
    (hfits : state.async.calls.length < 2 ^ 64) (move : AsyncMove) :
    MonitorInv start first (state.step (.thread move)) := by
  obtain ⟨stats, htallied⟩ := hmonitor.tallied
  obtain ⟨after, hafter, hgrow⟩ := AsyncState.step_tallied hmonitor.inv htallied hfits move
  have hknown : ∀ counter, (state.step (.thread move)).known counter = state.known counter :=
    fun counter => Memory.known_store (hmonitor.view_le counter) _
  exact
    { inv := AsyncState.step_asyncInv hmonitor.inv move
      tallied := ⟨after, hafter⟩
      now := rfl
      growing := by
        refine hmonitor.growing.store (fun counter => ?_)
        rw [hmonitor.now, htallied.counters_eq, hafter.counters_eq]
        exact UInt64.le_iff_toNat_le.mpr (hgrow counter)
      origin := (Memory.valueAt_store (Nat.zero_le _) _).trans hmonitor.origin
      view_le := by
        intro counter
        refine Nat.le_trans (hmonitor.view_le counter) ?_
        rw [step, Memory.store, List.length_append]
        exact Nat.le_add_right _ _
      read := fun counter hread => (hmonitor.read counter hread).trans (hknown counter).symm
      taken := by
        intro snapshot hmem counter
        rw [hknown]
        exact hmonitor.taken snapshot hmem counter
      ordered := hmonitor.ordered }

/-- A load of the monitor raises what it knows of one counter. -/
theorem load_inv (hmonitor : MonitorInv start first state)
    (hindex : state.call.index < CoreCounter.count) (choice : Nat) :
    MonitorInv start first (state.step (.monitor choice)) := by
  rw [step, monitorStep, dif_pos hindex]
  generalize hcounter : CoreCounter.ofIndex ⟨state.call.index, hindex⟩ = counter
  dsimp only
  generalize hmoment : state.memory.loadMoment state.view counter choice = moment
  have hplace : counter.index.val = state.call.index := by
    rw [← hcounter, CoreCounter.index_ofIndex]
  have hloaded : state.known counter ≤ state.memory.valueAt moment counter :=
    hmoment ▸ hmonitor.growing.known_le_load counter choice
  have hknown : state.memory.known (Function.update state.view counter moment) =
      Function.update state.known counter (state.memory.valueAt moment counter) :=
    Memory.known_update counter moment
  have hraised : ∀ other, state.known other ≤
      state.memory.known (Function.update state.view counter moment) other := by
    intro other
    rw [hknown]
    by_cases hother : other = counter
    · subst hother
      rw [Function.update_self]
      exact hloaded
    · rw [Function.update_of_ne hother]
      exact UInt64.le_refl _
  exact { hmonitor with
    view_le := by
      intro other
      dsimp only
      by_cases hother : other = counter
      · subst hother
        rw [Function.update_self, ← hmoment]
        exact Memory.loadMoment_le (hmonitor.view_le other) choice
      · rw [Function.update_of_ne hother]
        exact hmonitor.view_le other
    read := by
      intro other hread
      change other.index.val < state.call.index + 1 at hread
      dsimp only [known]
      rw [SnapshotCall.value_turn, hcounter, hknown]
      by_cases hother : other = counter
      · subst hother
        rw [Function.update_self, Function.update_self]
      · have hne : other.index.val ≠ state.call.index := by
          intro heq
          refine hother ?_
          rw [← CoreCounter.ofIndex_index other, ← CoreCounter.ofIndex_index counter]
          exact congrArg _ (Fin.ext (heq.trans hplace.symm))
        rw [Function.update_of_ne hother, Function.update_of_ne hother]
        exact hmonitor.read other (by omega)
    taken := fun snapshot hmem other =>
      ⟨(hmonitor.taken snapshot hmem other).1,
        UInt64.le_trans (hmonitor.taken snapshot hmem other).2 (hraised other)⟩ }

/-- A call that returns has read every counter no earlier than the calls before it. -/
theorem return_inv (hmonitor : MonitorInv start first state)
    (hindex : ¬state.call.index < CoreCounter.count) (choice : Nat) :
    MonitorInv start first (state.step (.monitor choice)) := by
  rw [step, monitorStep, dif_neg hindex]
  have hresult : ∀ counter, state.call.result.value counter = state.known counter :=
    fun counter => hmonitor.read counter
      (Nat.lt_of_lt_of_le counter.index.isLt (Nat.le_of_not_lt hindex))
  exact { hmonitor with
    read := fun _ hread => absurd hread (Nat.not_lt_zero _)
    taken := by
      refine List.forall_mem_append.mpr ⟨hmonitor.taken, List.forall_mem_singleton.mpr ?_⟩
      intro counter
      rw [hresult counter]
      exact ⟨hmonitor.first_le_known counter, UInt64.le_refl _⟩
    ordered := by
      refine List.pairwise_append.mpr ⟨hmonitor.ordered, List.pairwise_singleton _ _, ?_⟩
      intro earlier hmem later hlater counter
      rw [List.mem_singleton.mp hlater, hresult counter]
      exact (hmonitor.taken earlier hmem counter).2 }

theorem monitoredStep_inv (hmonitor : MonitorInv start first state)
    (hfits : state.async.calls.length < 2 ^ 64) (move : MonitoredMove) :
    MonitorInv start first (state.step move) := by
  cases move with
  | thread move => exact thread_inv hmonitor hfits move
  | monitor choice =>
      by_cases hindex : state.call.index < CoreCounter.count
      · exact load_inv hmonitor hindex choice
      · exact return_inv hmonitor hindex choice

/-! ## Runs -/

theorem monitorStep_async (choice : Nat) : (state.monitorStep choice).async = state.async := by
  rw [monitorStep]
  split <;> rfl

theorem calls_run (state : MonitoredState capacity limit backend)
    (schedule : List MonitoredMove) : state.async.calls <+: (state.run schedule).async.calls := by
  induction schedule generalizing state with
  | nil => exact List.prefix_rfl
  | cons move rest ih =>
      refine List.IsPrefix.trans ?_ (ih (state.step move))
      cases move with
      | thread move => exact AsyncState.calls_step move
      | monitor choice =>
          rw [step, monitorStep_async]

theorem run_monitorInv (hmonitor : MonitorInv start first state) (schedule : List MonitoredMove)
    (hfits : (state.run schedule).async.calls.length < 2 ^ 64) :
    MonitorInv start first (state.run schedule) := by
  have hstep : ∀ (state : MonitoredState capacity limit backend) (move : MonitoredMove),
      state.async.calls.length < 2 ^ 64 → MonitorInv start first state →
      MonitorInv start first (state.step move) :=
    fun _ move hfits hmonitor => monitoredStep_inv hmonitor hfits move
  refine foldl_invariant hstep hmonitor (fun done hdone => ?_)
  obtain ⟨rest, rfl⟩ := hdone
  have hcalls := calls_run (state.run done) rest
  rw [run, List.foldl_append] at hfits
  exact Nat.lt_of_le_of_lt hcalls.length_le hfits

/-- Every snapshot takes a turn of the loop for each counter, and the return. -/
theorem length_taken_run (async : AsyncState capacity limit backend)
    (schedule : List MonitoredMove) :
    let state := (watching async).run schedule
    state.call.index ≤ CoreCounter.count ∧
      (CoreCounter.count + 1) * state.taken.length + state.call.index =
        schedule.countP MonitoredMove.isMonitor := by
  induction schedule using List.reverseRecOn with
  | nil => exact ⟨Nat.zero_le _, rfl⟩
  | append_singleton earlier move ih =>
      obtain ⟨hindex, hturns⟩ := ih
      rw [run, List.foldl_append, List.countP_append, List.countP_singleton, ← hturns]
      cases move with
      | thread move => exact ⟨hindex, rfl⟩
      | monitor choice =>
          change ((((watching async).run earlier).monitorStep choice).call.index ≤ _) ∧
            _ * (((watching async).run earlier).monitorStep choice).taken.length +
              (((watching async).run earlier).monitorStep choice).call.index = _
          rw [monitorStep, MonitoredMove.isMonitor, if_pos rfl]
          split
          · rename_i hmore
            exact ⟨hmore, (Nat.add_assoc _ _ _).symm⟩
          · rename_i hlast
            refine ⟨Nat.zero_le _, ?_⟩
            dsimp only
            rw [List.length_append, List.length_singleton, Nat.mul_succ]
            omega

/-- The threads stand still while only the monitor moves. -/
theorem run_async_of_monitor (schedule : List MonitoredMove)
    (honly : ∀ move ∈ schedule, move.isMonitor = true) :
    (state.run schedule).async = state.async := by
  have hstep : ∀ (after : MonitoredState capacity limit backend) (move : MonitoredMove),
      move.isMonitor = true → after.async = state.async →
      (after.step move).async = state.async := by
    intro after move hmove hsame
    cases move with
    | thread move => cases hmove
    | monitor choice => exact (monitorStep_async choice).trans hsame
  exact foldl_invariant_inputs hstep honly rfl

end Steps

/-- The counters of a backend that was given fresh ones. -/
theorem run_tallied (buffer : Fin capacity.size → BackendSubmitQueueItem limit)
    (start : backend.State) (startWorker : Bool) (memory : Bytes) (schedule : List AsyncMove) :
    let state := (AsyncState.initial buffer start (some {}) startWorker memory :
      AsyncState capacity limit backend).run schedule
    state.calls.length < 2 ^ 64 → ∃ stats, state.Tallied stats := by
  have hstep : ∀ (state : AsyncState capacity limit backend) (move : AsyncMove), True →
      state.AsyncInv start {} ∧ (state.calls.length < 2 ^ 64 → ∃ stats, state.Tallied stats) →
      (state.step move).AsyncInv start {} ∧
        ((state.step move).calls.length < 2 ^ 64 → ∃ stats, (state.step move).Tallied stats) := by
    rintro state move - ⟨hinv, htallied⟩
    refine ⟨AsyncState.step_asyncInv hinv move, fun hfits => ?_⟩
    have hfitted := Nat.lt_of_le_of_lt (@AsyncState.calls_step _ _ _ state move).length_le hfits
    obtain ⟨stats, hstats⟩ := htallied hfitted
    obtain ⟨after, hafter, -⟩ := AsyncState.step_tallied hinv hstats hfitted move
    exact ⟨after, hafter⟩
  refine (foldl_invariant hstep ⟨?_, fun _ => ⟨{}, ?_⟩⟩ (fun _ _ => trivial)).2
  · exact AsyncState.initial_asyncInv buffer start startWorker memory
      (fun attached hattached => (Option.some.inj hattached).symm)
  · refine ⟨rfl, trivial, rfl, rfl, rfl, ?_⟩
    cases startWorker <;> rfl

/-- What a snapshot shows lies between what two states of the threads have counted. -/
structure Between (began ended : AsyncState capacity limit backend)
    (snapshot : CoreStatsSnapshot) : Prop where
  queued_ge : began.acceptedRequests.length ≤ (snapshot.value .submitQueued).toNat
  queued_le : (snapshot.value .submitQueued).toNat ≤ ended.acceptedRequests.length
  submits_ge : began.returned.length ≤
    (snapshot.value .submitQueued).toNat + (snapshot.value .submitRejected).toNat
  submits_le : (snapshot.value .submitQueued).toNat + (snapshot.value .submitRejected).toNat ≤
    ended.returned.length
  ringFull_ge : AsyncState.refusedByRing limit began.returned ≤ (snapshot.value .ringFull).toNat
  ringFull_le : (snapshot.value .ringFull).toNat ≤
    AsyncState.refusedByRing limit ended.returned + 1
  results_ge : began.received.length ≤
    (snapshot.value .backendAccepted).toNat + (snapshot.value .backendRejected).toNat + 1
  results_le : (snapshot.value .backendAccepted).toNat +
    (snapshot.value .backendRejected).toNat ≤ ended.received.length

theorem Between.of_tallied {began ended : AsyncState capacity limit backend}
    {first last : CoreStats} (hfirst : began.Tallied first) (hlast : ended.Tallied last)
    {snapshot : CoreStatsSnapshot}
    (hbetween : ∀ counter, first.load counter ≤ snapshot.value counter ∧
      snapshot.value counter ≤ last.load counter) : Between began ended snapshot := by
  have hlower : ∀ counter, (first.load counter).toNat ≤ (snapshot.value counter).toNat :=
    fun counter => UInt64.le_iff_toNat_le.mp (hbetween counter).1
  have hupper : ∀ counter, (snapshot.value counter).toNat ≤ (last.load counter).toNat :=
    fun counter => UInt64.le_iff_toNat_le.mp (hbetween counter).2
  have hrefusing : ended.client.refusing ≤ 1 := by
    unfold ClientPc.refusing
    split <;> omega
  have hunrecorded : began.worker.unrecorded ≤ 1 := by
    cases began.worker <;> simp [WorkerPc.unrecorded]
  have hqueued := hfirst.balances.queued
  have hsubmits := hfirst.balances.submits
  have hrefused := hfirst.balances.refused
  have hresults := hfirst.balances.results
  have hqueued' := hlast.balances.queued
  have hsubmits' := hlast.balances.submits
  have hrefused' := hlast.balances.refused
  have hresults' := hlast.balances.results
  have hq := hlower .submitQueued
  have hq' := hupper .submitQueued
  have hr := hlower .submitRejected
  have hr' := hupper .submitRejected
  have hf := hlower .ringFull
  have hf' := hupper .ringFull
  have ha := hlower .backendAccepted
  have ha' := hupper .backendAccepted
  have hb := hlower .backendRejected
  have hb' := hupper .backendRejected
  constructor <;> omega

end MonitoredState

end Fgep.Execution
