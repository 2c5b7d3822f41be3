import GatedExecution.Execution.SubmitQueue

/-!
# The submit queue between two threads

{lit}`BackendSubmitQueue` of {lit}`execution/backend_submit_queue.hpp` with one thread that
pushes requests and one that pops items.  A push is cut into the accesses it makes: the
steps of the ring, and the counters it increments before it returns.

Main results:

- Theorem {lit}`pushStep_queueInv`: what a step of a push leaves, and what it has returned.
- Theorem {lit}`popStep_queueInv`: what a step of a pop leaves.
- Theorem {lit}`pushStep_refusing`: a push refuses a request only when the ring was full.
- Theorem {lit}`StatsInv.pushStep`: the counters while all requests fit into items.
-/

namespace Fgep.Core

/-- The producer never moves the tail. -/
theorem pushStep_tail {α : Type} {capacity : RingCapacity} {ring : SpscRing α capacity}
    {item : α} {pc : PushPc α} : (pushStep ring item pc).ring.tail = ring.tail := by
  cases pc with
  | idle =>
      rw [pushStep]
      split <;> rfl
  | loadTail pending head => rfl
  | updateCachedTail pending head tail =>
      rw [pushStep]
      dsimp only
      split <;> rfl
  | writeSlot pending head => rfl
  | storeHead pending head => rfl

end Fgep.Core

namespace Fgep.Execution

open Wire Ouch Fgep.Core WrappingCounter

/-! ## The queue -/

/-- The access a call of {lit}`push` makes next. -/
inductive QueuePushPc (limit : PayloadLimit) where
  | idle
  | pushing (item : BackendSubmitQueueItem limit)
  | recordQueued
  | recordRingFull
  | recordRejected (status : BackendSubmitQueuePushStatus)
deriving DecidableEq

structure BackendSubmitQueue (capacity : RingCapacity) (limit : PayloadLimit) where
  ring : SpscState (BackendSubmitQueueItem limit) capacity
  stats : Option CoreStats
  call : QueuePushPc limit

variable {capacity : RingCapacity} {limit : PayloadLimit}

namespace BackendSubmitQueue

def initial (buffer : Fin capacity.size → BackendSubmitQueueItem limit)
    (stats : Option CoreStats) : BackendSubmitQueue capacity limit where
  ring := SpscState.initial buffer
  stats := stats
  call := .idle

def record (queue : BackendSubmitQueue capacity limit) (counter : CoreCounter) :
    Option CoreStats :=
  queue.stats.map (fun stats => stats.increment counter)

/-- What a step leaves, and the status if the step ended the call. -/
structure PushResult (capacity : RingCapacity) (limit : PayloadLimit) where
  queue : BackendSubmitQueue capacity limit
  returned : Option BackendSubmitQueuePushStatus := none

/-- One step of the thread that pushes; an idle one starts {lit}`push(request)`. -/
def pushStep (queue : BackendSubmitQueue capacity limit) (request : BackendSubmitRequest) :
    PushResult capacity limit :=
  match queue.call with
  | .idle =>
      let result := makeItem limit request
      { queue := { queue with
          call := if result.1 ≠ .queued then .recordRejected result.1 else .pushing result.2 } }
  | .pushing item =>
      { queue := { queue with
          ring := queue.ring.step (.producer item)
          call :=
            match (Core.pushStep queue.ring.ring item queue.ring.push).returned with
            | none => .pushing item
            | some (_, true) => .recordQueued
            | some (_, false) => .recordRingFull } }
  | .recordQueued =>
      { queue := { queue with stats := queue.record .submitQueued, call := .idle }
        returned := some .queued }
  | .recordRingFull =>
      { queue := { queue with
          stats := queue.record .ringFull
          call := .recordRejected .queueFull } }
  | .recordRejected status =>
      { queue := { queue with stats := queue.record .submitRejected, call := .idle }
        returned := some status }

/-- One step of the thread that pops. -/
def popStep (queue : BackendSubmitQueue capacity limit) : BackendSubmitQueue capacity limit :=
  { queue with ring := queue.ring.step .consumer }

/-- What the pop returns if its next step ends it. -/
def popReturns (queue : BackendSubmitQueue capacity limit) :
    Option (Option (BackendSubmitQueueItem limit)) :=
  (Core.popStep queue.ring.ring queue.ring.pop).returned

end BackendSubmitQueue

/-! ## What each place in a push means -/

namespace QueuePushPc

/-- The request is in the ring though its call has not returned. -/
def published (request : BackendSubmitRequest) : QueuePushPc limit → List BackendSubmitRequest
  | .recordQueued => [request]
  | _ => []

/-- A refusal by a full ring is counted on one counter and not yet on the other. -/
def refusing : QueuePushPc limit → Nat
  | .recordRejected .queueFull => 1
  | _ => 0

/-- The call is about {lit}`request`, and the ring is being pushed to only for its item. -/
def CallInv (request : BackendSubmitRequest) (push : PushPc (BackendSubmitQueueItem limit)) :
    QueuePushPc limit → Prop
  | .idle => push = .idle
  | .pushing item => makeItem limit request = (.queued, item) ∧ push.Holds item
  | .recordQueued => push = .idle ∧ (makeItem limit request).1 = .queued
  | .recordRingFull => push = .idle ∧ (makeItem limit request).1 = .queued
  | .recordRejected status => push = .idle ∧ status ≠ .queued ∧
      (status = (makeItem limit request).1 ∨
        (status = .queueFull ∧ (makeItem limit request).1 = .queued))

end QueuePushPc

namespace BackendSubmitQueue

/-- The state of a queue on which calls have accepted {lit}`accepted` so far, while a call
for {lit}`request` may be in progress. -/
structure QueueInv (request : BackendSubmitRequest) (accepted : List BackendSubmitRequest)
    (queue : BackendSubmitQueue capacity limit) : Prop where
  reliable : queue.ring.Reliable
  call : queue.call.CallInv request queue.ring.push
  pushed : queue.ring.pushed.map (fun item => item.request) =
    accepted ++ queue.call.published request

section Steps

variable {queue : BackendSubmitQueue capacity limit} {request : BackendSubmitRequest}
  {accepted : List BackendSubmitRequest}

theorem initial_queueInv (buffer : Fin capacity.size → BackendSubmitQueueItem limit)
    (stats : Option CoreStats) (request : BackendSubmitRequest) :
    (initial buffer stats).QueueInv request [] where
  reliable := SpscState.run_reliable buffer []
  call := rfl
  pushed := rfl

/-- Between two calls the queue is not about any request. -/
theorem QueueInv.of_idle (hinv : queue.QueueInv request accepted) (hidle : queue.call = .idle)
    (other : BackendSubmitRequest) : queue.QueueInv other accepted where
  reliable := hinv.reliable
  call := by
    have hcall := hinv.call
    rw [hidle] at hcall ⊢
    exact hcall
  pushed := by
    have hpushed := hinv.pushed
    rw [hidle] at hpushed ⊢
    exact hpushed

/-- The requests that a step of a push adds to the accepted ones. -/
def acceptedBy (request : BackendSubmitRequest) (returned : Option BackendSubmitQueuePushStatus) :
    List BackendSubmitRequest :=
  if returned = some .queued then [request] else []

theorem pushing_queueInv (hinv : queue.QueueInv request accepted)
    {item : BackendSubmitQueueItem limit} (hcall : queue.call = .pushing item) :
    (queue.pushStep request).queue.QueueInv request accepted := by
  have hpushed := hinv.pushed
  have hplace := hinv.call
  rw [hcall] at hpushed hplace
  rcases hplace with ⟨hitem, hholds⟩
  have hqueued : (makeItem limit request).1 = .queued := by rw [hitem]
  have hring : (queue.ring.step (.producer item)).pushed = queue.ring.pushed ++
      pushedBy (Core.pushStep queue.ring.ring item queue.ring.push).returned := rfl
  have hreliable := SpscState.step_reliable hinv.reliable (.producer item)
  rw [pushStep, hcall]
  dsimp only
  rcases hreturned : (Core.pushStep queue.ring.ring item queue.ring.push).returned with
    _ | ⟨value, _ | _⟩ <;> rw [hreturned] at hring
  · -- The push goes on.
    exact ⟨hreliable, ⟨hitem, pushStep_holds hholds _⟩,
      (congrArg _ (hring.trans (List.append_nil _))).trans hpushed⟩
  · -- The ring was full.
    exact ⟨hreliable, ⟨(pushStep_returned_item hholds hreturned).2, hqueued⟩,
      (congrArg _ (hring.trans (List.append_nil _))).trans hpushed⟩
  · -- The item is in the ring.
    rcases pushStep_returned_item hholds hreturned with ⟨rfl, hidle⟩
    refine ⟨hreliable, ⟨hidle, hqueued⟩, ?_⟩
    have hmore : (queue.ring.step (.producer value)).pushed = queue.ring.pushed ++ [value] := hring
    dsimp only
    rw [hmore, List.map_append, hpushed, List.map_singleton, makeItem_request hitem]
    exact congrArg (fun front => front ++ [request]) (List.append_nil _)

/-- A step of a push keeps the invariant; the call that ends with it is accepted exactly if
its request is in the ring. -/
theorem pushStep_queueInv (hinv : queue.QueueInv request accepted) :
    (queue.pushStep request).queue.QueueInv request
      (accepted ++ acceptedBy request (queue.pushStep request).returned) := by
  have hplace := hinv.call
  have hpushed := hinv.pushed
  cases hcall : queue.call with
  | idle =>
      rw [hcall] at hplace hpushed
      rw [pushStep, hcall]
      dsimp only
      rw [acceptedBy, if_neg nofun, List.append_nil]
      split
      · rename_i hstatus
        exact ⟨hinv.reliable, ⟨hplace, hstatus, Or.inl rfl⟩, hpushed⟩
      · rename_i hstatus
        rw [not_not] at hstatus
        have hnone : queue.ring.push = .idle := hplace
        refine ⟨hinv.reliable, ⟨Prod.ext hstatus rfl, ?_⟩, hpushed⟩
        rw [hnone]
        trivial
  | pushing item =>
      have hnone : (queue.pushStep request).returned = none := by rw [pushStep, hcall]
      rw [hnone, acceptedBy, if_neg nofun, List.append_nil]
      exact pushing_queueInv hinv hcall
  | recordQueued =>
      rw [hcall] at hplace hpushed
      rw [pushStep, hcall]
      exact ⟨hinv.reliable, hplace.1, hpushed.trans (List.append_nil _).symm⟩
  | recordRingFull =>
      rw [hcall] at hplace hpushed
      rw [pushStep, hcall]
      dsimp only
      rw [acceptedBy, if_neg nofun, List.append_nil]
      exact ⟨hinv.reliable, ⟨hplace.1, nofun, Or.inr ⟨rfl, hplace.2⟩⟩, hpushed⟩
  | recordRejected status =>
      rw [hcall] at hplace hpushed
      rw [pushStep, hcall]
      dsimp only
      have hrefused : some status ≠ some BackendSubmitQueuePushStatus.queued :=
        fun heq => hplace.2.1 (Option.some.inj heq)
      rw [acceptedBy, if_neg hrefused, List.append_nil]
      exact ⟨hinv.reliable, hplace.1, hpushed⟩

/-- A step of a push leaves what the other thread is doing and has done. -/
theorem pushStep_pop : (queue.pushStep request).queue.ring.pop = queue.ring.pop := by
  unfold pushStep
  split <;> rfl

theorem pushStep_popped : (queue.pushStep request).queue.ring.popped = queue.ring.popped := by
  unfold pushStep
  split <;> rfl

theorem pushStep_tail :
    (queue.pushStep request).queue.ring.ring.tail = queue.ring.ring.tail := by
  cases hcall : queue.call with
  | pushing item =>
      rw [pushStep, hcall]
      exact Core.pushStep_tail
  | idle => rw [pushStep, hcall]
  | recordQueued => rw [pushStep, hcall]
  | recordRingFull => rw [pushStep, hcall]
  | recordRejected status => rw [pushStep, hcall]

/-- A call that returns is over. -/
theorem pushStep_idle {status : BackendSubmitQueuePushStatus}
    (hreturned : (queue.pushStep request).returned = some status) :
    (queue.pushStep request).queue.call = .idle := by
  cases hcall : queue.call with
  | idle => rw [pushStep, hcall] at hreturned; cases hreturned
  | pushing item => rw [pushStep, hcall] at hreturned; cases hreturned
  | recordQueued => rw [pushStep, hcall]
  | recordRingFull => rw [pushStep, hcall] at hreturned; cases hreturned
  | recordRejected status => rw [pushStep, hcall]

/-- A call refuses an item the queue cannot hold, and otherwise only because the ring is
full. -/
theorem pushStep_refused (hinv : queue.QueueInv request accepted)
    {status : BackendSubmitQueuePushStatus}
    (hreturned : (queue.pushStep request).returned = some status) :
    status = (makeItem limit request).1 ∨
      (status = .queueFull ∧ (makeItem limit request).1 = .queued) := by
  have hplace := hinv.call
  cases hcall : queue.call with
  | idle => rw [pushStep, hcall] at hreturned; cases hreturned
  | pushing item => rw [pushStep, hcall] at hreturned; cases hreturned
  | recordQueued =>
      rw [hcall] at hplace
      rw [pushStep, hcall] at hreturned
      cases hreturned
      exact Or.inl hplace.2.symm
  | recordRingFull => rw [pushStep, hcall] at hreturned; cases hreturned
  | recordRejected refused =>
      rw [hcall] at hplace
      rw [pushStep, hcall] at hreturned
      cases hreturned
      exact hplace.2.2

/-- A step of a pop does not touch what the other thread is doing. -/
theorem popStep_queueInv (hinv : queue.QueueInv request accepted) :
    queue.popStep.QueueInv request accepted where
  reliable := SpscState.step_reliable hinv.reliable .consumer
  call := hinv.call
  pushed := hinv.pushed

/-! ## Refusals by a full ring -/

/-- The push in progress has found the ring full and is going to refuse its request. -/
def Refusing (queue : BackendSubmitQueue capacity limit) : Prop :=
  match queue.call with
  | .pushing _ => ∃ item head tail, queue.ring.push = .updateCachedTail item head tail ∧
      head + 1 - tail > capacity.value
  | .recordRingFull => True
  | .recordRejected status => status = .queueFull
  | _ => False

/-- A push is going to refuse its request only once it has seen the ring full. -/
theorem pushStep_refusing (hinv : queue.QueueInv request accepted)
    (hrefusing : (queue.pushStep request).queue.Refusing) :
    queue.Refusing ∨ queue.ring.size = capacity.value := by
  have hplace := hinv.call
  cases hcall : queue.call with
  | idle =>
      rw [hcall] at hplace
      have hnone : queue.ring.push = .idle := hplace
      rw [pushStep, hcall, Refusing] at hrefusing
      by_cases hstatus : (makeItem limit request).1 = .queued
      · simp [hstatus, hnone] at hrefusing
      · simp [hstatus, makeItem_ne_queueFull] at hrefusing
  | pushing item =>
      rw [pushStep, hcall, Refusing] at hrefusing
      dsimp only at hrefusing
      rcases hreturned : (Core.pushStep queue.ring.ring item queue.ring.push).returned with
        _ | ⟨value, _ | _⟩ <;> rw [hreturned] at hrefusing
      · -- The push has just loaded the tail.
        rcases hrefusing with ⟨pending, head, tail, hpc, hfull⟩
        rcases pushStep_updateCachedTail hpc with ⟨hload, rfl⟩
        exact Or.inr (hinv.reliable.size_of_loadTail hload hfull)
      · rcases pushStep_returned hreturned with ⟨htrue, -⟩ | ⟨-, head, tail, hpc, hfull⟩
        · cases htrue
        · left
          rw [Refusing, hcall]
          exact ⟨value, head, tail, hpc, hfull⟩
      · exact hrefusing.elim
  | recordQueued =>
      rw [pushStep, hcall] at hrefusing
      exact hrefusing.elim
  | recordRingFull =>
      left
      rw [Refusing, hcall]
      trivial
  | recordRejected status =>
      rw [pushStep, hcall] at hrefusing
      exact hrefusing.elim

theorem pushStep_queueFull (hreturned : (queue.pushStep request).returned = some .queueFull) :
    queue.Refusing := by
  cases hcall : queue.call with
  | idle => rw [pushStep, hcall] at hreturned; cases hreturned
  | pushing item => rw [pushStep, hcall] at hreturned; cases hreturned
  | recordQueued => rw [pushStep, hcall] at hreturned; cases hreturned
  | recordRingFull => rw [pushStep, hcall] at hreturned; cases hreturned
  | recordRejected status =>
      rw [pushStep, hcall] at hreturned
      rw [Refusing, hcall]
      exact Option.some.inj hreturned

/-- The values popped are the first of those pushed. -/
theorem QueueInv.popped_leads (hinv : queue.QueueInv request accepted) :
    queue.ring.popped.map (fun item => item.request) <+:
      accepted ++ queue.call.published request := by
  rcases hinv.reliable with ⟨cachedTail, cachedHead, hring⟩
  rw [← hinv.pushed]
  exact hring.fifo.map _

/-! ## Counters -/

/-- The counters of the queue: {lit}`accepted` pushes, and refusals that are counted twice
each. -/
structure StatsInv (accepted : Nat) (queue : BackendSubmitQueue capacity limit) : Prop where
  attached : queue.stats.isSome = true
  queued : ∀ stats, queue.stats = some stats →
    stats.load .submitQueued = UInt64.ofNat accepted
  refused : ∀ stats, queue.stats = some stats →
    stats.load .ringFull = stats.load .submitRejected + UInt64.ofNat queue.call.refusing

/-- The counters after one more step of a push, given what it returned. -/
theorem StatsInv.pushStep {accepted : Nat} (hstats : StatsInv accepted queue)
    (hitem : (makeItem limit request).1 = .queued)
    (hcall : queue.call.CallInv request queue.ring.push) :
    StatsInv (accepted +
      (acceptedBy request (queue.pushStep request).returned).length)
      (queue.pushStep request).queue := by
  have hrefused := hstats.refused
  -- A step that counts nothing leaves the counters and what is still to be counted.
  have hquiet : ∀ after : BackendSubmitQueue capacity limit, after.stats = queue.stats →
      after.call.refusing = queue.call.refusing → StatsInv accepted after := by
    intro after hsame hrefusing
    refine ⟨hsame ▸ hstats.attached, fun stats hsome => ?_, fun stats hsome => ?_⟩
    · exact hstats.queued stats (hsame ▸ hsome)
    · rw [hrefusing]
      exact hrefused stats (hsame ▸ hsome)
  -- A step that increments one counter.
  have hcounts : ∀ (after : BackendSubmitQueue capacity limit) (counter : CoreCounter)
      (more : Nat), after.stats = queue.record counter →
      (∀ stats, queue.stats = some stats →
        (stats.increment counter).load .submitQueued = UInt64.ofNat (accepted + more) ∧
        (stats.increment counter).load .ringFull =
          (stats.increment counter).load .submitRejected + UInt64.ofNat after.call.refusing) →
      StatsInv (accepted + more) after := by
    intro after counter more hrecord hboth
    refine ⟨?_, fun stats hsome => ?_, fun stats hsome => ?_⟩
    · rw [hrecord, record, Option.isSome_map]
      exact hstats.attached
    all_goals
      rw [hrecord] at hsome
      rcases Option.map_eq_some_iff.mp hsome with ⟨before, hbefore, rfl⟩
    · exact (hboth before hbefore).1
    · exact (hboth before hbefore).2
  cases hplace : queue.call with
  | idle =>
      rw [BackendSubmitQueue.pushStep, hplace]
      dsimp only
      rw [if_neg (not_not.mpr hitem)]
      exact hquiet _ rfl (by rw [hplace]; rfl)
  | pushing item =>
      rw [BackendSubmitQueue.pushStep, hplace]
      dsimp only
      refine hquiet _ rfl ?_
      rw [hplace]
      dsimp only
      split <;> rfl
  | recordQueued =>
      rw [BackendSubmitQueue.pushStep, hplace]
      refine hcounts _ .submitQueued 1 rfl (fun stats hsome => ⟨?_, ?_⟩)
      · rw [CoreStats.load_increment, if_pos rfl, hstats.queued stats hsome, ofNat_add_one]
      · have hbefore := hrefused stats hsome
        rw [hplace] at hbefore
        rw [CoreStats.load_increment, CoreStats.load_increment, if_neg nofun, if_neg nofun,
          UInt64.add_zero, UInt64.add_zero]
        exact hbefore
  | recordRingFull =>
      rw [BackendSubmitQueue.pushStep, hplace]
      refine hcounts _ .ringFull 0 rfl (fun stats hsome => ⟨?_, ?_⟩)
      · rw [CoreStats.load_increment, if_neg nofun, UInt64.add_zero]
        exact hstats.queued stats hsome
      · have hbefore := hrefused stats hsome
        rw [hplace] at hbefore
        rw [CoreStats.load_increment, CoreStats.load_increment, if_pos rfl, if_neg nofun,
          UInt64.add_zero, hbefore]
        exact UInt64.add_assoc _ 0 1
  | recordRejected status =>
      rw [hplace] at hcall
      -- The request itself is fit for the queue, so only a full ring refuses it.
      have hfull : status = .queueFull := by
        rcases hcall.2.2 with hstatus | ⟨hfull, -⟩
        · exact absurd (hstatus.trans hitem) hcall.2.1
        · exact hfull
      subst hfull
      rw [BackendSubmitQueue.pushStep, hplace]
      refine hcounts _ .submitRejected 0 rfl (fun stats hsome => ⟨?_, ?_⟩)
      · rw [CoreStats.load_increment, if_neg nofun, UInt64.add_zero]
        exact hstats.queued stats hsome
      · have hbefore := hrefused stats hsome
        rw [hplace] at hbefore
        rw [CoreStats.load_increment, CoreStats.load_increment, if_neg nofun, if_pos rfl,
          UInt64.add_zero]
        exact hbefore.trans (UInt64.add_zero _).symm

end Steps

end BackendSubmitQueue

end Fgep.Execution
