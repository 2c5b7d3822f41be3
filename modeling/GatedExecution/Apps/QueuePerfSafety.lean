import GatedExecution.Apps.QueuePerf

/-!
# The queue performance program loses nothing

The producer's counter and its sequence number count the requests that are in the ring, and
the consumer's counter and checksum are those of the items it has popped.  The consumer
leaves its loop only after it has seen the producer's flag and then the queue empty, so at
that moment the two agree.

Main results:

- Theorems {lit}`producerStep_perfInv` and {lit}`consumerStep_perfInv`: one access of
  either thread keeps the invariant.
- Theorem {lit}`queuePerf_outcome`: what the program reports, in every interleaving.
-/

namespace Fgep.Apps

open Wire Ouch Fgep.Core Fgep.Execution WrappingCounter Runs

variable {capacity : RingCapacity} {limit : PayloadLimit}

/-! ## What each place in a thread means -/

namespace ProducerPc

/-- How many requests are accepted and not yet counted. -/
def uncounted : ProducerPc → Nat
  | .countProduced => 1
  | _ => 0

/-- How many requests the loop has begun and not yet counted. -/
def begun : ProducerPc → Nat
  | .testStopPush => 1
  | .pushing => 1
  | .countProduced => 1
  | _ => 0

/-- The loop is over. -/
def ended : ProducerPc → Bool
  | .storeDone => true
  | .finished => true
  | _ => false

end ProducerPc

/-- What the consumer knows on its way out of the loop. -/
def ConsumerPc.ExitInv (done : Bool) (ring : SpscState (BackendSubmitQueueItem limit) capacity) :
    ConsumerPc → Prop
  | .loadTail => done = true
  | .loadHead tail => done = true ∧ tail = ring.ring.tail
  | .storeConsumed => done = true ∧ ring.contents = []
  | .storeChecksum => done = true ∧ ring.contents = []
  | .finished => done = true ∧ ring.contents = []
  | _ => True

/-- Before the flag is set the consumer is not on its way out. -/
theorem ConsumerPc.ExitInv.of_not_done {consumer : ConsumerPc}
    {ring ring' : SpscState (BackendSubmitQueueItem limit) capacity}
    (hexit : consumer.ExitInv false ring) (done : Bool) : consumer.ExitInv done ring' := by
  cases consumer with
  | waitStart => trivial
  | loadDone => trivial
  | loadTail => cases hexit
  | loadHead tail => cases hexit.1
  | popping => trivial
  | storeConsumed => cases hexit.1
  | storeChecksum => cases hexit.1
  | finished => cases hexit.1

namespace QueuePerfConfig

/-- The number of operations at which the loop ends by itself: a limit of zero is none, and
no 64-bit sequence number is greater than the greatest one. -/
def Bounded (config : QueuePerfConfig limit) : Prop :=
  config.operations ≠ 0 ∧ config.operations ≠ UInt64.ofNat (2 ^ 64 - 1)

end QueuePerfConfig

namespace QueuePerfState

/-! ## The invariant -/

/-- A state in which {lit}`count` requests have been counted as produced. -/
structure PerfInv (config : QueuePerfConfig limit) (count : Nat)
    (state : QueuePerfState capacity limit) : Prop where
  produced : state.produced = UInt64.ofNat count
  sequence : state.sequence = UInt64.ofNat (count + 1)
  queue : state.queue.QueueInv (config.requestOf state.sequence)
    (config.requests (count + state.producer.uncounted))
  call : state.producer ≠ .pushing → state.queue.call = .idle
  stats : BackendSubmitQueue.StatsInv (count + state.producer.uncounted) state.queue
  done : state.producerDone = decide (state.producer = .finished)
  ended : state.producer.ended = true → state.stopSignalRequested = true ∨
    (config.operations ≠ 0 ∧ state.sequence > config.operations)
  bounded : config.Bounded → count + state.producer.begun ≤ config.operations.toNat
  localConsumed : state.localConsumed = UInt64.ofNat state.queue.ring.popped.length
  localChecksum : state.localChecksum =
    checksumOf (state.queue.ring.popped.map (fun item => item.request))
  pop : state.consumer ≠ .popping → state.queue.ring.pop = .idle
  exit : state.consumer.ExitInv state.producerDone state.queue.ring
  consumed : state.consumer = .storeChecksum ∨ state.consumer = .finished →
    state.consumed = state.localConsumed
  checksum : state.consumer = .finished → state.checksum = state.localChecksum

theorem initial_perfInv (config : QueuePerfConfig limit)
    (buffer : Fin capacity.size → BackendSubmitQueueItem limit) :
    (initial buffer).PerfInv config 0 where
  produced := rfl
  sequence := rfl
  queue := BackendSubmitQueue.initial_queueInv buffer (some {}) _
  call := fun _ => rfl
  stats :=
    { attached := rfl
      queued := by
        intro stats hstats
        cases hstats
        rfl
      refused := by
        intro stats hstats
        cases hstats
        rfl }
  done := rfl
  ended := nofun
  bounded := fun _ => Nat.zero_le _
  localConsumed := rfl
  localChecksum := rfl
  pop := fun _ => rfl
  exit := trivial
  consumed := by
    rintro (heq | heq) <;> cases heq
  checksum := nofun

section Steps

variable {config : QueuePerfConfig limit} {count : Nat} {state : QueuePerfState capacity limit}

/-! ## Steps of the producer -/

/-- A producer that moves on to {lit}`after` without touching the queue or its counters. -/
theorem PerfInv.moveProducer (hinv : state.PerfInv config count) {after : ProducerPc}
    (hbefore : state.producer ≠ .pushing)
    (huncounted : after.uncounted = state.producer.uncounted)
    (hdone : state.producerDone = decide (after = .finished))
    (hended : after.ended = true → state.stopSignalRequested = true ∨
      (config.operations ≠ 0 ∧ state.sequence > config.operations))
    (hbounded : config.Bounded → count + after.begun ≤ config.operations.toNat) :
    PerfInv config count { state with producer := after } :=
  { hinv with
    queue := by
      rw [huncounted]
      exact hinv.queue
    call := fun _ => hinv.call hbefore
    stats := by
      rw [huncounted]
      exact hinv.stats
    done := hdone
    ended := hended
    bounded := hbounded }

theorem PerfInv.producerDone_eq_false (hinv : state.PerfInv config count)
    (hproducer : state.producer ≠ .finished) : state.producerDone = false := by
  rw [hinv.done]
  exact decide_eq_false hproducer

/-- The test at the head of the loop, with the sequence number as a count. -/
theorem PerfInv.sequence_le (hinv : state.PerfInv config count) (hbounded : config.Bounded)
    (hcount : count ≤ config.operations.toNat) (hle : ¬state.sequence > config.operations) :
    count + 1 ≤ config.operations.toNat := by
  have hlt := config.operations.toNat_lt
  have hmax : config.operations.toNat ≠ 2 ^ 64 - 1 := by
    intro heq
    apply hbounded.2
    rw [← heq, UInt64.ofNat_toNat]
  rw [hinv.sequence, gt_iff_lt, UInt64.lt_iff_toNat_lt, Nat.not_lt] at hle
  rwa [UInt64.toNat_ofNat_of_lt' (show count + 1 < 2 ^ 64 by omega)] at hle

theorem testStop_perfInv (hinv : state.PerfInv config count)
    (hproducer : state.producer = .testStop) :
    (state.producerStep config).PerfInv config count := by
  have hbefore : state.producer ≠ .pushing := by rw [hproducer]; nofun
  have hdone := hinv.producerDone_eq_false (by rw [hproducer]; nofun)
  have hbounded := hinv.bounded
  have huncounted : state.producer.uncounted = 0 := by rw [hproducer]; rfl
  rw [hproducer] at hbounded
  rw [producerStep, hproducer]
  dsimp only
  split
  · rename_i hstop
    exact hinv.moveProducer hbefore huncounted.symm hdone (fun _ => Or.inl hstop) hbounded
  split
  · rename_i hlast
    exact hinv.moveProducer hbefore huncounted.symm hdone (fun _ => Or.inr hlast) hbounded
  · rename_i hmore
    refine hinv.moveProducer hbefore huncounted.symm hdone nofun (fun hlimit => ?_)
    exact hinv.sequence_le hlimit (hbounded hlimit) (fun hgt => hmore ⟨hlimit.1, hgt⟩)

theorem testStopPush_perfInv (hinv : state.PerfInv config count)
    (hproducer : state.producer = .testStopPush) :
    (state.producerStep config).PerfInv config count := by
  have hbefore : state.producer ≠ .pushing := by rw [hproducer]; nofun
  have hdone := hinv.producerDone_eq_false (by rw [hproducer]; nofun)
  have hbounded := hinv.bounded
  have huncounted : state.producer.uncounted = 0 := by rw [hproducer]; rfl
  rw [hproducer] at hbounded
  rw [producerStep, hproducer]
  dsimp only
  split
  · exact hinv.moveProducer hbefore huncounted.symm hdone nofun
      (fun hlimit => Nat.le_of_succ_le (hbounded hlimit))
  · exact hinv.moveProducer hbefore huncounted.symm hdone nofun hbounded

/-- A step of a push, and the place {lit}`after` to which its result sends the producer. -/
theorem PerfInv.stepPush (hinv : state.PerfInv config count)
    (hproducer : state.producer = .pushing) {after : ProducerPc}
    (haccepted : (BackendSubmitQueue.acceptedBy (config.requestOf state.sequence)
      (state.queue.pushStep (config.requestOf state.sequence)).returned).length =
        after.uncounted)
    (hcall : after ≠ .pushing →
      (state.queue.pushStep (config.requestOf state.sequence)).queue.call = .idle)
    (hended : after.ended = false) (hbegun : after.begun = 1) (hdone : after ≠ .finished) :
    PerfInv config count
      { state with
        queue := (state.queue.pushStep (config.requestOf state.sequence)).queue
        producer := after } := by
  have hqueue := hinv.queue
  have hstats := hinv.stats
  have hbounded := hinv.bounded
  have hnotDone := hinv.producerDone_eq_false (by rw [hproducer]; nofun)
  have hexit := hinv.exit
  rw [hproducer] at hqueue hstats hbounded
  rw [hnotDone] at hexit
  -- The ring pops what it popped before.
  have hpopped : (state.queue.pushStep (config.requestOf state.sequence)).queue.ring.popped =
      state.queue.ring.popped := BackendSubmitQueue.pushStep_popped
  have hpop : (state.queue.pushStep (config.requestOf state.sequence)).queue.ring.pop =
      state.queue.ring.pop := BackendSubmitQueue.pushStep_pop
  exact { hinv with
    queue := by
      have hstep := BackendSubmitQueue.pushStep_queueInv hqueue
      have hrequests : config.requests (count + ProducerPc.pushing.uncounted) ++
          BackendSubmitQueue.acceptedBy (config.requestOf state.sequence)
            (state.queue.pushStep (config.requestOf state.sequence)).returned =
          config.requests (count + after.uncounted) := by
        rw [← haccepted, BackendSubmitQueue.acceptedBy]
        split
        · rw [hinv.sequence]
          exact (config.requests_succ count).symm
        · exact List.append_nil _
      rw [hrequests] at hstep
      exact hstep
    call := hcall
    stats := by
      have hstep := hstats.pushStep (config.makeItem_requestOf state.sequence) hqueue.call
      rw [haccepted] at hstep
      exact hstep
    done := by
      dsimp only
      rw [hnotDone, decide_eq_false hdone]
    ended := fun hafter => by
      rw [hended] at hafter
      cases hafter
    bounded := by
      rw [hbegun]
      exact hbounded
    localConsumed := by
      rw [hpopped]
      exact hinv.localConsumed
    localChecksum := by
      rw [hpopped]
      exact hinv.localChecksum
    pop := fun hplace => hpop.trans (hinv.pop hplace)
    exit := hexit.of_not_done _ }

theorem pushing_perfInv (hinv : state.PerfInv config count)
    (hproducer : state.producer = .pushing) :
    (state.producerStep config).PerfInv config count := by
  rw [producerStep, hproducer]
  dsimp only
  cases hreturned : (state.queue.pushStep (config.requestOf state.sequence)).returned with
  | none =>
      refine hinv.stepPush hproducer ?_ (fun hne => absurd rfl hne) rfl rfl nofun
      rw [hreturned]
      rfl
  | some status =>
      have hidle := BackendSubmitQueue.pushStep_idle hreturned
      cases status with
      | queued =>
          refine hinv.stepPush hproducer ?_ (fun _ => hidle) rfl rfl nofun
          rw [hreturned]
          rfl
      | emptyPayload =>
          refine hinv.stepPush hproducer ?_ (fun _ => hidle) rfl rfl nofun
          rw [hreturned]
          rfl
      | payloadTooLarge =>
          refine hinv.stepPush hproducer ?_ (fun _ => hidle) rfl rfl nofun
          rw [hreturned]
          rfl
      | queueFull =>
          refine hinv.stepPush hproducer ?_ (fun _ => hidle) rfl rfl nofun
          rw [hreturned]
          rfl

/-- The request that was accepted is counted, and the next one gets the next number. -/
theorem countProduced_perfInv (hinv : state.PerfInv config count)
    (hproducer : state.producer = .countProduced) :
    (state.producerStep config).PerfInv config (count + 1) := by
  have hqueue := hinv.queue
  have hstats := hinv.stats
  have hbounded := hinv.bounded
  have hidle := hinv.call (by rw [hproducer]; nofun)
  have hnotDone := hinv.producerDone_eq_false (by rw [hproducer]; nofun)
  rw [hproducer] at hqueue hstats hbounded
  rw [producerStep, hproducer]
  exact { hinv with
    produced := by
      dsimp only
      rw [hinv.produced, ofNat_add_one]
    sequence := by
      dsimp only
      rw [hinv.sequence, ofNat_add_one]
    queue := hqueue.of_idle hidle _
    call := fun _ => hidle
    stats := hstats
    done := hnotDone
    ended := nofun
    bounded := hbounded }

theorem storeDone_perfInv (hinv : state.PerfInv config count)
    (hproducer : state.producer = .storeDone) :
    (state.producerStep config).PerfInv config count := by
  have hqueue := hinv.queue
  have hstats := hinv.stats
  have hbounded := hinv.bounded
  have hended := hinv.ended
  have hidle := hinv.call (by rw [hproducer]; nofun)
  have hexit := hinv.exit
  rw [hinv.producerDone_eq_false (by rw [hproducer]; nofun)] at hexit
  rw [hproducer] at hqueue hstats hbounded hended
  rw [producerStep, hproducer]
  exact { hinv with
    queue := hqueue
    call := fun _ => hidle
    stats := hstats
    done := rfl
    ended := hended
    bounded := hbounded
    exit := hexit.of_not_done _ }

theorem producerStep_perfInv (hinv : state.PerfInv config count) :
    ∃ count', (state.producerStep config).PerfInv config count' := by
  cases hproducer : state.producer with
  | waitStart =>
      have hdone := hinv.producerDone_eq_false (by rw [hproducer]; nofun)
      have hbounded := hinv.bounded
      have hbefore : state.producer ≠ .pushing := by rw [hproducer]; nofun
      have huncounted : state.producer.uncounted = 0 := by rw [hproducer]; rfl
      rw [hproducer] at hbounded
      rw [producerStep, hproducer]
      dsimp only
      split
      · exact ⟨count, hinv.moveProducer hbefore huncounted.symm hdone nofun hbounded⟩
      · exact ⟨count, hinv.moveProducer hbefore huncounted.symm hdone nofun hbounded⟩
  | testStop => exact ⟨count, testStop_perfInv hinv hproducer⟩
  | testStopPush => exact ⟨count, testStopPush_perfInv hinv hproducer⟩
  | pushing => exact ⟨count, pushing_perfInv hinv hproducer⟩
  | countProduced => exact ⟨count + 1, countProduced_perfInv hinv hproducer⟩
  | storeDone => exact ⟨count, storeDone_perfInv hinv hproducer⟩
  | finished =>
      rw [producerStep, hproducer]
      exact ⟨count, hinv⟩

/-! ## Steps of the consumer -/

/-- A consumer that moves on to {lit}`after` without touching the queue. -/
theorem PerfInv.moveConsumer (hinv : state.PerfInv config count) {after : ConsumerPc}
    (hbefore : state.consumer ≠ .popping)
    (hexit : after.ExitInv state.producerDone state.queue.ring)
    (hconsumed : after ≠ .storeChecksum) (hchecksum : after ≠ .finished) :
    PerfInv config count { state with consumer := after } :=
  { hinv with
    pop := fun _ => hinv.pop hbefore
    exit := hexit
    consumed := by
      rintro (heq | heq)
      · exact absurd heq hconsumed
      · exact absurd heq hchecksum
    checksum := fun heq => absurd heq hchecksum }

theorem loadHead_perfInv (hinv : state.PerfInv config count) {tail : UInt64}
    (hconsumer : state.consumer = .loadHead tail) : state.consumerStep.PerfInv config count := by
  have hbefore : state.consumer ≠ .popping := by rw [hconsumer]; nofun
  have hexit := hinv.exit
  rw [hconsumer] at hexit
  rcases hexit with ⟨hdone, rfl⟩
  rw [consumerStep, hconsumer]
  dsimp only
  split
  · rename_i hzero
    -- The flag was seen first, so an empty queue stays empty.
    have hsize : state.queue.ring.size = 0 := hzero
    have hlength := hinv.queue.reliable.toNat_size
    rw [hsize] at hlength
    have hempty : state.queue.ring.contents = [] := List.eq_nil_of_length_eq_zero hlength.symm
    exact hinv.moveConsumer hbefore ⟨hdone, hempty⟩ nofun nofun
  · exact hinv.moveConsumer hbefore trivial nofun nofun

/-- A step of a pop, after which the consumer is at {lit}`after` with its own counters. -/
theorem PerfInv.stepPop (hinv : state.PerfInv config count) {after : ConsumerPc}
    {localConsumed localChecksum : UInt64}
    (hconsumed : localConsumed = UInt64.ofNat state.queue.popStep.ring.popped.length)
    (hchecksum : localChecksum =
      checksumOf (state.queue.popStep.ring.popped.map (fun item => item.request)))
    (hpop : after ≠ .popping → state.queue.popStep.ring.pop = .idle)
    (hafter : after = .popping ∨ after = .loadDone) :
    PerfInv config count
      { state with
        queue := state.queue.popStep
        localConsumed := localConsumed
        localChecksum := localChecksum
        consumer := after } :=
  { hinv with
    queue := BackendSubmitQueue.popStep_queueInv hinv.queue
    stats := ⟨hinv.stats.attached, hinv.stats.queued, hinv.stats.refused⟩
    localConsumed := hconsumed
    localChecksum := hchecksum
    pop := hpop
    exit := by rcases hafter with rfl | rfl <;> trivial
    consumed := by rcases hafter with rfl | rfl <;> rintro (heq | heq) <;> cases heq
    checksum := by rcases hafter with rfl | rfl <;> exact nofun }

theorem popping_perfInv (hinv : state.PerfInv config count)
    (hconsumer : state.consumer = .popping) : state.consumerStep.PerfInv config count := by
  have hring : state.queue.popStep.ring.popped = state.queue.ring.popped ++
      poppedBy state.queue.popReturns := rfl
  rw [consumerStep, hconsumer]
  dsimp only
  rcases hreturned : state.queue.popReturns with _ | _ | item <;> rw [hreturned] at hring
  · -- The pop goes on.
    have hsame : state.queue.popStep.ring.popped = state.queue.ring.popped :=
      hring.trans (List.append_nil _)
    rw [← hconsumer]
    refine hinv.stepPop ?_ ?_ (fun hne => absurd hconsumer hne) (Or.inl hconsumer)
    · rw [hsame]
      exact hinv.localConsumed
    · rw [hsame]
      exact hinv.localChecksum
  · -- The ring was empty.
    have hsame : state.queue.popStep.ring.popped = state.queue.ring.popped :=
      hring.trans (List.append_nil _)
    refine hinv.stepPop ?_ ?_ (fun _ => popStep_returned_idle hreturned) (Or.inr rfl)
    · rw [hsame]
      exact hinv.localConsumed
    · rw [hsame]
      exact hinv.localChecksum
  · -- An item has left the ring.
    have hmore : state.queue.popStep.ring.popped = state.queue.ring.popped ++ [item] := hring
    refine hinv.stepPop ?_ ?_ (fun _ => popStep_returned_idle hreturned) (Or.inr rfl)
    · rw [hmore, List.length_append, List.length_singleton, ← ofNat_add_one, hinv.localConsumed]
    · rw [hmore, List.map_append, checksumOf, List.foldl_append, hinv.localChecksum]
      rfl

theorem consumerStep_perfInv (hinv : state.PerfInv config count) :
    state.consumerStep.PerfInv config count := by
  have hexit := hinv.exit
  have hconsumed := hinv.consumed
  have hplace : ∀ {place}, state.consumer = place → place ≠ .popping →
      state.consumer ≠ .popping := by
    rintro place rfl hne
    exact hne
  cases hconsumer : state.consumer with
  | waitStart =>
      rw [consumerStep, hconsumer]
      dsimp only
      split
      · exact hinv.moveConsumer (hplace hconsumer nofun) trivial nofun nofun
      · exact hinv.moveConsumer (hplace hconsumer nofun) trivial nofun nofun
  | loadDone =>
      rw [consumerStep, hconsumer]
      dsimp only
      split
      · exact hinv.moveConsumer (hplace hconsumer nofun) trivial nofun nofun
      · rename_i hdone
        have hset : state.producerDone = true := by simpa using hdone
        exact hinv.moveConsumer (hplace hconsumer nofun) hset nofun nofun
  | loadTail =>
      rw [hconsumer] at hexit
      rw [consumerStep, hconsumer]
      exact hinv.moveConsumer (hplace hconsumer nofun) ⟨hexit, rfl⟩ nofun nofun
  | loadHead tail => exact loadHead_perfInv hinv hconsumer
  | popping => exact popping_perfInv hinv hconsumer
  | storeConsumed =>
      rw [hconsumer] at hexit
      rw [consumerStep, hconsumer]
      exact { hinv with
        pop := fun _ => hinv.pop (hplace hconsumer nofun)
        exit := hexit
        consumed := fun _ => rfl
        checksum := nofun }
  | storeChecksum =>
      rw [hconsumer] at hexit
      have hstored := hconsumed (Or.inl hconsumer)
      rw [consumerStep, hconsumer]
      exact { hinv with
        pop := fun _ => hinv.pop (hplace hconsumer nofun)
        exit := hexit
        consumed := fun _ => hstored
        checksum := fun _ => rfl }
  | finished =>
      rw [consumerStep, hconsumer]
      exact hinv

end Steps

/-! ## Runs -/

section Runs

variable {config : QueuePerfConfig limit} {state : QueuePerfState capacity limit}

theorem step_perfInv (hinv : ∃ count, state.PerfInv config count) (move : QueuePerfMove) :
    ∃ count, (state.step config move).PerfInv config count := by
  rcases hinv with ⟨count, hinv⟩
  cases move with
  | main => exact ⟨count, { hinv with }⟩
  | signal => exact ⟨count, { hinv with ended := fun _ => Or.inl rfl }⟩
  | producer => exact producerStep_perfInv hinv
  | consumer => exact ⟨count, consumerStep_perfInv hinv⟩

theorem run_perfInv (config : QueuePerfConfig limit)
    (buffer : Fin capacity.size → BackendSubmitQueueItem limit)
    (schedule : List QueuePerfMove) :
    ∃ count, ((initial buffer).run config schedule).PerfInv config count := by
  have hstep : ∀ (state : QueuePerfState capacity limit) (move : QueuePerfMove), True →
      (∃ count, state.PerfInv config count) →
      ∃ count, (state.step config move).PerfInv config count :=
    fun _ move _ hinv => step_perfInv hinv move
  exact foldl_invariant hstep ⟨0, initial_perfInv config buffer⟩ (fun _ _ => trivial)

/-- Neither thread touches the flags that it only reads. -/
theorem producerStep_flags (config : QueuePerfConfig limit)
    (state : QueuePerfState capacity limit) :
    (state.producerStep config).start = state.start ∧
      (state.producerStep config).stopSignalRequested = state.stopSignalRequested := by
  unfold producerStep
  split <;> exact ⟨rfl, rfl⟩

theorem consumerStep_flags (state : QueuePerfState capacity limit) :
    state.consumerStep.start = state.start ∧
      state.consumerStep.stopSignalRequested = state.stopSignalRequested := by
  unfold consumerStep
  split
  case h_5 => split <;> exact ⟨rfl, rfl⟩
  all_goals exact ⟨rfl, rfl⟩

/-- The threads are started by the main thread and stopped by a signal. -/
theorem run_flags (config : QueuePerfConfig limit)
    (buffer : Fin capacity.size → BackendSubmitQueueItem limit)
    (schedule : List QueuePerfMove) :
    (((initial buffer).run config schedule).start = true ↔ QueuePerfMove.main ∈ schedule) ∧
      (((initial buffer).run config schedule).stopSignalRequested = true ↔
        QueuePerfMove.signal ∈ schedule) := by
  induction schedule using List.reverseRecOn with
  | nil => exact ⟨⟨nofun, nofun⟩, ⟨nofun, nofun⟩⟩
  | append_singleton earlier move ih =>
      have hlast : (initial buffer).run config (earlier ++ [move]) =
          ((initial buffer).run config earlier).step config move := List.foldl_append
      rw [hlast]
      generalize (initial buffer).run config earlier = state at ih ⊢
      rcases ih with ⟨hstart, hstop⟩
      -- A move that is not the one in question changes neither side.
      have hother : ∀ {flag : Bool} {asked : QueuePerfMove}, (flag = true ↔ asked ∈ earlier) →
          asked ≠ move → (flag = true ↔ asked ∈ earlier ++ [move]) := by
        intro flag asked hflag hne
        rw [hflag, List.mem_append, List.mem_singleton]
        exact ⟨Or.inl, fun hmem => hmem.resolve_right hne⟩
      have hmem : move ∈ earlier ++ [move] := List.mem_append_right _ (List.mem_singleton_self _)
      cases move with
      | main => exact ⟨iff_of_true rfl hmem, hother hstop nofun⟩
      | signal => exact ⟨hother hstart nofun, iff_of_true rfl hmem⟩
      | producer =>
          rcases producerStep_flags config state with ⟨hsameStart, hsameStop⟩
          rw [step, hsameStart, hsameStop]
          exact ⟨hother hstart nofun, hother hstop nofun⟩
      | consumer =>
          rcases state.consumerStep_flags with ⟨hsameStart, hsameStop⟩
          rw [step, hsameStart, hsameStop]
          exact ⟨hother hstart nofun, hother hstop nofun⟩

/-- Once both threads have ended, the items popped are those of the requests counted. -/
theorem PerfInv.popped_eq {count : Nat} (hinv : state.PerfInv config count)
    (hproducer : state.producer = .finished) (hconsumer : state.consumer = .finished) :
    state.queue.ring.popped.map (fun item => item.request) = config.requests count := by
  have hexit := hinv.exit
  have hpushed := hinv.queue.pushed
  rw [hconsumer] at hexit
  rw [hinv.call (by rw [hproducer]; nofun), hproducer] at hpushed
  rw [hinv.queue.reliable.popped_eq_pushed hexit.2]
  exact hpushed.trans (List.append_nil _)

/-- A producer that ended without a signal has pushed as many requests as it was asked
to. -/
theorem PerfInv.count_eq {count : Nat} (hinv : state.PerfInv config count)
    (hproducer : state.producer = .finished) (hstop : state.stopSignalRequested = false) :
    config.Bounded ∧ count = config.operations.toNat := by
  have hlast : config.operations ≠ 0 ∧ state.sequence > config.operations := by
    rcases hinv.ended (by rw [hproducer]; rfl) with hsignal | hlast
    · rw [hstop] at hsignal
      cases hsignal
    · exact hlast
  rcases hlast with ⟨hsome, hgt⟩
  have hgt' := UInt64.lt_iff_toNat_lt.mp hgt
  have hbounded : config.Bounded := by
    refine ⟨hsome, fun heq => ?_⟩
    have hlt := state.sequence.toNat_lt
    rw [heq, UInt64.toNat_ofNat_of_lt' (by decide)] at hgt'
    omega
  refine ⟨hbounded, ?_⟩
  have hle := hinv.bounded hbounded
  rw [hproducer] at hle
  rw [hinv.sequence, UInt64.toNat_ofNat'] at hgt'
  have hmod := Nat.mod_le (count + 1) (2 ^ 64)
  have hle' : count ≤ config.operations.toNat := hle
  omega

end Runs

/-- Whenever the program comes to its end it has handed every request it produced to the
consumer, in order and once: the counters and the checksum it prints are those of the
requests with the numbers from one on, and it returns 0.  Without a signal it has produced
as many as it was asked to. -/
theorem queuePerf_outcome (config : QueuePerfConfig limit)
    (buffer : Fin capacity.size → BackendSubmitQueueItem limit) (schedule : List QueuePerfMove)
    (result : QueuePerfOutcome)
    (houtcome : ((initial buffer).run config schedule).outcome config = some result) :
    ∃ count, (((initial buffer).run config schedule).queue.ring.popped.map
        (fun item => item.request) = config.requests count ∧
      result = {
        payloadSize := config.payloadSize
        produced := UInt64.ofNat count
        consumed := UInt64.ofNat count
        checksum := checksumOf (config.requests count)
        submitQueued := UInt64.ofNat count
        submitRejected := result.submitRejected
        ringFull := result.submitRejected
        exitCode := 0 }) ∧
      (config.Bounded → count ≤ config.operations.toNat) ∧
      (QueuePerfMove.signal ∉ schedule →
        config.Bounded ∧ count = config.operations.toNat) := by
  rcases run_perfInv config buffer schedule with ⟨count, hinv⟩
  have hstopped := (run_flags config buffer schedule).2
  generalize (initial buffer).run config schedule = state at houtcome hinv hstopped ⊢
  rw [outcome] at houtcome
  split at houtcome
  swap
  · cases houtcome
  rename_i hended
  rcases hended with ⟨hproducer, hconsumer⟩
  have hpopped := hinv.popped_eq hproducer hconsumer
  have hlength := congrArg List.length hpopped
  rw [List.length_map, config.length_requests] at hlength
  have hconsumed : state.consumed = UInt64.ofNat count := by
    rw [hinv.consumed (Or.inr hconsumer), hinv.localConsumed, hlength]
  have hbounded := hinv.bounded
  rw [hproducer] at hbounded
  refine ⟨count, ⟨hpopped, ?_⟩, hbounded, fun hsignal => hinv.count_eq hproducer ?_⟩
  swap
  · exact Bool.eq_false_of_not_eq_true (fun hstop => hsignal (hstopped.mp hstop))
  rcases Option.isSome_iff_exists.mp hinv.stats.attached with ⟨stats, hstats⟩
  have hqueued := hinv.stats.queued stats hstats
  have hrefused := hinv.stats.refused stats hstats
  rw [hinv.call (by rw [hproducer]; nofun)] at hrefused
  rw [hproducer] at hqueued
  cases houtcome
  dsimp only
  rw [hstats, Option.getD_some, hqueued, hrefused.trans (UInt64.add_zero _), hinv.produced,
    hconsumed, hinv.checksum hconsumer, hinv.localChecksum, hpopped, if_pos rfl]
  rfl

/-- Two requests through a ring of two slots, with a pop of an empty ring on the way. -/
theorem queuePerf_outcome_two :
    let capacity : RingCapacity := ⟨2, by decide, by decide⟩
    let limit : PayloadLimit := ⟨4, by decide, by decide⟩
    let config : QueuePerfConfig limit := ⟨2, 3, by decide, by decide⟩
    let schedule : List QueuePerfMove := .main :: List.replicate 6 .consumer ++
      List.replicate 22 .producer ++ List.replicate 24 .consumer
    ∃ result, ((initial fun _ => {} : QueuePerfState capacity limit).run config schedule).outcome
        config = some result ∧ result.exitCode = 0 ∧ result.produced = 2 := by
  intro capacity limit config schedule
  have hresult : ((initial fun _ => {} : QueuePerfState capacity limit).run config
      schedule).outcome config = some ⟨3, 2, 2, 3, 2, 0, 0, 0⟩ := by decide +kernel
  rcases queuePerf_outcome config _ schedule _ hresult with ⟨count, ⟨-, hreport⟩, -, hall⟩
  have hcount : count = 2 := (hall (by decide)).2
  have hproduced := congrArg QueuePerfOutcome.produced hreport
  rw [hcount] at hproduced
  exact ⟨_, hresult, congrArg QueuePerfOutcome.exitCode hreport, hproduced⟩

end QueuePerfState

end Fgep.Apps
