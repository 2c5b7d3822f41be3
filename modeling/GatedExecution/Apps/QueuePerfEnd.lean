import GatedExecution.Lib.Fairness
import GatedExecution.Execution.AsyncStop
import GatedExecution.Apps.QueuePerfSafety

/-!
# The queue performance program comes to its end

While something is queued, every access of the consumer brings it nearer to a pop; while
nothing is, every access of the producer brings it nearer to a push or to its end, for a
ring that is empty is not full.  What is left to push and to pop bounds how often the two
take turns.

Main results:

- Theorem {lit}`producerStep_effect`: what one access of the producer does to the work that
  is left.
- Theorem {lit}`consumerStep_effect`: what one access of the consumer does to it.
- Theorem {lit}`queuePerf_ends`: in every fair schedule the program ends, after a signal or
  with its operations.
-/

namespace Fgep.Apps

open Wire Ouch Fgep.Core Fgep.Execution WrappingCounter Runs Fairness

variable {capacity : RingCapacity} {limit : PayloadLimit}

/-! ## The rank of a push -/

section Push

variable {α : Type}

/-- The accesses until a push takes effect, if the ring does not fill up; a push that will be
refused is further away. -/
def writePhase (capacity : RingCapacity) : PushPc α → Nat
  | .idle => 5
  | .loadTail _ _ => 4
  | .updateCachedTail _ head tail => if head + 1 - tail > capacity.value then 11 else 3
  | .writeSlot _ _ => 2
  | .storeHead _ _ => 1

theorem writePhase_lt {state : SpscState α capacity} (hreliable : state.Reliable)
    (hroom : state.contents.length < capacity.size) {item : α}
    (hgoes : (pushStep state.ring item state.push).returned = none) :
    writePhase capacity (state.step (.producer item)).push < writePhase capacity state.push := by
  rcases hreliable with ⟨cachedTail, cachedHead, hinv⟩
  have hpush := hinv.push
  change writePhase capacity (pushStep state.ring item state.push).pc < _
  cases hpc : state.push with
  | idle =>
      rw [pushStep]
      split
      · exact (by decide : 4 < 5)
      · exact (by decide : 2 < 5)
  | loadTail pending head =>
      rw [hpc] at hpush
      -- The tail is loaded from a ring that is not full.
      have hfree : ¬head + 1 - state.ring.tail > capacity.value := by
        have hhead : head = state.ring.head := hpush
        rw [hhead, hinv.head, hinv.tail,
          SpscState.full_iff hinv.fifo.length_le hinv.bound]
        rw [SpscState.contents, List.length_drop] at hroom
        omega
      have hafter : writePhase capacity (.updateCachedTail pending head state.ring.tail) = 3 :=
        if_neg hfree
      exact hafter ▸ (by decide : 3 < 4)
  | updateCachedTail pending head tail =>
      rw [hpc, pushStep] at hgoes
      dsimp only at hgoes
      split at hgoes
      · cases hgoes
      · rename_i hfree
        have hbefore : writePhase capacity (.updateCachedTail pending head tail) = 3 :=
          if_neg hfree
        rw [hbefore, pushStep]
        dsimp only
        rw [if_neg hfree]
        exact (by decide : 2 < 3)
  | writeSlot pending head => exact (by decide : 1 < 2)
  | storeHead pending head =>
      rw [hpc] at hgoes
      cases hgoes

/-- Only a push that returns true moves the head. -/
theorem pushStep_head {ring : SpscRing α capacity} {item : α} {pc : PushPc α}
    (hnone : pushedBy (pushStep ring item pc).returned = []) :
    (pushStep ring item pc).ring.head = ring.head := by
  cases pc with
  | idle =>
      rw [pushStep]
      split <;> rfl
  | loadTail pending head => rfl
  | updateCachedTail pending head tail =>
      rw [pushStep]
      dsimp only
      split <;> rfl
  | writeSlot pending head => rfl
  | storeHead pending head => cases hnone

/-- A push that is refused was on the way to its refusal. -/
theorem writePhase_of_refused {ring : SpscRing α capacity} {item value : α} {pc : PushPc α}
    (hreturned : (pushStep ring item pc).returned = some (value, false)) :
    writePhase capacity pc = 11 := by
  rcases pushStep_returned hreturned with ⟨htrue, -⟩ | ⟨-, head, tail, rfl, hfull⟩
  · cases htrue
  · exact if_pos hfull

end Push

/-- The accesses of a call until its push takes effect, or until the call is over. -/
def callPhase (push : PushPc (BackendSubmitQueueItem limit)) (capacity : RingCapacity) :
    QueuePushPc limit → Nat
  | .idle => 6
  | .pushing _ => writePhase capacity push
  | .recordQueued => 10
  | .recordRingFull => 9
  | .recordRejected _ => 8

/-- The call may still put its request into the ring. -/
def mayPush : QueuePushPc limit → Bool
  | .idle => true
  | .pushing _ => true
  | _ => false

namespace QueuePerfState

/-! ## What is left to do -/

/-- The loop of the producer will not begin another request. -/
def lastRequest (config : QueuePerfConfig limit) (state : QueuePerfState capacity limit) : Bool :=
  state.stopSignalRequested || (config.operations ≠ 0 && state.sequence > config.operations)

def producerPhase (config : QueuePerfConfig limit) (state : QueuePerfState capacity limit) :
    Nat :=
  match state.producer with
  | .finished => 0
  | .storeDone => 1
  | .testStop => if state.lastRequest config then 2 else 8
  | .testStopPush => if state.stopSignalRequested then 3 else 7
  | .pushing => callPhase state.queue.ring.push capacity state.queue.call
  | .countProduced => 9
  | .waitStart => 9

def consumerPhase (state : QueuePerfState capacity limit) : Nat :=
  match state.consumer with
  | .finished => 0
  | .storeChecksum => 1
  | .storeConsumed => 2
  | .popping => pollRank state.queue.ring.ring state.queue.ring.pop
  | .loadHead _ => 6
  | .loadTail => 7
  | .loadDone => 8
  | .waitStart => 9

/-- The requests that may still be pushed. -/
def pushesLeft (config : QueuePerfConfig limit) (state : QueuePerfState capacity limit) : Nat :=
  if state.stopSignalRequested then
    if state.producer = .pushing ∧ mayPush state.queue.call = true then 1 else 0
  else config.operations.toNat - state.queue.ring.pushed.length

theorem pushesLeft_of_stopped {config : QueuePerfConfig limit}
    {state : QueuePerfState capacity limit} (hstop : state.stopSignalRequested = true) :
    state.pushesLeft config =
      if state.producer = .pushing ∧ mayPush state.queue.call = true then 1 else 0 :=
  if_pos hstop

theorem pushesLeft_of_running {config : QueuePerfConfig limit}
    {state : QueuePerfState capacity limit} (hstop : state.stopSignalRequested = false) :
    state.pushesLeft config = config.operations.toNat - state.queue.ring.pushed.length :=
  if_neg (ne_true_of_eq_false hstop)

/-- Nothing is queued and the producer has not ended. -/
def waitsForProducer (state : QueuePerfState capacity limit) : Bool :=
  state.queue.ring.contents.isEmpty && !decide (state.producer = .finished)

/-- The thread whose next access brings the program nearer to its end. -/
def helper (state : QueuePerfState capacity limit) : QueuePerfMove :=
  if state.waitsForProducer then .producer else .consumer

def phase (config : QueuePerfConfig limit) (state : QueuePerfState capacity limit) : Nat :=
  if state.waitsForProducer then 12 + state.producerPhase config else state.consumerPhase

/-- A push is worth two turns, for its request is to be popped as well. -/
def work (config : QueuePerfConfig limit) (state : QueuePerfState capacity limit) : Nat :=
  2 * state.pushesLeft config + state.queue.ring.contents.length

def rank (config : QueuePerfConfig limit) (state : QueuePerfState capacity limit) : Nat :=
  24 * state.work config + state.phase config

theorem consumerPhase_le (state : QueuePerfState capacity limit) : state.consumerPhase ≤ 11 := by
  unfold consumerPhase
  split
  case h_4 =>
    unfold pollRank
    split
    all_goals first | decide | (split <;> decide)
  all_goals decide

theorem producerPhase_le (config : QueuePerfConfig limit)
    (state : QueuePerfState capacity limit) : state.producerPhase config ≤ 11 := by
  unfold producerPhase
  split
  case h_3 => split <;> decide
  case h_4 => split <;> decide
  case h_5 =>
    unfold callPhase
    split
    case h_2 =>
      unfold writePhase
      split
      case h_3 => split <;> decide
      all_goals decide
    all_goals decide
  all_goals decide

theorem phase_lt (config : QueuePerfConfig limit) (state : QueuePerfState capacity limit) :
    state.phase config < 24 := by
  have hproducer := state.producerPhase_le config
  have hconsumer := state.consumerPhase_le
  unfold phase
  split <;> omega

/-! ## Steps of the producer -/

section Steps

variable {config : QueuePerfConfig limit} {count : Nat} {state : QueuePerfState capacity limit}

/-- What an access of the producer does to the work that is left: it puts a request into the
ring, or gives one up, or comes nearer to one of the two while the ring has room. -/
def ProducerEffect (config : QueuePerfConfig limit)
    (state after : QueuePerfState capacity limit) : Prop :=
  (∃ item, after.queue.ring.contents = state.queue.ring.contents ++ [item] ∧
    after.pushesLeft config + 1 = state.pushesLeft config) ∨
  (after.queue.ring.contents = state.queue.ring.contents ∧
    after.queue.ring.ring.head = state.queue.ring.ring.head ∧
    (after.pushesLeft config < state.pushesLeft config ∨
      after.pushesLeft config = state.pushesLeft config ∧
        (state.queue.ring.contents = [] → state.producer ≠ .finished →
          after.producerPhase config < state.producerPhase config)))

/-- An access that leaves the queue alone. -/
theorem ProducerEffect.of_queue_eq {after : QueuePerfState capacity limit}
    (hqueue : after.queue = state.queue)
    (hstop : after.stopSignalRequested = state.stopSignalRequested)
    (hbefore : state.producer ≠ .pushing)
    (hafter : after.producer = .pushing → state.stopSignalRequested = false)
    (hphase : state.producer ≠ .finished →
      after.producerPhase config < state.producerPhase config) :
    ProducerEffect config state after := by
  refine Or.inr ⟨by rw [hqueue], by rw [hqueue], Or.inr ⟨?_, fun _ => hphase⟩⟩
  unfold pushesLeft
  rw [hqueue, hstop]
  split
  · rename_i hsignal
    have hnot : after.producer ≠ .pushing := by
      intro heq
      rw [hafter heq] at hsignal
      cases hsignal
    rw [if_neg (fun hboth => hnot hboth.1), if_neg (fun hboth => hbefore hboth.1)]
  · rfl

theorem waitStart_effect (hstart : state.start = true) (hproducer : state.producer = .waitStart) :
    ProducerEffect config state (state.producerStep config) := by
  have hstep : state.producerStep config = { state with producer := .testStop } := by
    rw [producerStep, hproducer, hstart]
    rfl
  rw [hstep]
  have hbefore : state.producer ≠ .pushing := by rw [hproducer]; exact fun h => by cases h
  refine .of_queue_eq rfl rfl hbefore (fun h => by cases h) (fun _ => ?_)
  rw [producerPhase, producerPhase, hproducer]
  dsimp only
  split <;> decide

theorem testStop_effect (hproducer : state.producer = .testStop) :
    ProducerEffect config state (state.producerStep config) := by
  have hbefore : state.producer ≠ .pushing := by rw [hproducer]; exact fun h => by cases h
  have hphase : state.producerPhase config = if state.lastRequest config then 2 else 8 := by
    rw [producerPhase, hproducer]
  rw [producerStep, hproducer]
  dsimp only
  split
  · rename_i hstop
    refine .of_queue_eq rfl rfl hbefore (fun h => by cases h) (fun _ => ?_)
    have hlast : state.lastRequest config = true := by rw [lastRequest, hstop]; rfl
    rw [hphase, hlast]
    exact (by decide : 1 < 2)
  split
  · rename_i hmore
    refine .of_queue_eq rfl rfl hbefore (fun h => by cases h) (fun _ => ?_)
    have hlast : state.lastRequest config = true := by simp [lastRequest, hmore]
    rw [hphase, hlast]
    exact (by decide : 1 < 2)
  · rename_i hstop hmore
    refine .of_queue_eq rfl rfl hbefore (fun h => by cases h) (fun _ => ?_)
    have hlast : state.lastRequest config = false := by
      simp only [lastRequest, hstop, Bool.false_or]
      simpa using hmore
    have hafter : producerPhase config { state with producer := .testStopPush } = 7 :=
      if_neg hstop
    rw [hphase, hlast, hafter]
    exact (by decide : 7 < 8)

theorem testStopPush_effect (hinv : state.PerfInv config count)
    (hproducer : state.producer = .testStopPush) :
    ProducerEffect config state (state.producerStep config) := by
  have hbefore : state.producer ≠ .pushing := by rw [hproducer]; exact fun h => by cases h
  have hphase : state.producerPhase config = if state.stopSignalRequested then 3 else 7 := by
    rw [producerPhase, hproducer]
  rw [producerStep, hproducer]
  dsimp only
  split
  · rename_i hstop
    refine .of_queue_eq rfl rfl hbefore (fun h => by cases h) (fun _ => ?_)
    have hlast : lastRequest config { state with producer := .testStop } = true := by
      rw [lastRequest, hstop]
      rfl
    have hafter : producerPhase config { state with producer := .testStop } = 2 := if_pos hlast
    rw [hphase, hafter, if_pos hstop]
    exact (by decide : 2 < 3)
  · rename_i hstop
    refine .of_queue_eq rfl rfl hbefore (fun _ => Bool.eq_false_of_not_eq_true hstop)
      (fun _ => ?_)
    have hidle := hinv.call hbefore
    have hafter : producerPhase config { state with producer := .pushing } = 6 := by
      change callPhase state.queue.ring.push capacity state.queue.call = 6
      rw [hidle]
      rfl
    rw [hphase, if_neg hstop, hafter]
    exact (by decide : 6 < 7)

theorem countProduced_effect (hproducer : state.producer = .countProduced) :
    ProducerEffect config state (state.producerStep config) := by
  have hbefore : state.producer ≠ .pushing := by rw [hproducer]; exact fun h => by cases h
  have hphase : state.producerPhase config = 9 := by rw [producerPhase, hproducer]
  rw [producerStep, hproducer]
  refine .of_queue_eq rfl rfl hbefore (fun h => by cases h) (fun _ => ?_)
  rw [hphase, producerPhase]
  dsimp only
  split <;> decide

theorem storeDone_effect (hproducer : state.producer = .storeDone) :
    ProducerEffect config state (state.producerStep config) := by
  have hbefore : state.producer ≠ .pushing := by rw [hproducer]; exact fun h => by cases h
  have hphase : state.producerPhase config = 1 := by rw [producerPhase, hproducer]
  rw [producerStep, hproducer]
  refine .of_queue_eq rfl rfl hbefore (fun h => by cases h) (fun _ => ?_)
  rw [hphase]
  exact (by decide : 0 < 1)

/-- In the middle of a push the number of requests in the ring is the one counted. -/
theorem PerfInv.pushed_length (hinv : state.PerfInv config count)
    (hproducer : state.producer = .pushing) (hmay : mayPush state.queue.call = true) :
    state.queue.ring.pushed.length = count := by
  have hpublished : state.queue.call.published (config.requestOf state.sequence) = [] := by
    cases hcall : state.queue.call with
    | idle => rfl
    | pushing item => rfl
    | recordQueued => rw [hcall] at hmay; cases hmay
    | recordRingFull => rfl
    | recordRejected status => rfl
  have hpushed := congrArg List.length hinv.queue.pushed
  rw [hpublished, hproducer, List.length_map, List.append_nil, config.length_requests] at hpushed
  exact hpushed

/-- So there is room for it within the operations. -/
theorem PerfInv.pushed_length_lt (hinv : state.PerfInv config count)
    (hproducer : state.producer = .pushing) (hmay : mayPush state.queue.call = true)
    (hbounded : config.Bounded) :
    state.queue.ring.pushed.length + 1 ≤ config.operations.toNat := by
  have hmore := hinv.bounded hbounded
  rw [hproducer] at hmore
  rw [hinv.pushed_length hproducer hmay]
  exact hmore

/-- What a step of the ring for the request of this round leaves. -/
theorem producerStep_pushing (hproducer : state.producer = .pushing)
    {item : BackendSubmitQueueItem limit} (hcall : state.queue.call = .pushing item) :
    state.producerStep config = { state with
      queue := { state.queue with
        ring := state.queue.ring.step (.producer item)
        call :=
          match (pushStep state.queue.ring.ring item state.queue.ring.push).returned with
          | none => .pushing item
          | some (_, true) => .recordQueued
          | some (_, false) => .recordRingFull }
      producer := .pushing } := by
  rw [producerStep, hproducer]
  dsimp only
  rewrite [BackendSubmitQueue.pushStep, hcall]
  rfl

section RingStep

variable {item : BackendSubmitQueueItem limit} {after : QueuePerfState capacity limit}

/-- A step of the ring that pushes nothing, after which the call is at {lit}`place`. -/
theorem ringStep_quiet (hproducer : state.producer = .pushing)
    (hcall : state.queue.call = .pushing item)
    (hring : after.queue.ring = state.queue.ring.step (.producer item))
    (hstop : after.stopSignalRequested = state.stopSignalRequested)
    (hafter : after.producer = .pushing)
    (hnone : pushedBy (pushStep state.queue.ring.ring item state.queue.ring.push).returned = [])
    (hphase : state.queue.ring.contents = [] → mayPush after.queue.call = true →
      after.producerPhase config < state.producerPhase config)
    (hrefused : mayPush after.queue.call = false →
      after.producerPhase config < state.producerPhase config) :
    ProducerEffect config state after := by
  have hpushed : after.queue.ring.pushed = state.queue.ring.pushed := by
    rw [hring]
    exact (congrArg (fun more => state.queue.ring.pushed ++ more) hnone).trans (List.append_nil _)
  have hcontents : after.queue.ring.contents = state.queue.ring.contents := by
    rw [SpscState.contents, hpushed, hring]
    rfl
  have hhead : after.queue.ring.ring.head = state.queue.ring.ring.head := by
    rw [hring]
    exact pushStep_head hnone
  have hlower : state.queue.ring.contents = [] →
      after.producerPhase config < state.producerPhase config := by
    intro hempty
    rcases Bool.eq_false_or_eq_true (mayPush after.queue.call) with hmay | hmay
    · exact hphase hempty hmay
    · exact hrefused hmay
  refine Or.inr ⟨hcontents, hhead, ?_⟩
  rcases Bool.eq_false_or_eq_true state.stopSignalRequested with hsignal | hsignal
  · have hbefore : state.pushesLeft config = 1 := by
      rw [pushesLeft_of_stopped hsignal, hproducer, hcall]
      rfl
    rw [hbefore, pushesLeft_of_stopped (hstop.trans hsignal), hafter]
    cases hmay : mayPush after.queue.call with
    | true => exact Or.inr ⟨rfl, fun hempty _ => hlower hempty⟩
    | false => exact Or.inl Nat.one_pos
  · rw [pushesLeft_of_running hsignal, pushesLeft_of_running (hstop.trans hsignal), hpushed]
    exact Or.inr ⟨rfl, fun hempty _ => hlower hempty⟩

/-- A step of the ring that pushes the request of this round. -/
theorem ringStep_push (hinv : state.PerfInv config count)
    (hlimit : state.stopSignalRequested = true ∨ config.Bounded)
    (hproducer : state.producer = .pushing) (hcall : state.queue.call = .pushing item)
    (hring : after.queue.ring = state.queue.ring.step (.producer item))
    (hstop : after.stopSignalRequested = state.stopSignalRequested)
    (hafter : after.queue.call = .recordQueued) {value : BackendSubmitQueueItem limit}
    (hone : pushedBy (pushStep state.queue.ring.ring item state.queue.ring.push).returned =
      [value]) : ProducerEffect config state after := by
  have hpushed : after.queue.ring.pushed = state.queue.ring.pushed ++ [value] := by
    rw [hring]
    exact congrArg (fun more => state.queue.ring.pushed ++ more) hone
  refine Or.inl ⟨value, ?_, ?_⟩
  · rcases hinv.queue.reliable with ⟨cachedTail, cachedHead, hindices⟩
    rw [SpscState.contents, hpushed, hring]
    exact List.drop_append_of_le_length hindices.fifo.length_le
  rcases Bool.eq_false_or_eq_true state.stopSignalRequested with hsignal | hsignal
  · rw [pushesLeft_of_stopped hsignal, pushesLeft_of_stopped (hstop.trans hsignal), hproducer,
      hcall, hafter]
    exact congrArg (fun left => left + 1) (if_neg (fun hboth => Bool.false_ne_true hboth.2))
  · have hbounded : config.Bounded := by
      rcases hlimit with htrue | hbounded
      · rw [hsignal] at htrue
        cases htrue
      · exact hbounded
    have hlt := hinv.pushed_length_lt hproducer (by rw [hcall]; rfl) hbounded
    rw [pushesLeft_of_running hsignal, pushesLeft_of_running (hstop.trans hsignal), hpushed,
      List.length_append, List.length_singleton]
    omega

end RingStep

theorem ringStep_effect (hinv : state.PerfInv config count)
    (hlimit : state.stopSignalRequested = true ∨ config.Bounded)
    (hproducer : state.producer = .pushing) {item : BackendSubmitQueueItem limit}
    (hcall : state.queue.call = .pushing item) :
    ProducerEffect config state (state.producerStep config) := by
  have hphase : state.producerPhase config = writePhase capacity state.queue.ring.push := by
    rw [producerPhase, hproducer]
    dsimp only
    rw [hcall]
    rfl
  rw [producerStep_pushing hproducer hcall]
  rcases hreturned : (pushStep state.queue.ring.ring item state.queue.ring.push).returned with
    _ | ⟨value, _ | _⟩
  · -- The push goes on.
    refine ringStep_quiet hproducer hcall rfl rfl rfl (by rw [hreturned]; rfl)
      (fun hempty _ => ?_) (fun h => by cases h)
    have hroom : state.queue.ring.contents.length < capacity.size := by
      rw [hempty]
      exact Nat.lt_of_lt_of_le Nat.two_pos capacity.two_le_size
    have hlower := writePhase_lt hinv.queue.reliable hroom hreturned
    rw [hphase]
    exact hlower
  · -- The ring was full.
    refine ringStep_quiet hproducer hcall rfl rfl rfl (by rw [hreturned]; rfl)
      (fun _ hmay => absurd hmay Bool.false_ne_true) (fun _ => ?_)
    rw [hphase, writePhase_of_refused hreturned]
    exact (by decide : 9 < 11)
  · exact ringStep_push hinv hlimit hproducer hcall rfl rfl rfl (by rw [hreturned]; rfl)

/-- An access of a call outside the ring. -/
theorem ProducerEffect.of_ring_eq {after : QueuePerfState capacity limit}
    (hring : after.queue.ring = state.queue.ring)
    (hstop : after.stopSignalRequested = state.stopSignalRequested)
    (hleft : (after.producer = .pushing ∧ mayPush after.queue.call = true) ↔
      (state.producer = .pushing ∧ mayPush state.queue.call = true))
    (hphase : after.producerPhase config < state.producerPhase config) :
    ProducerEffect config state after := by
  refine Or.inr ⟨by rw [hring], by rw [hring], Or.inr ⟨?_, fun _ _ => hphase⟩⟩
  rcases Bool.eq_false_or_eq_true state.stopSignalRequested with hsignal | hsignal
  · rw [pushesLeft_of_stopped hsignal, pushesLeft_of_stopped (hstop.trans hsignal)]
    exact if_congr hleft rfl rfl
  · rw [pushesLeft_of_running hsignal, pushesLeft_of_running (hstop.trans hsignal), hring]

theorem pushing_effect (hinv : state.PerfInv config count)
    (hlimit : state.stopSignalRequested = true ∨ config.Bounded)
    (hproducer : state.producer = .pushing) :
    ProducerEffect config state (state.producerStep config) := by
  have hphase : state.producerPhase config =
      callPhase state.queue.ring.push capacity state.queue.call := by
    rw [producerPhase, hproducer]
  have hcallInv := hinv.queue.call
  cases hcall : state.queue.call with
  | idle =>
      rw [hcall] at hphase hcallInv
      have hpush : state.queue.ring.push = .idle := hcallInv
      have hqueued := config.makeItem_requestOf state.sequence
      rw [producerStep, hproducer]
      dsimp only
      rw [BackendSubmitQueue.pushStep, hcall]
      dsimp only
      rw [if_neg (not_not.mpr hqueued)]
      refine .of_ring_eq rfl rfl ?_ ?_
      · rw [hproducer, hcall]
        exact Iff.rfl
      · rw [hphase]
        change writePhase capacity state.queue.ring.push < 6
        rw [hpush]
        exact (by decide : 5 < 6)
  | pushing item => exact ringStep_effect hinv hlimit hproducer hcall
  | recordQueued =>
      rw [hcall] at hphase
      rw [producerStep, hproducer]
      dsimp only
      rw [BackendSubmitQueue.pushStep, hcall]
      refine .of_ring_eq rfl rfl ?_ ?_
      · rw [hproducer, hcall]
        exact ⟨fun hboth => absurd hboth.1 (fun h => by cases h),
          fun hboth => absurd hboth.2 (fun h => by cases h)⟩
      · rw [hphase]
        exact (by decide : 9 < 10)
  | recordRingFull =>
      rw [hcall] at hphase
      rw [producerStep, hproducer]
      dsimp only
      rw [BackendSubmitQueue.pushStep, hcall]
      refine .of_ring_eq rfl rfl ?_ ?_
      · rw [hproducer, hcall]
        exact Iff.rfl
      · rw [hphase]
        exact (by decide : 8 < 9)
  | recordRejected status =>
      rw [hcall] at hphase hcallInv
      have hafter : (state.producerStep config) = { state with
          queue := { state.queue with
            stats := state.queue.record .submitRejected
            call := .idle }
          producer := .testStopPush } := by
        rw [producerStep, hproducer]
        dsimp only
        rw [BackendSubmitQueue.pushStep, hcall]
        dsimp only
        split
        · rename_i hnone
          cases hnone
        · rename_i hqueued
          exact absurd (Option.some.inj hqueued) hcallInv.2.1
        · rfl
      rw [hafter]
      refine .of_ring_eq rfl rfl ?_ ?_
      · rw [hproducer, hcall]
        exact ⟨fun hboth => absurd hboth.1 (fun h => by cases h),
          fun hboth => absurd hboth.2 (fun h => by cases h)⟩
      · rw [hphase, callPhase, producerPhase]
        dsimp only
        split <;> decide

theorem producerStep_effect (hinv : state.PerfInv config count) (hstart : state.start = true)
    (hlimit : state.stopSignalRequested = true ∨ config.Bounded) :
    ProducerEffect config state (state.producerStep config) := by
  cases hproducer : state.producer with
  | waitStart => exact waitStart_effect hstart hproducer
  | testStop => exact testStop_effect hproducer
  | testStopPush => exact testStopPush_effect hinv hproducer
  | pushing => exact pushing_effect hinv hlimit hproducer
  | countProduced => exact countProduced_effect hproducer
  | storeDone => exact storeDone_effect hproducer
  | finished =>
      rw [producerStep, hproducer]
      exact Or.inr ⟨rfl, rfl, Or.inr ⟨rfl, fun _ hnot => absurd hproducer hnot⟩⟩

/-- The producer does not touch the other thread. -/
theorem producerStep_consumer (state : QueuePerfState capacity limit) :
    (state.producerStep config).consumer = state.consumer ∧
      (state.producerStep config).queue.ring.pop = state.queue.ring.pop ∧
      (state.producerStep config).queue.ring.ring.tail = state.queue.ring.ring.tail := by
  unfold producerStep
  split
  case h_4 => exact ⟨rfl, BackendSubmitQueue.pushStep_pop, BackendSubmitQueue.pushStep_tail⟩
  all_goals exact ⟨rfl, rfl, rfl⟩

/-! ## Steps of the consumer -/

/-- What an access of the consumer does to the work that is left: it takes the oldest item,
or comes nearer to a pop or to its end. -/
def ConsumerEffect (state after : QueuePerfState capacity limit) : Prop :=
  (∃ item, state.queue.ring.contents = item :: after.queue.ring.contents) ∨
  (after.queue.ring.contents = state.queue.ring.contents ∧
    (state.waitsForProducer = true ∨ state.consumer = .finished ∨
      after.consumerPhase < state.consumerPhase))

/-- A ring that holds something has a head other than its tail. -/
theorem tail_ne_head (hreliable : state.queue.ring.Reliable)
    (hsome : state.queue.ring.contents ≠ []) :
    state.queue.ring.ring.tail ≠ state.queue.ring.ring.head := by
  intro heq
  have hsize := hreliable.toNat_size
  rw [SpscState.size, heq, UInt64.sub_self] at hsize
  exact hsome (List.eq_nil_of_length_eq_zero hsize.symm)

theorem loadDone_effect (hinv : state.PerfInv config count)
    (hconsumer : state.consumer = .loadDone) : ConsumerEffect state state.consumerStep := by
  have hphase : state.consumerPhase = 8 := by rw [consumerPhase, hconsumer]
  have hpop := hinv.pop (by rw [hconsumer]; exact fun h => by cases h)
  rw [consumerStep, hconsumer]
  dsimp only
  refine Or.inr ⟨rfl, ?_⟩
  cases hdone : state.producerDone with
  | true =>
      right; right
      rw [hphase]
      exact (by decide : 7 < 8)
  | false =>
      have hnot : state.producer ≠ .finished := by
        intro heq
        rw [hinv.done, heq] at hdone
        cases hdone
      by_cases hempty : state.queue.ring.contents = []
      · left
        rw [waitsForProducer, hempty, decide_eq_false hnot]
        rfl
      · right; right
        rw [hphase]
        change pollRank state.queue.ring.ring state.queue.ring.pop < 8
        rw [hpop, pollRank, if_neg (tail_ne_head hinv.queue.reliable hempty)]
        decide

theorem loadHead_effect (hinv : state.PerfInv config count) {tail : UInt64}
    (hconsumer : state.consumer = .loadHead tail) :
    ConsumerEffect state state.consumerStep := by
  have hphase : state.consumerPhase = 6 := by rw [consumerPhase, hconsumer]
  have hpop := hinv.pop (by rw [hconsumer]; exact fun h => by cases h)
  have hexit := hinv.exit
  rw [hconsumer] at hexit
  rcases hexit with ⟨-, rfl⟩
  rw [consumerStep, hconsumer]
  dsimp only
  split
  · refine Or.inr ⟨rfl, Or.inr (Or.inr ?_)⟩
    rw [hphase]
    exact (by decide : 2 < 6)
  · -- Something is queued, so the pop that starts now will take it.
    rename_i hsome
    have hne : state.queue.ring.ring.tail ≠ state.queue.ring.ring.head := by
      intro heq
      rw [heq, UInt64.sub_self] at hsome
      exact hsome rfl
    refine Or.inr ⟨rfl, Or.inr (Or.inr ?_)⟩
    rw [hphase]
    change pollRank state.queue.ring.ring state.queue.ring.pop < 6
    rw [hpop, pollRank, if_neg hne]
    decide

theorem popping_effect (hinv : state.PerfInv config count)
    (hconsumer : state.consumer = .popping) : ConsumerEffect state state.consumerStep := by
  have hphase : state.consumerPhase = pollRank state.queue.ring.ring state.queue.ring.pop := by
    rw [consumerPhase, hconsumer]
  rw [consumerStep, hconsumer]
  dsimp only
  rcases hreturned : state.queue.popReturns with _ | _ | item
  · have hsame : state.queue.popStep.ring.contents = state.queue.ring.contents :=
      SpscState.contents_of_nothing_popped (congrArg poppedBy hreturned)
    refine Or.inr ⟨hsame, Or.inr (Or.inr ?_)⟩
    have hlower := popStep_pollRank_lt hreturned
    rw [hphase]
    exact hlower
  · have hsame : state.queue.popStep.ring.contents = state.queue.ring.contents :=
      SpscState.contents_of_nothing_popped (congrArg poppedBy hreturned)
    refine Or.inr ⟨hsame, Or.inr (Or.inr ?_)⟩
    rw [hphase, pollRank_of_returned_none hreturned]
    exact (by decide : 8 < 9)
  · exact Or.inl ⟨item, hinv.queue.reliable.contents_eq_cons hreturned⟩

theorem consumerStep_effect (hinv : state.PerfInv config count) (hstart : state.start = true) :
    ConsumerEffect state state.consumerStep := by
  cases hconsumer : state.consumer with
  | waitStart =>
      have hphase : state.consumerPhase = 9 := by rw [consumerPhase, hconsumer]
      rw [consumerStep, hconsumer, hstart]
      refine Or.inr ⟨rfl, Or.inr (Or.inr ?_)⟩
      rw [hphase]
      exact (by decide : 8 < 9)
  | loadDone => exact loadDone_effect hinv hconsumer
  | loadTail =>
      have hphase : state.consumerPhase = 7 := by rw [consumerPhase, hconsumer]
      rw [consumerStep, hconsumer]
      refine Or.inr ⟨rfl, Or.inr (Or.inr ?_)⟩
      rw [hphase]
      exact (by decide : 6 < 7)
  | loadHead tail => exact loadHead_effect hinv hconsumer
  | popping => exact popping_effect hinv hconsumer
  | storeConsumed =>
      have hphase : state.consumerPhase = 2 := by rw [consumerPhase, hconsumer]
      rw [consumerStep, hconsumer]
      refine Or.inr ⟨rfl, Or.inr (Or.inr ?_)⟩
      rw [hphase]
      exact (by decide : 1 < 2)
  | storeChecksum =>
      have hphase : state.consumerPhase = 1 := by rw [consumerPhase, hconsumer]
      rw [consumerStep, hconsumer]
      refine Or.inr ⟨rfl, Or.inr (Or.inr ?_)⟩
      rw [hphase]
      exact (by decide : 0 < 1)
  | finished =>
      rw [consumerStep, hconsumer]
      exact Or.inr ⟨rfl, Or.inr (Or.inl hconsumer)⟩

/-- The consumer does not touch the other thread. -/
theorem consumerStep_producer (config : QueuePerfConfig limit)
    (state : QueuePerfState capacity limit) :
    state.consumerStep.producer = state.producer ∧
      state.consumerStep.producerPhase config = state.producerPhase config ∧
      state.consumerStep.pushesLeft config = state.pushesLeft config := by
  unfold consumerStep
  split
  case h_5 => split <;> exact ⟨rfl, rfl, rfl⟩
  all_goals exact ⟨rfl, rfl, rfl⟩

end Steps

/-! ## Fair schedules -/

section Fair

variable {config : QueuePerfConfig limit} {state : QueuePerfState capacity limit}

/-- The program has been started and will end. -/
structure Ending (config : QueuePerfConfig limit) (state : QueuePerfState capacity limit) :
    Prop where
  inv : ∃ count, state.PerfInv config count
  start : state.start = true
  limited : state.stopSignalRequested = true ∨ config.Bounded

theorem waitsForProducer_iff :
    state.waitsForProducer = true ↔
      state.queue.ring.contents = [] ∧ state.producer ≠ .finished := by
  rw [waitsForProducer, Bool.and_eq_true, List.isEmpty_iff, Bool.not_eq_true',
    decide_eq_false_iff_not]

theorem helper_of_waits (hwaits : state.waitsForProducer = true) :
    state.helper = .producer :=
  if_pos hwaits

theorem helper_of_not_waits (hwaits : state.waitsForProducer = false) :
    state.helper = .consumer :=
  if_neg (ne_true_of_eq_false hwaits)

/-- Less work is worth more than any phase. -/
theorem rank_lt_of_work_lt {after : QueuePerfState capacity limit}
    (hwork : after.work config < state.work config) : after.rank config < state.rank config := by
  have hphase := after.phase_lt config
  unfold rank
  omega

theorem rank_lt_of_phase_lt {after : QueuePerfState capacity limit}
    (hwork : after.work config = state.work config)
    (hphase : after.phase config < state.phase config) :
    after.rank config < state.rank config := by
  unfold rank
  omega

theorem consumerPhase_congr {after : QueuePerfState capacity limit}
    (hconsumer : after.consumer = state.consumer)
    (hpop : after.queue.ring.pop = state.queue.ring.pop)
    (htail : after.queue.ring.ring.tail = state.queue.ring.ring.tail)
    (hhead : after.queue.ring.ring.head = state.queue.ring.ring.head) :
    after.consumerPhase = state.consumerPhase := by
  unfold consumerPhase
  rw [hconsumer]
  split
  case h_4 =>
    unfold pollRank
    rw [hpop, htail, hhead]
  all_goals rfl

theorem producer_progress (hending : state.Ending config) :
    Progress (step config) (rank config) helper state .producer := by
  rcases hending.inv with ⟨count, hinv⟩
  rcases @producerStep_consumer _ _ config state with ⟨hconsumer, hpop, htail⟩
  have heffect := producerStep_effect hinv hending.start hending.limited
  have hfinished : state.producer = .finished → state.producerStep config = state := by
    intro hproducer
    rw [producerStep, hproducer]
  change (state.producerStep config).rank config < _ ∨ (state.producerStep config).rank config = _ ∧
    (_ ∨ _ ∧ (state.producerStep config).helper = _)
  generalize state.producerStep config = after at hconsumer hpop htail heffect hfinished ⊢
  rcases heffect with ⟨item, hcontents, hleft⟩ | ⟨hcontents, hhead, hless | ⟨hleft, hphase⟩⟩
  · -- A request went into the ring.
    left
    apply rank_lt_of_work_lt
    rw [work, work, hcontents, List.length_append, List.length_singleton]
    omega
  · -- A request was given up.
    left
    apply rank_lt_of_work_lt
    rw [work, work, hcontents]
    omega
  have hwork : after.work config = state.work config := by rw [work, work, hcontents, hleft]
  rcases Bool.eq_false_or_eq_true state.waitsForProducer with hwaits | hwaits
  · left
    apply rank_lt_of_phase_lt hwork
    rcases waitsForProducer_iff.mp hwaits with ⟨hempty, hrunning⟩
    have hlower := hphase hempty hrunning
    have hle := after.consumerPhase_le
    rw [phase, phase, if_pos hwaits]
    split <;> omega
  · -- The consumer has something to do.
    right
    have hafter : after.waitsForProducer = false := by
      by_cases hproducer : state.producer = .finished
      · rw [hfinished hproducer]
        exact hwaits
      · apply Bool.eq_false_of_not_eq_true
        intro htrue
        rw [waitsForProducer_iff, hcontents] at htrue
        exact ne_true_of_eq_false hwaits (waitsForProducer_iff.mpr ⟨htrue.1, hproducer⟩)
    refine ⟨?_, Or.inr ⟨?_, ?_⟩⟩
    · rw [rank, rank, hwork, phase, phase, hwaits, hafter,
        consumerPhase_congr hconsumer hpop htail hhead]
      rfl
    · rw [helper_of_not_waits hwaits]
      exact fun h => by cases h
    · rw [helper_of_not_waits hwaits, helper_of_not_waits hafter]

/-- A consumer that has ended has nothing left behind it. -/
theorem rank_eq_zero_of_finished {count : Nat} (hinv : state.PerfInv config count)
    (hconsumer : state.consumer = .finished) : state.rank config = 0 := by
  have hexit := hinv.exit
  rw [hconsumer] at hexit
  rcases hexit with ⟨hdone, hempty⟩
  have hproducer : state.producer = .finished := by
    rw [hinv.done] at hdone
    exact of_decide_eq_true hdone
  have hleft : state.pushesLeft config = 0 := by
    rcases Bool.eq_false_or_eq_true state.stopSignalRequested with hsignal | hsignal
    · rw [pushesLeft_of_stopped hsignal, hproducer]
      rfl
    · have hcount := (hinv.count_eq hproducer hsignal).2
      have hpushed := congrArg List.length (hinv.popped_eq hproducer hconsumer)
      rw [hinv.queue.reliable.popped_eq_pushed hempty, List.length_map,
        config.length_requests] at hpushed
      rw [pushesLeft_of_running hsignal, hpushed, hcount]
      exact Nat.sub_self _
  have hwaits : state.waitsForProducer = false := by
    rw [waitsForProducer, hproducer, hempty]
    rfl
  rw [rank, work, hleft, hempty, phase, hwaits, consumerPhase, hconsumer]
  rfl

theorem consumer_progress (hending : state.Ending config) :
    Progress (step config) (rank config) helper state .consumer := by
  rcases hending.inv with ⟨count, hinv⟩
  rcases state.consumerStep_producer config with ⟨hproducer, hphase, hleft⟩
  have heffect := consumerStep_effect hinv hending.start
  have hfinished : state.consumer = .finished → state.consumerStep = state := by
    intro hconsumer
    rw [consumerStep, hconsumer]
  change state.consumerStep.rank config < _ ∨ state.consumerStep.rank config = _ ∧
    (_ ∨ _ ∧ state.consumerStep.helper = _)
  generalize state.consumerStep = after at hproducer hphase hleft heffect hfinished ⊢
  rcases heffect with ⟨item, hcontents⟩ | ⟨hcontents, heffect⟩
  · -- An item was taken.
    left
    apply rank_lt_of_work_lt
    rw [work, work, hcontents, hleft, List.length_cons]
    omega
  have hwork : after.work config = state.work config := by rw [work, work, hcontents, hleft]
  have hsame : after.waitsForProducer = state.waitsForProducer := by
    rw [waitsForProducer, waitsForProducer, hcontents, hproducer]
  rcases Bool.eq_false_or_eq_true state.waitsForProducer with hwaits | hwaits
  · -- It is the producer's turn.
    right
    refine ⟨?_, Or.inr ⟨?_, ?_⟩⟩
    · rw [rank, rank, hwork, phase, phase, hsame, hwaits, if_pos rfl, if_pos rfl, hphase]
    · rw [helper_of_waits hwaits]
      exact fun h => by cases h
    · rw [helper_of_waits hwaits, helper_of_waits (hsame.trans hwaits)]
  rcases heffect with htrue | hended | hlower
  · exact absurd htrue (ne_true_of_eq_false hwaits)
  · right
    rw [hfinished hended]
    exact ⟨rfl, Or.inl (rank_eq_zero_of_finished hinv hended)⟩
  · left
    apply rank_lt_of_phase_lt hwork
    rw [phase, phase, hsame, hwaits]
    exact hlower

theorem signal_progress (hending : state.Ending config) :
    Progress (step config) (rank config) helper state .signal := by
  rcases hending.inv with ⟨count, hinv⟩
  have hother : QueuePerfMove.signal ≠ state.helper := by
    unfold helper
    split <;> exact fun h => by cases h
  have hleft : (state.step config .signal).pushesLeft config ≤ state.pushesLeft config := by
    rw [pushesLeft_of_stopped rfl]
    change (if state.producer = .pushing ∧ mayPush state.queue.call = true then 1 else 0) ≤ _
    rcases Bool.eq_false_or_eq_true state.stopSignalRequested with hsignal | hsignal
    · rw [pushesLeft_of_stopped hsignal]
    · rw [pushesLeft_of_running hsignal]
      split
      · rename_i hpushing
        have hbounded : config.Bounded := by
          rcases hending.limited with htrue | hbounded
          · rw [hsignal] at htrue
            cases htrue
          · exact hbounded
        have hlt := hinv.pushed_length_lt hpushing.1 hpushing.2 hbounded
        omega
      · exact Nat.zero_le _
  have hphase : (state.step config .signal).producerPhase config ≤ state.producerPhase config := by
    have hlast : (state.step config .signal).lastRequest config = true := rfl
    unfold producerPhase
    change (match state.producer with
      | .finished => 0
      | .storeDone => 1
      | .testStop => if (state.step config .signal).lastRequest config then 2 else 8
      | .testStopPush => if true = true then 3 else 7
      | .pushing => callPhase state.queue.ring.push capacity state.queue.call
      | .countProduced => 9
      | .waitStart => 9) ≤ _
    cases state.producer with
    | testStop =>
        dsimp only
        rw [if_pos hlast]
        split <;> decide
    | testStopPush =>
        dsimp only
        rw [if_pos rfl]
        split <;> decide
    | finished => exact Nat.le_refl _
    | storeDone => exact Nat.le_refl _
    | pushing => exact Nat.le_refl _
    | countProduced => exact Nat.le_refl _
    | waitStart => exact Nat.le_refl _
  have hphase' : (state.step config .signal).phase config ≤ state.phase config := by
    unfold phase
    change (if state.waitsForProducer then _ else state.consumerPhase) ≤ _
    split
    · omega
    · exact Nat.le_refl _
  have hrank : (state.step config .signal).rank config ≤ state.rank config := by
    unfold rank work
    change 24 * (2 * _ + state.queue.ring.contents.length) + _ ≤ _
    omega
  rcases Nat.lt_or_eq_of_le hrank with hlt | heq
  · exact Or.inl hlt
  · exact Or.inr ⟨heq, Or.inr ⟨hother, rfl⟩⟩

theorem step_ending (hending : state.Ending config) (move : QueuePerfMove) :
    (state.step config move).Ending config ∧
      Progress (step config) (rank config) helper state move := by
  have hinv := step_perfInv hending.inv move
  cases move with
  | main =>
      refine ⟨⟨hinv, rfl, hending.limited⟩, Or.inr ⟨rfl, Or.inr ⟨?_, rfl⟩⟩⟩
      unfold helper
      split <;> exact fun h => by cases h
  | signal => exact ⟨⟨hinv, hending.start, Or.inl rfl⟩, signal_progress hending⟩
  | producer =>
      rcases producerStep_flags config state with ⟨hstart, hstop⟩
      exact ⟨⟨hinv, hstart.trans hending.start, hending.limited.imp_left hstop.trans⟩,
        producer_progress hending⟩
  | consumer =>
      rcases state.consumerStep_flags with ⟨hstart, hstop⟩
      exact ⟨⟨hinv, hstart.trans hending.start, hending.limited.imp_left hstop.trans⟩,
        consumer_progress hending⟩

/-- Nothing left to do means that both threads have ended. -/
theorem outcome_isSome_of_rank_eq_zero (hrank : state.rank config = 0) :
    (state.outcome config).isSome = true := by
  have hphase : state.phase config = 0 := Nat.eq_zero_of_add_eq_zero_left hrank
  have hwork : state.work config = 0 := by
    unfold rank at hrank
    omega
  have hempty : state.queue.ring.contents = [] :=
    List.eq_nil_of_length_eq_zero (Nat.eq_zero_of_add_eq_zero_left hwork)
  have hwaits : ¬state.waitsForProducer = true := by
    intro htrue
    rw [phase, if_pos htrue] at hphase
    omega
  have hproducer : state.producer = .finished := by
    by_contra hne
    exact hwaits (waitsForProducer_iff.mpr ⟨hempty, hne⟩)
  have hconsumer : state.consumer = .finished := by
    rw [phase, if_neg hwaits, consumerPhase] at hphase
    split at hphase
    case h_1 hfinished => exact hfinished
    case h_4 =>
      unfold pollRank at hphase
      split at hphase
      all_goals first | cases hphase | (split at hphase <;> cases hphase)
    all_goals cases hphase
  rw [outcome, if_pos ⟨hproducer, hconsumer⟩]
  rfl

/-- How far a state can be from the end. -/
theorem rank_le {count : Nat} (hinv : state.PerfInv config count) :
    state.rank config ≤ 24 * (2 * (if state.stopSignalRequested then 1
      else config.operations.toNat) + capacity.size + 1) := by
  have hphase := state.phase_lt config
  have hcontents : state.queue.ring.contents.length ≤ capacity.size := by
    rw [← hinv.queue.reliable.toNat_size]
    exact UInt64.le_iff_toNat_le.mp hinv.queue.reliable.size_le
  have hleft : state.pushesLeft config ≤
      if state.stopSignalRequested then 1 else config.operations.toNat := by
    unfold pushesLeft
    split
    · split <;> decide
    · exact Nat.sub_le _ _
  unfold rank work
  omega

end Fair

/-- The program ends in every schedule that starts its threads and, after a signal or with a
limit on its operations, gives both of them enough turns. -/
theorem queuePerf_ends (config : QueuePerfConfig limit)
    (buffer : Fin capacity.size → BackendSubmitQueueItem limit) (schedule : List QueuePerfMove)
    (rounds : List (List QueuePerfMove)) (hmain : QueuePerfMove.main ∈ schedule)
    (hlimit : QueuePerfMove.signal ∈ schedule ∨ config.Bounded)
    (hfair : ∀ round ∈ rounds, QueuePerfMove.producer ∈ round ∧ QueuePerfMove.consumer ∈ round)
    (henough : 24 * (2 * (if QueuePerfMove.signal ∈ schedule then 1
      else config.operations.toNat) + capacity.size + 1) ≤ rounds.length) :
    (((initial buffer).run config (schedule ++ rounds.flatten)).outcome config).isSome = true := by
  rcases run_flags config buffer schedule with ⟨hstart, hstop⟩
  rcases run_perfInv config buffer schedule with ⟨count, hinv⟩
  have hrank := rank_le hinv
  have hending : ((initial buffer).run config schedule).Ending config :=
    ⟨⟨count, hinv⟩, hstart.mpr hmain, hlimit.imp_left hstop.mpr⟩
  have hhelper : ∀ round ∈ rounds, ∀ state : QueuePerfState capacity limit,
      state.helper ∈ round := by
    intro round hmem state
    unfold helper
    split
    · exact (hfair round hmem).1
    · exact (hfair round hmem).2
  have hstep : ∀ (state : QueuePerfState capacity limit) (move : QueuePerfMove),
      state.Ending config → (state.step config move).Ending config ∧
        Progress (step config) (rank config) helper state move :=
    fun _ move hstate => step_ending hstate move
  have hlast := (rank_le_of_rounds hstep hhelper hending).2
  have hsplit : (initial buffer).run config (schedule ++ rounds.flatten) =
      rounds.flatten.foldl (step config) ((initial buffer).run config schedule) :=
    List.foldl_append
  rw [hsplit]
  apply outcome_isSome_of_rank_eq_zero
  simp only [hstop] at hrank
  omega

/-- Two requests through a ring of two slots, the threads taking turns. -/
theorem queuePerf_ends_two :
    let capacity : RingCapacity := ⟨2, by decide, by decide⟩
    let limit : PayloadLimit := ⟨4, by decide, by decide⟩
    let config : QueuePerfConfig limit := ⟨2, 3, by decide, by decide⟩
    let rounds : List (List QueuePerfMove) := List.replicate 168 [.consumer, .producer]
    (((initial fun _ => {} : QueuePerfState capacity limit).run config
      ([.main] ++ rounds.flatten)).outcome config).isSome = true := by
  intro capacity limit config rounds
  have hlength : rounds.length = 168 := List.length_replicate
  refine queuePerf_ends config _ [.main] rounds (by decide) (Or.inr ⟨by decide, by decide⟩)
    (fun round hmem => ?_) ?_
  · rw [List.eq_of_mem_replicate hmem]
    exact ⟨by decide, by decide⟩
  · rw [hlength]
    decide

end QueuePerfState

end Fgep.Apps
