import GatedExecution.Core.SpscFifo

/-!
# The size that a thread sees

{lit}`approximate_size` and {lit}`empty` of {lit}`core/spsc_ring.hpp` load the tail and then
the head; between the two loads the ring may change.  The producer and the consumer may call
them between their own calls, and any other thread at any time.

Each answer is recorded with the values that were popped at the load of the tail and those
that were pushed at the load of the head.

Main results:

- Theorems {lit}`step_inv` and {lit}`run_inv`: what a load has seen stays true until the call
  returns.
- Theorem {lit}`exists_stalled_answer`: any number of values may pass between the loads of a
  third thread.
- Theorem {lit}`size_answers`: what every answer says, in every interleaving.
-/

namespace Fgep.Core

open WrappingCounter Runs

variable {α : Type} {capacity : RingCapacity}

/-! ## Calls -/

inductive SizeCaller where
  | producer
  | consumer
  | other (thread : Nat)
deriving DecidableEq

inductive SizeCall where
  | approximateSize
  | empty
deriving DecidableEq

/-- What a call returns. -/
inductive SizeResult where
  | size (value : UInt64)
  | empty (value : Bool)
deriving DecidableEq

/-- {lit}`approximate_size` after its loads. -/
def SpscRing.approximateSize (tail head : UInt64) : UInt64 :=
  head - tail

def SpscRing.empty (tail head : UInt64) : Bool :=
  SpscRing.approximateSize tail head == 0

def SizeCall.result (tail head : UInt64) : SizeCall → SizeResult
  | .approximateSize => .size (SpscRing.approximateSize tail head)
  | .empty => .empty (SpscRing.empty tail head)

/-- A call between its loads: the tail it loaded, and the values popped at that moment. -/
structure TailLoad (α : Type) where
  call : SizeCall
  tail : UInt64
  popped : List α

/-- A call that has returned, with the values popped when it loaded the tail, and those
pushed and popped when it loaded the head. -/
structure SizeAnswer (α : Type) where
  caller : SizeCaller
  result : SizeResult
  poppedAtTail : List α
  pushedAtHead : List α
  poppedAtHead : List α
deriving DecidableEq

/-! ## Interleavings -/

structure ObservedRing (α : Type) (capacity : RingCapacity) where
  state : SpscState α capacity
  loaded : SizeCaller → Option (TailLoad α)
  answers : List (SizeAnswer α)

/-- A step of a push or a pop, or of a call of the size. -/
inductive ObservedMove (α : Type) where
  | ring (move : Move α)
  | size (caller : SizeCaller) (call : SizeCall)

def Move.caller : Move α → SizeCaller
  | .producer _ => .producer
  | .consumer => .consumer

namespace ObservedRing

def initial (buffer : Fin capacity.size → α) : ObservedRing α capacity where
  state := SpscState.initial buffer
  loaded := fun _ => none
  answers := []

/-- The thread is in the middle of a push or a pop. -/
def transferring (observed : ObservedRing α capacity) : SizeCaller → Bool
  | .producer =>
      match observed.state.push with
      | .idle => false
      | _ => true
  | .consumer =>
      match observed.state.pop with
      | .idle => false
      | _ => true
  | .other _ => false

/-- The load of the head, which ends the call. -/
def answer (observed : ObservedRing α capacity) (caller : SizeCaller) (load : TailLoad α) :
    SizeAnswer α where
  caller := caller
  result := load.call.result load.tail observed.state.ring.head
  poppedAtTail := load.popped
  pushedAtHead := observed.state.pushed
  poppedAtHead := observed.state.popped

/-- A thread makes one call at a time: a move that belongs to another call is passed over. -/
def step (observed : ObservedRing α capacity) : ObservedMove α → ObservedRing α capacity
  | .ring move =>
      if (observed.loaded move.caller).isSome then observed
      else { observed with state := observed.state.step move }
  | .size caller call =>
      match observed.loaded caller with
      | some load =>
          { observed with
            loaded := Function.update observed.loaded caller none
            answers := observed.answers ++ [observed.answer caller load] }
      | none =>
          if observed.transferring caller then observed
          else
            { observed with
              loaded := Function.update observed.loaded caller
                (some ⟨call, observed.state.ring.tail, observed.state.popped⟩) }

def run (observed : ObservedRing α capacity) (schedule : List (ObservedMove α)) :
    ObservedRing α capacity :=
  schedule.foldl step observed

end ObservedRing

/-! ## What the loads have seen -/

/-- The loaded tail counts the pops of its moment.  The consumer has popped nothing since, and
the producer has pushed nothing. -/
structure TailLoad.Valid (load : TailLoad α) (state : SpscState α capacity)
    (caller : SizeCaller) : Prop where
  tail : load.tail = UInt64.ofNat load.popped.length
  popped : load.popped <+: state.popped
  consumer : caller = .consumer → load.popped = state.popped
  producer : caller = .producer → state.pushed.length ≤ load.popped.length + capacity.size

/-- An answer is the result for two counts, of which that of the pops is not ahead. -/
structure SizeAnswer.Sound (capacity : RingCapacity) (answer : SizeAnswer α) : Prop where
  result : ∃ call : SizeCall, answer.result =
    call.result (UInt64.ofNat answer.poppedAtTail.length)
      (UInt64.ofNat answer.pushedAtHead.length)
  popped : answer.poppedAtTail <+: answer.pushedAtHead
  room : answer.caller = .producer ∨ answer.caller = .consumer →
    answer.pushedAtHead.length ≤ answer.poppedAtTail.length + capacity.size
  consumer : answer.caller = .consumer → answer.poppedAtTail = answer.poppedAtHead

namespace TailLoad.Valid

variable {load : TailLoad α} {state : SpscState α capacity} {caller : SizeCaller}

theorem of_load (hstate : state.Reliable) (caller : SizeCaller) (call : SizeCall) :
    TailLoad.Valid ⟨call, state.ring.tail, state.popped⟩ state caller := by
  rcases hstate with ⟨cachedTail, cachedHead, hinv⟩
  exact {
    tail := hinv.tail
    popped := List.prefix_rfl
    consumer := fun _ => rfl
    producer := fun _ => hinv.bound }

/-- A step of another thread. -/
theorem step (hload : load.Valid state caller) {move : Move α} (hother : move.caller ≠ caller) :
    load.Valid (state.step move) caller := by
  cases move with
  | producer item =>
      exact {
        tail := hload.tail
        popped := hload.popped
        consumer := hload.consumer
        producer := fun hcaller => absurd hcaller.symm hother }
  | consumer =>
      exact {
        tail := hload.tail
        popped := hload.popped.trans (List.prefix_append _ _)
        consumer := fun hcaller => absurd hcaller.symm hother
        producer := hload.producer }

end TailLoad.Valid

/-- The load of the head. -/
theorem ObservedRing.answer_sound {observed : ObservedRing α capacity} {load : TailLoad α}
    {caller : SizeCaller} (hstate : observed.state.Reliable)
    (hload : load.Valid observed.state caller) :
    (observed.answer caller load).Sound capacity := by
  rcases hstate with ⟨cachedTail, cachedHead, hinv⟩
  refine ⟨⟨load.call, ?_⟩, hload.popped.trans hinv.fifo, ?_, hload.consumer⟩
  · change load.call.result load.tail observed.state.ring.head = _
    rw [hload.tail, hinv.head]
    rfl
  · rintro (hproducer | hconsumer)
    · exact hload.producer hproducer
    · change _ ≤ load.popped.length + _
      rw [hload.consumer hconsumer]
      exact hinv.bound

/-! ## Runs -/

structure ObservedRing.Inv (observed : ObservedRing α capacity) : Prop where
  reliable : observed.state.Reliable
  loads : ∀ caller load, observed.loaded caller = some load → load.Valid observed.state caller
  answers : ∀ answer ∈ observed.answers, answer.Sound capacity

namespace ObservedRing

variable {observed : ObservedRing α capacity}

theorem initial_inv (buffer : Fin capacity.size → α) : (initial buffer).Inv where
  reliable := ⟨0, 0, SpscState.initial_ringInv buffer⟩
  loads := by
    intro caller load hload
    cases hload
  answers := by
    intro answer hanswer
    cases hanswer

theorem ring_inv (hinv : observed.Inv) {move : Move α}
    (hfree : observed.loaded move.caller = none) :
    Inv { observed with state := observed.state.step move } where
  reliable := SpscState.step_reliable hinv.reliable move
  loads := by
    intro caller load hload
    have hother : move.caller ≠ caller := by
      rintro rfl
      cases hfree.symm.trans hload
    exact (hinv.loads caller load hload).step hother
  answers := hinv.answers

/-- One thread's call changes. -/
theorem valid_update {state : SpscState α capacity} {loaded : SizeCaller → Option (TailLoad α)}
    (hloads : ∀ caller load, loaded caller = some load → load.Valid state caller)
    {caller : SizeCaller} {entry : Option (TailLoad α)}
    (hentry : ∀ load, entry = some load → load.Valid state caller) (other : SizeCaller)
    (load : TailLoad α) (hload : Function.update loaded caller entry other = some load) :
    load.Valid state other := by
  by_cases heq : other = caller
  · subst heq
    rw [Function.update_self] at hload
    exact hentry load hload
  · rw [Function.update_of_ne heq] at hload
    exact hloads other load hload

theorem loadTail_inv (hinv : observed.Inv) (caller : SizeCaller) (call : SizeCall) :
    Inv { observed with
      loaded := Function.update observed.loaded caller
        (some ⟨call, observed.state.ring.tail, observed.state.popped⟩) } where
  reliable := hinv.reliable
  loads := by
    apply valid_update hinv.loads
    intro load hload
    cases hload
    exact .of_load hinv.reliable caller call
  answers := hinv.answers

theorem loadHead_inv (hinv : observed.Inv) {caller : SizeCaller} {load : TailLoad α}
    (hload : observed.loaded caller = some load) :
    Inv { observed with
      loaded := Function.update observed.loaded caller none
      answers := observed.answers ++ [observed.answer caller load] } where
  reliable := hinv.reliable
  loads := by
    apply valid_update hinv.loads
    intro pending hpending
    cases hpending
  answers := by
    intro answer hanswer
    rcases List.mem_append.mp hanswer with hold | hnew
    · exact hinv.answers answer hold
    · rw [List.mem_singleton.mp hnew]
      exact answer_sound hinv.reliable (hinv.loads caller load hload)

theorem step_inv (hinv : observed.Inv) (move : ObservedMove α) : (observed.step move).Inv := by
  cases move with
  | ring move =>
      rw [step]
      split
      · exact hinv
      · rename_i hfree
        exact ring_inv hinv (Option.not_isSome_iff_eq_none.mp hfree)
  | size caller call =>
      rw [step]
      split
      · rename_i load hload
        exact loadHead_inv hinv hload
      · split
        · exact hinv
        · exact loadTail_inv hinv caller call

theorem run_inv (buffer : Fin capacity.size → α) (schedule : List (ObservedMove α)) :
    ((initial buffer).run schedule).Inv := by
  have hstep : ∀ (observed : ObservedRing α capacity) (move : ObservedMove α), True →
      observed.Inv → (observed.step move).Inv := fun _ move _ hinv => step_inv hinv move
  exact foldl_invariant hstep (initial_inv buffer) (fun _ _ => trivial)

end ObservedRing

/-! ## A thread that stalls between its loads -/

namespace SpscState

/-- Both threads are between calls, and everything pushed is popped. -/
def drained (index cachedTail : UInt64) (buffer : Fin capacity.size → α) (values : List α) :
    SpscState α capacity :=
  ⟨⟨index, cachedTail, index, index, buffer⟩, .idle, .idle, values, values⟩

/-- One value is pushed and not yet popped. -/
def holding (index cachedTail : UInt64) (buffer : Fin capacity.size → α) (values : List α)
    (item : α) : SpscState α capacity :=
  ⟨⟨index + 1, cachedTail, index, index, buffer⟩, .idle, .idle, values ++ [item], values⟩

theorem run_append (state : SpscState α capacity) (first second : List (Move α)) :
    state.run (first ++ second) = (state.run first).run second :=
  List.foldl_append

variable (index cachedTail : UInt64) (buffer : Fin capacity.size → α) (values : List α) (item : α)

theorem exists_push_drained :
    ∃ schedule cachedTail', (drained index cachedTail buffer values).run schedule =
      holding index cachedTail' (Function.update buffer (capacity.slot index) item) values item := by
  by_cases hfull : index + 1 - cachedTail > capacity.value
  · have hpos : capacity.value ≠ 0 := by
      intro hzero
      have htwo := capacity.two_le
      rw [hzero] at htwo
      cases htwo
    refine ⟨List.replicate 5 (.producer item), index, ?_⟩
    simp [run, drained, step, pushStep, hfull, hpos, pushedBy, holding]
  · refine ⟨List.replicate 3 (.producer item), cachedTail, ?_⟩
    simp [run, drained, step, pushStep, hfull, pushedBy, holding]

theorem run_pop_holding (hitem : buffer (capacity.slot index) = item) :
    (holding index cachedTail buffer values item).run (List.replicate 5 .consumer) =
      drained (index + 1) cachedTail buffer (values ++ [item]) := by
  simp [run, drained, step, popStep, poppedBy, holding, hitem]

/-- One value passes through the ring. -/
theorem exists_transfer :
    ∃ schedule cachedTail' buffer', (drained index cachedTail buffer values).run schedule =
      drained (index + 1) cachedTail' buffer' (values ++ [item]) := by
  rcases exists_push_drained index cachedTail buffer values item with
    ⟨schedule, cachedTail', hpush⟩
  refine ⟨schedule ++ List.replicate 5 .consumer, cachedTail',
    Function.update buffer (capacity.slot index) item, ?_⟩
  rw [run_append, hpush]
  exact run_pop_holding index cachedTail' _ values item (Function.update_self ..)

theorem exists_transfers (items : List α) :
    ∃ schedule cachedTail' buffer', (drained index cachedTail buffer values).run schedule =
      drained (index + UInt64.ofNat items.length) cachedTail' buffer' (values ++ items) := by
  induction items generalizing index cachedTail buffer values with
  | nil =>
      refine ⟨[], cachedTail, buffer, ?_⟩
      rw [List.append_nil]
      exact congrArg (drained · cachedTail buffer values) (UInt64.add_zero index).symm
  | cons item rest ih =>
      rcases exists_transfer index cachedTail buffer values item with
        ⟨first, cachedTail₁, buffer₁, hfirst⟩
      rcases ih (index + 1) cachedTail₁ buffer₁ (values ++ [item]) with
        ⟨others, cachedTail₂, buffer₂, hothers⟩
      refine ⟨first ++ others, cachedTail₂, buffer₂, ?_⟩
      rw [run_append, hfirst, hothers, List.length_cons, ← ofNat_add_one, List.append_assoc,
        UInt64.add_assoc, UInt64.add_comm 1]
      rfl

end SpscState

namespace ObservedRing

/-- Pushes and pops go on while other threads are in their calls. -/
theorem run_ring {observed : ObservedRing α capacity}
    (hproducer : observed.loaded .producer = none) (hconsumer : observed.loaded .consumer = none)
    (schedule : List (Move α)) :
    observed.run (schedule.map .ring) =
      { observed with state := observed.state.run schedule } := by
  induction schedule generalizing observed with
  | nil => rfl
  | cons move rest ih =>
      have hfree : observed.loaded move.caller = none := by
        cases move
        · exact hproducer
        · exact hconsumer
      have hstep : observed.step (.ring move) =
          { observed with state := observed.state.step move } := by
        rw [step, hfree]
        rfl
      change (observed.step (.ring move)).run (rest.map .ring) = _
      rw [hstep]
      exact ih hproducer hconsumer

/-- Any values may pass between the loads of a third thread. -/
theorem exists_stalled_answer (buffer : Fin capacity.size → α) (items : List α) :
    ∃ schedule, ((initial buffer).run schedule).answers =
      [⟨.other 0, .size (UInt64.ofNat items.length), [], items, items⟩] := by
  rcases SpscState.exists_transfers 0 0 buffer [] items with
    ⟨schedule, cachedTail, buffer', htransfers⟩
  let load : ObservedMove α := .size (.other 0) .approximateSize
  let stalled := (initial buffer).step load
  have hrun : stalled.run (schedule.map .ring) = { stalled with state := _ } :=
    run_ring rfl rfl schedule
  have hstate : stalled.state.run schedule =
      .drained (UInt64.ofNat items.length) cachedTail buffer' items :=
    htransfers.trans (by rw [UInt64.zero_add, List.nil_append])
  refine ⟨load :: schedule.map .ring ++ [load], ?_⟩
  rw [run, List.foldl_append]
  change ((stalled.run (schedule.map .ring)).step load).answers = _
  rw [hrun, hstate]
  change [SizeAnswer.mk _ (.size (UInt64.ofNat items.length - 0)) [] items items] = _
  rw [UInt64.sub_zero]

end ObservedRing

/-! ## What an answer says -/

namespace SizeAnswer.Sound

variable {answer : SizeAnswer α}

theorem toNat_size (hsound : answer.Sound capacity) {value : UInt64}
    (hresult : answer.result = .size value) :
    value.toNat = (answer.pushedAtHead.length - answer.poppedAtTail.length) % 2 ^ 64 := by
  rcases hsound.result with ⟨_ | _, hcall⟩
  · cases hresult.symm.trans hcall
    exact toNat_ofNat_sub_ofNat_mod hsound.popped.length_le
  · cases hresult.symm.trans hcall

theorem empty_iff (hsound : answer.Sound capacity) {value : Bool}
    (hresult : answer.result = .empty value) :
    value = true ↔
      (answer.pushedAtHead.length - answer.poppedAtTail.length) % 2 ^ 64 = 0 := by
  rcases hsound.result with ⟨_ | _, hcall⟩
  · cases hresult.symm.trans hcall
  · cases hresult.symm.trans hcall
    rw [SpscRing.empty, beq_iff_eq, ← UInt64.toNat_inj, SpscRing.approximateSize,
      toNat_ofNat_sub_ofNat_mod hsound.popped.length_le]
    rfl

/-- The two threads of the ring are never far apart. -/
theorem distance_lt (hsound : answer.Sound capacity)
    (hcaller : answer.caller = .producer ∨ answer.caller = .consumer) :
    answer.pushedAtHead.length - answer.poppedAtTail.length < 2 ^ 64 := by
  have hroom := hsound.room hcaller
  have hsize := capacity.size_le
  omega

/-- To the two threads of the ring, empty means that no value is between them. -/
theorem empty_iff_eq (hsound : answer.Sound capacity)
    (hcaller : answer.caller = .producer ∨ answer.caller = .consumer) {value : Bool}
    (hresult : answer.result = .empty value) :
    value = true ↔ answer.pushedAtHead.length = answer.poppedAtTail.length := by
  have hle := hsound.popped.length_le
  rw [hsound.empty_iff hresult, Nat.mod_eq_of_lt (hsound.distance_lt hcaller)]
  omega

/-- The consumer finds the ring empty only after it has popped what it sees pushed. -/
theorem popped_eq_pushed (hsound : answer.Sound capacity) (hcaller : answer.caller = .consumer)
    (hresult : answer.result = .empty true) : answer.poppedAtHead = answer.pushedAtHead := by
  have hlength := (hsound.empty_iff_eq (Or.inr hcaller) hresult).mp rfl
  rw [← hsound.consumer hcaller]
  exact hsound.popped.eq_of_length_le (Nat.le_of_eq hlength)

end SizeAnswer.Sound

namespace ObservedRing

/-- An answer is the number of values between the two loads modulo {lit}`2^64`, and exact for
the two threads of the ring. -/
theorem size_answers (capacity : RingCapacity) (buffer : Fin capacity.size → α)
    (schedule : List (ObservedMove α)) (answer : SizeAnswer α)
    (hanswer : answer ∈ ((initial buffer).run schedule).answers) :
    let pushes := answer.pushedAtHead.length
    let pops := answer.poppedAtTail.length
    pops ≤ pushes ∧
      (∀ value, answer.result = .size value →
        value.toNat = (pushes - pops) % 2 ^ 64 ∧
        (value.toNat = pushes - pops ↔ pushes - pops < 2 ^ 64) ∧
        (answer.caller = .producer ∨ answer.caller = .consumer →
          value.toNat = pushes - pops ∧ value ≤ capacity.value)) ∧
      (∀ value, answer.result = .empty value →
        (value = true ↔ (pushes - pops) % 2 ^ 64 = 0) ∧
        (answer.caller = .producer ∨ answer.caller = .consumer →
          pushes - pops < 2 ^ 64 ∧ (value = true ↔ pushes = pops))) ∧
      (answer.caller = .consumer → answer.result = .empty true →
        answer.poppedAtHead = answer.pushedAtHead) := by
  intro pushes pops
  have hsound := (run_inv buffer schedule).answers answer hanswer
  refine ⟨hsound.popped.length_le, ?_, ?_, hsound.popped_eq_pushed⟩
  · intro value hresult
    have hvalue := hsound.toNat_size hresult
    have hexact : value.toNat = pushes - pops ↔ pushes - pops < 2 ^ 64 := by
      rw [hvalue]
      exact Nat.mod_eq_iff_lt (by decide)
    refine ⟨hvalue, hexact, ?_⟩
    intro hcaller
    have hdistance := hexact.mpr (hsound.distance_lt hcaller)
    refine ⟨hdistance, UInt64.le_iff_toNat_le.mpr ?_⟩
    rw [hdistance]
    exact Nat.sub_le_iff_le_add'.mpr (hsound.room hcaller)
  · intro value hresult
    refine ⟨hsound.empty_iff hresult, ?_⟩
    intro hcaller
    exact ⟨hsound.distance_lt hcaller, hsound.empty_iff_eq hcaller hresult⟩

/-- A thread loads the tail, a value passes, the consumer finds the ring empty, another value
is pushed and the thread loads the head. -/
theorem size_answers_between_loads :
    let capacity : RingCapacity := ⟨2, by decide, by decide⟩
    let buffer : Fin capacity.size → Nat := fun _ => 0
    let push (item : Nat) := List.replicate 3 (ObservedMove.ring (.producer item))
    let pop := List.replicate 5 (ObservedMove.ring .consumer)
    let load := [ObservedMove.size (.other 0) .approximateSize]
    let empty := List.replicate 2 (ObservedMove.size .consumer .empty)
    let answers :=
      ((initial buffer).run (load ++ push 7 ++ pop ++ empty ++ push 8 ++ load)).answers
    answers = [⟨.consumer, .empty true, [7], [7], [7]⟩, ⟨.other 0, .size 2, [], [7, 8], [7]⟩] ∧
      ∀ answer ∈ answers, answer.poppedAtTail.length ≤ answer.pushedAtHead.length := by
  intro capacity buffer push pop load empty answers
  refine ⟨by decide, ?_⟩
  intro answer hanswer
  exact (size_answers capacity buffer _ answer hanswer).1

/-- A thread loads the tail and stalls while {lit}`2^64` values are pushed and popped: the
difference is {lit}`2^64`, the returned size 0. -/
theorem stalled_size_wraps :
    let capacity : RingCapacity := ⟨2, by decide, by decide⟩
    let buffer : Fin capacity.size → Unit := fun _ => ()
    ∃ schedule, ∃ answer ∈ ((initial buffer).run schedule).answers,
      answer.caller = .other 0 ∧ answer.result = .size 0 ∧
        answer.pushedAtHead.length - answer.poppedAtTail.length = 2 ^ 64 := by
  intro capacity buffer
  obtain ⟨items, hitems⟩ : ∃ items : List Unit, items.length = 2 ^ 64 :=
    ⟨List.replicate (2 ^ 64) (), List.length_replicate⟩
  rcases exists_stalled_answer buffer items with ⟨schedule, hanswers⟩
  refine ⟨schedule, ⟨.other 0, .size (UInt64.ofNat items.length), [], items, items⟩, ?_, rfl, ?_,
    hitems⟩
  · rw [hanswers]
    exact List.mem_singleton_self _
  · rw [hitems]
    rfl

end ObservedRing

end Fgep.Core
