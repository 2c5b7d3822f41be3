import GatedExecution.Core.SpscRing

/-!
# The indices of the ring

The indices are wrapping counters of the values pushed and popped, and each side acts
on an index of the other that may be old but never runs ahead.  That is enough for
every interleaving: the producer has a free slot whenever it writes, the consumer a
published one whenever it reads.

Main results:

- Theorems {lit}`producer_ringInv` and {lit}`consumer_ringInv`: one step of either
  thread keeps the invariant.
- Theorem {lit}`run_reliable`: the invariant holds in every interleaving.
-/

namespace Fgep.Core

open WrappingCounter Runs

variable {α : Type} {capacity : RingCapacity}

namespace SpscState

/-! ## The invariant -/

/-- What the producer knows in the middle of a call, when its cached tail stands for
{lit}`cached` pops. -/
def PushInv (state : SpscState α capacity) (cached : Nat) : PushPc α → Prop
  | .idle => True
  | .loadTail _ head => head = state.ring.head
  | .updateCachedTail _ head tail =>
      head = state.ring.head ∧
        ∃ count, tail = UInt64.ofNat count ∧ cached ≤ count ∧ count ≤ state.popped.length
  | .writeSlot _ head =>
      head = state.ring.head ∧ state.pushed.length < cached + capacity.size
  | .storeHead item head =>
      head = state.ring.head ∧ state.pushed.length < cached + capacity.size ∧
        state.ring.buffer (capacity.slot head) = item

/-- What the consumer knows in the middle of a call, when its cached head stands for
{lit}`cached` pushes. -/
def PopInv (state : SpscState α capacity) (cached : Nat) : PopPc α → Prop
  | .idle => True
  | .loadHead tail => tail = state.ring.tail
  | .updateCachedHead tail head =>
      tail = state.ring.tail ∧
        ∃ count, head = UInt64.ofNat count ∧ state.popped.length ≤ count ∧
          count ≤ state.pushed.length
  | .readSlot tail => tail = state.ring.tail ∧ state.popped.length < cached
  | .storeTail tail out =>
      tail = state.ring.tail ∧ state.popped.length < cached ∧
        state.pushed[state.popped.length]? = some out

/-- Indices and cached indices are counts of pushes and pops, and every value that is
pushed and not popped is in its slot. -/
structure RingInv (state : SpscState α capacity) (cachedTail cachedHead : Nat) : Prop where
  head : state.ring.head = UInt64.ofNat state.pushed.length
  tail : state.ring.tail = UInt64.ofNat state.popped.length
  cached_tail : state.ring.cachedTail = UInt64.ofNat cachedTail
  cached_head : state.ring.cachedHead = UInt64.ofNat cachedHead
  cachedTail_le : cachedTail ≤ state.popped.length
  room : state.pushed.length ≤ cachedTail + capacity.size
  le_cachedHead : state.popped.length ≤ cachedHead
  cachedHead_le : cachedHead ≤ state.pushed.length
  fifo : state.popped <+: state.pushed
  slots : ∀ i item, state.popped.length ≤ i → state.pushed[i]? = some item →
    state.ring.buffer (capacity.slot (UInt64.ofNat i)) = item
  push : state.PushInv cachedTail state.push
  pop : state.PopInv cachedHead state.pop

theorem initial_ringInv (buffer : Fin capacity.size → α) :
    (initial buffer).RingInv 0 0 where
  head := rfl
  tail := rfl
  cached_tail := rfl
  cached_head := rfl
  cachedTail_le := Nat.le_refl 0
  room := Nat.zero_le _
  le_cachedHead := Nat.le_refl 0
  cachedHead_le := Nat.le_refl 0
  fifo := List.prefix_rfl
  slots := by
    intro i item _ hitem
    cases hitem
  push := trivial
  pop := trivial

section Step

variable {state : SpscState α capacity} {cachedTail cachedHead : Nat}

/-- The fullness test of the producer against a count of pops. -/
theorem full_iff {pushes pops : Nat} (hle : pops ≤ pushes)
    (hroom : pushes ≤ pops + capacity.size) :
    UInt64.ofNat pushes + 1 - UInt64.ofNat pops > capacity.value ↔
      pushes = pops + capacity.size := by
  have hsize := capacity.size_le
  rw [ofNat_add_one, gt_iff_lt, UInt64.lt_iff_toNat_lt,
    toNat_ofNat_sub_ofNat (by omega) (by omega)]
  change capacity.size < _ ↔ _
  omega

/-- What a consumer knows stays true while more is pushed. -/
theorem PopInv.mono {cached : Nat} {pc : PopPc α} (hpop : state.PopInv cached pc)
    {state' : SpscState α capacity} (htail : state'.ring.tail = state.ring.tail)
    (hpopped : state'.popped = state.popped) (hpushed : state.pushed <+: state'.pushed) :
    state'.PopInv cached pc := by
  have hlength := hpushed.length_le
  cases pc with
  | idle => trivial
  | loadHead tail => exact hpop.trans htail.symm
  | updateCachedHead tail head =>
      rcases hpop with ⟨heq, count, hcount, hle, hge⟩
      exact ⟨heq.trans htail.symm, count, hcount, hpopped ▸ hle, Nat.le_trans hge hlength⟩
  | readSlot tail => exact ⟨hpop.1.trans htail.symm, hpopped ▸ hpop.2⟩
  | storeTail tail out =>
      rcases hpop with ⟨heq, hlt, hout⟩
      refine ⟨heq.trans htail.symm, hpopped ▸ hlt, ?_⟩
      rw [hpopped]
      rcases hpushed with ⟨more, hmore⟩
      have hlt' := (List.getElem?_eq_some_iff.mp hout).1
      rw [← hmore, List.getElem?_append_left hlt']
      exact hout

/-- What a producer knows stays true while more is popped. -/
theorem PushInv.mono {cached : Nat} {pc : PushPc α} (hpush : state.PushInv cached pc)
    {state' : SpscState α capacity} (hhead : state'.ring.head = state.ring.head)
    (hbuffer : state'.ring.buffer = state.ring.buffer) (hpushed : state'.pushed = state.pushed)
    (hpopped : state.popped.length ≤ state'.popped.length) : state'.PushInv cached pc := by
  cases pc with
  | idle => trivial
  | loadTail item head => exact hpush.trans hhead.symm
  | updateCachedTail item head tail =>
      rcases hpush with ⟨heq, count, hcount, hle, hge⟩
      exact ⟨heq.trans hhead.symm, count, hcount, hle, Nat.le_trans hge hpopped⟩
  | writeSlot item head => exact ⟨hpush.1.trans hhead.symm, hpushed ▸ hpush.2⟩
  | storeHead item head =>
      exact ⟨hpush.1.trans hhead.symm, hpushed ▸ hpush.2.1, hbuffer ▸ hpush.2.2⟩

/-! ## Steps of the producer -/

section Producer

variable {ring : SpscRing α capacity} {pop : PopPc α} {pushed popped : List α}
  {cachedTail cachedHead : Nat}

/-- The test against a count that is not behind the cached one. -/
theorem RingInv.fullness {push : PushPc α}
    (hinv : RingInv ⟨ring, push, pop, pushed, popped⟩ cachedTail cachedHead) {tail : UInt64}
    {count : Nat} (htail : tail = UInt64.ofNat count) (hle : cachedTail ≤ count)
    (hge : count ≤ popped.length) :
    ring.head + 1 - tail > capacity.value ↔ pushed.length = count + capacity.size := by
  have hhead : ring.head = UInt64.ofNat pushed.length := hinv.head
  rw [hhead, htail]
  exact full_iff (Nat.le_trans hge hinv.fifo.length_le)
    (Nat.le_trans hinv.room (Nat.add_le_add_right hle _))

/-- The producer goes on in its call. -/
theorem RingInv.withPush {push push' : PushPc α}
    (hinv : RingInv ⟨ring, push, pop, pushed, popped⟩ cachedTail cachedHead)
    (hpush : PushInv ⟨ring, push', pop, pushed, popped⟩ cachedTail push') :
    RingInv ⟨ring, push', pop, pushed, popped⟩ cachedTail cachedHead :=
  { hinv with push := hpush, pop := hinv.pop.mono rfl rfl List.prefix_rfl }

/-- The producer takes over a later count of pops. -/
theorem RingInv.withCachedTail {push push' : PushPc α}
    (hinv : RingInv ⟨ring, push, pop, pushed, popped⟩ cachedTail cachedHead) {tail : UInt64}
    {count : Nat} (htail : tail = UInt64.ofNat count) (hle : cachedTail ≤ count)
    (hge : count ≤ popped.length)
    (hpush : PushInv ⟨{ ring with cachedTail := tail }, push', pop, pushed, popped⟩ count push') :
    RingInv ⟨{ ring with cachedTail := tail }, push', pop, pushed, popped⟩ count cachedHead :=
  { hinv with
    cached_tail := htail
    cachedTail_le := hge
    room := Nat.le_trans hinv.room (Nat.add_le_add_right hle _)
    push := hpush
    pop := hinv.pop.mono rfl rfl List.prefix_rfl }

theorem startPush_ringInv
    (hinv : RingInv ⟨ring, .idle, pop, pushed, popped⟩ cachedTail cachedHead) (item : α) :
    RingInv (step ⟨ring, .idle, pop, pushed, popped⟩ (.producer item)) cachedTail cachedHead := by
  have hroom : pushed.length ≤ cachedTail + capacity.size := hinv.room
  by_cases hfull : ring.head + 1 - ring.cachedTail > capacity.value
  · have hstep : step ⟨ring, .idle, pop, pushed, popped⟩ (.producer item) =
        ⟨ring, .loadTail item ring.head, pop, pushed, popped⟩ := by
      simp [step, pushStep, hfull, pushedBy]
    rw [hstep]
    exact hinv.withPush rfl
  · have hstep : step ⟨ring, .idle, pop, pushed, popped⟩ (.producer item) =
        ⟨ring, .writeSlot item ring.head, pop, pushed, popped⟩ := by
      simp [step, pushStep, hfull, pushedBy]
    rw [hstep]
    rw [hinv.fullness hinv.cached_tail (Nat.le_refl _) hinv.cachedTail_le] at hfull
    exact hinv.withPush ⟨rfl, Nat.lt_of_le_of_ne hroom hfull⟩

theorem loadTail_ringInv {item : α} {head : UInt64}
    (hinv : RingInv ⟨ring, .loadTail item head, pop, pushed, popped⟩ cachedTail cachedHead)
    (next : α) :
    RingInv (step ⟨ring, .loadTail item head, pop, pushed, popped⟩ (.producer next))
      cachedTail cachedHead := by
  have hstep : step ⟨ring, .loadTail item head, pop, pushed, popped⟩ (.producer next) =
      ⟨ring, .updateCachedTail item head ring.tail, pop, pushed, popped⟩ := by
    simp [step, pushStep, pushedBy]
  rw [hstep]
  exact hinv.withPush ⟨hinv.push, popped.length, hinv.tail, hinv.cachedTail_le, Nat.le_refl _⟩

/-- The cached tail moves on to the count that was loaded. -/
theorem updateCachedTail_ringInv {item : α} {head tail : UInt64}
    (hinv : RingInv ⟨ring, .updateCachedTail item head tail, pop, pushed, popped⟩ cachedTail
      cachedHead) (next : α) :
    ∃ cachedTail', RingInv (step ⟨ring, .updateCachedTail item head tail, pop, pushed, popped⟩
      (.producer next)) cachedTail' cachedHead := by
  rcases hinv.push with ⟨hhead, count, hcount, hle, hge⟩
  dsimp only at hhead
  have hroom : pushed.length ≤ count + capacity.size :=
    Nat.le_trans hinv.room (Nat.add_le_add_right hle _)
  have hfull := hinv.fullness hcount hle hge
  rw [← hhead] at hfull
  refine ⟨count, ?_⟩
  by_cases hcheck : head + 1 - tail > capacity.value
  · have hstep : step ⟨ring, .updateCachedTail item head tail, pop, pushed, popped⟩
        (.producer next) = ⟨{ ring with cachedTail := tail }, .idle, pop, pushed, popped⟩ := by
      simp [step, pushStep, hcheck, pushedBy]
    rw [hstep]
    exact hinv.withCachedTail hcount hle hge trivial
  · have hstep : step ⟨ring, .updateCachedTail item head tail, pop, pushed, popped⟩
        (.producer next) =
          ⟨{ ring with cachedTail := tail }, .writeSlot item head, pop, pushed, popped⟩ := by
      simp [step, pushStep, hcheck, pushedBy]
    rw [hstep]
    rw [hfull] at hcheck
    exact hinv.withCachedTail hcount hle hge ⟨hhead, Nat.lt_of_le_of_ne hroom hcheck⟩

/-- The slot written is none of the occupied ones. -/
theorem writeSlot_ringInv {item : α} {head : UInt64}
    (hinv : RingInv ⟨ring, .writeSlot item head, pop, pushed, popped⟩ cachedTail cachedHead)
    (next : α) :
    RingInv (step ⟨ring, .writeSlot item head, pop, pushed, popped⟩ (.producer next))
      cachedTail cachedHead := by
  rcases hinv.push with ⟨hhead, hfree⟩
  dsimp only at hhead hfree
  have hhead' : ring.head = UInt64.ofNat pushed.length := hinv.head
  have hcached := hinv.cachedTail_le
  dsimp only at hcached
  have hpop := hinv.pop
  have hslots := hinv.slots
  have hstep : step ⟨ring, .writeSlot item head, pop, pushed, popped⟩ (.producer next) =
      ⟨{ ring with buffer := Function.update ring.buffer (capacity.slot head) item },
        .storeHead item head, pop, pushed, popped⟩ := by
    simp [step, pushStep, pushedBy]
  rw [hstep]
  exact { hinv with
    slots := by
      intro i value hi hvalue
      have hlt := (List.getElem?_eq_some_iff.mp hvalue).1
      dsimp only at hi hlt ⊢
      rw [Function.update_of_ne, hslots i value hi hvalue]
      rw [hhead, hhead']
      exact capacity.slot_ofNat_ne hlt (by omega)
    push := ⟨hhead, hfree, Function.update_self ..⟩
    pop := hpop.mono rfl rfl List.prefix_rfl }

/-- With the value in the slot of the head pushed, every occupied slot holds its value. -/
theorem RingInv.slots_concat {push : PushPc α}
    (hinv : RingInv ⟨ring, push, pop, pushed, popped⟩ cachedTail cachedHead) {item : α}
    (hwritten : ring.buffer (capacity.slot ring.head) = item) {i : Nat} {value : α}
    (hi : popped.length ≤ i) (hvalue : (pushed ++ [item])[i]? = some value) :
    ring.buffer (capacity.slot (UInt64.ofNat i)) = value := by
  have hhead : ring.head = UInt64.ofNat pushed.length := hinv.head
  rcases Nat.lt_trichotomy i pushed.length with hlt | rfl | hgt
  · rw [List.getElem?_append_left hlt] at hvalue
    exact hinv.slots i value hi hvalue
  · rw [List.getElem?_concat_length, Option.some.injEq] at hvalue
    rw [← hhead, hwritten, hvalue]
  · rw [List.getElem?_eq_none (by simpa using hgt)] at hvalue
    cases hvalue

/-- The written value becomes the last one pushed. -/
theorem storeHead_ringInv {item : α} {head : UInt64}
    (hinv : RingInv ⟨ring, .storeHead item head, pop, pushed, popped⟩ cachedTail cachedHead)
    (next : α) :
    RingInv (step ⟨ring, .storeHead item head, pop, pushed, popped⟩ (.producer next))
      cachedTail cachedHead := by
  rcases hinv.push with ⟨hhead, hfree, hwritten⟩
  dsimp only at hhead hfree hwritten
  have hhead' : ring.head = UInt64.ofNat pushed.length := hinv.head
  have hpop := hinv.pop
  rw [hhead] at hwritten
  have hstep : step ⟨ring, .storeHead item head, pop, pushed, popped⟩ (.producer next) =
      ⟨{ ring with head := head + 1 }, .idle, pop, pushed ++ [item], popped⟩ := rfl
  rw [hstep]
  exact { hinv with
    head := by
      dsimp only
      rw [hhead, hhead', ofNat_add_one, List.length_append, List.length_singleton]
    room := by
      dsimp only
      rw [List.length_append, List.length_singleton]
      exact hfree
    cachedHead_le := by
      dsimp only
      rw [List.length_append]
      exact Nat.le_add_right_of_le hinv.cachedHead_le
    fifo := hinv.fifo.trans (List.prefix_append _ _)
    slots := fun i value hi hvalue => hinv.slots_concat hwritten hi hvalue
    push := trivial
    pop := hpop.mono rfl rfl (List.prefix_append _ _) }

theorem producer_ringInv {state : SpscState α capacity}
    (hinv : state.RingInv cachedTail cachedHead) (item : α) :
    ∃ cachedTail', (state.step (.producer item)).RingInv cachedTail' cachedHead := by
  rcases state with ⟨ring, push, pop, pushed, popped⟩
  cases push with
  | idle => exact ⟨cachedTail, startPush_ringInv hinv item⟩
  | loadTail pending head => exact ⟨cachedTail, loadTail_ringInv hinv item⟩
  | updateCachedTail pending head tail => exact updateCachedTail_ringInv hinv item
  | writeSlot pending head => exact ⟨cachedTail, writeSlot_ringInv hinv item⟩
  | storeHead pending head => exact ⟨cachedTail, storeHead_ringInv hinv item⟩

end Producer

/-! ## Steps of the consumer -/

section Consumer

variable {ring : SpscRing α capacity} {push : PushPc α} {pushed popped : List α}
  {cachedTail cachedHead : Nat}

/-- Pushes and pops are at most a capacity apart. -/
theorem RingInv.bound {state : SpscState α capacity}
    (hinv : state.RingInv cachedTail cachedHead) :
    state.pushed.length ≤ state.popped.length + capacity.size :=
  Nat.le_trans hinv.room (Nat.add_le_add_right hinv.cachedTail_le _)

/-- The emptiness test of the consumer against a count of pushes. -/
theorem RingInv.empty_iff {state : SpscState α capacity}
    (hinv : state.RingInv cachedTail cachedHead) {count : Nat}
    (hle : state.popped.length ≤ count) (hge : count ≤ state.pushed.length) :
    state.ring.tail = UInt64.ofNat count ↔ state.popped.length = count := by
  have hbound := hinv.bound
  have hsize := capacity.size_le
  rw [hinv.tail]
  exact ofNat_eq_ofNat_iff hle (by omega)

/-- The consumer goes on in its call. -/
theorem RingInv.withPop {pop pop' : PopPc α}
    (hinv : RingInv ⟨ring, push, pop, pushed, popped⟩ cachedTail cachedHead)
    (hpop : PopInv ⟨ring, push, pop', pushed, popped⟩ cachedHead pop') :
    RingInv ⟨ring, push, pop', pushed, popped⟩ cachedTail cachedHead :=
  { hinv with push := hinv.push.mono rfl rfl rfl (Nat.le_refl _), pop := hpop }

/-- The consumer takes over a later count of pushes. -/
theorem RingInv.withCachedHead {pop pop' : PopPc α}
    (hinv : RingInv ⟨ring, push, pop, pushed, popped⟩ cachedTail cachedHead) {head : UInt64}
    {count : Nat} (hhead : head = UInt64.ofNat count) (hle : popped.length ≤ count)
    (hge : count ≤ pushed.length)
    (hpop : PopInv ⟨{ ring with cachedHead := head }, push, pop', pushed, popped⟩ count pop') :
    RingInv ⟨{ ring with cachedHead := head }, push, pop', pushed, popped⟩ cachedTail count :=
  { hinv with
    cached_head := hhead
    le_cachedHead := hle
    cachedHead_le := hge
    push := hinv.push.mono rfl rfl rfl (Nat.le_refl _)
    pop := hpop }

theorem startPop_ringInv
    (hinv : RingInv ⟨ring, push, .idle, pushed, popped⟩ cachedTail cachedHead) :
    RingInv (step ⟨ring, push, .idle, pushed, popped⟩ .consumer) cachedTail cachedHead := by
  have hempty := hinv.empty_iff hinv.le_cachedHead hinv.cachedHead_le
  rw [← hinv.cached_head] at hempty
  dsimp only at hempty
  have hle : popped.length ≤ cachedHead := hinv.le_cachedHead
  by_cases hcheck : ring.tail = ring.cachedHead
  · have hstep : step ⟨ring, push, .idle, pushed, popped⟩ .consumer =
        ⟨ring, push, .loadHead ring.tail, pushed, popped⟩ := by
      simp [step, popStep, hcheck, poppedBy]
    rw [hstep]
    exact hinv.withPop rfl
  · have hstep : step ⟨ring, push, .idle, pushed, popped⟩ .consumer =
        ⟨ring, push, .readSlot ring.tail, pushed, popped⟩ := by
      simp [step, popStep, hcheck, poppedBy]
    rw [hstep]
    rw [hempty] at hcheck
    exact hinv.withPop ⟨rfl, Nat.lt_of_le_of_ne hle hcheck⟩

theorem loadHead_ringInv {tail : UInt64}
    (hinv : RingInv ⟨ring, push, .loadHead tail, pushed, popped⟩ cachedTail cachedHead) :
    RingInv (step ⟨ring, push, .loadHead tail, pushed, popped⟩ .consumer) cachedTail
      cachedHead := by
  have hstep : step ⟨ring, push, .loadHead tail, pushed, popped⟩ .consumer =
      ⟨ring, push, .updateCachedHead tail ring.head, pushed, popped⟩ := by
    simp [step, popStep, poppedBy]
  rw [hstep]
  exact hinv.withPop ⟨hinv.pop, pushed.length, hinv.head, hinv.fifo.length_le, Nat.le_refl _⟩

/-- The cached head moves on to the count that was loaded. -/
theorem updateCachedHead_ringInv {tail head : UInt64}
    (hinv : RingInv ⟨ring, push, .updateCachedHead tail head, pushed, popped⟩ cachedTail
      cachedHead) :
    ∃ cachedHead', RingInv (step ⟨ring, push, .updateCachedHead tail head, pushed, popped⟩
      .consumer) cachedTail cachedHead' := by
  rcases hinv.pop with ⟨htail, count, hcount, hle, hge⟩
  have hempty := hinv.empty_iff hle hge
  rw [← hcount, ← htail] at hempty
  dsimp only at htail hle hge hempty
  refine ⟨count, ?_⟩
  by_cases hcheck : tail = head
  · have hstep : step ⟨ring, push, .updateCachedHead tail head, pushed, popped⟩ .consumer =
        ⟨{ ring with cachedHead := head }, push, .idle, pushed, popped⟩ := by
      simp [step, popStep, hcheck, poppedBy]
    rw [hstep]
    exact hinv.withCachedHead hcount hle hge trivial
  · have hstep : step ⟨ring, push, .updateCachedHead tail head, pushed, popped⟩ .consumer =
        ⟨{ ring with cachedHead := head }, push, .readSlot tail, pushed, popped⟩ := by
      simp [step, popStep, hcheck, poppedBy]
    rw [hstep]
    rw [hempty] at hcheck
    exact hinv.withCachedHead hcount hle hge ⟨htail, Nat.lt_of_le_of_ne hle hcheck⟩

/-- The slot read holds the oldest value that is not popped. -/
theorem RingInv.slot_tail {state : SpscState α capacity}
    (hinv : state.RingInv cachedTail cachedHead)
    (hlt : state.popped.length < state.pushed.length) :
    state.pushed[state.popped.length]? =
      some (state.ring.buffer (capacity.slot state.ring.tail)) := by
  have hitem := List.getElem?_eq_getElem hlt
  have hslot := hinv.slots _ _ (Nat.le_refl _) hitem
  rw [hinv.tail, hslot]
  exact hitem

theorem readSlot_ringInv {tail : UInt64}
    (hinv : RingInv ⟨ring, push, .readSlot tail, pushed, popped⟩ cachedTail cachedHead) :
    RingInv (step ⟨ring, push, .readSlot tail, pushed, popped⟩ .consumer) cachedTail
      cachedHead := by
  rcases hinv.pop with ⟨htail, hlt⟩
  have hitem := hinv.slot_tail (Nat.lt_of_lt_of_le hlt hinv.cachedHead_le)
  have hstep : step ⟨ring, push, .readSlot tail, pushed, popped⟩ .consumer =
      ⟨ring, push, .storeTail tail (ring.buffer (capacity.slot tail)), pushed, popped⟩ := by
    simp [step, popStep, poppedBy]
  rw [hstep]
  rw [← htail] at hitem
  exact hinv.withPop ⟨htail, hlt, hitem⟩

/-- The value copied out becomes the last one popped. -/
theorem storeTail_ringInv {tail : UInt64} {out : α}
    (hinv : RingInv ⟨ring, push, .storeTail tail out, pushed, popped⟩ cachedTail cachedHead) :
    RingInv (step ⟨ring, push, .storeTail tail out, pushed, popped⟩ .consumer) cachedTail
      cachedHead := by
  rcases hinv.pop with ⟨htail, hlt, hout⟩
  have htail' : ring.tail = UInt64.ofNat popped.length := hinv.tail
  dsimp only at htail hlt hout
  have hlength : (popped ++ [out]).length = popped.length + 1 := by
    rw [List.length_append, List.length_singleton]
  have hfifo : popped ++ [out] <+: pushed := by
    rcases List.getElem?_eq_some_iff.mp hout with ⟨hindex, hvalue⟩
    rw [← hvalue]
    exact List.concat_get_prefix hinv.fifo hindex
  have hslots := hinv.slots
  have hpush := hinv.push
  have hstep : step ⟨ring, push, .storeTail tail out, pushed, popped⟩ .consumer =
      ⟨{ ring with tail := tail + 1 }, push, .idle, pushed, popped ++ [out]⟩ := rfl
  rw [hstep]
  exact { hinv with
    tail := by
      dsimp only
      rw [htail, htail', ofNat_add_one, hlength]
    cachedTail_le := by
      dsimp only
      rw [hlength]
      exact Nat.le_succ_of_le hinv.cachedTail_le
    le_cachedHead := by
      dsimp only
      rw [hlength]
      exact hlt
    fifo := hfifo
    slots := by
      intro i value hi hvalue
      dsimp only at hi hvalue ⊢
      rw [hlength] at hi
      exact hslots i value (Nat.le_of_succ_le hi) hvalue
    push := hpush.mono rfl rfl rfl (by dsimp only; omega)
    pop := trivial }

theorem consumer_ringInv {state : SpscState α capacity}
    (hinv : state.RingInv cachedTail cachedHead) :
    ∃ cachedHead', (state.step .consumer).RingInv cachedTail cachedHead' := by
  rcases state with ⟨ring, push, pop, pushed, popped⟩
  cases pop with
  | idle => exact ⟨cachedHead, startPop_ringInv hinv⟩
  | loadHead tail => exact ⟨cachedHead, loadHead_ringInv hinv⟩
  | updateCachedHead tail head => exact updateCachedHead_ringInv hinv
  | readSlot tail => exact ⟨cachedHead, readSlot_ringInv hinv⟩
  | storeTail tail out => exact ⟨cachedHead, storeTail_ringInv hinv⟩

end Consumer

end Step

/-! ## Runs -/

/-- The invariant for some counts behind the cached indices. -/
def Reliable (state : SpscState α capacity) : Prop :=
  ∃ cachedTail cachedHead, state.RingInv cachedTail cachedHead

theorem step_reliable {state : SpscState α capacity} (hstate : state.Reliable)
    (move : Move α) : (state.step move).Reliable := by
  rcases hstate with ⟨cachedTail, cachedHead, hinv⟩
  cases move with
  | producer item =>
      rcases producer_ringInv hinv item with ⟨cachedTail', hinv'⟩
      exact ⟨cachedTail', cachedHead, hinv'⟩
  | consumer =>
      rcases consumer_ringInv hinv with ⟨cachedHead', hinv'⟩
      exact ⟨cachedTail, cachedHead', hinv'⟩

theorem run_reliable (buffer : Fin capacity.size → α) (schedule : List (Move α)) :
    ((initial buffer).run schedule).Reliable := by
  have hstep : ∀ (state : SpscState α capacity) (move : Move α), True → state.Reliable →
      (state.step move).Reliable := fun _ move _ hstate => step_reliable hstate move
  exact foldl_invariant hstep ⟨0, 0, initial_ringInv buffer⟩ (fun _ _ => trivial)

end SpscState

end Fgep.Core
