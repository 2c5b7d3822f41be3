import GatedExecution.Core.SpscInvariant

/-!
# The ring is a bounded queue

The values pushed and not yet popped form a queue that lies in the slots from the
tail on.  The store of an index is the moment a call takes effect; a refused call
takes effect when it loads the other side's index.

Main results:

- Theorem {lit}`step_fifoStep`: each step is a step of a bounded queue, or none.
- Theorem {lit}`spscRing_fifo`: order, bound, slots and refusals in every
  interleaving.
-/

namespace Fgep.Core

open WrappingCounter Runs

variable {α : Type} {capacity : RingCapacity}

namespace SpscState

/-! ## The queue in the ring -/

/-- The values pushed and not popped, oldest first. -/
def contents (state : SpscState α capacity) : List α :=
  state.pushed.drop state.popped.length

/-- One step of a queue that holds at most {lit}`bound` values. -/
inductive FifoStep (bound : Nat) : List α → List α → Prop where
  | stutter (queue : List α) : FifoStep bound queue queue
  | enqueue (queue : List α) (item : α) (hroom : queue.length < bound) :
      FifoStep bound queue (queue ++ [item])
  | dequeue (item : α) (queue : List α) : FifoStep bound (item :: queue) queue

section Queue

variable {state : SpscState α capacity}

theorem pushedBy_cases (returned : Option (α × Bool)) :
    pushedBy returned = [] ∨ ∃ item, returned = some (item, true) ∧ pushedBy returned = [item] := by
  rcases returned with _ | ⟨item, _ | _⟩
  · exact Or.inl rfl
  · exact Or.inl rfl
  · exact Or.inr ⟨item, rfl, rfl⟩

theorem poppedBy_cases (returned : Option (Option α)) :
    poppedBy returned = [] ∨ ∃ out, returned = some (some out) ∧ poppedBy returned = [out] := by
  rcases returned with _ | _ | out
  · exact Or.inl rfl
  · exact Or.inl rfl
  · exact Or.inr ⟨out, rfl, rfl⟩

theorem contents_of_nothing_popped
    (hnone : poppedBy (popStep state.ring state.pop).returned = []) :
    (state.step .consumer).contents = state.contents := by
  change state.pushed.drop
    (state.popped ++ poppedBy (popStep state.ring state.pop).returned).length = _
  rw [hnone, List.append_nil]
  rfl

/-- A pop that returns a value takes the oldest. -/
theorem Reliable.contents_eq_cons (hstate : state.Reliable) {out : α}
    (hreturned : (popStep state.ring state.pop).returned = some (some out)) :
    state.contents = out :: (state.step .consumer).contents := by
  rcases hstate with ⟨cachedTail, cachedHead, hinv⟩
  rcases popStep_returned hreturned with ⟨value, tail, hsome, hpc⟩ | ⟨hnone, -⟩
  swap
  · cases hnone
  cases hsome
  have hpop := hinv.pop
  rw [hpc] at hpop
  have hout : state.pushed[state.popped.length]? = some out := hpop.2.2
  rcases List.getElem?_eq_some_iff.mp hout with ⟨hlt, hvalue⟩
  change state.pushed.drop state.popped.length = out :: state.pushed.drop
    (state.popped ++ poppedBy (popStep state.ring state.pop).returned).length
  rw [hreturned, List.drop_eq_getElem_cons hlt, hvalue, List.length_append]
  rfl

/-- Only the two index stores change the queue. -/
theorem step_fifoStep (hstate : state.Reliable) (move : Move α) :
    FifoStep capacity.size state.contents (state.step move).contents := by
  rcases hstate with ⟨cachedTail, cachedHead, hinv⟩
  cases move with
  | producer item =>
      change FifoStep _ (state.pushed.drop state.popped.length)
        ((state.pushed ++ pushedBy (pushStep state.ring item state.push).returned).drop
          state.popped.length)
      rcases pushedBy_cases (pushStep state.ring item state.push).returned with
        hnone | ⟨value, hreturned, hone⟩
      · rw [hnone, List.append_nil]
        exact .stutter _
      · rcases pushStep_returned hreturned with ⟨-, head, hpc⟩ | ⟨hfalse, -⟩
        swap
        · cases hfalse
        have hpush := hinv.push
        rw [hpc] at hpush
        have hfree : state.pushed.length < cachedTail + capacity.size := hpush.2.1
        have hcached := hinv.cachedTail_le
        have hlength := hinv.fifo.length_le
        rw [hone, List.drop_append_of_le_length hlength]
        refine .enqueue _ _ ?_
        rw [List.length_drop]
        omega
  | consumer =>
      rcases poppedBy_cases (popStep state.ring state.pop).returned with
        hnone | ⟨out, hreturned, -⟩
      · rw [contents_of_nothing_popped hnone]
        exact .stutter _
      · rw [Reliable.contents_eq_cons ⟨cachedTail, cachedHead, hinv⟩ hreturned]
        exact .dequeue _ _

theorem Reliable.toNat_size (hstate : state.Reliable) :
    state.size.toNat = state.contents.length := by
  rcases hstate with ⟨cachedTail, cachedHead, hinv⟩
  have hlength := hinv.fifo.length_le
  have hbound := hinv.bound
  have hsize := capacity.size_le
  rw [size, hinv.head, hinv.tail, toNat_ofNat_sub_ofNat hlength (by omega), contents,
    List.length_drop]

theorem Reliable.popped_eq_pushed (hstate : state.Reliable) (hempty : state.contents = []) :
    state.popped = state.pushed := by
  rcases hstate with ⟨cachedTail, cachedHead, hinv⟩
  exact hinv.fifo.eq_of_length_le (List.drop_eq_nil_iff.mp hempty)

theorem Reliable.size_le (hstate : state.Reliable) : state.size ≤ capacity.value := by
  apply UInt64.le_iff_toNat_le.mpr
  rw [hstate.toNat_size, contents, List.length_drop]
  rcases hstate with ⟨cachedTail, cachedHead, hinv⟩
  have hbound := hinv.bound
  change _ ≤ capacity.size
  omega

/-- The queue lies in the slots from the tail on. -/
theorem Reliable.slot_contents (hstate : state.Reliable) {i : Nat} {item : α}
    (hitem : state.contents[i]? = some item) :
    state.ring.buffer (capacity.slot (state.ring.tail + UInt64.ofNat i)) = item := by
  rcases hstate with ⟨cachedTail, cachedHead, hinv⟩
  rw [contents, List.getElem?_drop] at hitem
  rw [hinv.tail, ← UInt64.ofNat_add]
  exact hinv.slots _ item (Nat.le_add_right _ _) hitem

/-- A producer about to write finds its slot apart from those of the queue. -/
theorem Reliable.writeSlot_free (hstate : state.Reliable) {item : α} {head : UInt64}
    (hpc : state.push = .writeSlot item head) {i : Nat} (hi : i < state.contents.length) :
    capacity.slot (state.ring.tail + UInt64.ofNat i) ≠ capacity.slot head := by
  rcases hstate with ⟨cachedTail, cachedHead, hinv⟩
  have hpush := hinv.push
  rw [hpc] at hpush
  rcases hpush with ⟨hhead, hfree⟩
  have hcached := hinv.cachedTail_le
  rw [contents, List.length_drop] at hi
  rw [hhead, hinv.head, hinv.tail, ← UInt64.ofNat_add]
  exact capacity.slot_ofNat_ne (by omega) (by omega)

/-- A consumer about to read finds the oldest value of the queue. -/
theorem Reliable.readSlot_published (hstate : state.Reliable) {tail : UInt64}
    (hpc : state.pop = .readSlot tail) :
    state.contents.head? = some (state.ring.buffer (capacity.slot tail)) := by
  rcases hstate with ⟨cachedTail, cachedHead, hinv⟩
  have hpop := hinv.pop
  rw [hpc] at hpop
  rcases hpop with ⟨htail, hlt⟩
  rw [contents, List.head?_drop, htail]
  exact hinv.slot_tail (Nat.lt_of_lt_of_le hlt hinv.cachedHead_le)

end Queue

/-! ## Refusals -/

section Refusals

variable {buffer : Fin capacity.size → α} {schedule : List (Move α)}

/-- A producer whose test against the tail it is about to load fails finds the ring full. -/
theorem Reliable.size_of_loadTail {state : SpscState α capacity} (hstate : state.Reliable)
    {item : α} {head : UInt64} (hpc : state.push = .loadTail item head)
    (hfull : head + 1 - state.ring.tail > capacity.value) : state.size = capacity.value := by
  have hsize := hstate.toNat_size
  rcases hstate with ⟨cachedTail, cachedHead, hinv⟩
  have hpush := hinv.push
  rw [hpc] at hpush
  have hhead : head = state.ring.head := hpush
  rw [hhead, hinv.head, hinv.tail, full_iff hinv.fifo.length_le hinv.bound] at hfull
  rw [contents, List.length_drop, hfull, Nat.add_sub_cancel_left] at hsize
  exact UInt64.toNat_inj.mp hsize

/-- A push that is refused saw the ring full when it loaded the tail. -/
theorem push_refused {item value : α}
    (hreturned : (pushStep ((initial buffer).run schedule).ring item
      ((initial buffer).run schedule).push).returned = some (value, false)) :
    ∃ k < schedule.length,
      (∀ i, k ≤ i → i ≤ schedule.length →
        ((initial buffer).run (schedule.take i)).push ≠ .idle) ∧
      ((initial buffer).run (schedule.take k)).size = capacity.value := by
  rcases pushStep_returned hreturned with ⟨htrue, -⟩ | ⟨-, head, tail, hpc, hfull⟩
  · cases htrue
  have hstart : ∀ (state : SpscState α capacity) move,
      (state.step move).push = .updateCachedTail value head tail →
        state.push = .updateCachedTail value head tail ∨
          (state.push = .loadTail value head ∧ state.ring.tail = tail) := by
    intro state move hafter
    cases move with
    | producer next => exact Or.inr (pushStep_updateCachedTail hafter)
    | consumer => exact Or.inl hafter
  have hupdate : ∀ state : SpscState α capacity,
      state.push = .updateCachedTail value head tail → state.push ≠ .idle := by
    intro state hpc hidle
    rw [hpc] at hidle
    cases hidle
  have hload : ∀ state : SpscState α capacity,
      state.push = .loadTail value head ∧ state.ring.tail = tail → state.push ≠ .idle := by
    rintro state ⟨hpc, -⟩ hidle
    rw [hpc] at hidle
    cases hidle
  rcases exists_since hstart hupdate hload (fun heq => hupdate (initial buffer) heq rfl) hpc with
    ⟨k, hk, ⟨hloading, htail⟩, hsince⟩
  refine ⟨k, hk, hsince, ?_⟩
  change ((initial buffer).run (schedule.take k)).ring.tail = _ at htail
  rw [← htail] at hfull
  exact (run_reliable buffer (schedule.take k)).size_of_loadTail hloading hfull

/-- A pop that is refused saw the ring empty when it loaded the head. -/
theorem pop_refused
    (hreturned : (popStep ((initial buffer).run schedule).ring
      ((initial buffer).run schedule).pop).returned = some none) :
    ∃ k < schedule.length,
      (∀ i, k ≤ i → i ≤ schedule.length →
        ((initial buffer).run (schedule.take i)).pop ≠ .idle) ∧
      ((initial buffer).run (schedule.take k)).size = 0 := by
  rcases popStep_returned hreturned with ⟨value, tail, hsome, -⟩ | ⟨-, index, hpc⟩
  · cases hsome
  have hstart : ∀ (state : SpscState α capacity) move,
      (state.step move).pop = .updateCachedHead index index →
        state.pop = .updateCachedHead index index ∨
          (state.pop = .loadHead index ∧ state.ring.head = index) := by
    intro state move hafter
    cases move with
    | producer next => exact Or.inl hafter
    | consumer => exact Or.inr (popStep_updateCachedHead hafter)
  have hupdate : ∀ state : SpscState α capacity,
      state.pop = .updateCachedHead index index → state.pop ≠ .idle := by
    intro state hpc hidle
    rw [hpc] at hidle
    cases hidle
  have hload : ∀ state : SpscState α capacity,
      state.pop = .loadHead index ∧ state.ring.head = index → state.pop ≠ .idle := by
    rintro state ⟨hpc, -⟩ hidle
    rw [hpc] at hidle
    cases hidle
  rcases exists_since hstart hupdate hload (fun heq => hupdate (initial buffer) heq rfl) hpc with
    ⟨k, hk, ⟨hloading, hhead⟩, hsince⟩
  refine ⟨k, hk, hsince, ?_⟩
  rcases run_reliable buffer (schedule.take k) with ⟨cachedTail, cachedHead, hinv⟩
  have hpop := hinv.pop
  change ((initial buffer).run (schedule.take k)).pop = _ at hloading
  change ((initial buffer).run (schedule.take k)).ring.head = _ at hhead
  rw [hloading] at hpop
  have htail : index = ((initial buffer).run (schedule.take k)).ring.tail := hpop
  rw [size, hhead, ← htail, UInt64.sub_self]

end Refusals

/-! ## Every interleaving -/

/-- In every interleaving of pushes and pops: the values popped are the first of those
pushed and the ring holds the others, as a queue that never exceeds the capacity; a slot
is written only when it is none of the queue's and read only when it holds the oldest
value; and a call is refused only if the ring was full, or empty, during the call. -/
theorem spscRing_fifo (capacity : RingCapacity) (buffer : Fin capacity.size → α)
    (schedule : List (Move α)) :
    let state := (initial buffer).run schedule
    state.pushed = state.popped ++ state.contents ∧
      (∀ move, FifoStep capacity.size state.contents (state.step move).contents) ∧
      state.size.toNat = state.contents.length ∧ state.size ≤ capacity.value ∧
      (∀ i item, state.contents[i]? = some item →
        state.ring.buffer (capacity.slot (state.ring.tail + UInt64.ofNat i)) = item) ∧
      (∀ item head, state.push = .writeSlot item head → ∀ i < state.contents.length,
        capacity.slot (state.ring.tail + UInt64.ofNat i) ≠ capacity.slot head) ∧
      (∀ tail, state.pop = .readSlot tail →
        state.contents.head? = some (state.ring.buffer (capacity.slot tail))) ∧
      (∀ item value, (pushStep state.ring item state.push).returned = some (value, false) →
        ∃ k < schedule.length,
          (∀ i, k ≤ i → i ≤ schedule.length →
            ((initial buffer).run (schedule.take i)).push ≠ .idle) ∧
          ((initial buffer).run (schedule.take k)).size = capacity.value) ∧
      ((popStep state.ring state.pop).returned = some none →
        ∃ k < schedule.length,
          (∀ i, k ≤ i → i ≤ schedule.length →
            ((initial buffer).run (schedule.take i)).pop ≠ .idle) ∧
          ((initial buffer).run (schedule.take k)).size = 0) := by
  intro state
  have hstate : state.Reliable := run_reliable buffer schedule
  have hqueue : state.pushed = state.popped ++ state.contents := by
    rcases hstate with ⟨cachedTail, cachedHead, hinv⟩
    exact (List.prefix_iff_eq_append.mp hinv.fifo).symm
  exact ⟨hqueue, step_fifoStep hstate, hstate.toNat_size, hstate.size_le,
    fun i item => hstate.slot_contents, fun item head hpc i hi => hstate.writeSlot_free hpc hi,
    fun tail hpc => hstate.readSlot_published hpc, fun item value => push_refused, pop_refused⟩

/-- A ring of two slots: two pushes fill it, a third is refused, and a pop returns the
first value. -/
example :
    let capacity : RingCapacity := ⟨2, by decide, by decide⟩
    let buffer : Fin capacity.size → Nat := fun _ => 0
    let push (item : Nat) (steps : Nat) := List.replicate steps (Move.producer item)
    let state := (initial buffer).run
      (push 7 3 ++ push 8 3 ++ push 9 3 ++ List.replicate 5 Move.consumer)
    state.pushed = [7, 8] ∧ state.popped = [7] := by
  decide

end SpscState

end Fgep.Core
