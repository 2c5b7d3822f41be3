import GatedExecution.Lib.WrappingCounter
import GatedExecution.Lib.Runs

/-!
# The single-producer single-consumer ring

{lit}`core/spsc_ring.hpp`.  One thread calls {lit}`push`, one calls {lit}`pop`; each
call is cut into its accesses to shared memory: every load and store of an index,
every update of a cached index and every copy of a slot is one step, and the local
tests belong to the step before them.  Steps of the two threads interleave in any
order and see each other's effects at once.

A schedule says which thread moves next.  The state records, besides the ring and
the place of each thread in its call, the values whose {lit}`push` has returned true
and the values {lit}`pop` has returned.

Main results:

- Theorem {lit}`slot_ofNat_ne`: nearby counts have different slots.
- Theorems {lit}`pushStep_returned` and {lit}`popStep_returned`: how calls end.
-/

namespace Fgep.Core

open WrappingCounter

/-! ## The ring -/

/-- The capacity with the static assertions of the template. -/
structure RingCapacity where
  value : UInt64
  two_le : value ≥ 2
  powerOfTwo : value &&& (value - 1) = 0

namespace RingCapacity

def size (capacity : RingCapacity) : Nat :=
  capacity.value.toNat

def mask (capacity : RingCapacity) : UInt64 :=
  capacity.value - 1

variable (capacity : RingCapacity)

theorem two_le_size : 2 ≤ capacity.size :=
  UInt64.le_iff_toNat_le.mp capacity.two_le

theorem toNat_mask : capacity.mask.toNat = capacity.size - 1 := by
  have hsize := capacity.two_le_size
  rw [mask, UInt64.toNat_sub_of_le]
  · rfl
  · exact UInt64.le_iff_toNat_le.mpr (Nat.le_of_succ_le hsize)

theorem slot_lt (index : UInt64) : (index &&& capacity.mask).toNat < capacity.size := by
  have hsize := capacity.two_le_size
  have hle : (index &&& capacity.mask).toNat ≤ capacity.mask.toNat := by
    rw [UInt64.toNat_and]
    exact Nat.and_le_right
  rw [toNat_mask] at hle
  omega

/-- {lit}`index & mask`. -/
def slot (index : UInt64) : Fin capacity.size :=
  ⟨(index &&& capacity.mask).toNat, capacity.slot_lt index⟩

theorem exists_exponent : ∃ exponent, exponent ≤ 63 ∧ capacity.size = 2 ^ exponent :=
  exists_two_pow_of_and_pred (Nat.lt_of_lt_of_le (by decide) capacity.two_le_size)
    capacity.powerOfTwo

theorem size_le : capacity.size ≤ 2 ^ 63 := by
  rcases capacity.exists_exponent with ⟨exponent, hle, hsize⟩
  rw [hsize]
  exact Nat.pow_le_pow_right (by decide) hle

theorem slot_ofNat (count : Nat) : (capacity.slot (UInt64.ofNat count)).val =
    count % capacity.size := by
  rcases capacity.exists_exponent with ⟨exponent, hle, hsize⟩
  have hmask := capacity.toNat_mask
  rw [hsize] at hmask
  have hlow := toNat_ofNat_and_mask hle hmask count
  rwa [← hsize] at hlow

/-- Counts less than a capacity apart have different slots. -/
theorem slot_ofNat_ne {first second : Nat} (hlt : first < second)
    (hclose : second < first + capacity.size) :
    capacity.slot (UInt64.ofNat first) ≠ capacity.slot (UInt64.ofNat second) := by
  intro heq
  have hval := congrArg Fin.val heq
  rw [slot_ofNat, slot_ofNat] at hval
  exact mod_ne_mod_of_lt hlt hclose hval

end RingCapacity

variable {α : Type} {capacity : RingCapacity}

/-- The producer's {lit}`head` and {lit}`cached_tail`, the consumer's {lit}`tail` and
{lit}`cached_head`, and the buffer. -/
structure SpscRing (α : Type) (capacity : RingCapacity) where
  head : UInt64
  cachedTail : UInt64
  tail : UInt64
  cachedHead : UInt64
  buffer : Fin capacity.size → α

/-! ## Push -/

/-- The access a producer makes next, with the local values of its call. -/
inductive PushPc (α : Type) where
  | idle
  | loadTail (item : α) (head : UInt64)
  | updateCachedTail (item : α) (head tail : UInt64)
  | writeSlot (item : α) (head : UInt64)
  | storeHead (item : α) (head : UInt64)

/-- What a step leaves, and what the call returned if the step ended it. -/
structure PushResult (α : Type) (capacity : RingCapacity) where
  ring : SpscRing α capacity
  pc : PushPc α
  returned : Option (α × Bool) := none

/-- One step of the producer; an idle one starts {lit}`push(item)`. -/
def pushStep (ring : SpscRing α capacity) (item : α) : PushPc α → PushResult α capacity
  | .idle =>
      let head := ring.head
      let next := head + 1
      if next - ring.cachedTail > capacity.value then { ring := ring, pc := .loadTail item head }
      else { ring := ring, pc := .writeSlot item head }
  | .loadTail item head => { ring := ring, pc := .updateCachedTail item head ring.tail }
  | .updateCachedTail item head tail =>
      let next := head + 1
      let ring := { ring with cachedTail := tail }
      if next - ring.cachedTail > capacity.value then
        { ring := ring, pc := .idle, returned := some (item, false) }
      else { ring := ring, pc := .writeSlot item head }
  | .writeSlot item head =>
      { ring := { ring with
          buffer := Function.update ring.buffer (capacity.slot head) item }
        pc := .storeHead item head }
  | .storeHead item head =>
      { ring := { ring with head := head + 1 }, pc := .idle, returned := some (item, true) }

/-- A push returns true after its store of the head, and false only after a fresh load
of the tail. -/
theorem pushStep_returned {ring : SpscRing α capacity} {item value : α} {pc : PushPc α}
    {ok : Bool} (hreturned : (pushStep ring item pc).returned = some (value, ok)) :
    (ok = true ∧ ∃ head, pc = .storeHead value head) ∨
      (ok = false ∧ ∃ head tail, pc = .updateCachedTail value head tail ∧
        head + 1 - tail > capacity.value) := by
  cases pc with
  | idle =>
      rw [pushStep] at hreturned
      split at hreturned <;> cases hreturned
  | loadTail pending head => cases hreturned
  | updateCachedTail pending head tail =>
      rw [pushStep] at hreturned
      dsimp only at hreturned
      split at hreturned
      · rename_i hfull
        cases hreturned
        exact Or.inr ⟨rfl, head, tail, rfl, hfull⟩
      · cases hreturned
  | writeSlot pending head => cases hreturned
  | storeHead pending head =>
      cases hreturned
      exact Or.inl ⟨rfl, head, rfl⟩

/-- The test after a load of the tail follows that load. -/
theorem pushStep_updateCachedTail {ring : SpscRing α capacity} {item value : α} {pc : PushPc α}
    {head tail : UInt64} (hpc : (pushStep ring item pc).pc = .updateCachedTail value head tail) :
    pc = .loadTail value head ∧ ring.tail = tail := by
  cases pc with
  | idle =>
      rw [pushStep] at hpc
      split at hpc <;> cases hpc
  | loadTail pending head' =>
      cases hpc
      exact ⟨rfl, rfl⟩
  | updateCachedTail pending head' tail' =>
      rw [pushStep] at hpc
      dsimp only at hpc
      split at hpc <;> cases hpc
  | writeSlot pending head' => cases hpc
  | storeHead pending head' => cases hpc

/-- The item of a push in progress. -/
def PushPc.Holds (item : α) : PushPc α → Prop
  | .idle => True
  | .loadTail pending _ => pending = item
  | .updateCachedTail pending _ _ => pending = item
  | .writeSlot pending _ => pending = item
  | .storeHead pending _ => pending = item

theorem pushStep_holds {item : α} {pc : PushPc α} (hpc : pc.Holds item)
    (ring : SpscRing α capacity) : (pushStep ring item pc).pc.Holds item := by
  cases pc with
  | idle =>
      rw [pushStep]
      split <;> rfl
  | loadTail pending head => exact hpc
  | updateCachedTail pending head tail =>
      rw [pushStep]
      dsimp only
      split
      · trivial
      · exact hpc
  | writeSlot pending head => exact hpc
  | storeHead pending head => trivial

/-- A push that returns was about its own item and is over. -/
theorem pushStep_returned_item {ring : SpscRing α capacity} {item value : α} {pc : PushPc α}
    {ok : Bool} (hpc : pc.Holds item)
    (hreturned : (pushStep ring item pc).returned = some (value, ok)) :
    value = item ∧ (pushStep ring item pc).pc = .idle := by
  rcases pushStep_returned hreturned with ⟨-, head, rfl⟩ | ⟨-, head, tail, rfl, hfull⟩
  · exact ⟨hpc, rfl⟩
  · refine ⟨hpc, ?_⟩
    rw [pushStep, if_pos hfull]

/-! ## Pop -/

inductive PopPc (α : Type) where
  | idle
  | loadHead (tail : UInt64)
  | updateCachedHead (tail head : UInt64)
  | readSlot (tail : UInt64)
  | storeTail (tail : UInt64) (out : α)

/-- A call that returns true returns the value it copied out. -/
structure PopResult (α : Type) (capacity : RingCapacity) where
  ring : SpscRing α capacity
  pc : PopPc α
  returned : Option (Option α) := none

/-- One step of the consumer; an idle one starts {lit}`pop`. -/
def popStep (ring : SpscRing α capacity) : PopPc α → PopResult α capacity
  | .idle =>
      let tail := ring.tail
      if tail = ring.cachedHead then { ring := ring, pc := .loadHead tail }
      else { ring := ring, pc := .readSlot tail }
  | .loadHead tail => { ring := ring, pc := .updateCachedHead tail ring.head }
  | .updateCachedHead tail head =>
      let ring := { ring with cachedHead := head }
      if tail = ring.cachedHead then { ring := ring, pc := .idle, returned := some none }
      else { ring := ring, pc := .readSlot tail }
  | .readSlot tail => { ring := ring, pc := .storeTail tail (ring.buffer (capacity.slot tail)) }
  | .storeTail tail out =>
      { ring := { ring with tail := tail + 1 }, pc := .idle, returned := some (some out) }

/-- A pop returns a value after its store of the tail, and none only after a fresh load
of the head. -/
theorem popStep_returned {ring : SpscRing α capacity} {pc : PopPc α} {out : Option α}
    (hreturned : (popStep ring pc).returned = some out) :
    (∃ value tail, out = some value ∧ pc = .storeTail tail value) ∨
      (out = none ∧ ∃ index, pc = .updateCachedHead index index) := by
  cases pc with
  | idle =>
      rw [popStep] at hreturned
      split at hreturned <;> cases hreturned
  | loadHead tail => cases hreturned
  | updateCachedHead tail head =>
      rw [popStep] at hreturned
      dsimp only at hreturned
      split at hreturned
      · rename_i heq
        cases hreturned
        exact Or.inr ⟨rfl, tail, by rw [← heq]⟩
      · cases hreturned
  | readSlot tail => cases hreturned
  | storeTail tail value =>
      cases hreturned
      exact Or.inl ⟨value, tail, rfl, rfl⟩

theorem popStep_returned_idle {ring : SpscRing α capacity} {pc : PopPc α} {out : Option α}
    (hreturned : (popStep ring pc).returned = some out) : (popStep ring pc).pc = .idle := by
  rcases popStep_returned hreturned with ⟨value, tail, -, rfl⟩ | ⟨-, index, rfl⟩
  · rfl
  · rw [popStep, if_pos rfl]

/-- The test after a load of the head follows that load. -/
theorem popStep_updateCachedHead {ring : SpscRing α capacity} {pc : PopPc α}
    {tail head : UInt64} (hpc : (popStep ring pc).pc = .updateCachedHead tail head) :
    pc = .loadHead tail ∧ ring.head = head := by
  cases pc with
  | idle =>
      rw [popStep] at hpc
      split at hpc <;> cases hpc
  | loadHead tail' =>
      cases hpc
      exact ⟨rfl, rfl⟩
  | updateCachedHead tail' head' =>
      rw [popStep] at hpc
      dsimp only at hpc
      split at hpc <;> cases hpc
  | readSlot tail' => cases hpc
  | storeTail tail' value => cases hpc

/-! ## Interleavings -/

/-- The ring, the two threads and what their calls have returned so far. -/
structure SpscState (α : Type) (capacity : RingCapacity) where
  ring : SpscRing α capacity
  push : PushPc α
  pop : PopPc α
  pushed : List α
  popped : List α

/-- Which thread moves; the item is the argument of a push that starts with the move. -/
inductive Move (α : Type) where
  | producer (item : α)
  | consumer

/-- The item of a push that returned true. -/
def pushedBy : Option (α × Bool) → List α
  | some (item, true) => [item]
  | _ => []

/-- The value of a pop that returned true. -/
def poppedBy : Option (Option α) → List α
  | some (some out) => [out]
  | _ => []

namespace SpscState

def initial (buffer : Fin capacity.size → α) : SpscState α capacity where
  ring := ⟨0, 0, 0, 0, buffer⟩
  push := .idle
  pop := .idle
  pushed := []
  popped := []

def step (state : SpscState α capacity) : Move α → SpscState α capacity
  | .producer item =>
      let result := pushStep state.ring item state.push
      { state with
        ring := result.ring
        push := result.pc
        pushed := state.pushed ++ pushedBy result.returned }
  | .consumer =>
      let result := popStep state.ring state.pop
      { state with
        ring := result.ring
        pop := result.pc
        popped := state.popped ++ poppedBy result.returned }

/-- The state after a schedule. -/
def run (state : SpscState α capacity) (schedule : List (Move α)) : SpscState α capacity :=
  schedule.foldl step state

/-- {lit}`head - tail`. -/
def size (state : SpscState α capacity) : UInt64 :=
  state.ring.head - state.ring.tail

end SpscState

end Fgep.Core
