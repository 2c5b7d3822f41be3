import Mathlib.Data.List.GetD
import Mathlib.Logic.Function.Basic

/-!
# Relaxed loads of cells

Some threads write cells, and a reader loads them with no order between different cells.
The memory keeps what stood in the cells at every moment.  A load of a cell returns what
stood there at some moment, which need not be the last one and need not be the moment of the
reader's other loads; it is only never older than the moment at which the reader knows this
very cell, from its last load of it or from before it began to read.

Main results:

- Theorem {lit}`Growing.store`: a memory whose cells only grow.
- Theorem {lit}`Growing.known_le_load`: then no load of a cell goes back.
- Theorem {lit}`Growing.known_le_now`: and none runs ahead.
-/

namespace RelaxedReads

variable {ι β : Type}

/-- What stood in the cells at every past moment, and what stands there now. -/
structure Memory (ι β : Type) where
  past : List (ι → β) := []
  now : ι → β

namespace Memory

/-- The cells are written; the moment before is past. -/
def store (memory : Memory ι β) (next : ι → β) : Memory ι β where
  past := memory.past ++ [memory.now]
  now := next

def valueAt (memory : Memory ι β) (moment : Nat) : ι → β :=
  memory.past.getD moment memory.now

/-- The moment that a load of a cell reads: any, but none older than the reader's view of
the cell. -/
def loadMoment (memory : Memory ι β) (view : ι → Nat) (cell : ι) (choice : Nat) : Nat :=
  max (view cell) (min choice memory.past.length)

/-- What the reader last saw in a cell. -/
def known (memory : Memory ι β) (view : ι → Nat) (cell : ι) : β :=
  memory.valueAt (view cell) cell

variable {memory : Memory ι β} {view : ι → Nat}

theorem valueAt_of_length_le {moment : Nat} (hmoment : memory.past.length ≤ moment) :
    memory.valueAt moment = memory.now :=
  List.getD_eq_default _ _ hmoment

theorem valueAt_store {moment : Nat} (hmoment : moment ≤ memory.past.length) (next : ι → β) :
    (memory.store next).valueAt moment = memory.valueAt moment := by
  unfold valueAt store
  dsimp only
  rcases Nat.eq_or_lt_of_le hmoment with rfl | hlt
  · rw [List.getD_append_right _ _ _ _ (Nat.le_refl _), Nat.sub_self,
      List.getD_eq_default _ _ (Nat.le_refl _)]
    rfl
  · rw [List.getD_append _ _ _ _ hlt, List.getD_eq_getElem _ _ hlt, List.getD_eq_getElem _ _ hlt]

theorem known_store {cell : ι} (hview : view cell ≤ memory.past.length) (next : ι → β) :
    (memory.store next).known view cell = memory.known view cell := by
  rw [known, valueAt_store hview]
  rfl

theorem loadMoment_le {cell : ι} (hview : view cell ≤ memory.past.length) (choice : Nat) :
    memory.loadMoment view cell choice ≤ memory.past.length :=
  Nat.max_le.mpr ⟨hview, Nat.min_le_right _ _⟩

/-- A load changes what the reader knows of its own cell only. -/
theorem known_update [DecidableEq ι] (cell : ι) (moment : Nat) :
    memory.known (Function.update view cell moment) =
      Function.update (memory.known view) cell (memory.valueAt moment cell) := by
  funext other
  by_cases hother : other = cell
  · subst hother
    rw [Function.update_self, known, Function.update_self]
  · rw [Function.update_of_ne hother, known, Function.update_of_ne hother]
    rfl

/-! ## Cells that grow -/

section Growing

variable [LE β]

def Growing (memory : Memory ι β) : Prop :=
  ∀ i j, i ≤ j → ∀ cell, memory.valueAt i cell ≤ memory.valueAt j cell

theorem growing_start [Std.IsPreorder β] (now : ι → β) : Growing { now := now } :=
  fun _ _ _ _ => Std.le_refl _

theorem Growing.store [Std.IsPreorder β] (hgrowing : memory.Growing) {next : ι → β}
    (hnext : ∀ cell, memory.now cell ≤ next cell) : (memory.store next).Growing := by
  have hlast : ∀ moment, memory.past.length < moment →
      (memory.store next).valueAt moment = next := by
    intro moment hmoment
    refine valueAt_of_length_le ?_
    rw [Memory.store, List.length_append]
    exact hmoment
  intro i j hle cell
  rcases Nat.lt_or_ge memory.past.length j with hj | hj
  · rw [hlast j hj]
    rcases Nat.lt_or_ge memory.past.length i with hi | hi
    · rw [hlast i hi]
      exact Std.le_refl _
    · rw [valueAt_store hi]
      refine Std.le_trans (hgrowing i memory.past.length hi cell) ?_
      rw [valueAt_of_length_le (Nat.le_refl _)]
      exact hnext cell
  · rw [valueAt_store hj, valueAt_store (Nat.le_trans hle hj)]
    exact hgrowing i j hle cell

theorem Growing.first_le_known (hgrowing : memory.Growing) (cell : ι) :
    memory.valueAt 0 cell ≤ memory.known view cell :=
  hgrowing 0 _ (Nat.zero_le _) cell

theorem Growing.known_le_load (hgrowing : memory.Growing) (cell : ι) (choice : Nat) :
    memory.known view cell ≤ memory.valueAt (memory.loadMoment view cell choice) cell :=
  hgrowing _ _ (Nat.le_max_left _ _) cell

theorem Growing.known_le_now (hgrowing : memory.Growing) {cell : ι}
    (hview : view cell ≤ memory.past.length) : memory.known view cell ≤ memory.now cell := by
  have hle := hgrowing _ _ hview cell
  rw [valueAt_of_length_le (Nat.le_refl _)] at hle
  exact hle

end Growing

end Memory

end RelaxedReads
