import Mathlib
import GatedExecution.Lib.Runs
import GatedExecution.Lib.WrappingCounter

/-!
# Guards that count heap allocations

A guard notes the counters of its thread when it is made and shows what they have gained
since.  The counters are thread-local and advance only while the thread's depth is not
zero.  Threads make, destroy and query guards and allocate in any order; if every guard is
destroyed by the thread that made it, a guard shows the allocations of its own thread since
it was made, all of them and nothing else.  The guards of a thread need not be nested.

Main results:

- Theorem {lit}`Watched.step_inv`: what one operation of any thread preserves.
- Theorem {lit}`guard_shows_own_allocations`: what every living guard shows, after any run.
-/

namespace Fgep.Runtime

open Runs WrappingCounter

/-! ## The counters -/

/-- The {lit}`thread_local` variables of one thread. -/
structure ThreadLocals where
  guardDepth : UInt64 := 0
  allocationCount : UInt64 := 0
  allocationBytes : UInt64 := 0

structure NoHeapGuard where
  startCount : UInt64
  startBytes : UInt64

section Functions

-- Whether the build defines {lit}`FGEP_ENABLE_RUNTIME_NO_HEAP_TESTS`.
variable (enabled : Bool)

def noHeapGuardActive (locals : ThreadLocals) : Bool :=
  enabled && locals.guardDepth != 0

def noHeapAllocationCount (locals : ThreadLocals) : UInt64 :=
  if enabled then locals.allocationCount else 0

def noHeapAllocationBytes (locals : ThreadLocals) : UInt64 :=
  if enabled then locals.allocationBytes else 0

def enterNoHeapGuard (locals : ThreadLocals) : ThreadLocals :=
  if enabled then { locals with guardDepth := locals.guardDepth + 1 } else locals

def leaveNoHeapGuard (locals : ThreadLocals) : ThreadLocals :=
  if enabled then
    if locals.guardDepth ≠ 0 then { locals with guardDepth := locals.guardDepth - 1 } else locals
  else locals

def recordHeapAllocation (locals : ThreadLocals) (size : UInt64) : ThreadLocals :=
  if enabled then
    if locals.guardDepth ≠ 0 then
      { locals with
        allocationCount := locals.allocationCount + 1
        allocationBytes := locals.allocationBytes + size }
    else locals
  else locals

def normalizedAllocationSize (size : UInt64) : UInt64 :=
  if size = 0 then 1 else size

namespace NoHeapGuard

/-- The members that the constructor initializes, before it enters. -/
def new (locals : ThreadLocals) : NoHeapGuard where
  startCount := noHeapAllocationCount enabled locals
  startBytes := noHeapAllocationBytes enabled locals

def allocationCount (guard : NoHeapGuard) (locals : ThreadLocals) : UInt64 :=
  noHeapAllocationCount enabled locals - guard.startCount

def allocationBytes (guard : NoHeapGuard) (locals : ThreadLocals) : UInt64 :=
  noHeapAllocationBytes enabled locals - guard.startBytes

def observedAllocation (guard : NoHeapGuard) (locals : ThreadLocals) : Bool :=
  guard.allocationCount enabled locals != 0

end NoHeapGuard

end Functions

/-! ## Threads and guards -/

/-- What a thread does.  Every replaced {lit}`operator new` records its size before it asks
for memory, so an allocation that fails counts as well. -/
inductive HeapOp (Thread Guard : Type) where
  | construct (thread : Thread) (guard : Guard)
  | destroy (thread : Thread) (guard : Guard)
  | allocate (thread : Thread) (size : UInt64)

namespace HeapOp

variable {Thread Guard : Type}

def thread : HeapOp Thread Guard → Thread
  | construct thread _ => thread
  | destroy thread _ => thread
  | allocate thread _ => thread

/-- What it does to the variables of its thread. -/
def onLocals (enabled : Bool) : HeapOp Thread Guard → ThreadLocals → ThreadLocals
  | construct _ _, locals => enterNoHeapGuard enabled locals
  | destroy _ _, locals => leaveNoHeapGuard enabled locals
  | allocate _ size, locals =>
      recordHeapAllocation enabled locals (normalizedAllocationSize size)

end HeapOp

structure Process (Thread Guard : Type) where
  locals : Thread → ThreadLocals := fun _ => {}
  guards : Guard → Option NoHeapGuard := fun _ => none

variable {Thread Guard : Type} [DecidableEq Thread] [DecidableEq Guard]

namespace Process

def step (enabled : Bool) (process : Process Thread Guard) (op : HeapOp Thread Guard) :
    Process Thread Guard where
  locals := Function.update process.locals op.thread
    (op.onLocals enabled (process.locals op.thread))
  guards :=
    match op with
    | .construct thread guard =>
        Function.update process.guards guard
          (some (NoHeapGuard.new enabled (process.locals thread)))
    | .destroy _ guard => Function.update process.guards guard none
    | .allocate _ _ => process.guards

variable {enabled : Bool} {process : Process Thread Guard} {op : HeapOp Thread Guard}

/-- An operation leaves the variables of other threads alone. -/
theorem locals_step (other : Thread) :
    (process.step enabled op).locals other =
      if other = op.thread then op.onLocals enabled (process.locals other)
      else process.locals other := by
  change Function.update process.locals op.thread _ other = _
  rw [Function.update_apply]
  split
  · rename_i heq
    rw [heq]
  · rfl

end Process

/-- The process with a ledger: the living guards under the thread that made them, and what
that thread has allocated since. -/
structure Watched (Thread Guard : Type) where
  process : Process Thread Guard := {}
  living : List (Thread × Guard) := []
  since : Thread → Guard → List UInt64 := fun _ _ => []

namespace Watched

def step (enabled : Bool) (state : Watched Thread Guard) (op : HeapOp Thread Guard) :
    Watched Thread Guard where
  process := state.process.step enabled op
  living :=
    match op with
    | .construct thread guard => (thread, guard) :: state.living
    | .destroy thread guard => state.living.erase (thread, guard)
    | .allocate _ _ => state.living
  since := fun thread guard =>
    match op with
    | .construct _ made => if made = guard then [] else state.since thread guard
    | .destroy _ _ => state.since thread guard
    | .allocate allocator size =>
        if allocator = thread then state.since thread guard ++ [normalizedAllocationSize size]
        else state.since thread guard

/-- A guard is made once and destroyed by its own thread; fewer than all numbers are alive. -/
def confined (state : Watched Thread Guard) : HeapOp Thread Guard → Bool
  | .construct _ guard =>
      !(state.living.map Prod.snd).contains guard && decide (state.living.length + 1 < 2 ^ 64)
  | .destroy thread guard => state.living.contains (thread, guard)
  | .allocate _ _ => true

end Watched

/-! ## What a guard shows -/

/-- The number and the bytes of the allocations {lit}`sizes`, in a build that counts. -/
structure NoHeapGuard.Shows (enabled : Bool) (guard : NoHeapGuard) (locals : ThreadLocals)
    (sizes : List UInt64) : Prop where
  count : guard.allocationCount enabled locals =
    if enabled then UInt64.ofNat sizes.length else 0
  bytes : guard.allocationBytes enabled locals =
    if enabled then UInt64.ofNat (sizes.map UInt64.toNat).sum else 0

section Shows

variable {enabled : Bool} {guard : NoHeapGuard} {locals : ThreadLocals} {sizes : List UInt64}

theorem NoHeapGuard.shows_new (enabled : Bool) (locals : ThreadLocals) :
    (NoHeapGuard.new enabled locals).Shows enabled (enterNoHeapGuard enabled locals) [] := by
  cases enabled with
  | false => exact ⟨UInt64.sub_self _, UInt64.sub_self _⟩
  | true => exact ⟨UInt64.sub_self _, UInt64.sub_self _⟩

theorem NoHeapGuard.Shows.enter (hshows : guard.Shows enabled locals sizes) :
    guard.Shows enabled (enterNoHeapGuard enabled locals) sizes := by
  cases enabled with
  | false => exact hshows
  | true => exact ⟨hshows.count, hshows.bytes⟩

theorem NoHeapGuard.Shows.leave (hshows : guard.Shows enabled locals sizes) :
    guard.Shows enabled (leaveNoHeapGuard enabled locals) sizes := by
  cases enabled with
  | false => exact hshows
  | true =>
      rw [leaveNoHeapGuard, if_pos rfl]
      split
      · exact ⟨hshows.count, hshows.bytes⟩
      · exact hshows

theorem NoHeapGuard.Shows.record (hshows : guard.Shows enabled locals sizes)
    (hactive : enabled = true → locals.guardDepth ≠ 0) (size : UInt64) :
    guard.Shows enabled (recordHeapAllocation enabled locals size) (sizes ++ [size]) := by
  cases enabled with
  | false => exact ⟨hshows.count, hshows.bytes⟩
  | true =>
      have hcount : locals.allocationCount - guard.startCount = UInt64.ofNat sizes.length :=
        hshows.count
      have hbytes : locals.allocationBytes - guard.startBytes =
          UInt64.ofNat (sizes.map UInt64.toNat).sum := hshows.bytes
      rw [recordHeapAllocation, if_pos rfl, if_pos (hactive rfl)]
      constructor
      · change locals.allocationCount + 1 - guard.startCount = UInt64.ofNat _
        rw [List.length_append, List.length_singleton, ← ofNat_add_one, ← hcount]
        grind
      · change locals.allocationBytes + size - guard.startBytes = UInt64.ofNat _
        rw [List.map_append, List.sum_append, List.map_singleton, List.sum_singleton,
          UInt64.ofNat_add, UInt64.ofNat_toNat, ← hbytes]
        grind

end Shows

namespace Watched

structure WatchInv (enabled : Bool) (state : Watched Thread Guard) : Prop where
  bounded : state.living.length < 2 ^ 64
  unique : (state.living.map Prod.snd).Nodup
  depth : enabled = true → ∀ thread, (state.process.locals thread).guardDepth.toNat =
    state.living.countP (fun entry => entry.1 = thread)
  shown : ∀ thread guard, (thread, guard) ∈ state.living →
    ∃ made, state.process.guards guard = some made ∧
      made.Shows enabled (state.process.locals thread) (state.since thread guard)

section Steps

variable {enabled : Bool} {state : Watched Thread Guard}

omit [DecidableEq Guard] in
/-- A thread with a living guard counts its allocations. -/
theorem WatchInv.active (hinv : WatchInv enabled state) {thread : Thread} {guard : Guard}
    (hmem : (thread, guard) ∈ state.living) (henabled : enabled = true) :
    (state.process.locals thread).guardDepth ≠ 0 := by
  intro hzero
  have hdepth := hinv.depth henabled thread
  have hpos : 0 < state.living.countP (fun entry => entry.1 = thread) :=
    List.countP_pos_iff.mpr ⟨_, hmem, decide_eq_true rfl⟩
  rw [hzero] at hdepth
  exact Nat.ne_of_gt hpos hdepth.symm

omit [DecidableEq Thread] [DecidableEq Guard] in
theorem mem_guards {living : List (Thread × Guard)} {thread : Thread} {guard : Guard}
    (hmem : (thread, guard) ∈ living) : guard ∈ living.map Prod.snd :=
  List.mem_map.mpr ⟨_, hmem, rfl⟩

/-- A guard that an operation leaves alive. -/
theorem shows_step {guard : NoHeapGuard} {other : Thread} {sizes after : List UInt64}
    {op : HeapOp Thread Guard} (hshows : guard.Shows enabled (state.process.locals other) sizes)
    (hown : other = op.thread →
      guard.Shows enabled (op.onLocals enabled (state.process.locals other)) after)
    (hother : other ≠ op.thread → after = sizes) :
    guard.Shows enabled ((state.step enabled op).process.locals other) after := by
  change guard.Shows enabled ((state.process.step enabled op).locals other) after
  rw [Process.locals_step]
  split
  · rename_i heq
    exact hown heq
  · rename_i hne
    rw [hother hne]
    exact hshows

theorem construct_inv (hinv : WatchInv enabled state) {thread : Thread} {guard : Guard}
    (hconfined : state.confined (.construct thread guard) = true) :
    WatchInv enabled (state.step enabled (.construct thread guard)) := by
  rw [confined, Bool.and_eq_true, Bool.not_eq_true', decide_eq_true_eq] at hconfined
  obtain ⟨hcontains, hroom⟩ := hconfined
  have hfresh : guard ∉ state.living.map Prod.snd := by
    intro hmem
    rw [List.contains_iff_mem.mpr hmem] at hcontains
    cases hcontains
  refine ⟨hroom, List.nodup_cons.mpr ⟨hfresh, hinv.unique⟩, ?_, ?_⟩
  · intro henabled other
    have hdepth := hinv.depth henabled other
    have hle : state.living.countP (fun entry => entry.1 = other) ≤ state.living.length :=
      List.countP_le_length
    change ((state.process.step enabled (.construct thread guard)).locals other).guardDepth.toNat =
      ((thread, guard) :: state.living).countP _
    rw [Process.locals_step, HeapOp.thread, List.countP_cons]
    by_cases hother : other = thread
    · have hlt : (state.process.locals other).guardDepth.toNat + 1 < 2 ^ 64 := by omega
      rw [if_pos hother, if_pos (decide_eq_true hother.symm), ← hdepth, HeapOp.onLocals,
        enterNoHeapGuard, if_pos henabled]
      exact (UInt64.toNat_add _ _).trans (Nat.mod_eq_of_lt hlt)
    · rw [if_neg hother, hdepth]
      simp [Ne.symm hother]
  · intro other held hmem
    rcases List.mem_cons.mp hmem with heq | hliving
    · cases heq
      refine ⟨_, Function.update_self .., ?_⟩
      change NoHeapGuard.Shows enabled _ ((state.process.step enabled _).locals _)
        (if guard = guard then [] else _)
      rw [Process.locals_step, HeapOp.thread, if_pos rfl, if_pos rfl]
      exact NoHeapGuard.shows_new _ _
    · have hne : held ≠ guard := fun heq => hfresh (heq ▸ mem_guards hliving)
      obtain ⟨made, hmade, hshows⟩ := hinv.shown other held hliving
      refine ⟨made, (Function.update_of_ne hne ..).trans hmade, ?_⟩
      have hsince : (state.step enabled (.construct thread guard)).since other held =
          state.since other held := if_neg hne.symm
      rw [hsince]
      exact shows_step hshows (fun _ => hshows.enter) (fun _ => rfl)

theorem destroy_inv (hinv : WatchInv enabled state) {thread : Thread} {guard : Guard}
    (hconfined : state.confined (.destroy thread guard) = true) :
    WatchInv enabled (state.step enabled (.destroy thread guard)) := by
  have hmem : (thread, guard) ∈ state.living := List.contains_iff_mem.mp hconfined
  have hsub : (state.living.erase (thread, guard)).Sublist state.living := List.erase_sublist
  have hgone : guard ∉ (state.living.erase (thread, guard)).map Prod.snd := by
    have hnodup := ((List.perm_cons_erase hmem).map Prod.snd).nodup_iff.mp hinv.unique
    exact (List.nodup_cons.mp hnodup).1
  refine ⟨Nat.lt_of_le_of_lt hsub.length_le hinv.bounded,
    (hsub.map Prod.snd).nodup hinv.unique, ?_, ?_⟩
  · intro henabled other
    have hdepth := hinv.depth henabled other
    change ((state.process.step enabled (.destroy thread guard)).locals other).guardDepth.toNat =
      (state.living.erase (thread, guard)).countP _
    rw [Process.locals_step, HeapOp.thread, List.countP_erase]
    by_cases hother : other = thread
    · have hactive : (state.process.locals other).guardDepth ≠ 0 :=
        hother ▸ hinv.active hmem henabled
      rw [if_pos hother, ← hdepth, HeapOp.onLocals, leaveNoHeapGuard, if_pos henabled,
        if_pos hactive, if_pos ⟨hmem, decide_eq_true hother.symm⟩]
      refine UInt64.toNat_sub_of_le _ _ (UInt64.le_iff_toNat_le.mpr (Nat.one_le_iff_ne_zero.mpr ?_))
      exact fun hzero => hactive (UInt64.toNat_inj.mp hzero)
    · rw [if_neg hother, hdepth]
      simp [Ne.symm hother]
  · intro other held hliving
    change (other, held) ∈ state.living.erase (thread, guard) at hliving
    have hne : held ≠ guard := by
      rintro rfl
      exact hgone (mem_guards hliving)
    obtain ⟨made, hmade, hshows⟩ := hinv.shown other held (hsub.subset hliving)
    refine ⟨made, (Function.update_of_ne hne ..).trans hmade, ?_⟩
    exact shows_step hshows (fun _ => hshows.leave) (fun _ => rfl)

theorem allocate_inv (hinv : WatchInv enabled state) (thread : Thread) (size : UInt64) :
    WatchInv enabled (state.step enabled (.allocate thread size)) := by
  refine ⟨hinv.bounded, hinv.unique, ?_, ?_⟩
  · intro henabled other
    refine Eq.trans ?_ (hinv.depth henabled other)
    change ((state.process.step enabled (.allocate thread size)).locals other).guardDepth.toNat = _
    rw [Process.locals_step]
    split
    · rw [HeapOp.onLocals, recordHeapAllocation, if_pos henabled]
      split <;> rfl
    · rfl
  · intro other held hliving
    obtain ⟨made, hmade, hshows⟩ := hinv.shown other held hliving
    refine ⟨made, hmade, shows_step hshows ?_ ?_⟩
    · intro hother
      have hsince : (state.step enabled (.allocate thread size)).since other held =
          state.since other held ++ [normalizedAllocationSize size] := if_pos hother.symm
      rw [hsince]
      exact hshows.record (hinv.active hliving) _
    · intro hother
      exact if_neg (Ne.symm hother)

theorem step_inv (hinv : WatchInv enabled state) {op : HeapOp Thread Guard}
    (hconfined : state.confined op = true) : WatchInv enabled (state.step enabled op) := by
  cases op with
  | construct thread guard => exact construct_inv hinv hconfined
  | destroy thread guard => exact destroy_inv hinv hconfined
  | allocate thread size => exact allocate_inv hinv thread size

end Steps

def run (enabled : Bool) (ops : List (HeapOp Thread Guard)) : Watched Thread Guard :=
  ops.foldl (step enabled) {}

/-- Every operation of the run is confined. -/
def Confined (enabled : Bool) (ops : List (HeapOp Thread Guard)) : Prop :=
  ∀ passed ∈ runOutputs (step enabled) confined {} ops, passed = true

instance (enabled : Bool) (ops : List (HeapOp Thread Guard)) : Decidable (Confined enabled ops) :=
  inferInstanceAs (Decidable (∀ passed ∈ _, passed = true))

theorem run_inv {enabled : Bool} {ops : List (HeapOp Thread Guard)}
    (hconfined : Confined enabled ops) : WatchInv enabled (run enabled ops) := by
  have hstep : ∀ (state : Watched Thread Guard) (op : HeapOp Thread Guard),
      state.confined op = true → WatchInv enabled state →
        WatchInv enabled (state.step enabled op) :=
    fun _ _ hpassed hinv => step_inv hinv hpassed
  refine foldl_invariant_checked hstep hconfined ?_
  exact ⟨Nat.two_pow_pos 64, List.nodup_nil, fun _ _ => rfl, fun _ _ hmem => by cases hmem⟩

/-- The ledger only watches. -/
theorem process_run (enabled : Bool) (ops : List (HeapOp Thread Guard)) :
    (run enabled ops).process = ops.foldl (Process.step enabled) {} := by
  rw [run]
  exact List.foldl_hom process (fun _ _ => rfl) |>.symm

end Watched

/-- After any confined run, a thread is guarded exactly while it has a living guard, and a
living guard shows the number and the bytes of what its thread allocated since it was made. -/
theorem guard_shows_own_allocations (enabled : Bool) (ops : List (HeapOp Thread Guard))
    (hconfined : Watched.Confined enabled ops) :
    let process := ops.foldl (Process.step enabled) {}
    let ledger := Watched.run enabled ops
    (∀ thread, noHeapGuardActive enabled (process.locals thread) =
      (enabled && ledger.living.any (fun entry => entry.1 = thread))) ∧
    ∀ thread guard, (thread, guard) ∈ ledger.living →
      let sizes := ledger.since thread guard
      ∃ made, process.guards guard = some made ∧
        made.allocationCount enabled (process.locals thread) =
          (if enabled then UInt64.ofNat sizes.length else 0) ∧
        made.allocationBytes enabled (process.locals thread) =
          (if enabled then UInt64.ofNat (sizes.map UInt64.toNat).sum else 0) ∧
        (sizes.length < 2 ^ 64 → (made.observedAllocation enabled (process.locals thread) = true ↔
          enabled = true ∧ sizes ≠ [])) := by
  intro process ledger
  have hinv : Watched.WatchInv enabled ledger := Watched.run_inv hconfined
  have hprocess : ledger.process = process := Watched.process_run enabled ops
  have hdepth := hinv.depth
  have hshown := hinv.shown
  rw [hprocess] at hdepth hshown
  refine ⟨?_, ?_⟩
  · intro thread
    cases enabled with
    | false => rfl
    | true =>
        have hiff : (process.locals thread).guardDepth ≠ 0 ↔
            ledger.living.any (fun entry => entry.1 = thread) = true := by
          rw [Ne, ← UInt64.toNat_inj, hdepth rfl thread, List.any_eq_true]
          exact (Nat.pos_iff_ne_zero.symm).trans List.countP_pos_iff
        rw [noHeapGuardActive, Bool.true_and, Bool.true_and, Bool.eq_iff_iff, bne_iff_ne]
        exact hiff
  · intro thread guard hmem sizes
    obtain ⟨made, hmade, hcount, hbytes⟩ := hshown thread guard hmem
    refine ⟨made, hmade, hcount, hbytes, fun hfits => ?_⟩
    rw [NoHeapGuard.observedAllocation, hcount, bne_iff_ne]
    cases enabled with
    | false => simp
    | true =>
        have hzero : UInt64.ofNat sizes.length = 0 ↔ sizes = [] := by
          rw [← UInt64.toNat_inj, UInt64.toNat_ofNat_of_lt' hfits]
          exact List.length_eq_zero_iff
        rw [if_pos rfl, Ne, hzero]
        simp

/-- Two threads, with guards that are not nested. -/
theorem guard_shows_own_allocations_two_threads :
    let ops : List (HeapOp Bool Nat) := [.construct false 0, .construct true 1,
      .allocate false 8, .allocate true 0, .construct false 2, .destroy false 0,
      .allocate false 16]
    let process := ops.foldl (Process.step true) {}
    ∃ made, process.guards 2 = some made ∧
      made.allocationCount true (process.locals false) = 1 ∧
      made.allocationBytes true (process.locals false) = 16 := by
  intro ops process
  obtain ⟨made, hmade, hcount, hbytes, -⟩ :=
    (guard_shows_own_allocations true ops (by decide +kernel)).2 false 2 (by decide +kernel)
  exact ⟨made, hmade, hcount, hbytes⟩

/-- A guard destroyed by another thread leaves its own thread counting, and takes a level
from the other, whose guard then misses an allocation. -/
example :
    let ops : List (HeapOp Bool Nat) := [.construct false 0, .construct true 1,
      .destroy true 0, .allocate true 8]
    let process := ops.foldl (Process.step true) {}
    (process.guards 1).map (fun made => made.allocationCount true (process.locals true)) =
      some 0 := by
  decide +kernel

end Fgep.Runtime
