import Mathlib

/-!
# Exclusive ownership of resources

Owners hold at most one resource each.  Some resources in use belong to somebody else.  The
operations of owners that never copy a resource, acquire, release and transfer, keep three
facts: what an owner holds is in use, no two owners hold the same, and what is in use is held
or belongs to somebody else.

Main results:

- Theorems {lit}`Exclusive.acquire`, {lit}`Exclusive.release` and {lit}`Exclusive.transfer`:
  the operations keep ownership exclusive.
- Theorem {lit}`Exclusive.inUse_eq_foreign`: nothing is left when nobody holds anything.
-/

namespace Ownership

variable {ι ρ : Type} [DecidableEq ι] [DecidableEq ρ]

structure Holdings (ι ρ : Type) where
  holds : ι → Option ρ
  inUse : Finset ρ
  foreign : Finset ρ

namespace Holdings

def acquire (state : Holdings ι ρ) (i : ι) (r : ρ) : Holdings ι ρ :=
  { state with holds := Function.update state.holds i (some r), inUse := insert r state.inUse }

def release (state : Holdings ι ρ) (i : ι) : Holdings ι ρ :=
  match state.holds i with
  | none => state
  | some r =>
      { state with holds := Function.update state.holds i none, inUse := state.inUse.erase r }

def transfer (state : Holdings ι ρ) (source target : ι) : Holdings ι ρ :=
  { state with
    holds := Function.update (Function.update state.holds target (state.holds source)) source none }

theorem release_of_none {state : Holdings ι ρ} {i : ι} (hnone : state.holds i = none) :
    state.release i = state := by
  rw [release, hnone]

theorem release_of_some {state : Holdings ι ρ} {i : ι} {r : ρ} (hsome : state.holds i = some r) :
    state.release i =
      { state with
        holds := Function.update state.holds i none, inUse := state.inUse.erase r } := by
  rw [release, hsome]

omit [DecidableEq ρ] in
theorem transfer_holds (state : Holdings ι ρ) (source target : ι) :
    (state.transfer source target).holds =
      Function.update (Function.update state.holds target (state.holds source)) source none :=
  rfl

/-- Somebody else takes a resource into use. -/
def borrow (state : Holdings ι ρ) (r : ρ) : Holdings ι ρ :=
  { state with inUse := insert r state.inUse, foreign := insert r state.foreign }

/-- Somebody else gives a resource back. -/
def giveBack (state : Holdings ι ρ) (r : ρ) : Holdings ι ρ :=
  { state with inUse := state.inUse.erase r, foreign := state.foreign.erase r }

end Holdings

structure Exclusive (state : Holdings ι ρ) : Prop where
  inUse : ∀ i r, state.holds i = some r → r ∈ state.inUse
  notForeign : ∀ i r, state.holds i = some r → r ∉ state.foreign
  unique : ∀ i j r, state.holds i = some r → state.holds j = some r → i = j
  accounted : ∀ r ∈ state.inUse, r ∈ state.foreign ∨ ∃ i, state.holds i = some r
  foreign : state.foreign ⊆ state.inUse

namespace Exclusive

variable {state : Holdings ι ρ} {i : ι} {r : ρ}

theorem acquire (hexclusive : Exclusive state) (hnone : state.holds i = none)
    (hfresh : r ∉ state.inUse) : Exclusive (state.acquire i r) := by
  -- An owner of the new state is the new one or was one before.
  have hcases : ∀ j s, (state.acquire i r).holds j = some s →
      (j = i ∧ s = r) ∨ (j ≠ i ∧ state.holds j = some s) := by
    intro j s hj
    change Function.update state.holds i (some r) j = some s at hj
    by_cases hji : j = i
    · subst hji
      rw [Function.update_self] at hj
      exact Or.inl ⟨rfl, (Option.some.inj hj).symm⟩
    · rw [Function.update_of_ne hji] at hj
      exact Or.inr ⟨hji, hj⟩
  constructor
  · intro j s hj
    rcases hcases j s hj with ⟨-, rfl⟩ | ⟨-, hj⟩
    · exact Finset.mem_insert_self _ _
    · exact Finset.mem_insert_of_mem (hexclusive.inUse j s hj)
  · intro j s hj
    rcases hcases j s hj with ⟨-, rfl⟩ | ⟨-, hj⟩
    · exact fun hforeign => hfresh (hexclusive.foreign hforeign)
    · exact hexclusive.notForeign j s hj
  · intro j k s hj hk
    rcases hcases j s hj with ⟨hji, hsr⟩ | ⟨-, hjOld⟩ <;>
      rcases hcases k s hk with ⟨hki, hsr'⟩ | ⟨-, hkOld⟩
    · exact hji.trans hki.symm
    · exact absurd (hsr ▸ hexclusive.inUse k s hkOld) hfresh
    · exact absurd (hsr' ▸ hexclusive.inUse j s hjOld) hfresh
    · exact hexclusive.unique j k s hjOld hkOld
  · intro s hs
    rcases Finset.mem_insert.mp hs with rfl | hs
    · exact Or.inr ⟨i, Function.update_self _ _ _⟩
    · rcases hexclusive.accounted s hs with hforeign | ⟨j, hj⟩
      · exact Or.inl hforeign
      · refine Or.inr ⟨j, ?_⟩
        have hji : j ≠ i := by
          rintro rfl
          rw [hnone] at hj
          cases hj
        exact (Function.update_of_ne hji _ _).trans hj
  · exact hexclusive.foreign.trans (Finset.subset_insert _ _)

theorem release (hexclusive : Exclusive state) (i : ι) : Exclusive (state.release i) := by
  cases hi : state.holds i with
  | none => exact (Holdings.release_of_none hi).symm ▸ hexclusive
  | some r =>
      rw [Holdings.release_of_some hi]
      have hcases : ∀ j s, Function.update state.holds i none j = some s →
          j ≠ i ∧ state.holds j = some s := by
        intro j s hj
        by_cases hji : j = i
        · subst hji
          rw [Function.update_self] at hj
          cases hj
        · rw [Function.update_of_ne hji] at hj
          exact ⟨hji, hj⟩
      constructor
      · intro j s hj
        rcases hcases j s hj with ⟨hji, hjOld⟩
        refine Finset.mem_erase.mpr ⟨?_, hexclusive.inUse j s hjOld⟩
        intro hsr
        exact hji (hexclusive.unique j i s hjOld (hsr ▸ hi))
      · intro j s hj
        exact hexclusive.notForeign j s (hcases j s hj).2
      · intro j k s hj hk
        exact hexclusive.unique j k s (hcases j s hj).2 (hcases k s hk).2
      · intro s hs
        rcases Finset.mem_erase.mp hs with ⟨hsr, hs⟩
        rcases hexclusive.accounted s hs with hforeign | ⟨j, hj⟩
        · exact Or.inl hforeign
        · refine Or.inr ⟨j, ?_⟩
          have hji : j ≠ i := by
            rintro rfl
            rw [hi] at hj
            exact hsr (Option.some.inj hj).symm
          exact (Function.update_of_ne hji _ _).trans hj
      · intro s hs
        refine Finset.mem_erase.mpr ⟨?_, hexclusive.foreign hs⟩
        rintro rfl
        exact hexclusive.notForeign i s hi hs

omit [DecidableEq ρ] in
theorem transfer (hexclusive : Exclusive state) {source target : ι} (hne : source ≠ target)
    (hnone : state.holds target = none) : Exclusive (state.transfer source target) := by
  -- Whoever holds something holds it in place of one owner of the old state.
  have hcases : ∀ j s, (state.transfer source target).holds j = some s →
      (j = target ∧ state.holds source = some s) ∨
        (j ≠ source ∧ j ≠ target ∧ state.holds j = some s) := by
    intro j s hj
    rw [Holdings.transfer_holds] at hj
    by_cases hsource : j = source
    · subst hsource
      rw [Function.update_self] at hj
      cases hj
    rw [Function.update_of_ne hsource] at hj
    by_cases htarget : j = target
    · subst htarget
      rw [Function.update_self] at hj
      exact Or.inl ⟨rfl, hj⟩
    · rw [Function.update_of_ne htarget] at hj
      exact Or.inr ⟨hsource, htarget, hj⟩
  have hbefore : ∀ j s, (state.transfer source target).holds j = some s →
      ∃ k, state.holds k = some s := by
    intro j s hj
    rcases hcases j s hj with ⟨-, hj⟩ | ⟨-, -, hj⟩
    · exact ⟨source, hj⟩
    · exact ⟨j, hj⟩
  constructor
  · intro j s hj
    rcases hbefore j s hj with ⟨k, hk⟩
    exact hexclusive.inUse k s hk
  · intro j s hj
    rcases hbefore j s hj with ⟨k, hk⟩
    exact hexclusive.notForeign k s hk
  · intro j k s hj hk
    rcases hcases j s hj with ⟨hjt, hjOld⟩ | ⟨hjs, -, hjOld⟩ <;>
      rcases hcases k s hk with ⟨hkt, hkOld⟩ | ⟨hks, -, hkOld⟩
    · exact hjt.trans hkt.symm
    · exact absurd (hexclusive.unique k source s hkOld hjOld) hks
    · exact absurd (hexclusive.unique j source s hjOld hkOld) hjs
    · exact hexclusive.unique j k s hjOld hkOld
  · intro s hs
    rcases hexclusive.accounted s hs with hforeign | ⟨j, hj⟩
    · exact Or.inl hforeign
    right
    by_cases hjs : j = source
    · subst hjs
      refine ⟨target, ?_⟩
      rw [Holdings.transfer_holds, Function.update_of_ne hne.symm, Function.update_self]
      exact hj
    · have hjt : j ≠ target := by
        rintro rfl
        rw [hnone] at hj
        cases hj
      refine ⟨j, ?_⟩
      rw [Holdings.transfer_holds, Function.update_of_ne hjs, Function.update_of_ne hjt]
      exact hj
  · exact hexclusive.foreign

omit [DecidableEq ι] in
theorem borrow (hexclusive : Exclusive state) (hfresh : r ∉ state.inUse) :
    Exclusive (state.borrow r) where
  inUse j s hj := Finset.mem_insert_of_mem (hexclusive.inUse j s hj)
  notForeign j s hj hs := by
    rcases Finset.mem_insert.mp hs with rfl | hs
    · exact hfresh (hexclusive.inUse j s hj)
    · exact hexclusive.notForeign j s hj hs
  unique := hexclusive.unique
  accounted s hs := by
    rcases Finset.mem_insert.mp hs with rfl | hs
    · exact Or.inl (Finset.mem_insert_self _ _)
    · exact (hexclusive.accounted s hs).imp_left Finset.mem_insert_of_mem
  foreign := Finset.insert_subset_insert r hexclusive.foreign

omit [DecidableEq ι] in
theorem giveBack (hexclusive : Exclusive state) (hforeign : r ∈ state.foreign) :
    Exclusive (state.giveBack r) where
  inUse j s hj := by
    refine Finset.mem_erase.mpr ⟨?_, hexclusive.inUse j s hj⟩
    rintro rfl
    exact hexclusive.notForeign j s hj hforeign
  notForeign j s hj hs := hexclusive.notForeign j s hj (Finset.mem_of_mem_erase hs)
  unique := hexclusive.unique
  accounted s hs := by
    rcases Finset.mem_erase.mp hs with ⟨hsr, hs⟩
    exact (hexclusive.accounted s hs).imp_left
      (fun hmem => Finset.mem_erase.mpr ⟨hsr, hmem⟩)
  foreign := Finset.erase_subset_erase r hexclusive.foreign

omit [DecidableEq ι] [DecidableEq ρ] in
theorem inUse_eq_foreign (hexclusive : Exclusive state) (hnone : ∀ i, state.holds i = none) :
    state.inUse = state.foreign := by
  apply Finset.Subset.antisymm _ hexclusive.foreign
  intro s hs
  rcases hexclusive.accounted s hs with hforeign | ⟨j, hj⟩
  · exact hforeign
  · rw [hnone j] at hj
    cases hj

end Exclusive

end Ownership
