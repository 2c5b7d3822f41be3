import Mathlib

/-!
# Elements of a list by rank

An element has rank {lit}`r` in a list if at least {lit}`r` elements are at most it and
fewer than {lit}`r` are below it.  The rank says nothing about the order of the list; in a
sorted list it is the place, counted from one.

Main results:

- Theorem {lit}`ranked_of_sorted`: the element at a place of a sorted list.
- Theorem {lit}`Ranked.le_of_le`: higher ranks have larger elements.
- Theorem {lit}`Ranked.perm`: rearranging the list keeps ranks.
- Theorems {lit}`Ranked.le_of_one` and {lit}`Ranked.le_of_length`: the first rank is the
  minimum and the last the maximum.
-/

namespace OrderStatistics

variable {α : Type} [LE α] [LT α] [DecidableLE α] [DecidableLT α] {items : List α}
  {rank other : Nat} {value larger : α}

structure Ranked (items : List α) (rank : Nat) (value : α) : Prop where
  mem : value ∈ items
  rank_le : rank ≤ items.countP (· ≤ value)
  lt_rank : items.countP (· < value) < rank

theorem Ranked.perm {rearranged : List α} (hranked : Ranked items rank value)
    (hperm : items.Perm rearranged) : Ranked rearranged rank value where
  mem := hperm.mem_iff.mp hranked.mem
  rank_le := hperm.countP_eq _ ▸ hranked.rank_le
  lt_rank := hperm.countP_eq _ ▸ hranked.lt_rank

theorem Ranked.le_of_length (hranked : Ranked items items.length value) :
    ∀ item ∈ items, item ≤ value := by
  have hall : items.countP (· ≤ value) = items.length :=
    Nat.le_antisymm List.countP_le_length hranked.rank_le
  intro item hitem
  exact of_decide_eq_true (List.countP_eq_length.mp hall item hitem)

section LinearOrder

variable [Std.IsLinearOrder α] [Std.LawfulOrderLT α]

theorem Ranked.le_of_one (hranked : Ranked items 1 value) : ∀ item ∈ items, value ≤ item := by
  have hnone : items.countP (· < value) = 0 := Nat.lt_one_iff.mp hranked.lt_rank
  intro item hitem
  have hnot := List.countP_eq_zero.mp hnone item hitem
  rwa [decide_eq_true_eq, Std.not_lt] at hnot

theorem Ranked.le_of_le (hranked : Ranked items rank value)
    (hlarger : Ranked items other larger) (hle : rank ≤ other) : value ≤ larger := by
  by_contra hnot
  have hcount : items.countP (· ≤ larger) ≤ items.countP (· < value) := by
    apply List.countP_mono_left
    intro item _ hitem
    rw [decide_eq_true_eq] at hitem ⊢
    exact Std.lt_of_le_of_lt hitem (Std.not_le.mp hnot)
  have hlow := hranked.lt_rank
  have hhigh := hlarger.rank_le
  omega

/-- The element at a place of a sorted list has the rank of the place. -/
theorem ranked_of_sorted (hsorted : items.Pairwise (· ≤ ·)) {index : Nat}
    (hindex : index < items.length) : Ranked items (index + 1) items[index] := by
  have hsplit : items.take index ++ items[index] :: items.drop (index + 1) = items := by
    rw [List.getElem_cons_drop, List.take_append_drop]
  have hparts : (items.take index ++ items[index] :: items.drop (index + 1)).Pairwise (· ≤ ·) := by
    rw [hsplit]
    exact hsorted
  rw [List.pairwise_append, List.pairwise_cons] at hparts
  rcases hparts with ⟨-, ⟨hafter, -⟩, hbefore⟩
  have htake : (items.take index).length = index := List.length_take_of_le (Nat.le_of_lt hindex)
  have hcount : ∀ p : α → Bool, items.countP p =
      (items.take index).countP p + (items[index] :: items.drop (index + 1)).countP p := by
    intro p
    rw [← List.countP_append, hsplit]
  refine ⟨List.getElem_mem hindex, ?_, ?_⟩
  · -- Everything up to the place is at most the element there.
    have hall : (items.take index).countP (· ≤ items[index]) = index := by
      rw [List.countP_eq_length.mpr, htake]
      intro item hitem
      exact decide_eq_true (hbefore item hitem _ List.mem_cons_self)
    have hself : decide (items[index] ≤ items[index]) = true := decide_eq_true (Std.le_refl _)
    rw [hcount, hall, List.countP_cons, if_pos hself]
    omega
  · -- Nothing from the place on is below the element there.
    have hnone : (items[index] :: items.drop (index + 1)).countP (· < items[index]) = 0 := by
      rw [List.countP_eq_zero]
      intro item hitem
      rw [decide_eq_true_eq, Std.not_lt]
      rcases List.mem_cons.mp hitem with rfl | hlater
      · exact Std.le_refl _
      · exact hafter item hlater
    have hle : (items.take index).countP (· < items[index]) ≤ (items.take index).length :=
      List.countP_le_length
    rw [hcount, hnone]
    omega

end LinearOrder

end OrderStatistics
