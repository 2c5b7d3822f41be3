import Mathlib

/-!
# Sums over groups of items

A list of items, each with a group and a weight.  The members of a group, their
number and their total weight do not depend on the order of the list, and one
item contributes to its own group only.

Main results:

- Theorems {lit}`groupTotal_cons` and {lit}`groupCount_cons`: what one item adds.
- Theorem {lit}`groupCount_le_groupTotal`: positive weights bound the count.
-/

namespace GroupedSums

variable {ι γ : Type} [DecidableEq γ] (group : ι → γ) (weight : ι → Nat)

/-- Items of one group, in list order. -/
def groupMembers (g : γ) (items : List ι) : List ι :=
  items.filter (fun item => group item = g)

/-- Total weight of one group. -/
def groupTotal (g : γ) (items : List ι) : Nat :=
  ((groupMembers group g items).map weight).sum

/-- Number of items of one group. -/
def groupCount (g : γ) (items : List ι) : Nat :=
  (groupMembers group g items).length

@[simp] theorem groupTotal_nil (g : γ) : groupTotal group weight g [] = 0 := rfl

@[simp] theorem groupCount_nil (g : γ) : groupCount group g [] = 0 := rfl

theorem groupTotal_cons (g : γ) (item : ι) (items : List ι) :
    groupTotal group weight g (item :: items) =
      (if group item = g then weight item else 0) + groupTotal group weight g items := by
  unfold groupTotal groupMembers
  by_cases hgroup : group item = g
  · simp [hgroup]
  · simp [hgroup]

theorem groupCount_cons (g : γ) (item : ι) (items : List ι) :
    groupCount group g (item :: items) =
      (if group item = g then 1 else 0) + groupCount group g items := by
  unfold groupCount groupMembers
  by_cases hgroup : group item = g
  · simp [hgroup, Nat.add_comm]
  · simp [hgroup]

variable {group weight}

theorem groupMembers_perm {items items' : List ι} (hperm : items.Perm items') (g : γ) :
    (groupMembers group g items).Perm (groupMembers group g items') :=
  hperm.filter _

theorem groupTotal_perm {items items' : List ι} (hperm : items.Perm items') (g : γ) :
    groupTotal group weight g items = groupTotal group weight g items' :=
  ((groupMembers_perm hperm g).map weight).sum_eq

theorem groupCount_perm {items items' : List ι} (hperm : items.Perm items') (g : γ) :
    groupCount group g items = groupCount group g items' :=
  (groupMembers_perm hperm g).length_eq

theorem groupCount_pos_iff {g : γ} {items : List ι} :
    0 < groupCount group g items ↔ ∃ item ∈ items, group item = g := by
  rw [groupCount, List.length_pos_iff_exists_mem]
  simp [groupMembers]

/-- When every weight is positive a group has at most as many items as weight. -/
theorem groupCount_le_groupTotal {items : List ι} (g : γ)
    (hpos : ∀ item ∈ items, 0 < weight item) :
    groupCount group g items ≤ groupTotal group weight g items := by
  induction items with
  | nil => simp
  | cons item items ih =>
      have hrest := ih (fun other hmem => hpos other (List.mem_cons_of_mem _ hmem))
      have hitem := hpos item List.mem_cons_self
      rw [groupCount_cons, groupTotal_cons]
      split <;> omega

/-- Bounded weights bound every total by the number of items. -/
theorem groupTotal_le_length_mul {items : List ι} {bound : Nat} (g : γ)
    (hbound : ∀ item ∈ items, weight item ≤ bound) :
    groupTotal group weight g items ≤ items.length * bound := by
  induction items with
  | nil => simp
  | cons item items ih =>
      have hrest := ih (fun other hmem => hbound other (List.mem_cons_of_mem _ hmem))
      have hitem := hbound item List.mem_cons_self
      rw [groupTotal_cons, List.length_cons, Nat.add_mul, Nat.one_mul]
      split <;> omega

theorem groupTotal_eq_zero_of_groupCount {items : List ι} {g : γ}
    (hzero : groupCount group g items = 0) : groupTotal group weight g items = 0 := by
  rw [groupTotal, List.length_eq_zero_iff.mp hzero]
  rfl

/-- With positive weights a group weighs nothing exactly when it has no items. -/
theorem groupTotal_eq_zero_iff {items : List ι} {g : γ}
    (hpos : ∀ item ∈ items, 0 < weight item) :
    groupTotal group weight g items = 0 ↔ groupCount group g items = 0 := by
  constructor
  · intro hzero
    have hle : groupCount group g items ≤ groupTotal group weight g items :=
      groupCount_le_groupTotal g hpos
    omega
  · exact groupTotal_eq_zero_of_groupCount

end GroupedSums
