import Mathlib

/-!
# The first best element of a list

{lit}`List.argmax` keeps the first of the elements with the largest rank.  If the rank
tells the classes of a partition apart, the order between elements of different classes
does not matter.

Main results:

- Theorem {lit}`argmax_filter`: the first best element among those that are kept.
- Theorem {lit}`argmax_eq_of_filter_eq`: lists with the same elements of every class, in
  the same order, have the same first best element.
-/

namespace Argmax

variable {α β ι : Type} [LinearOrder β] {rank : α → β}

theorem argmax_filter {keep : α → Bool} {best : α} (hkeep : keep best = true) {items : List α}
    (hbest : items.argmax rank = some best) : (items.filter keep).argmax rank = some best := by
  induction items using List.reverseRecOn generalizing best with
  | nil => exact absurd hbest nofun
  | append_singleton front last ih =>
      rw [List.argmax_concat] at hbest
      rw [List.filter_append]
      cases hfront : front.argmax rank with
      | none =>
          rw [hfront, Option.some.injEq] at hbest
          rw [List.argmax_eq_none.mp hfront, hbest]
          simp [hkeep]
      | some leader =>
          rw [hfront] at hbest
          dsimp only at hbest
          split at hbest
          · rename_i hlt
            rw [Option.some.injEq] at hbest
            subst hbest
            rw [List.filter_cons_of_pos hkeep, List.filter_nil, List.argmax_concat]
            cases hkept : (front.filter keep).argmax rank with
            | none => rfl
            | some other =>
                -- What is left of the front ranks no higher than its leader.
                have hmem : other ∈ front := List.mem_of_mem_filter (List.argmax_mem hkept)
                have hle : rank other ≤ rank leader := List.le_of_mem_argmax hmem hfront
                exact if_pos (lt_of_le_of_lt hle hlt)
          · rename_i hnot
            rw [Option.some.injEq] at hbest
            subst hbest
            have hkept := ih hkeep hfront
            cases hlast : keep last with
            | false =>
                rw [List.filter_cons_of_neg (Bool.eq_false_iff.mp hlast), List.filter_nil,
                  List.append_nil]
                exact hkept
            | true =>
                rw [List.filter_cons_of_pos hlast, List.filter_nil, List.argmax_concat, hkept]
                exact if_neg hnot

section Classes

variable [DecidableEq ι] {classOf : α → ι} {first second : List α}

theorem mem_of_filter_eq
    (hsame : ∀ i, first.filter (classOf · = i) = second.filter (classOf · = i)) {item : α}
    (hmem : item ∈ first) : item ∈ second := by
  have hfiltered : item ∈ first.filter (classOf · = classOf item) :=
    List.mem_filter.mpr ⟨hmem, decide_eq_true rfl⟩
  rw [hsame] at hfiltered
  exact List.mem_of_mem_filter hfiltered

theorem argmax_eq_of_filter_eq (hrank : ∀ a b, rank a = rank b → classOf a = classOf b)
    (hsame : ∀ i, first.filter (classOf · = i) = second.filter (classOf · = i)) :
    first.argmax rank = second.argmax rank := by
  cases hfirst : first.argmax rank with
  | none =>
      have hnone : second = [] := by
        rw [List.eq_nil_iff_forall_not_mem]
        intro item hmem
        have hback := mem_of_filter_eq (fun i => (hsame i).symm) hmem
        rw [List.argmax_eq_none.mp hfirst] at hback
        exact absurd hback List.not_mem_nil
      rw [hnone]
      rfl
  | some best =>
      cases hsecond : second.argmax rank with
      | none =>
          have hmem := mem_of_filter_eq hsame (List.argmax_mem hfirst)
          rw [List.argmax_eq_none.mp hsecond] at hmem
          exact absurd hmem List.not_mem_nil
      | some other =>
          have hle : rank best ≤ rank other :=
            List.le_of_mem_argmax (mem_of_filter_eq hsame (List.argmax_mem hfirst)) hsecond
          have hge : rank other ≤ rank best :=
            List.le_of_mem_argmax
              (mem_of_filter_eq (fun i => (hsame i).symm) (List.argmax_mem hsecond)) hfirst
          -- Both are the first best of one and the same class.
          have hclass : classOf other = classOf best := hrank _ _ (le_antisymm hge hle)
          have hfirst' : (first.filter (classOf · = classOf best)).argmax rank = some best := by
            apply argmax_filter _ hfirst
            exact decide_eq_true rfl
          have hsecond' : (second.filter (classOf · = classOf best)).argmax rank = some other := by
            apply argmax_filter _ hsecond
            exact decide_eq_true hclass
          rw [hsame] at hfirst'
          exact hfirst'.symm.trans hsecond'

end Classes

end Argmax
