import Mathlib

/-!
# Fair rounds

Several threads move in turns that a schedule chooses.  In every state one of the possible
moves is the helping one; it lowers a rank, and the other moves either lower the rank or
leave both the rank and the choice of the helping move.  A schedule that is cut into rounds,
each with every helping move in it, then lowers the rank in every round.

Main results:

- Theorem {lit}`round_progress`: what one round does.
- Theorem {lit}`rank_le_of_rounds`: what all rounds do.
-/

namespace Fairness

variable {σ α : Type} {step : σ → α → σ} {Inv : σ → Prop} {rank : σ → Nat} {helper : σ → α}

/-- A move makes progress, or leaves the helping move to another. -/
def Progress (step : σ → α → σ) (rank : σ → Nat) (helper : σ → α) (s : σ) (a : α) : Prop :=
  rank (step s a) < rank s ∨
    rank (step s a) = rank s ∧ (rank s = 0 ∨ a ≠ helper s ∧ helper (step s a) = helper s)

section Rounds

variable (hstep : ∀ s a, Inv s → Inv (step s a) ∧ Progress step rank helper s a)
include hstep

theorem round_progress {s : σ} (round : List α) (hinv : Inv s) :
    Inv (round.foldl step s) ∧ (rank (round.foldl step s) < rank s ∨
      rank (round.foldl step s) = rank s ∧ (rank s = 0 ∨ helper s ∉ round)) := by
  induction round generalizing s with
  | nil => exact ⟨hinv, Or.inr ⟨rfl, Or.inr List.not_mem_nil⟩⟩
  | cons move rest ih =>
      rcases hstep s move hinv with ⟨hnext, hprogress⟩
      rcases ih hnext with ⟨hlast, hrest⟩
      refine ⟨hlast, ?_⟩
      rw [List.foldl_cons]
      rcases hprogress with hlower | ⟨hsame, hzero | ⟨hother, hhelper⟩⟩
      · rcases hrest with hlt | ⟨heq, -⟩
        · exact Or.inl (Nat.lt_trans hlt hlower)
        · exact Or.inl (heq ▸ hlower)
      · rcases hrest with hlt | ⟨heq, -⟩
        · exact Or.inl (hsame ▸ hlt)
        · exact Or.inr ⟨heq.trans hsame, Or.inl hzero⟩
      · rcases hrest with hlt | ⟨heq, hzero | habsent⟩
        · exact Or.inl (hsame ▸ hlt)
        · exact Or.inr ⟨heq.trans hsame, Or.inl (hsame ▸ hzero)⟩
        · refine Or.inr ⟨heq.trans hsame, Or.inr ?_⟩
          rw [hhelper] at habsent
          rw [List.mem_cons, not_or]
          exact ⟨fun hmove => hother hmove.symm, habsent⟩

theorem rank_le_of_rounds {s : σ} {rounds : List (List α)}
    (hfair : ∀ round ∈ rounds, ∀ s, helper s ∈ round) (hinv : Inv s) :
    Inv (rounds.flatten.foldl step s) ∧
      rank (rounds.flatten.foldl step s) ≤ rank s - rounds.length := by
  induction rounds generalizing s with
  | nil => exact ⟨hinv, Nat.le_refl _⟩
  | cons round rest ih =>
      rcases round_progress hstep round hinv with ⟨hnext, hround⟩
      have hrest := ih (fun other hmem => hfair other (List.mem_cons_of_mem _ hmem)) hnext
      rw [List.flatten_cons, List.foldl_append, List.length_cons]
      refine ⟨hrest.1, ?_⟩
      have hle := hrest.2
      rcases hround with hlower | ⟨hsame, hzero | habsent⟩
      · omega
      · omega
      · exact absurd (hfair round List.mem_cons_self s) habsent

end Rounds

end Fairness
