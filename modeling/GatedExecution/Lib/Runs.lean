import Mathlib

/-!
# Runs of a deterministic system

A run folds a step function over a list of inputs.  An invariant that one step
keeps, under an assumption on the state it starts from, holds at the end of every
run along which the assumption holds.  Two systems that step alike on related
states run alike.

Main results:

- Theorems {lit}`foldl_invariant` and {lit}`foldl_invariant_inputs`: the invariant rule.
- Theorem {lit}`exists_since`: the moment since which a property has held.
- Theorem {lit}`exists_origin`: the input with which a property began.
- Theorem {lit}`reaches_or_rank_le`: inputs that lower a rank use it up, or a goal is
  reached on the way.
- Theorem {lit}`foldl_invariant_checked`: the rule for runs whose steps pass a check.
- Theorem {lit}`left_eq_sum_add_left`: what is spent step by step and what is left.
- Theorems {lit}`simulation_states` and {lit}`simulation_outputs`: a relation that
  steps keep holds between whole runs, which then give the same outputs.
-/

namespace Runs

variable {σ α : Type} {step : σ → α → σ} {Inv : σ → Prop} {Assume : σ → Prop}

theorem foldl_invariant (hstep : ∀ s a, Assume s → Inv s → Inv (step s a)) {s : σ}
    {inputs : List α} (hinit : Inv s)
    (hassume : ∀ done, done <+: inputs → Assume (done.foldl step s)) :
    Inv (inputs.foldl step s) := by
  induction inputs generalizing s with
  | nil => exact hinit
  | cons input rest ih =>
      apply ih
      · exact hstep s input (hassume [] List.nil_prefix) hinit
      · intro done hdone
        exact hassume (input :: done) ((List.prefix_cons_inj input).mpr hdone)

/-- The rule with an assumption on the inputs in place of the states. -/
theorem foldl_invariant_inputs {Allowed : α → Prop}
    (hstep : ∀ s a, Allowed a → Inv s → Inv (step s a)) {s : σ} {inputs : List α}
    (hallowed : ∀ input ∈ inputs, Allowed input) (hinit : Inv s) :
    Inv (inputs.foldl step s) :=
  List.foldlRecOn inputs step hinit
    (fun s hinv input hmem => hstep s input (hallowed input hmem) hinv)

/-- A property {lit}`P` that only starts to hold in a step from a state with {lit}`Q`,
and holds now, started at some moment with {lit}`Q`; what both imply has held since. -/
theorem exists_since {P Q R : σ → Prop} (hstart : ∀ s a, P (step s a) → P s ∨ Q s)
    (hP : ∀ s, P s → R s) (hQ : ∀ s, Q s → R s) {s : σ} {inputs : List α} (hinit : ¬P s)
    (hnow : P (inputs.foldl step s)) :
    ∃ k < inputs.length, Q ((inputs.take k).foldl step s) ∧
      ∀ i, k ≤ i → i ≤ inputs.length → R ((inputs.take i).foldl step s) := by
  induction inputs using List.reverseRecOn with
  | nil => exact absurd hnow hinit
  | append_singleton earlier input ih =>
      have hbefore : ∀ i, i ≤ earlier.length → (earlier ++ [input]).take i = earlier.take i :=
        fun i hi => List.take_append_of_le_length hi
      have hlast : ∀ i, earlier.length < i → i ≤ (earlier ++ [input]).length →
          R (((earlier ++ [input]).take i).foldl step s) := by
        intro i hlt hi
        have hlength : i = (earlier ++ [input]).length := by
          rw [List.length_append, List.length_singleton] at hi ⊢
          omega
        rw [hlength, List.take_length]
        exact hP _ hnow
      have hprevious : P (earlier.foldl step s) ∨ Q (earlier.foldl step s) := by
        rw [List.foldl_append, List.foldl_cons, List.foldl_nil] at hnow
        exact hstart _ _ hnow
      rcases hprevious with hheld | hbegan
      · rcases ih hheld with ⟨k, hk, hbegan, hsince⟩
        refine ⟨k, ?_, ?_, ?_⟩
        · rw [List.length_append]
          exact Nat.lt_add_right _ hk
        · rw [hbefore k (Nat.le_of_lt hk)]
          exact hbegan
        · intro i hki hi
          rcases Nat.lt_or_ge earlier.length i with hlt | hle
          · exact hlast i hlt hi
          · rw [hbefore i hle]
            exact hsince i hki hle
      · refine ⟨earlier.length, ?_, ?_, ?_⟩
        · rw [List.length_append, List.length_singleton]
          exact Nat.lt_succ_self _
        · rw [hbefore _ (Nat.le_refl _), List.take_length]
          exact hbegan
        · intro i hki hi
          rcases Nat.eq_or_lt_of_le hki with rfl | hlt
          · rw [hbefore _ (Nat.le_refl _), List.take_length]
            exact hQ _ hbegan
          · exact hlast i hlt hi

/-- A property that holds now and did not at first began to hold with some input. -/
theorem exists_origin (P : σ → Prop) (Q : σ → α → Prop)
    (hstart : ∀ s a, P (step s a) → P s ∨ Q s a) {s : σ} {inputs : List α} (hinit : ¬P s)
    (hnow : P (inputs.foldl step s)) :
    ∃ before input after, inputs = before ++ input :: after ∧ Q (before.foldl step s) input := by
  induction inputs using List.reverseRecOn with
  | nil => exact absurd hnow hinit
  | append_singleton earlier input ih =>
      rw [List.foldl_append, List.foldl_cons, List.foldl_nil] at hnow
      rcases hstart _ _ hnow with hheld | hbegan
      · rcases ih hheld with ⟨before, first, after, hsplit, hbegan⟩
        refine ⟨before, first, after ++ [input], ?_, hbegan⟩
        rw [hsplit, List.append_assoc, List.cons_append]
      · exact ⟨earlier, input, [], rfl, hbegan⟩

/-- Until a goal is reached no input raises the rank, and the inputs that help lower it
while it is positive. -/
theorem reaches_or_rank_le (Goal : σ → Prop) (rank : σ → Nat) (helps : α → Bool)
    (hstep : ∀ s a, Inv s → Goal (step s a) ∨
      (Inv (step s a) ∧ rank (step s a) ≤ rank s - if helps a then 1 else 0)) {s : σ}
    (inputs : List α) (hinit : Inv s) :
    (∃ done, done <+: inputs ∧ Goal (done.foldl step s)) ∨
      (Inv (inputs.foldl step s) ∧
        rank (inputs.foldl step s) ≤ rank s - inputs.countP helps) := by
  induction inputs generalizing s with
  | nil => exact Or.inr ⟨hinit, Nat.le_refl _⟩
  | cons input rest ih =>
      rcases hstep s input hinit with hgoal | ⟨hinv, hrank⟩
      · exact Or.inl ⟨[input], (List.prefix_cons_inj input).mpr List.nil_prefix, hgoal⟩
      rcases ih hinv with ⟨done, hdone, hgoal⟩ | ⟨hinv', hrank'⟩
      · exact Or.inl ⟨input :: done, (List.prefix_cons_inj input).mpr hdone, hgoal⟩
      · refine Or.inr ⟨hinv', ?_⟩
        rw [List.foldl_cons, List.countP_cons]
        omega

/-! ## Simulation -/

section Simulation

variable {σ τ α ω : Type} {stepS : σ → α → σ} {stepT : τ → α → τ} {outS : σ → α → ω}
  {outT : τ → α → ω} {R : σ → τ → Prop} {Allowed : α → Prop}

/-- What each step of a run returns. -/
def runOutputs (step : σ → α → σ) (out : σ → α → ω) : σ → List α → List ω
  | _, [] => []
  | s, input :: rest => out s input :: runOutputs step out (step s input) rest

theorem runOutputs_append (step : σ → α → σ) (out : σ → α → ω) (s : σ)
    (first second : List α) :
    runOutputs step out s (first ++ second) =
      runOutputs step out s first ++ runOutputs step out (first.foldl step s) second := by
  induction first generalizing s with
  | nil => rfl
  | cons input rest ih =>
      rw [List.cons_append, runOutputs, runOutputs, ih]
      rfl

/-- The invariant rule with an assumption on each step that is checked along the run. -/
theorem foldl_invariant_checked {step : σ → α → σ} {Inv : σ → Prop} {check : σ → α → Bool}
    (hstep : ∀ s a, check s a = true → Inv s → Inv (step s a)) {s : σ} {inputs : List α}
    (hchecked : ∀ passed ∈ runOutputs step check s inputs, passed = true) (hinit : Inv s) :
    Inv (inputs.foldl step s) := by
  induction inputs generalizing s with
  | nil => exact hinit
  | cons input rest ih =>
      rw [runOutputs, List.forall_mem_cons] at hchecked
      exact ih hchecked.2 (hstep s input hchecked.1 hinit)

/-- A quantity from which every step takes what its output says. -/
theorem left_eq_sum_add_left {step : σ → α → σ} {out : σ → α → ω} {Inv : σ → Prop}
    {left : σ → Nat} {spent : ω → Nat} (hinv : ∀ s a, Inv s → Inv (step s a))
    (hstep : ∀ s a, Inv s → left s = spent (out s a) + left (step s a)) {s : σ} (hinit : Inv s)
    (inputs : List α) :
    left s = ((runOutputs step out s inputs).map spent).sum + left (inputs.foldl step s) := by
  induction inputs generalizing s with
  | nil => exact (Nat.zero_add _).symm
  | cons input rest ih =>
      rw [runOutputs, List.map_cons, List.sum_cons, List.foldl_cons, Nat.add_assoc,
        ← ih (hinv s input hinit)]
      exact hstep s input hinit

theorem simulation_states
    (hstep : ∀ s t a, Allowed a → R s t → R (stepS s a) (stepT t a)) {s : σ} {t : τ}
    {inputs : List α} (hallowed : ∀ input ∈ inputs, Allowed input) (hinit : R s t) :
    R (inputs.foldl stepS s) (inputs.foldl stepT t) := by
  induction inputs generalizing s t with
  | nil => exact hinit
  | cons input rest ih =>
      apply ih (fun other hmem => hallowed other (List.mem_cons_of_mem _ hmem))
      exact hstep s t input (hallowed input List.mem_cons_self) hinit

theorem simulation_outputs
    (hstep : ∀ s t a, Allowed a → R s t → R (stepS s a) (stepT t a))
    (hout : ∀ s t a, Allowed a → R s t → outS s a = outT t a) {s : σ} {t : τ}
    {inputs : List α} (hallowed : ∀ input ∈ inputs, Allowed input) (hinit : R s t) :
    runOutputs stepS outS s inputs = runOutputs stepT outT t inputs := by
  induction inputs generalizing s t with
  | nil => rfl
  | cons input rest ih =>
      have hinput := hallowed input List.mem_cons_self
      rw [runOutputs, runOutputs, hout s t input hinput hinit,
        ih (fun other hmem => hallowed other (List.mem_cons_of_mem _ hmem))
          (hstep s t input hinput hinit)]

end Simulation

end Runs
