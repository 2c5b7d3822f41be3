import GatedExecution.Lib.Runs

/-!
# Inputs of separate domains

Every input of a system belongs to a domain, and every domain has a view of the state.
If an input changes no view but that of its own domain, and there acts by that view
alone, then each domain runs as if the inputs of the others were not there.

Main results:

- Theorem {lit}`Separated.view_run`: a view at the end of a run.
- Theorem {lit}`Separated.outputs_run`: what the inputs of a domain return.
- Theorems {lit}`Separated.view_eq` and {lit}`Separated.outputs_eq`: runs that differ in
  how the domains are interleaved.
-/

namespace Noninterference

open Runs

variable {σ α ω ι ν : Type} [DecidableEq ι]

/-- The reaction gives the output of an input and the new view of its domain. -/
structure Separated (step : σ → α → σ) (out : σ → α → ω) (domain : α → ι) (view : ι → σ → ν)
    (react : ν → α → ω × ν) : Prop where
  own : ∀ s a, view (domain a) (step s a) = (react (view (domain a) s) a).2
  others : ∀ s a i, i ≠ domain a → view i (step s a) = view i s
  output : ∀ s a, out s a = (react (view (domain a) s) a).1

def inputsOf (domain : α → ι) (i : ι) (inputs : List α) : List α :=
  inputs.filter (fun input => domain input = i)

/-- The outputs of the inputs of one domain. -/
def outputsOf (step : σ → α → σ) (out : σ → α → ω) (domain : α → ι) (i : ι) (s : σ)
    (inputs : List α) : List ω :=
  ((runOutputs step (fun s input => (domain input, out s input)) s inputs).filter
    (fun output => output.1 = i)).map Prod.snd

section Separated

variable {step : σ → α → σ} {out : σ → α → ω} {domain : α → ι} {view : ι → σ → ν}
  {react : ν → α → ω × ν}

theorem inputsOf_cons (i : ι) (input : α) (rest : List α) :
    inputsOf domain i (input :: rest) =
      if domain input = i then input :: inputsOf domain i rest else inputsOf domain i rest := by
  by_cases hdomain : domain input = i
  · simp [inputsOf, hdomain]
  · simp [inputsOf, hdomain]

theorem outputsOf_cons (i : ι) (s : σ) (input : α) (rest : List α) :
    outputsOf step out domain i s (input :: rest) =
      if domain input = i then out s input :: outputsOf step out domain i (step s input) rest
      else outputsOf step out domain i (step s input) rest := by
  by_cases hdomain : domain input = i
  · simp [outputsOf, runOutputs, hdomain]
  · simp [outputsOf, runOutputs, hdomain]

theorem Separated.view_run (hseparated : Separated step out domain view react) (i : ι) (s : σ)
    (inputs : List α) :
    view i (inputs.foldl step s) =
      (inputsOf domain i inputs).foldl (fun v a => (react v a).2) (view i s) := by
  induction inputs generalizing s with
  | nil => rfl
  | cons input rest ih =>
      rw [List.foldl_cons, ih, inputsOf_cons]
      by_cases hdomain : domain input = i
      · subst hdomain
        rw [if_pos rfl, List.foldl_cons, hseparated.own]
      · rw [if_neg hdomain, hseparated.others s input i (Ne.symm hdomain)]

theorem Separated.outputs_run (hseparated : Separated step out domain view react) (i : ι) (s : σ)
    (inputs : List α) :
    outputsOf step out domain i s inputs =
      runOutputs (fun v a => (react v a).2) (fun v a => (react v a).1) (view i s)
        (inputsOf domain i inputs) := by
  induction inputs generalizing s with
  | nil => rfl
  | cons input rest ih =>
      rw [outputsOf_cons, ih, inputsOf_cons]
      by_cases hdomain : domain input = i
      · subst hdomain
        rw [if_pos rfl, if_pos rfl, runOutputs, hseparated.own, hseparated.output]
      · rw [if_neg hdomain, if_neg hdomain, hseparated.others s input i (Ne.symm hdomain)]

section Interleavings

variable {first second : List α} {i : ι}

theorem Separated.view_eq (hseparated : Separated step out domain view react)
    (hinputs : inputsOf domain i first = inputsOf domain i second) (s : σ) :
    view i (first.foldl step s) = view i (second.foldl step s) := by
  rw [hseparated.view_run, hseparated.view_run, hinputs]

theorem Separated.outputs_eq (hseparated : Separated step out domain view react)
    (hinputs : inputsOf domain i first = inputsOf domain i second) (s : σ) :
    outputsOf step out domain i s first = outputsOf step out domain i s second := by
  rw [hseparated.outputs_run, hseparated.outputs_run, hinputs]

end Interleavings

end Separated

end Noninterference
