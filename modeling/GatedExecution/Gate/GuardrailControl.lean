import GatedExecution.Gate.GuardrailState

/-!
# The guardrail control path

{lit}`gate/guardrail_control.cpp`: updates of the guardrail state are staged with a
sequence number and applied in order of staging.  An update whose number is not above
the last one applied is dropped as stale.  Pushed updates take the next number;
enqueued ones bring their own.

Main results:

- Theorem {lit}`push_eq`: every push stages an update with the next number.
- Theorem {lit}`applyNext_cons`: what happens to the update in front.
-/

namespace Fgep.Gate

open Fgep.Core Ouch

abbrev GuardrailUpdateSequence := UInt64

/-! ## Updates -/

inductive GuardrailUpdateKind where
  | setGlobalHalt
  | setCancelOnly
  | setDefaultSymbolEnabled
  | setLimits
  | enableSymbol
  | disableSymbol
  | clearSymbolOverrides
deriving DecidableEq, Repr

inductive GuardrailApplyDecision where
  | applied
  | droppedStale
  | noPending
deriving DecidableEq, Repr

structure GuardrailUpdate where
  sequence : GuardrailUpdateSequence
  kind : GuardrailUpdateKind
  boolValue : Bool
  limits : GuardrailLimits
  symbol : Symbol
deriving DecidableEq

structure GuardrailApplyResult where
  decision : GuardrailApplyDecision
  sequence : GuardrailUpdateSequence
  kind : GuardrailUpdateKind
deriving DecidableEq

def GuardrailApplyResult.applied (result : GuardrailApplyResult) : Bool :=
  result.decision = .applied

def GuardrailApplyResult.dropped (result : GuardrailApplyResult) : Bool :=
  result.decision = .droppedStale

/-- The counters are of type {lit}`std::size_t`. -/
structure GuardrailControlStats where
  stagedCount : UInt64 := 0
  appliedCount : UInt64 := 0
  droppedStaleCount : UInt64 := 0
  lastAppliedSequence : GuardrailUpdateSequence := 0
deriving DecidableEq

/-- The {lit}`switch` of {lit}`apply_update`. -/
def GuardrailUpdate.execute (update : GuardrailUpdate) (state : GuardrailState) :
    GuardrailState :=
  match update.kind with
  | .setGlobalHalt => state.setGlobalHalted update.boolValue
  | .setCancelOnly => state.setCancelOnly update.boolValue
  | .setDefaultSymbolEnabled => state.setDefaultSymbolEnabled update.boolValue
  | .setLimits => state.setLimits update.limits
  | .enableSymbol => state.enableSymbol update.symbol
  | .disableSymbol => state.disableSymbol update.symbol
  | .clearSymbolOverrides => state.clearSymbolOverrides

/-! ## Staging -/

structure GuardrailControlPath where
  nextSequence : GuardrailUpdateSequence := 1
  stats : GuardrailControlStats := {}
  pending : List GuardrailUpdate := []
deriving DecidableEq

namespace GuardrailControlPath

def makeUpdate (path : GuardrailControlPath) (kind : GuardrailUpdateKind) :
    GuardrailUpdate × GuardrailControlPath :=
  let sequence := path.nextSequence
  ({ sequence := sequence
     kind := kind
     boolValue := false
     limits := {}
     symbol := emptySymbol },
    { path with nextSequence := path.nextSequence + 1 })

def enqueue (path : GuardrailControlPath) (update : GuardrailUpdate) : GuardrailControlPath where
  nextSequence :=
    if update.sequence ≥ path.nextSequence then update.sequence + 1 else path.nextSequence
  stats := { path.stats with stagedCount := path.stats.stagedCount + 1 }
  pending := path.pending ++ [update]

/-- The common body of the functions {lit}`push_*`: make an update, fill it in, stage it. -/
def pushUpdate (path : GuardrailControlPath) (kind : GuardrailUpdateKind)
    (fill : GuardrailUpdate → GuardrailUpdate) : GuardrailUpdate × GuardrailControlPath :=
  let made := path.makeUpdate kind
  let update := fill made.1
  (update, made.2.enqueue update)

def pushSetGlobalHalt (path : GuardrailControlPath) (halted : Bool) :
    GuardrailUpdate × GuardrailControlPath :=
  path.pushUpdate .setGlobalHalt (fun update => { update with boolValue := halted })

def pushSetCancelOnly (path : GuardrailControlPath) (enabled : Bool) :
    GuardrailUpdate × GuardrailControlPath :=
  path.pushUpdate .setCancelOnly (fun update => { update with boolValue := enabled })

def pushSetDefaultSymbolEnabled (path : GuardrailControlPath) (enabled : Bool) :
    GuardrailUpdate × GuardrailControlPath :=
  path.pushUpdate .setDefaultSymbolEnabled (fun update => { update with boolValue := enabled })

def pushSetLimits (path : GuardrailControlPath) (limits : GuardrailLimits) :
    GuardrailUpdate × GuardrailControlPath :=
  path.pushUpdate .setLimits (fun update => { update with limits := limits })

def pushEnableSymbol (path : GuardrailControlPath) (symbol : Symbol) :
    GuardrailUpdate × GuardrailControlPath :=
  path.pushUpdate .enableSymbol (fun update => { update with symbol := symbol })

def pushDisableSymbol (path : GuardrailControlPath) (symbol : Symbol) :
    GuardrailUpdate × GuardrailControlPath :=
  path.pushUpdate .disableSymbol (fun update => { update with symbol := symbol })

def pushClearSymbolOverrides (path : GuardrailControlPath) :
    GuardrailUpdate × GuardrailControlPath :=
  path.pushUpdate .clearSymbolOverrides (fun update => update)

/-! ## Applying -/

def applyUpdate (path : GuardrailControlPath) (state : GuardrailState)
    (update : GuardrailUpdate) :
    GuardrailApplyResult × GuardrailControlPath × GuardrailState :=
  if update.sequence ≤ path.stats.lastAppliedSequence then
    ({ decision := .droppedStale, sequence := update.sequence, kind := update.kind },
      { path with
        stats := { path.stats with droppedStaleCount := path.stats.droppedStaleCount + 1 } },
      state)
  else
    ({ decision := .applied, sequence := update.sequence, kind := update.kind },
      { path with
        stats := { path.stats with
          appliedCount := path.stats.appliedCount + 1
          lastAppliedSequence := update.sequence } },
      update.execute state)

def applyNext (path : GuardrailControlPath) (state : GuardrailState) :
    GuardrailApplyResult × GuardrailControlPath × GuardrailState :=
  match path.pending with
  | [] => ({ decision := .noPending, sequence := 0, kind := .setGlobalHalt }, path, state)
  | update :: rest => applyUpdate { path with pending := rest } state update

theorem applyUpdate_pending (path : GuardrailControlPath) (state : GuardrailState)
    (update : GuardrailUpdate) : (path.applyUpdate state update).2.1.pending = path.pending := by
  unfold applyUpdate
  split <;> rfl

/-- Every round takes one update off the front. -/
theorem applyNext_pending (path : GuardrailControlPath) (state : GuardrailState) :
    (path.applyNext state).2.1.pending = path.pending.tail := by
  cases hpending : path.pending with
  | nil =>
      rw [applyNext, hpending]
      exact hpending
  | cons update rest =>
      rw [applyNext, hpending]
      exact applyUpdate_pending _ _ _

/-- The loop of {lit}`apply_all` with the count so far. -/
def applyLoop (path : GuardrailControlPath) (state : GuardrailState) (appliedCount : UInt64) :
    UInt64 × GuardrailControlPath × GuardrailState :=
  if hempty : path.pending = [] then (appliedCount, path, state)
  else
    let outcome := path.applyNext state
    outcome.2.1.applyLoop outcome.2.2
      (if outcome.1.applied then appliedCount + 1 else appliedCount)
termination_by path.pending.length
decreasing_by
  rw [applyNext_pending, List.length_tail]
  exact Nat.sub_lt (List.length_pos_iff.mpr hempty) (by decide)

def applyAll (path : GuardrailControlPath) (state : GuardrailState) :
    UInt64 × GuardrailControlPath × GuardrailState :=
  path.applyLoop state 0

def clearPending (path : GuardrailControlPath) : GuardrailControlPath :=
  { path with pending := [] }

end GuardrailControlPath

/-- The calls of the functions {lit}`push_*`. -/
inductive PushCall where
  | setGlobalHalt (halted : Bool)
  | setCancelOnly (enabled : Bool)
  | setDefaultSymbolEnabled (enabled : Bool)
  | setLimits (limits : GuardrailLimits)
  | enableSymbol (symbol : Symbol)
  | disableSymbol (symbol : Symbol)
  | clearSymbolOverrides

namespace GuardrailControlPath

def push (path : GuardrailControlPath) : PushCall → GuardrailUpdate × GuardrailControlPath
  | .setGlobalHalt halted => path.pushSetGlobalHalt halted
  | .setCancelOnly enabled => path.pushSetCancelOnly enabled
  | .setDefaultSymbolEnabled enabled => path.pushSetDefaultSymbolEnabled enabled
  | .setLimits limits => path.pushSetLimits limits
  | .enableSymbol symbol => path.pushEnableSymbol symbol
  | .disableSymbol symbol => path.pushDisableSymbol symbol
  | .clearSymbolOverrides => path.pushClearSymbolOverrides

/-! ## One call -/

section Calls

variable {path : GuardrailControlPath}

theorem pushUpdate_eq (path : GuardrailControlPath) (kind : GuardrailUpdateKind)
    {fill : GuardrailUpdate → GuardrailUpdate}
    (hfill : ∀ update, (fill update).sequence = update.sequence) :
    (path.pushUpdate kind fill).1.sequence = path.nextSequence ∧
      (path.pushUpdate kind fill).2 =
        { nextSequence := path.nextSequence + 1
          stats := { path.stats with stagedCount := path.stats.stagedCount + 1 }
          pending := path.pending ++ [(path.pushUpdate kind fill).1] } := by
  have hsequence : (path.pushUpdate kind fill).1.sequence = path.nextSequence := hfill _
  refine ⟨hsequence, ?_⟩
  -- The number after the update is the same whichever function stores it last.
  have hnext : (if (path.pushUpdate kind fill).1.sequence ≥ path.nextSequence + 1 then
      (path.pushUpdate kind fill).1.sequence + 1 else path.nextSequence + 1) =
        path.nextSequence + 1 := by
    rw [hsequence, ite_self]
  exact congrArg (fun next => GuardrailControlPath.mk next
    { path.stats with stagedCount := path.stats.stagedCount + 1 }
    (path.pending ++ [(path.pushUpdate kind fill).1])) hnext

theorem push_eq (path : GuardrailControlPath) (call : PushCall) :
    (path.push call).1.sequence = path.nextSequence ∧
      (path.push call).2 =
        { nextSequence := path.nextSequence + 1
          stats := { path.stats with stagedCount := path.stats.stagedCount + 1 }
          pending := path.pending ++ [(path.push call).1] } := by
  cases call with
  | setGlobalHalt halted => exact pushUpdate_eq path _ (fun _ => rfl)
  | setCancelOnly enabled => exact pushUpdate_eq path _ (fun _ => rfl)
  | setDefaultSymbolEnabled enabled => exact pushUpdate_eq path _ (fun _ => rfl)
  | setLimits limits => exact pushUpdate_eq path _ (fun _ => rfl)
  | enableSymbol symbol => exact pushUpdate_eq path _ (fun _ => rfl)
  | disableSymbol symbol => exact pushUpdate_eq path _ (fun _ => rfl)
  | clearSymbolOverrides => exact pushUpdate_eq path _ (fun _ => rfl)

theorem applyNext_cons {update : GuardrailUpdate} {rest : List GuardrailUpdate}
    (hpending : path.pending = update :: rest) (state : GuardrailState) :
    path.applyNext state = applyUpdate { path with pending := rest } state update := by
  rw [applyNext, hpending]

theorem applyNext_nil (hpending : path.pending = []) (state : GuardrailState) :
    (path.applyNext state).2 = (path, state) := by
  rw [applyNext, hpending]

end Calls

end GuardrailControlPath

end Fgep.Gate
