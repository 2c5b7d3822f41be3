import GatedExecution.Execution.OrderLifecycle
import GatedExecution.Risk.RiskSupervisor

/-!
# The simulated execution engine

{lit}`execution/simulated_execution_engine.cpp`: risk checks in front of the order
lifecycle engine.  A caller may also change the risk supervisor between calls, since
{lit}`risk()` returns a reference.

Main results:

- Theorem {lit}`submit_cases`: a call is stopped by risk, or cleared and handed on.
- Theorem {lit}`origin_of_live`: the call that created a live order was cleared.
- Theorem {lit}`risk_safety`: what risk guarantees over whole runs.
-/

namespace Fgep.Execution

open Ouch Runs Risk

/-! ## Results -/

inductive ExecutionAction where
  | enter
  | replace
  | cancel
  | execute
deriving DecidableEq, Repr

inductive ExecutionDecision where
  | accepted
  | rejected
deriving DecidableEq, Repr

inductive ExecutionRejectSource where
  | none
  | risk
  | lifecycle
deriving DecidableEq, Repr

structure ExecutionResult where
  action : ExecutionAction
  decision : ExecutionDecision
  rejectSource : ExecutionRejectSource
  userRefNum : UserRefNum
  previousUserRefNum : UserRefNum
  decrementQuantity : Quantity
  leavesQuantity : Quantity
  riskRejectReason : RiskRejectReason
  lifecycleStatus : LifecycleStatus
  lifecycleRejectReason : LifecycleRejectReason
deriving DecidableEq

def fromRiskReject (action : ExecutionAction) (riskResult : RiskResult) : ExecutionResult where
  action := action
  decision := .rejected
  rejectSource := .risk
  userRefNum := riskResult.userRefNum
  previousUserRefNum := 0
  decrementQuantity := 0
  leavesQuantity := 0
  riskRejectReason := riskResult.rejectReason
  lifecycleStatus := .rejected
  lifecycleRejectReason := .none

def fromLifecycle (action : ExecutionAction) (lifecycleResult : LifecycleResult) :
    ExecutionResult where
  action := action
  decision := if lifecycleResult.accepted then .accepted else .rejected
  rejectSource := if lifecycleResult.accepted then .none else .lifecycle
  userRefNum := lifecycleResult.userRefNum
  previousUserRefNum := lifecycleResult.previousUserRefNum
  decrementQuantity := lifecycleResult.decrementQuantity
  leavesQuantity := lifecycleResult.leavesQuantity
  riskRejectReason := .none
  lifecycleStatus := lifecycleResult.status
  lifecycleRejectReason := lifecycleResult.rejectReason

/-! ## The engine -/

structure SimulatedExecutionEngine where
  risk : RiskSupervisor := {}
  lifecycle : OrderLifecycleEngine := {}

namespace SimulatedExecutionEngine

def find (engine : SimulatedExecutionEngine) (userRefNum : UserRefNum) : Option LiveOrder :=
  engine.lifecycle.find userRefNum

/-- The result and the engine after a call of the lifecycle engine. -/
def withLifecycle (engine : SimulatedExecutionEngine) (action : ExecutionAction)
    (outcome : LifecycleResult × OrderLifecycleEngine) :
    ExecutionResult × SimulatedExecutionEngine :=
  (fromLifecycle action outcome.1, { engine with lifecycle := outcome.2 })

def submitEnter (engine : SimulatedExecutionEngine) (message : EnterOrderMessage) :
    ExecutionResult × SimulatedExecutionEngine :=
  let riskResult := engine.risk.checkEnter message
  if riskResult.rejected then (fromRiskReject .enter riskResult, engine)
  else engine.withLifecycle .enter (engine.lifecycle.enter message)

def submitReplace (engine : SimulatedExecutionEngine) (message : ReplaceOrderMessage) :
    ExecutionResult × SimulatedExecutionEngine :=
  match engine.lifecycle.find message.origUserRefNum with
  | none => engine.withLifecycle .replace (engine.lifecycle.replace message)
  | some currentOrder =>
      let riskResult := engine.risk.checkReplace message currentOrder.symbol
      if riskResult.rejected then (fromRiskReject .replace riskResult, engine)
      else engine.withLifecycle .replace (engine.lifecycle.replace message)

def submitCancel (engine : SimulatedExecutionEngine) (message : CancelOrderMessage) :
    ExecutionResult × SimulatedExecutionEngine :=
  let riskResult := engine.risk.checkCancel message
  if riskResult.rejected then (fromRiskReject .cancel riskResult, engine)
  else engine.withLifecycle .cancel (engine.lifecycle.cancel message)

def execute (engine : SimulatedExecutionEngine) (userRefNum : UserRefNum)
    (executedQuantity : Quantity) : ExecutionResult × SimulatedExecutionEngine :=
  engine.withLifecycle .execute (engine.lifecycle.execute userRefNum executedQuantity)

def submit (engine : SimulatedExecutionEngine) :
    LifecycleCall → ExecutionResult × SimulatedExecutionEngine
  | .enter message => engine.submitEnter message
  | .replace message => engine.submitReplace message
  | .cancel message => engine.submitCancel message
  | .execute userRefNum executedQuantity => engine.execute userRefNum executedQuantity

end SimulatedExecutionEngine

/-- A call, or any change of the supervisor behind {lit}`risk()`. -/
inductive EngineOp where
  | call (call : LifecycleCall)
  | reconfigure (risk : RiskSupervisor)

namespace SimulatedExecutionEngine

def step (engine : SimulatedExecutionEngine) : EngineOp → SimulatedExecutionEngine
  | .call call => (engine.submit call).2
  | .reconfigure risk => { engine with risk := risk }

def run (engine : SimulatedExecutionEngine) (ops : List EngineOp) : SimulatedExecutionEngine :=
  ops.foldl step engine

/-! ## Calls -/

/-- The action a call is reported as. -/
def actionOf : LifecycleCall → ExecutionAction
  | .enter _ => .enter
  | .replace _ => .replace
  | .cancel _ => .cancel
  | .execute _ _ => .execute

/-- What the risk supervisor has agreed to when a call reaches the lifecycle engine.
Executions are not checked, nor is the replace of an order that is not live. -/
def Cleared (engine : SimulatedExecutionEngine) : LifecycleCall → Prop
  | .enter message => engine.risk.Clears message.quantity message.price message.symbol
  | .replace message => ∀ currentOrder, engine.find message.origUserRefNum = some currentOrder →
      engine.risk.Clears message.quantity message.price currentOrder.symbol
  | .cancel _ => engine.risk.globalHalted = false
  | .execute _ _ => True

section Submit

variable {engine : SimulatedExecutionEngine}

theorem accepted_of_not_rejected {result : RiskResult} (hresult : ¬result.rejected = true) :
    result.accepted = true := by
  rw [RiskResult.rejected_eq_not] at hresult
  simpa using hresult

theorem submit_cases (engine : SimulatedExecutionEngine) (call : LifecycleCall) :
    ((engine.submit call).1.decision = .rejected ∧ (engine.submit call).2 = engine) ∨
      (engine.Cleared call ∧
        engine.submit call = engine.withLifecycle (actionOf call) (engine.lifecycle.call call)) := by
  cases call with
  | enter message =>
      rw [submit, submitEnter]
      split
      · exact Or.inl ⟨rfl, rfl⟩
      · rename_i hrisk
        exact Or.inr ⟨RiskSupervisor.clears_of_accepted (accepted_of_not_rejected hrisk), rfl⟩
  | replace message =>
      rw [submit, submitReplace]
      split
      · rename_i hnone
        refine Or.inr ⟨?_, rfl⟩
        intro currentOrder hlive
        rw [find, hnone] at hlive
        cases hlive
      · rename_i currentOrder hsome
        dsimp only
        split
        · exact Or.inl ⟨rfl, rfl⟩
        · rename_i hrisk
          refine Or.inr ⟨?_, rfl⟩
          intro other hlive
          rw [find, hsome] at hlive
          cases hlive
          exact RiskSupervisor.clears_of_accepted (accepted_of_not_rejected hrisk)
  | cancel message =>
      rw [submit, submitCancel]
      split
      · exact Or.inl ⟨rfl, rfl⟩
      · rename_i hrisk
        have haccepted := accepted_of_not_rejected hrisk
        exact Or.inr ⟨(RiskSupervisor.checkCancel_accepted_iff.mp haccepted).1, rfl⟩
  | execute userRefNum executedQuantity => exact Or.inr ⟨trivial, rfl⟩

theorem lifecycle_of_rejected {call : LifecycleCall}
    (hrejected : (engine.submit call).1.decision = .rejected) :
    (engine.submit call).2.lifecycle = engine.lifecycle := by
  rcases submit_cases engine call with ⟨-, hsame⟩ | ⟨-, hsubmit⟩
  · rw [hsame]
  · rw [hsubmit] at hrejected ⊢
    have hresult : (engine.lifecycle.resultOf call).rejected = true := by
      change (if (engine.lifecycle.resultOf call).accepted = true then
        ExecutionDecision.accepted else .rejected) = .rejected at hrejected
      split at hrejected
      · cases hrejected
      · rename_i hnot
        simpa [LifecycleResult.accepted, LifecycleResult.rejected] using hnot
    exact (OrderLifecycleEngine.call_effect engine.lifecycle call).eq_of_rejected hresult

/-- While halted, only executions change live orders. -/
theorem lifecycle_of_globalHalted {call : LifecycleCall}
    (hhalted : engine.risk.globalHalted = true) (hcall : actionOf call ≠ .execute) :
    (engine.submit call).2.lifecycle = engine.lifecycle := by
  rcases submit_cases engine call with ⟨-, hsame⟩ | ⟨hcleared, hsubmit⟩
  · rw [hsame]
  rw [hsubmit]
  cases call with
  | enter message =>
      have hnot := hcleared.not_halted
      rw [hhalted] at hnot
      cases hnot
  | replace message =>
      -- A replace that was not checked names no live order, so it is rejected.
      change engine.lifecycle.after (.replace message) = engine.lifecycle
      have heffect := OrderLifecycleEngine.call_effect engine.lifecycle (.replace message)
      apply heffect.eq_of_rejected
      change (engine.lifecycle.replace message).1.rejected = true
      cases hfind : engine.lifecycle.find message.origUserRefNum with
      | none =>
          unfold OrderLifecycleEngine.replace
          rw [hfind]
          split
          · split
            · rfl
            · split <;> rfl
          · rfl
      | some currentOrder =>
          have hnot := (hcleared currentOrder hfind).not_halted
          rw [hhalted] at hnot
          cases hnot
  | cancel message =>
      change engine.risk.globalHalted = false at hcleared
      rw [hhalted] at hcleared
      cases hcleared
  | execute userRefNum executedQuantity => exact absurd rfl hcall

end Submit

/-! ## Where live orders come from -/

/-- An order as it was when it was accepted. -/
def asEntered (order : LiveOrder) : LiveOrder :=
  { order with leavesQuantity := order.originalQuantity }

/-- An order that came from {lit}`created` is live. -/
def LiveFrom (ref : UserRefNum) (created : LiveOrder) (lifecycle : OrderLifecycleEngine) : Prop :=
  ∃ order, lifecycle.find ref = some order ∧ asEntered order = created

/-- A call that stores an order, and was cleared to. -/
structure Creates (engine : SimulatedExecutionEngine) (call : LifecycleCall) (ref : UserRefNum)
    (created : LiveOrder) : Prop where
  accepted : (engine.submit call).1.decision = .accepted
  action : actionOf call = .enter ∨ actionOf call = .replace
  reported : (engine.submit call).1.userRefNum = ref
  stored : (engine.submit call).2.find ref = some created
  clears : engine.risk.Clears created.originalQuantity created.price created.symbol

section Origin

variable {engine : SimulatedExecutionEngine} {ref : UserRefNum} {created : LiveOrder}

section Lifecycle

variable {lifecycle : OrderLifecycleEngine}

theorem LiveFrom.of_enroll {order : LiveOrder}
    (hlive : LiveFrom ref created (lifecycle.enroll order)) :
    LiveFrom ref created lifecycle ∨ order.userRefNum = ref ∧ asEntered order = created := by
  rcases hlive with ⟨stored, hfind, hcreated⟩
  rw [OrderLifecycleEngine.find_enroll] at hfind
  split at hfind
  · rename_i hkey
    cases hfind
    exact Or.inr ⟨hkey, hcreated⟩
  · exact Or.inl ⟨stored, hfind, hcreated⟩

theorem LiveFrom.of_erase {removed : UserRefNum}
    (hlive : LiveFrom ref created (lifecycle.erase removed)) :
    LiveFrom ref created lifecycle := by
  rcases hlive with ⟨order, hfind, hcreated⟩
  rw [OrderLifecycleEngine.find_erase] at hfind
  split at hfind
  · cases hfind
  · exact ⟨order, hfind, hcreated⟩

theorem LiveFrom.of_setLeaves {userRefNum : UserRefNum} {reduced : LiveOrder}
    {leavesQuantity : Quantity} (hreduced : lifecycle.find userRefNum = some reduced)
    (hlive : LiveFrom ref created (lifecycle.setLeaves userRefNum reduced leavesQuantity)) :
    LiveFrom ref created lifecycle := by
  rcases hlive with ⟨order, hfind, hcreated⟩
  rw [OrderLifecycleEngine.find_setLeaves] at hfind
  split at hfind
  · rename_i hkey
    cases hfind
    exact ⟨reduced, hkey ▸ hreduced, hcreated⟩
  · exact ⟨order, hfind, hcreated⟩

end Lifecycle

/-- A call of the lifecycle engine that was cleared. -/
theorem liveFrom_or_creates {call : LifecycleCall} (hcleared : engine.Cleared call)
    (hsubmit : engine.submit call =
      engine.withLifecycle (actionOf call) (engine.lifecycle.call call))
    (hlive : LiveFrom ref created (engine.lifecycle.after call)) :
    LiveFrom ref created engine.lifecycle ∨ engine.Creates call ref created := by
  have hdecision : (engine.submit call).1.decision =
      if (engine.lifecycle.resultOf call).accepted then .accepted else .rejected := by
    rw [hsubmit]
    rfl
  have hreported : (engine.submit call).1.userRefNum =
      (engine.lifecycle.resultOf call).userRefNum := by
    rw [hsubmit]
    rfl
  have hstored : (engine.submit call).2.find ref = (engine.lifecycle.after call).find ref := by
    rw [hsubmit]
    rfl
  have heffect := OrderLifecycleEngine.call_effect engine.lifecycle call
  generalize engine.lifecycle.after call = next at hlive hstored heffect
  generalize engine.lifecycle.resultOf call = result at hdecision hreported heffect
  cases heffect with
  | rejected => exact Or.inl hlive
  | entered message hvalid hnew =>
      rcases hlive.of_enroll with hbefore | ⟨hkey, hcreated⟩
      · exact Or.inl hbefore
      · rw [OrderLifecycleEngine.find_enroll, if_pos hkey] at hstored
        exact Or.inr
          { accepted := hdecision
            action := Or.inl rfl
            reported := hreported.trans hkey
            stored := hstored.trans (congrArg some hcreated)
            clears := hcreated ▸ hcleared }
  | replaced message oldOrder hvalid hold hnew =>
      rcases hlive.of_enroll with hbefore | ⟨hkey, hcreated⟩
      · exact Or.inl hbefore.of_erase
      · rw [OrderLifecycleEngine.find_enroll, if_pos hkey] at hstored
        exact Or.inr
          { accepted := hdecision
            action := Or.inr rfl
            reported := hreported.trans hkey
            stored := hstored.trans (congrArg some hcreated)
            clears := hcreated ▸ hcleared oldOrder hold }
  | removed call status userRefNum removed hstatus hremoved => exact Or.inl hlive.of_erase
  | reduced call status userRefNum reduced quantity hstatus hreduced hquantity =>
      exact Or.inl (hlive.of_setLeaves hreduced)

/-- A live order was there before, or the operation is the call that created it. -/
theorem step_origin (engine : SimulatedExecutionEngine) (op : EngineOp)
    (hlive : LiveFrom ref created (engine.step op).lifecycle) :
    LiveFrom ref created engine.lifecycle ∨
      ∃ call, op = .call call ∧ engine.Creates call ref created := by
  cases op with
  | reconfigure risk => exact Or.inl hlive
  | call call =>
      change LiveFrom ref created (engine.submit call).2.lifecycle at hlive
      rcases submit_cases engine call with ⟨-, hsame⟩ | ⟨hcleared, hsubmit⟩
      · rw [hsame] at hlive
        exact Or.inl hlive
      · have hnext : (engine.submit call).2.lifecycle = engine.lifecycle.after call := by
          rw [hsubmit]
          rfl
        rw [hnext] at hlive
        rcases liveFrom_or_creates hcleared hsubmit hlive with hbefore | hcreates
        · exact Or.inl hbefore
        · exact Or.inr ⟨call, rfl, hcreates⟩

theorem origin_of_live {risk : RiskSupervisor} {ops : List EngineOp}
    (hlive : LiveFrom ref created (run { risk := risk } ops).lifecycle) :
    ∃ before call after, ops = before ++ .call call :: after ∧
      (run { risk := risk } before).Creates call ref created := by
  have hinit : ¬LiveFrom ref created ({ risk := risk } : SimulatedExecutionEngine).lifecycle := by
    rintro ⟨order, hfind, -⟩
    rw [OrderLifecycleEngine.find, Std.ExtTreeMap.getElem?_empty] at hfind
    cases hfind
  rcases exists_origin
    (fun engine : SimulatedExecutionEngine => LiveFrom ref created engine.lifecycle)
    (fun engine op => ∃ call, op = EngineOp.call call ∧ engine.Creates call ref created)
    step_origin hinit hlive with ⟨before, op, after, hsplit, call, rfl, hcreates⟩
  exact ⟨before, call, after, hsplit, hcreates⟩

end Origin

/-- Every live order came from an accepted call at a moment when the risk supervisor allowed
its quantity, price and symbol; neither a halt nor a refused call lets an order change. -/
theorem risk_safety (risk : RiskSupervisor) (ops : List EngineOp) :
    let engine := run { risk := risk } ops
    (∀ ref order, engine.find ref = some order →
      ∃ before call after, ops = before ++ .call call :: after ∧
        let origin := run { risk := risk } before
        (actionOf call = .enter ∨ actionOf call = .replace) ∧
        (origin.submit call).1.decision = .accepted ∧
        (origin.submit call).1.userRefNum = ref ∧
        (origin.submit call).2.find ref = some (asEntered order) ∧
        origin.risk.globalHalted = false ∧ origin.risk.cancelOnly = false ∧
        origin.risk.isSymbolEnabled order.symbol = true ∧
        order.originalQuantity ≤ origin.risk.limits.maxOrderQuantity ∧
        order.price.toNat * order.originalQuantity.toNat ≤
          origin.risk.limits.maxOrderNotional.toNat) ∧
    (∀ call, engine.risk.globalHalted = true → actionOf call ≠ .execute →
      (engine.submit call).2.lifecycle = engine.lifecycle) ∧
    ∀ call, (engine.submit call).1.decision = .rejected →
      (engine.submit call).2.lifecycle = engine.lifecycle := by
  intro engine
  refine ⟨?_, fun _ => lifecycle_of_globalHalted, fun _ => lifecycle_of_rejected⟩
  intro ref order hfind
  rcases origin_of_live ⟨order, hfind, rfl⟩ with ⟨before, call, after, hsplit, hcreates⟩
  have hclears := hcreates.clears
  exact ⟨before, call, after, hsplit, hcreates.action, hcreates.accepted, hcreates.reported,
    hcreates.stored, hclears.not_halted, hclears.not_cancelOnly, hclears.symbol_enabled,
    hclears.quantity_le, hclears.notional_le⟩

/-- An order of ten, four of them executed, is live when the supervisor halts, and the cancel
that follows is refused. -/
example :
    let symbol : Symbol := List.Vector.replicate 8 65
    let message : EnterOrderMessage := ⟨1, .buy, 10, symbol, 5, .day, .visible, .agency,
      .notEligible, .continuousMarket, List.Vector.replicate 14 32, []⟩
    let engine := run {} [.call (.enter message), .call (.execute 1 4),
      .reconfigure { globalHalted := true }]
    (engine.find 1).map (fun order => (order.originalQuantity, order.leavesQuantity)) =
        some (10, 6) ∧
      (engine.submit (.cancel ⟨1, 0, []⟩)).1.decision = .rejected := by
  decide +kernel

end SimulatedExecutionEngine

end Fgep.Execution
