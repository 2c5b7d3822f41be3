import GatedExecution.Gate.GuardrailState
import GatedExecution.Lib.Runs
import GatedExecution.Risk.RiskSupervisor

/-!
# Risk supervisor and guardrail state decide alike

The two classes keep the same configuration separately and check it in different
orders.  A configuration operation applied to both keeps their configurations equal,
and with equal configurations they accept the same orders and report the same data
about them.

Main results:

- Theorem {lit}`configure_agrees`: one configuration operation on both.
- Theorems {lit}`Agrees.order_alike` and {lit}`Agrees.cancel_alike`: with equal
  configurations the checks decide alike.
- Theorem {lit}`risk_and_guardrail_decide_alike`: the same after any configuration
  history.
-/

namespace Fgep.Gate

open Fgep.Core Ouch Runs Risk

/-! ## Configuration operations -/

inductive ConfigOp where
  | setLimits (maxOrderQuantity : Quantity) (maxOrderNotional : Notional)
  | setGlobalHalted (halted : Bool)
  | setCancelOnly (enabled : Bool)
  | setDefaultSymbolEnabled (enabled : Bool)
  | enableSymbol (symbol : Symbol)
  | disableSymbol (symbol : Symbol)
  | clearSymbolOverrides

def configureRisk (risk : RiskSupervisor) : ConfigOp → RiskSupervisor
  | .setLimits maxOrderQuantity maxOrderNotional =>
      risk.setLimits ⟨maxOrderQuantity, maxOrderNotional⟩
  | .setGlobalHalted halted => risk.setGlobalHalted halted
  | .setCancelOnly enabled => risk.setCancelOnly enabled
  | .setDefaultSymbolEnabled enabled => risk.setDefaultSymbolEnabled enabled
  | .enableSymbol symbol => risk.enableSymbol symbol
  | .disableSymbol symbol => risk.disableSymbol symbol
  | .clearSymbolOverrides => risk.clearSymbolOverrides

def configureGuardrail (state : GuardrailState) : ConfigOp → GuardrailState
  | .setLimits maxOrderQuantity maxOrderNotional =>
      state.setLimits ⟨maxOrderQuantity, maxOrderNotional⟩
  | .setGlobalHalted halted => state.setGlobalHalted halted
  | .setCancelOnly enabled => state.setCancelOnly enabled
  | .setDefaultSymbolEnabled enabled => state.setDefaultSymbolEnabled enabled
  | .enableSymbol symbol => state.enableSymbol symbol
  | .disableSymbol symbol => state.disableSymbol symbol
  | .clearSymbolOverrides => state.clearSymbolOverrides

/-! ## Equal configurations -/

structure Agrees (risk : RiskSupervisor) (state : GuardrailState) : Prop where
  maxOrderQuantity : risk.limits.maxOrderQuantity = state.limits.maxOrderQuantity
  maxOrderNotional : risk.limits.maxOrderNotional = state.limits.maxOrderNotional
  globalHalted : risk.globalHalted = state.globalHalted
  cancelOnly : risk.cancelOnly = state.cancelOnly
  defaultSymbolEnabled : risk.defaultSymbolEnabled = state.defaultSymbolEnabled
  enabledSymbols : risk.enabledSymbols = state.enabledSymbols
  disabledSymbols : risk.disabledSymbols = state.disabledSymbols

theorem configure_agrees {risk : RiskSupervisor} {state : GuardrailState}
    (hagrees : Agrees risk state) (op : ConfigOp) :
    Agrees (configureRisk risk op) (configureGuardrail state op) := by
  cases op with
  | setLimits maxOrderQuantity maxOrderNotional =>
      exact { hagrees with maxOrderQuantity := rfl, maxOrderNotional := rfl }
  | setGlobalHalted halted => exact { hagrees with globalHalted := rfl }
  | setCancelOnly enabled => exact { hagrees with cancelOnly := rfl }
  | setDefaultSymbolEnabled enabled => exact { hagrees with defaultSymbolEnabled := rfl }
  | enableSymbol symbol =>
      exact { hagrees with
        enabledSymbols := congrArg (insert symbol) hagrees.enabledSymbols
        disabledSymbols := congrArg (fun symbols => symbols.erase symbol) hagrees.disabledSymbols }
  | disableSymbol symbol =>
      exact { hagrees with
        enabledSymbols := congrArg (fun symbols => symbols.erase symbol) hagrees.enabledSymbols
        disabledSymbols := congrArg (insert symbol) hagrees.disabledSymbols }
  | clearSymbolOverrides => exact { hagrees with enabledSymbols := rfl, disabledSymbols := rfl }

/-! ## Equal decisions -/

/-- The same decision, and the same data when the order passes. -/
structure Alike (riskResult : RiskResult) (guardrailResult : GuardrailResult) : Prop where
  decision : riskResult.accepted = true ↔ guardrailResult.allowed = true
  userRefNum : riskResult.accepted = true → riskResult.userRefNum = guardrailResult.userRefNum
  quantity : riskResult.accepted = true → riskResult.quantity = guardrailResult.quantity
  price : riskResult.accepted = true → riskResult.price = guardrailResult.price
  notional : riskResult.accepted = true → riskResult.notional = guardrailResult.notional

namespace Agrees

variable {risk : RiskSupervisor} {state : GuardrailState}

theorem isSymbolEnabled_eq (hagrees : Agrees risk state) (symbol : Symbol) :
    risk.isSymbolEnabled symbol = state.isSymbolEnabled symbol := by
  rw [RiskSupervisor.isSymbolEnabled, GuardrailState.isSymbolEnabled, hagrees.disabledSymbols,
    hagrees.enabledSymbols, hagrees.defaultSymbolEnabled]

/-- What an order with a symbol has to satisfy is the same for both. -/
theorem clears_iff (hagrees : Agrees risk state) {order : GuardrailOrder}
    (hsymbol : order.hasSymbol = true) :
    risk.Clears order.quantity order.price order.symbol ↔ state.Clears order := by
  constructor
  · intro hclears
    exact {
      not_halted := hagrees.globalHalted ▸ hclears.not_halted
      not_cancelOnly := hagrees.cancelOnly ▸ hclears.not_cancelOnly
      quantity_valid := hclears.quantity_valid
      price_valid := hclears.price_valid
      has_symbol := hsymbol
      symbol_enabled := hagrees.isSymbolEnabled_eq order.symbol ▸ hclears.symbol_enabled
      quantity_le := hagrees.maxOrderQuantity ▸ hclears.quantity_le
      notional_le := hagrees.maxOrderNotional ▸ hclears.notional_le }
  · intro hclears
    exact {
      not_halted := hagrees.globalHalted ▸ hclears.not_halted
      not_cancelOnly := hagrees.cancelOnly ▸ hclears.not_cancelOnly
      symbol_enabled := hagrees.isSymbolEnabled_eq order.symbol ▸ hclears.symbol_enabled
      quantity_valid := hclears.quantity_valid
      price_valid := hclears.price_valid
      quantity_le := hagrees.maxOrderQuantity ▸ hclears.quantity_le
      notional_le := hagrees.maxOrderNotional ▸ hclears.notional_le }

/-- The checks of an enter or a replace. -/
theorem order_alike (hagrees : Agrees risk state) (order : GuardrailOrder)
    (hkind : GuardrailState.isCancel order.kind = false) (hsymbol : order.hasSymbol = true) :
    Alike (risk.checkCommonOrderRisk order.userRefNum order.quantity order.price order.symbol)
      (state.check order) := by
  have hdecision := (RiskSupervisor.checkCommonOrderRisk_accepted_iff order.userRefNum).trans
    ((hagrees.clears_iff hsymbol).trans
      (GuardrailState.check_allowed_iff_of_not_isCancel hkind).symm)
  by_cases hclears : risk.Clears order.quantity order.price order.symbol
  · have hrisk := hclears.check_eq order.userRefNum
    have hguardrail := ((hagrees.clears_iff hsymbol).mp hclears).check_eq hkind
    rw [hrisk, hguardrail] at hdecision ⊢
    exact ⟨hdecision, fun _ => rfl, fun _ => rfl, fun _ => rfl, fun _ => rfl⟩
  · have hnot := mt (RiskSupervisor.checkCommonOrderRisk_accepted_iff order.userRefNum).mp hclears
    exact ⟨hdecision, fun h => absurd h hnot, fun h => absurd h hnot, fun h => absurd h hnot,
      fun h => absurd h hnot⟩

theorem cancel_alike (hagrees : Agrees risk state) (message : CancelOrderMessage) :
    Alike (risk.checkCancel message)
      (state.check (GuardrailState.makeCancelGuardrailOrder message)) := by
  have hhalted := hagrees.globalHalted
  have hdecision : (risk.checkCancel message).accepted = true ↔
      (state.check (GuardrailState.makeCancelGuardrailOrder message)).allowed = true := by
    rw [RiskSupervisor.checkCancel_accepted_iff, hhalted,
      GuardrailState.check_allowed_iff_of_isCancel rfl]
    rfl
  by_cases haccepted : (risk.checkCancel message).accepted = true
  · rcases RiskSupervisor.checkCancel_accepted_iff.mp haccepted with ⟨hnot, hquantity⟩
    have hrisk : risk.checkCancel message =
        RiskSupervisor.accept message.userRefNum message.quantity 0 0 := by
      simp [RiskSupervisor.checkCancel, hnot, hquantity]
    have hguardrail : state.check (GuardrailState.makeCancelGuardrailOrder message) =
        GuardrailState.allow (GuardrailState.makeCancelGuardrailOrder message) 0 :=
      GuardrailState.check_of_isCancel rfl (hhalted ▸ hnot) hquantity
    rw [hrisk, hguardrail] at hdecision ⊢
    exact ⟨hdecision, fun _ => rfl, fun _ => rfl, fun _ => rfl, fun _ => rfl⟩
  · exact ⟨hdecision, fun h => absurd h haccepted, fun h => absurd h haccepted,
      fun h => absurd h haccepted, fun h => absurd h haccepted⟩

end Agrees

theorem configured_agree (maxOrderQuantity : Quantity) (maxOrderNotional : Notional)
    (ops : List ConfigOp) :
    Agrees (ops.foldl configureRisk { limits := ⟨maxOrderQuantity, maxOrderNotional⟩ })
      (ops.foldl configureGuardrail { limits := ⟨maxOrderQuantity, maxOrderNotional⟩ }) := by
  have hstart : Agrees { limits := ⟨maxOrderQuantity, maxOrderNotional⟩ }
      { limits := ⟨maxOrderQuantity, maxOrderNotional⟩ } := ⟨rfl, rfl, rfl, rfl, rfl, rfl, rfl⟩
  have hstep : ∀ (risk : RiskSupervisor) (state : GuardrailState) (op : ConfigOp), True →
      Agrees risk state → Agrees (configureRisk risk op) (configureGuardrail state op) :=
    fun _ _ op _ hagrees => configure_agrees hagrees op
  exact simulation_states hstep (fun _ _ => trivial) hstart

/-- After the same configuration operations the two classes decide alike on every order. -/
theorem risk_and_guardrail_decide_alike (maxOrderQuantity : Quantity)
    (maxOrderNotional : Notional) (ops : List ConfigOp) :
    let risk := ops.foldl configureRisk { limits := ⟨maxOrderQuantity, maxOrderNotional⟩ }
    let state := ops.foldl configureGuardrail { limits := ⟨maxOrderQuantity, maxOrderNotional⟩ }
    (∀ message, Alike (risk.checkEnter message)
      (state.check (GuardrailState.makeEnterGuardrailOrder message))) ∧
    (∀ message currentSymbol, Alike (risk.checkReplace message currentSymbol)
      (state.check (GuardrailState.makeReplaceGuardrailOrder message currentSymbol))) ∧
    ∀ message, Alike (risk.checkCancel message)
      (state.check (GuardrailState.makeCancelGuardrailOrder message)) := by
  intro risk state
  have hagrees : Agrees risk state := configured_agree maxOrderQuantity maxOrderNotional ops
  refine ⟨?_, ?_, hagrees.cancel_alike⟩
  · intro message
    exact hagrees.order_alike (GuardrailState.makeEnterGuardrailOrder message) rfl rfl
  · intro message currentSymbol
    exact hagrees.order_alike (GuardrailState.makeReplaceGuardrailOrder message currentSymbol)
      rfl rfl

end Fgep.Gate
