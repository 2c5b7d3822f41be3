import GatedExecution.Core.Notional

/-!
# The risk supervisor

{lit}`risk/risk_supervisor.cpp`: limits, switches and symbol overrides, and the checks
made against them before an order reaches the lifecycle engine.

Main results:

- Theorem {lit}`checkCommonOrderRisk_accepted_iff`: what an order has to satisfy.
- Theorem {lit}`checkCancel_accepted_iff`: what a cancel has to satisfy.
-/

namespace Fgep.Risk

open Fgep.Core Ouch

/-! ## Limits and results -/

inductive RiskDecision where
  | accepted
  | rejected
deriving DecidableEq, Repr

inductive RiskRejectReason where
  | none
  | globalHalt
  | symbolDisabled
  | cancelOnly
  | maxOrderQuantity
  | maxOrderNotional
  | invalidQuantity
  | invalidPrice
deriving DecidableEq, Repr

structure RiskLimits where
  maxOrderQuantity : Quantity := 100000
  maxOrderNotional : Notional := 1000000000000
deriving DecidableEq

structure RiskResult where
  decision : RiskDecision
  rejectReason : RiskRejectReason
  userRefNum : UserRefNum
  quantity : Quantity
  price : Price4
  notional : Notional
deriving DecidableEq

def RiskResult.accepted (result : RiskResult) : Bool :=
  result.decision = .accepted

def RiskResult.rejected (result : RiskResult) : Bool :=
  result.decision = .rejected

theorem RiskResult.rejected_eq_not (result : RiskResult) :
    result.rejected = !result.accepted := by
  unfold rejected accepted
  cases result.decision <;> rfl

/-! ## Configuration -/

structure RiskSupervisor where
  limits : RiskLimits := {}
  globalHalted : Bool := false
  cancelOnly : Bool := false
  defaultSymbolEnabled : Bool := true
  enabledSymbols : Finset Symbol := ∅
  disabledSymbols : Finset Symbol := ∅

namespace RiskSupervisor

def setLimits (risk : RiskSupervisor) (limits : RiskLimits) : RiskSupervisor :=
  { risk with limits := limits }

def setGlobalHalted (risk : RiskSupervisor) (halted : Bool) : RiskSupervisor :=
  { risk with globalHalted := halted }

def setCancelOnly (risk : RiskSupervisor) (enabled : Bool) : RiskSupervisor :=
  { risk with cancelOnly := enabled }

def setDefaultSymbolEnabled (risk : RiskSupervisor) (enabled : Bool) : RiskSupervisor :=
  { risk with defaultSymbolEnabled := enabled }

def enableSymbol (risk : RiskSupervisor) (symbol : Symbol) : RiskSupervisor :=
  { risk with
    disabledSymbols := risk.disabledSymbols.erase symbol
    enabledSymbols := insert symbol risk.enabledSymbols }

def disableSymbol (risk : RiskSupervisor) (symbol : Symbol) : RiskSupervisor :=
  { risk with
    enabledSymbols := risk.enabledSymbols.erase symbol
    disabledSymbols := insert symbol risk.disabledSymbols }

def clearSymbolOverrides (risk : RiskSupervisor) : RiskSupervisor :=
  { risk with enabledSymbols := ∅, disabledSymbols := ∅ }

def isSymbolEnabled (risk : RiskSupervisor) (symbol : Symbol) : Bool :=
  if symbol ∈ risk.disabledSymbols then false
  else if symbol ∈ risk.enabledSymbols then true
  else risk.defaultSymbolEnabled

/-! ## Checks -/

/-- Most rejections report notional zero. -/
def reject (reason : RiskRejectReason) (userRefNum : UserRefNum) (quantity : Quantity)
    (price : Price4) (notional : Notional) : RiskResult where
  decision := .rejected
  rejectReason := reason
  userRefNum := userRefNum
  quantity := quantity
  price := price
  notional := notional

def accept (userRefNum : UserRefNum) (quantity : Quantity) (price : Price4)
    (notional : Notional) : RiskResult where
  decision := .accepted
  rejectReason := .none
  userRefNum := userRefNum
  quantity := quantity
  price := price
  notional := notional

def calculateOrderNotional (quantity : Quantity) (price : Price4) : Notional :=
  orderNotional quantity price

def exceedsNotionalLimit (risk : RiskSupervisor) (quantity : Quantity) (price : Price4) : Bool :=
  exceedsNotional risk.limits.maxOrderNotional quantity price

def checkCommonOrderRisk (risk : RiskSupervisor) (userRefNum : UserRefNum)
    (quantity : Quantity) (price : Price4) (symbol : Symbol) : RiskResult :=
  if risk.globalHalted then reject .globalHalt userRefNum quantity price 0
  else if risk.cancelOnly then reject .cancelOnly userRefNum quantity price 0
  else if !risk.isSymbolEnabled symbol then reject .symbolDisabled userRefNum quantity price 0
  else if !isValidEnterOrReplaceQuantity quantity then
    reject .invalidQuantity userRefNum quantity price 0
  else if !isValidPrice4 price then reject .invalidPrice userRefNum quantity price 0
  else if quantity > risk.limits.maxOrderQuantity then
    reject .maxOrderQuantity userRefNum quantity price 0
  else if risk.exceedsNotionalLimit quantity price then
    reject .maxOrderNotional userRefNum quantity price (calculateOrderNotional quantity price)
  else accept userRefNum quantity price (calculateOrderNotional quantity price)

def checkEnter (risk : RiskSupervisor) (message : EnterOrderMessage) : RiskResult :=
  risk.checkCommonOrderRisk message.userRefNum message.quantity message.price message.symbol

def checkReplace (risk : RiskSupervisor) (message : ReplaceOrderMessage)
    (currentSymbol : Symbol) : RiskResult :=
  risk.checkCommonOrderRisk message.userRefNum message.quantity message.price currentSymbol

def checkCancel (risk : RiskSupervisor) (message : CancelOrderMessage) : RiskResult :=
  if risk.globalHalted then reject .globalHalt message.userRefNum message.quantity 0 0
  else if !isValidCancelQuantity message.quantity then
    reject .invalidQuantity message.userRefNum message.quantity 0 0
  else accept message.userRefNum message.quantity 0 0

/-! ## What is accepted -/

/-- What an enter or a replace has to satisfy. -/
structure Clears (risk : RiskSupervisor) (quantity : Quantity) (price : Price4)
    (symbol : Symbol) : Prop where
  not_halted : risk.globalHalted = false
  not_cancelOnly : risk.cancelOnly = false
  symbol_enabled : risk.isSymbolEnabled symbol = true
  quantity_valid : isValidEnterOrReplaceQuantity quantity = true
  price_valid : isValidPrice4 price = true
  quantity_le : quantity ≤ risk.limits.maxOrderQuantity
  notional_le : price.toNat * quantity.toNat ≤ risk.limits.maxOrderNotional.toNat

section Checks

variable {risk : RiskSupervisor} {quantity : Quantity} {price : Price4} {symbol : Symbol}

theorem Clears.check_eq (hclears : risk.Clears quantity price symbol)
    (userRefNum : UserRefNum) :
    risk.checkCommonOrderRisk userRefNum quantity price symbol =
      accept userRefNum quantity price (calculateOrderNotional quantity price) := by
  have hnotional : risk.exceedsNotionalLimit quantity price = false :=
    (exceedsNotional_eq_false_iff _).mpr hclears.notional_le
  have hquantity : ¬quantity > risk.limits.maxOrderQuantity :=
    UInt32.not_lt.mpr hclears.quantity_le
  simp [checkCommonOrderRisk, hclears.not_halted, hclears.not_cancelOnly, hclears.symbol_enabled,
    hclears.quantity_valid, hclears.price_valid, hquantity, hnotional]

theorem accepted_ite_reject {condition : Prop} [Decidable condition] {reason : RiskRejectReason}
    {userRefNum : UserRefNum} {notional : Notional} {result : RiskResult} :
    (if condition then reject reason userRefNum quantity price notional else result).accepted =
        true ↔ ¬condition ∧ result.accepted = true := by
  by_cases hcondition : condition
  · rw [if_pos hcondition]
    exact iff_of_false nofun (fun h => h.1 hcondition)
  · rw [if_neg hcondition]
    exact ⟨fun haccepted => ⟨hcondition, haccepted⟩, fun h => h.2⟩

theorem clears_of_accepted {userRefNum : UserRefNum}
    (haccepted : (risk.checkCommonOrderRisk userRefNum quantity price symbol).accepted = true) :
    risk.Clears quantity price symbol := by
  rw [checkCommonOrderRisk] at haccepted
  -- One rejection after the other is ruled out, in the order of the source.
  simp only [accepted_ite_reject] at haccepted
  rcases haccepted with ⟨hhalted, hcancelOnly, hsymbol, hquantity, hprice, hmax, hnotional, -⟩
  exact {
    not_halted := Bool.eq_false_of_not_eq_true hhalted
    not_cancelOnly := Bool.eq_false_of_not_eq_true hcancelOnly
    symbol_enabled := by simpa using hsymbol
    quantity_valid := by simpa using hquantity
    price_valid := by simpa using hprice
    quantity_le := UInt32.not_lt.mp hmax
    notional_le := (exceedsNotional_eq_false_iff _).mp (Bool.eq_false_of_not_eq_true hnotional) }

theorem checkCommonOrderRisk_accepted_iff (userRefNum : UserRefNum) :
    (risk.checkCommonOrderRisk userRefNum quantity price symbol).accepted = true ↔
      risk.Clears quantity price symbol := by
  refine ⟨clears_of_accepted, ?_⟩
  intro hclears
  rw [hclears.check_eq]
  rfl

theorem checkCancel_accepted_iff {message : CancelOrderMessage} :
    (risk.checkCancel message).accepted = true ↔
      risk.globalHalted = false ∧ isValidCancelQuantity message.quantity = true := by
  rw [checkCancel]
  simp only [accepted_ite_reject]
  constructor
  · rintro ⟨hhalted, hquantity, -⟩
    exact ⟨Bool.eq_false_of_not_eq_true hhalted, by simpa using hquantity⟩
  · rintro ⟨hhalted, hquantity⟩
    exact ⟨ne_true_of_eq_false hhalted, by simpa using hquantity, rfl⟩

end Checks

end RiskSupervisor

end Fgep.Risk
