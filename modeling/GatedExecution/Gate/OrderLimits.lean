import GatedExecution.Gate.GuardrailState
import GatedExecution.Risk.RiskSupervisor

/-!
# Order limits in unbounded integers

The guardrail check and the risk supervisor's check of an enter compare 32-bit and
64-bit numbers.  Here the limits are stated over natural numbers, where no product can
wrap, and both checks are shown to test exactly them.

Main results:

- Theorems {lit}`clears_iff_withinLimits` and {lit}`risk_clears_iff_withinLimits`: the
  conditions of the two classes as limits over natural numbers.
- Theorem {lit}`order_limits_are_exact`: what both checks decide and report.
-/

namespace Fgep.Gate

open Fgep.Core Ouch Risk

/-- What an enter or a replace has to satisfy, over natural numbers. -/
structure WithinLimits (globalHalted cancelOnly symbolEnabled : Bool)
    (maxOrderQuantity maxOrderNotional quantity price : Nat) : Prop where
  not_halted : globalHalted = false
  not_cancelOnly : cancelOnly = false
  symbol_enabled : symbolEnabled = true
  quantity_pos : 0 < quantity
  quantity_lt : quantity < 1000000
  price_pos : 0 < price
  quantity_le : quantity ≤ maxOrderQuantity
  notional_le : price * quantity ≤ maxOrderNotional

/-! ## The conditions of the two classes -/

theorem isValidEnterOrReplaceQuantity_iff (quantity : Quantity) :
    isValidEnterOrReplaceQuantity quantity = true ↔
      0 < quantity.toNat ∧ quantity.toNat < 1000000 := by
  simp [isValidEnterOrReplaceQuantity, UInt32.lt_iff_toNat_lt]

theorem isValidPrice4_iff (price : Price4) :
    isValidPrice4 price = true ↔ 0 < price.toNat := by
  simp [isValidPrice4, UInt64.lt_iff_toNat_lt]

theorem clears_iff_withinLimits {state : GuardrailState} {order : GuardrailOrder} :
    state.Clears order ↔ order.hasSymbol = true ∧
      WithinLimits state.globalHalted state.cancelOnly (state.isSymbolEnabled order.symbol)
        state.limits.maxOrderQuantity.toNat state.limits.maxOrderNotional.toNat
        order.quantity.toNat order.price.toNat := by
  constructor
  · intro hclears
    have hquantity := (isValidEnterOrReplaceQuantity_iff _).mp hclears.quantity_valid
    have hprice := (isValidPrice4_iff _).mp hclears.price_valid
    exact ⟨hclears.has_symbol, hclears.not_halted, hclears.not_cancelOnly,
      hclears.symbol_enabled, hquantity.1, hquantity.2, hprice, hclears.quantity_le,
      hclears.notional_le⟩
  · rintro ⟨hsymbol, hlimits⟩
    exact {
      not_halted := hlimits.not_halted
      not_cancelOnly := hlimits.not_cancelOnly
      quantity_valid :=
        (isValidEnterOrReplaceQuantity_iff _).mpr ⟨hlimits.quantity_pos, hlimits.quantity_lt⟩
      price_valid := (isValidPrice4_iff _).mpr hlimits.price_pos
      has_symbol := hsymbol
      symbol_enabled := hlimits.symbol_enabled
      quantity_le := hlimits.quantity_le
      notional_le := hlimits.notional_le }

theorem risk_clears_iff_withinLimits {risk : RiskSupervisor} {quantity : Quantity}
    {price : Price4} {symbol : Symbol} :
    risk.Clears quantity price symbol ↔
      WithinLimits risk.globalHalted risk.cancelOnly (risk.isSymbolEnabled symbol)
        risk.limits.maxOrderQuantity.toNat risk.limits.maxOrderNotional.toNat
        quantity.toNat price.toNat := by
  constructor
  · intro hclears
    have hquantity := (isValidEnterOrReplaceQuantity_iff _).mp hclears.quantity_valid
    have hprice := (isValidPrice4_iff _).mp hclears.price_valid
    exact ⟨hclears.not_halted, hclears.not_cancelOnly, hclears.symbol_enabled, hquantity.1,
      hquantity.2, hprice, hclears.quantity_le, hclears.notional_le⟩
  · intro hlimits
    exact {
      not_halted := hlimits.not_halted
      not_cancelOnly := hlimits.not_cancelOnly
      symbol_enabled := hlimits.symbol_enabled
      quantity_valid :=
        (isValidEnterOrReplaceQuantity_iff _).mpr ⟨hlimits.quantity_pos, hlimits.quantity_lt⟩
      price_valid := (isValidPrice4_iff _).mpr hlimits.price_pos
      quantity_le := hlimits.quantity_le
      notional_le := hlimits.notional_le }

/-! ## The reported notional -/

theorem check_notional_of_maxOrderNotional {state : GuardrailState} {order : GuardrailOrder}
    (hreason : (state.check order).rejectReason = .maxOrderNotional) :
    (state.check order).notional = orderNotional order.quantity order.price := by
  revert hreason
  unfold GuardrailState.check
  -- One branch reports the product; every other one has another reason.
  repeat'
    refine iteInduction (motive := fun result : GuardrailResult =>
      result.rejectReason = .maxOrderNotional →
        result.notional = orderNotional order.quantity order.price) (fun _ => ?_) (fun _ => ?_)
  all_goals
    intro hreason
    first | rfl | cases hreason

theorem risk_notional_of_maxOrderNotional {risk : RiskSupervisor} {userRefNum : UserRefNum}
    {quantity : Quantity} {price : Price4} {symbol : Symbol}
    (hreason : (risk.checkCommonOrderRisk userRefNum quantity price symbol).rejectReason =
      .maxOrderNotional) :
    (risk.checkCommonOrderRisk userRefNum quantity price symbol).notional =
      orderNotional quantity price := by
  revert hreason
  unfold RiskSupervisor.checkCommonOrderRisk
  repeat'
    refine iteInduction (motive := fun result : RiskResult =>
      result.rejectReason = .maxOrderNotional →
        result.notional = orderNotional quantity price) (fun _ => ?_) (fun _ => ?_)
  all_goals
    intro hreason
    first | rfl | cases hreason

/-- A product within a 64-bit limit is reported as it is. -/
theorem toNat_orderNotional_of_le {quantity : Quantity} {price : Price4} {limit : Notional}
    (hle : price.toNat * quantity.toNat ≤ limit.toNat) :
    (orderNotional quantity price).toNat = price.toNat * quantity.toNat := by
  have hlimit := limit.toNat_lt
  rw [toNat_orderNotional]
  omega

/-- Both classes allow an order exactly when it is within the limits over the natural numbers:
the notional is computed without overflow, or saturated where it would be. -/
theorem order_limits_are_exact (state : GuardrailState) (order : GuardrailOrder)
    (hkind : order.kind = .enter ∨ order.kind = .replace) (risk : RiskSupervisor)
    (message : EnterOrderMessage) :
    let checked := state.check order
    let product := order.price.toNat * order.quantity.toNat
    let entered := risk.checkEnter message
    let enteredProduct := message.price.toNat * message.quantity.toNat
    ((checked.allowed = true ↔ order.hasSymbol = true ∧
        WithinLimits state.globalHalted state.cancelOnly (state.isSymbolEnabled order.symbol)
          state.limits.maxOrderQuantity.toNat state.limits.maxOrderNotional.toNat
          order.quantity.toNat order.price.toNat) ∧
      (checked.allowed = true → checked.notional.toNat = product) ∧
      (checked.rejectReason = .maxOrderNotional →
        checked.notional.toNat = min product (2 ^ 64 - 1)) ∧
      orderNotionalChecked order.quantity order.price =
        some (GuardrailState.calculateNotional order.quantity order.price) ∧
      exceedsNotionalChecked state.limits.maxOrderNotional order.quantity order.price =
        some (state.exceedsNotionalLimit order.quantity order.price)) ∧
    (entered.accepted = true ↔
        WithinLimits risk.globalHalted risk.cancelOnly (risk.isSymbolEnabled message.symbol)
          risk.limits.maxOrderQuantity.toNat risk.limits.maxOrderNotional.toNat
          message.quantity.toNat message.price.toNat) ∧
      (entered.accepted = true → entered.notional.toNat = enteredProduct) ∧
      (entered.rejectReason = .maxOrderNotional →
        entered.notional.toNat = min enteredProduct (2 ^ 64 - 1)) ∧
      orderNotionalChecked message.quantity message.price =
        some (RiskSupervisor.calculateOrderNotional message.quantity message.price) ∧
      exceedsNotionalChecked risk.limits.maxOrderNotional message.quantity message.price =
        some (risk.exceedsNotionalLimit message.quantity message.price) := by
  intro checked product entered enteredProduct
  have hcancel : GuardrailState.isCancel order.kind = false := by
    rcases hkind with henter | hreplace
    · rw [henter]
      rfl
    · rw [hreplace]
      rfl
  have hchecked : checked.allowed = true ↔ state.Clears order :=
    GuardrailState.check_allowed_iff_of_not_isCancel hcancel
  have hentered : entered.accepted = true ↔
      risk.Clears message.quantity message.price message.symbol :=
    RiskSupervisor.checkCommonOrderRisk_accepted_iff message.userRefNum
  refine ⟨⟨hchecked.trans clears_iff_withinLimits, ?_, ?_, orderNotionalChecked_eq _ _,
      exceedsNotionalChecked_eq _ _ _⟩,
    hentered.trans risk_clears_iff_withinLimits, ?_, ?_, orderNotionalChecked_eq _ _,
    exceedsNotionalChecked_eq _ _ _⟩
  · intro hallowed
    have hclears := hchecked.mp hallowed
    have hreport : checked = _ := hclears.check_eq hcancel
    rw [hreport]
    exact toNat_orderNotional_of_le hclears.notional_le
  · intro hreason
    rw [check_notional_of_maxOrderNotional hreason]
    exact toNat_orderNotional _ _
  · intro haccepted
    have hclears := hentered.mp haccepted
    have hreport : entered = _ := hclears.check_eq message.userRefNum
    rw [hreport]
    exact toNat_orderNotional_of_le hclears.notional_le
  · intro hreason
    have hnotional : entered.notional = _ := risk_notional_of_maxOrderNotional hreason
    rw [hnotional]
    exact toNat_orderNotional _ _

/-- Ten at price ten, against limits of 99 and of 100. -/
theorem order_limits_are_exact_at_limit :
    let state : GuardrailState := { limits := ⟨10, 99⟩ }
    let risk : RiskSupervisor := { limits := ⟨10, 100⟩ }
    let message : EnterOrderMessage :=
      ⟨1, .buy, 10, emptySymbol, 10, .day, .visible, .agency, .eligible, .continuousMarket,
        List.Vector.replicate 14 32, []⟩
    let order := GuardrailState.makeEnterGuardrailOrder message
    (state.check order).rejectReason = .maxOrderNotional ∧
      (state.check order).notional.toNat = 100 ∧
      (risk.checkEnter message).accepted = true ∧
      (risk.checkEnter message).notional.toNat = 100 := by
  intro state risk message order
  have hexact := order_limits_are_exact state order (Or.inl rfl) risk message
  have hreason : (state.check order).rejectReason = .maxOrderNotional := by decide
  have haccepted : (risk.checkEnter message).accepted = true := by decide
  exact ⟨hreason, hexact.1.2.2.1 hreason, haccepted, hexact.2.2.1 haccepted⟩

end Fgep.Gate
