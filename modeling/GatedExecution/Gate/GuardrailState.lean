import GatedExecution.Core.Notional

/-!
# The guardrail state

{lit}`gate/guardrail_state.cpp`: the gate's own limits, switches and symbol overrides,
and the check of an order against them.  It repeats the risk supervisor's checks in
another order and over a common order type.

Main results:

- Theorem {lit}`check_allowed_iff_of_isCancel`: which cancels are allowed.
- Theorem {lit}`check_allowed_iff_of_not_isCancel`: which other orders are allowed.
- Theorems {lit}`Clears.check_eq` and {lit}`check_of_isCancel`: what an allowing check
  reports.
-/

namespace Fgep.Gate

open Fgep.Core Ouch

/-! ## Orders, limits and results -/

inductive GuardrailOrderKind where
  | enter
  | replace
  | cancel
deriving DecidableEq, Repr

inductive GuardrailDecision where
  | allowed
  | rejected
deriving DecidableEq, Repr

inductive GuardrailRejectReason where
  | none
  | globalHalt
  | cancelOnly
  | symbolMissing
  | symbolDisabled
  | invalidQuantity
  | invalidPrice
  | maxOrderQuantity
  | maxOrderNotional
deriving DecidableEq, Repr

structure GuardrailLimits where
  maxOrderQuantity : Quantity := 100000
  maxOrderNotional : Notional := 1000000000000
deriving DecidableEq

structure GuardrailOrder where
  kind : GuardrailOrderKind
  userRefNum : UserRefNum
  symbol : Symbol
  hasSymbol : Bool
  quantity : Quantity
  price : Price4
deriving DecidableEq

structure GuardrailResult where
  decision : GuardrailDecision
  rejectReason : GuardrailRejectReason
  kind : GuardrailOrderKind
  userRefNum : UserRefNum
  quantity : Quantity
  price : Price4
  notional : Notional
deriving DecidableEq

def GuardrailResult.allowed (result : GuardrailResult) : Bool :=
  result.decision = .allowed

def GuardrailResult.rejected (result : GuardrailResult) : Bool :=
  result.decision = .rejected

theorem GuardrailResult.rejected_eq_not (result : GuardrailResult) :
    result.rejected = !result.allowed := by
  unfold rejected allowed
  cases result.decision <;> rfl

/-- A symbol of eight zero bytes. -/
def emptySymbol : Symbol :=
  List.Vector.replicate 8 0

/-! ## Configuration -/

structure GuardrailState where
  limits : GuardrailLimits := {}
  globalHalted : Bool := false
  cancelOnly : Bool := false
  defaultSymbolEnabled : Bool := true
  enabledSymbols : Finset Symbol := ∅
  disabledSymbols : Finset Symbol := ∅
deriving DecidableEq

namespace GuardrailState

def setLimits (state : GuardrailState) (limits : GuardrailLimits) : GuardrailState :=
  { state with limits := limits }

def setGlobalHalted (state : GuardrailState) (halted : Bool) : GuardrailState :=
  { state with globalHalted := halted }

def setCancelOnly (state : GuardrailState) (enabled : Bool) : GuardrailState :=
  { state with cancelOnly := enabled }

def setDefaultSymbolEnabled (state : GuardrailState) (enabled : Bool) : GuardrailState :=
  { state with defaultSymbolEnabled := enabled }

def enableSymbol (state : GuardrailState) (symbol : Symbol) : GuardrailState :=
  { state with
    disabledSymbols := state.disabledSymbols.erase symbol
    enabledSymbols := insert symbol state.enabledSymbols }

def disableSymbol (state : GuardrailState) (symbol : Symbol) : GuardrailState :=
  { state with
    enabledSymbols := state.enabledSymbols.erase symbol
    disabledSymbols := insert symbol state.disabledSymbols }

def clearSymbolOverrides (state : GuardrailState) : GuardrailState :=
  { state with enabledSymbols := ∅, disabledSymbols := ∅ }

def isSymbolEnabled (state : GuardrailState) (symbol : Symbol) : Bool :=
  if symbol ∈ state.disabledSymbols then false
  else if symbol ∈ state.enabledSymbols then true
  else state.defaultSymbolEnabled

/-- What the two sets say about a symbol. -/
def symbolOverride (state : GuardrailState) (symbol : Symbol) : Option Bool :=
  if symbol ∈ state.disabledSymbols then some false
  else if symbol ∈ state.enabledSymbols then some true
  else none

theorem isSymbolEnabled_eq (state : GuardrailState) (symbol : Symbol) :
    state.isSymbolEnabled symbol =
      (state.symbolOverride symbol).getD state.defaultSymbolEnabled := by
  unfold isSymbolEnabled symbolOverride
  split_ifs <;> rfl

/-! ## The check -/

def allow (order : GuardrailOrder) (notional : Notional) : GuardrailResult where
  decision := .allowed
  rejectReason := .none
  kind := order.kind
  userRefNum := order.userRefNum
  quantity := order.quantity
  price := order.price
  notional := notional

/-- Most rejections report notional zero. -/
def reject (order : GuardrailOrder) (reason : GuardrailRejectReason) (notional : Notional) :
    GuardrailResult where
  decision := .rejected
  rejectReason := reason
  kind := order.kind
  userRefNum := order.userRefNum
  quantity := order.quantity
  price := order.price
  notional := notional

def requiresSymbol (kind : GuardrailOrderKind) : Bool :=
  kind = .enter || kind = .replace

def isCancel (kind : GuardrailOrderKind) : Bool :=
  kind = .cancel

def calculateNotional (quantity : Quantity) (price : Price4) : Notional :=
  orderNotional quantity price

def exceedsNotionalLimit (state : GuardrailState) (quantity : Quantity) (price : Price4) : Bool :=
  exceedsNotional state.limits.maxOrderNotional quantity price

def check (state : GuardrailState) (order : GuardrailOrder) : GuardrailResult :=
  if state.globalHalted then reject order .globalHalt 0
  else if state.cancelOnly && !isCancel order.kind then reject order .cancelOnly 0
  else if !isCancel order.kind then
    if !isValidEnterOrReplaceQuantity order.quantity then reject order .invalidQuantity 0
    else if !isValidPrice4 order.price then reject order .invalidPrice 0
    else if requiresSymbol order.kind && !order.hasSymbol then reject order .symbolMissing 0
    else if order.hasSymbol && !state.isSymbolEnabled order.symbol then
      reject order .symbolDisabled 0
    else if order.quantity > state.limits.maxOrderQuantity then reject order .maxOrderQuantity 0
    else if state.exceedsNotionalLimit order.quantity order.price then
      reject order .maxOrderNotional (calculateNotional order.quantity order.price)
    else allow order (calculateNotional order.quantity order.price)
  else if !isValidCancelQuantity order.quantity then reject order .invalidQuantity 0
  else allow order 0

/-! ## Orders from messages -/

def makeEnterGuardrailOrder (message : EnterOrderMessage) : GuardrailOrder where
  kind := .enter
  userRefNum := message.userRefNum
  symbol := message.symbol
  hasSymbol := true
  quantity := message.quantity
  price := message.price

def makeReplaceGuardrailOrder (message : ReplaceOrderMessage) (currentSymbol : Symbol) :
    GuardrailOrder where
  kind := .replace
  userRefNum := message.userRefNum
  symbol := currentSymbol
  hasSymbol := true
  quantity := message.quantity
  price := message.price

def makeCancelGuardrailOrder (message : CancelOrderMessage) : GuardrailOrder where
  kind := .cancel
  userRefNum := message.userRefNum
  symbol := emptySymbol
  hasSymbol := false
  quantity := message.quantity
  price := 0

/-! ## What is allowed -/

/-- What an order that is not a cancel has to satisfy. -/
structure Clears (state : GuardrailState) (order : GuardrailOrder) : Prop where
  not_halted : state.globalHalted = false
  not_cancelOnly : state.cancelOnly = false
  quantity_valid : isValidEnterOrReplaceQuantity order.quantity = true
  price_valid : isValidPrice4 order.price = true
  has_symbol : order.hasSymbol = true
  symbol_enabled : state.isSymbolEnabled order.symbol = true
  quantity_le : order.quantity ≤ state.limits.maxOrderQuantity
  notional_le : order.price.toNat * order.quantity.toNat ≤ state.limits.maxOrderNotional.toNat

section Check

variable {state : GuardrailState} {order : GuardrailOrder}

theorem check_of_globalHalted (hhalted : state.globalHalted = true) (order : GuardrailOrder) :
    state.check order = reject order .globalHalt 0 :=
  if_pos hhalted

theorem allowed_ite_reject {condition : Prop} [Decidable condition]
    {reason : GuardrailRejectReason} {notional : Notional} {result : GuardrailResult} :
    (if condition then reject order reason notional else result).allowed = true ↔
      ¬condition ∧ result.allowed = true := by
  by_cases hcondition : condition
  · rw [if_pos hcondition]
    exact iff_of_false nofun (fun h => h.1 hcondition)
  · rw [if_neg hcondition]
    exact ⟨fun hallowed => ⟨hcondition, hallowed⟩, fun h => h.2⟩

theorem requiresSymbol_eq_not_isCancel (kind : GuardrailOrderKind) :
    requiresSymbol kind = !isCancel kind := by
  cases kind <;> rfl

theorem Clears.check_eq (hclears : state.Clears order) (hkind : isCancel order.kind = false) :
    state.check order = allow order (calculateNotional order.quantity order.price) := by
  have hnotional : state.exceedsNotionalLimit order.quantity order.price = false :=
    (exceedsNotional_eq_false_iff _).mpr hclears.notional_le
  have hquantity : ¬order.quantity > state.limits.maxOrderQuantity :=
    UInt32.not_lt.mpr hclears.quantity_le
  simp only [check, hkind, hclears.not_halted, hclears.not_cancelOnly, hclears.quantity_valid,
    hclears.price_valid, hclears.has_symbol, hclears.symbol_enabled, hquantity, hnotional,
    Bool.not_true, Bool.not_false, Bool.and_false, Bool.false_and, Bool.false_eq_true, if_true,
    if_false]

theorem clears_of_allowed (hkind : isCancel order.kind = false)
    (hallowed : (state.check order).allowed = true) : state.Clears order := by
  rw [check, requiresSymbol_eq_not_isCancel, hkind, Bool.not_false, Bool.and_true,
    Bool.true_and, if_pos rfl] at hallowed
  -- One rejection after the other is ruled out, in the order of the source.
  simp only [allowed_ite_reject] at hallowed
  rcases hallowed with
    ⟨hhalted, hcancelOnly, hquantity, hprice, hmissing, hsymbol, hmax, hnotional, -⟩
  have hhas : order.hasSymbol = true := by simpa using hmissing
  exact {
    not_halted := Bool.eq_false_of_not_eq_true hhalted
    not_cancelOnly := Bool.eq_false_of_not_eq_true hcancelOnly
    quantity_valid := by simpa using hquantity
    price_valid := by simpa using hprice
    has_symbol := hhas
    symbol_enabled := by simpa [hhas] using hsymbol
    quantity_le := UInt32.not_lt.mp hmax
    notional_le := (exceedsNotional_eq_false_iff _).mp (Bool.eq_false_of_not_eq_true hnotional) }

theorem check_allowed_iff_of_not_isCancel (hkind : isCancel order.kind = false) :
    (state.check order).allowed = true ↔ state.Clears order := by
  refine ⟨clears_of_allowed hkind, ?_⟩
  intro hclears
  rw [hclears.check_eq hkind]
  rfl

theorem check_allowed_of_cancelOnly (hcancelOnly : state.cancelOnly = true)
    (hkind : order.kind ≠ .cancel) : (state.check order).allowed = false := by
  have hnot : isCancel order.kind = false := decide_eq_false hkind
  rw [Bool.eq_false_iff]
  intro hallowed
  have hclears := clears_of_allowed hnot hallowed
  rw [hclears.not_cancelOnly] at hcancelOnly
  exact Bool.false_ne_true hcancelOnly

theorem check_of_isCancel (hkind : isCancel order.kind = true)
    (hhalted : state.globalHalted = false) (hquantity : isValidCancelQuantity order.quantity = true) :
    state.check order = allow order 0 := by
  simp only [check, hkind, hhalted, hquantity, Bool.not_true, Bool.and_false,
    Bool.false_eq_true, if_false]

theorem check_allowed_iff_of_isCancel (hkind : isCancel order.kind = true) :
    (state.check order).allowed = true ↔
      state.globalHalted = false ∧ isValidCancelQuantity order.quantity = true := by
  constructor
  · intro hallowed
    rw [check, hkind, Bool.not_true, Bool.and_false] at hallowed
    simp only [allowed_ite_reject, Bool.false_eq_true, if_false] at hallowed
    rcases hallowed with ⟨hhalted, hquantity, -⟩
    exact ⟨Bool.eq_false_of_not_eq_true hhalted, by simpa using hquantity⟩
  · rintro ⟨hhalted, hquantity⟩
    rw [check_of_isCancel hkind hhalted hquantity]
    rfl

end Check

end GuardrailState

end Fgep.Gate
