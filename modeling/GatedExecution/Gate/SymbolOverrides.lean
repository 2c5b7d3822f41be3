import GatedExecution.Gate.RiskAgreement
import GatedExecution.Lib.Histories
import GatedExecution.Lib.Overrides

/-!
# Symbol overrides over configuration histories

The guardrail state and the risk supervisor keep the symbols that were enabled and those
that were disabled in two sets.  What a symbol's override is can be read off the
configuration history: the last call for the symbol since the overrides were cleared.

Main results:

- Theorem {lit}`configureGuardrail_overridden`: one configuration operation keeps the two
  sets and the default what the history says they are.
- Theorem {lit}`symbol_enablement_is_last_writer`: both classes, after any history.
-/

namespace Fgep.Gate

open Fgep.Core Histories Ouch Overrides Risk

/-! ## What a history says -/

def clearsOverrides : ConfigOp → Bool
  | .clearSymbolOverrides => true
  | _ => false

/-- Whether an operation enables or disables a symbol. -/
def overrideFor (symbol : Symbol) : ConfigOp → Option Bool
  | .enableSymbol enabled => if symbol = enabled then some true else none
  | .disableSymbol disabled => if symbol = disabled then some false else none
  | _ => none

def newDefault : ConfigOp → Option Bool
  | .setDefaultSymbolEnabled enabled => some enabled
  | _ => none

/-- What the last call that enabled or disabled the symbol did, among those since the
overrides were cleared. -/
def lastOverride (ops : List ConfigOp) (symbol : Symbol) : Option Bool :=
  latestSince clearsOverrides (overrideFor symbol) ops

/-- Both classes start with symbols enabled by default. -/
def currentDefault (ops : List ConfigOp) : Bool :=
  (latest newDefault ops).getD true

/-! ## The sets follow the history -/

structure Overridden (ops : List ConfigOp) (state : GuardrailState) : Prop where
  sets : Represents state.enabledSymbols state.disabledSymbols (lastOverride ops)
  default_eq : state.defaultSymbolEnabled = currentDefault ops

theorem lastOverride_concat (ops : List ConfigOp) (op : ConfigOp) (symbol : Symbol) :
    lastOverride (ops ++ [op]) symbol =
      if clearsOverrides op then none else (overrideFor symbol op).or (lastOverride ops symbol) :=
  latestSince_concat _ _ ops op

/-- An operation that enables or disables one symbol changes that symbol's override. -/
theorem lastOverride_concat_update {ops : List ConfigOp} {op : ConfigOp} {symbol : Symbol}
    {enabled : Bool} (hkept : clearsOverrides op = false)
    (hop : ∀ other, overrideFor other op = if other = symbol then some enabled else none) :
    lastOverride (ops ++ [op]) = Function.update (lastOverride ops) symbol (some enabled) := by
  ext1 other
  rw [lastOverride_concat, hkept, hop]
  by_cases hsymbol : other = symbol <;> simp [hsymbol]

/-- An operation that says nothing about any symbol leaves the overrides. -/
theorem lastOverride_concat_other {ops : List ConfigOp} {op : ConfigOp}
    (hkept : clearsOverrides op = false) (hop : ∀ symbol, overrideFor symbol op = none) :
    lastOverride (ops ++ [op]) = lastOverride ops := by
  ext1 symbol
  simp [lastOverride_concat, hkept, hop]

theorem currentDefault_concat (ops : List ConfigOp) (op : ConfigOp) :
    currentDefault (ops ++ [op]) = (newDefault op).getD (currentDefault ops) := by
  rw [currentDefault, latest_concat]
  cases newDefault op <;> rfl

theorem configureGuardrail_overridden {ops : List ConfigOp} {state : GuardrailState}
    (hstate : Overridden ops state) (op : ConfigOp) :
    Overridden (ops ++ [op]) (configureGuardrail state op) := by
  have hdefault := currentDefault_concat ops op
  cases op with
  | enableSymbol symbol =>
      constructor
      · rw [lastOverride_concat_update rfl (fun _ => rfl)]
        exact hstate.sets.turnOn symbol
      · exact hstate.default_eq.trans hdefault.symm
  | disableSymbol symbol =>
      constructor
      · rw [lastOverride_concat_update rfl (fun _ => rfl)]
        exact hstate.sets.turnOff symbol
      · exact hstate.default_eq.trans hdefault.symm
  | clearSymbolOverrides =>
      have hcleared : lastOverride (ops ++ [.clearSymbolOverrides]) = fun _ => none := by
        ext1 symbol
        exact lastOverride_concat ops _ symbol
      constructor
      · rw [hcleared]
        exact Represents.empty
      · exact hstate.default_eq.trans hdefault.symm
  | setDefaultSymbolEnabled enabled =>
      constructor
      · rw [lastOverride_concat_other rfl (fun _ => rfl)]
        exact hstate.sets
      · exact hdefault.symm
  | setLimits | setGlobalHalted | setCancelOnly =>
      constructor
      · rw [lastOverride_concat_other rfl (fun _ => rfl)]
        exact hstate.sets
      · exact hstate.default_eq.trans hdefault.symm

theorem configured_overridden (limits : GuardrailLimits) (ops : List ConfigOp) :
    Overridden ops (ops.foldl configureGuardrail { limits := limits }) := by
  induction ops using List.reverseRecOn with
  | nil => exact ⟨Represents.empty, rfl⟩
  | append_singleton front op ih =>
      rw [List.foldl_append]
      exact configureGuardrail_overridden ih op

theorem Overridden.isSymbolEnabled_eq {ops : List ConfigOp} {state : GuardrailState}
    (hstate : Overridden ops state) (symbol : Symbol) :
    state.isSymbolEnabled symbol = (lastOverride ops symbol).getD (currentDefault ops) := by
  rw [← hstate.default_eq]
  exact hstate.sets.lookup state.defaultSymbolEnabled symbol

/-- Whether a symbol is enabled is what the last call for it says, and else the default. -/
theorem symbol_enablement_is_last_writer (maxOrderQuantity : Quantity)
    (maxOrderNotional : Notional) (ops : List ConfigOp) (symbol : Symbol) :
    let state := ops.foldl configureGuardrail { limits := ⟨maxOrderQuantity, maxOrderNotional⟩ }
    let risk := ops.foldl configureRisk { limits := ⟨maxOrderQuantity, maxOrderNotional⟩ }
    Disjoint state.enabledSymbols state.disabledSymbols ∧
    state.isSymbolEnabled symbol = (lastOverride ops symbol).getD (currentDefault ops) ∧
    Disjoint risk.enabledSymbols risk.disabledSymbols ∧
    risk.isSymbolEnabled symbol = (lastOverride ops symbol).getD (currentDefault ops) := by
  intro state risk
  have hstate : Overridden ops state := configured_overridden _ ops
  have hagrees : Agrees risk state := configured_agree maxOrderQuantity maxOrderNotional ops
  have hdisjoint := hstate.sets.disjoint
  have henabled := hstate.isSymbolEnabled_eq symbol
  refine ⟨hdisjoint, henabled, ?_, ?_⟩
  · rw [hagrees.enabledSymbols, hagrees.disabledSymbols]
    exact hdisjoint
  · rw [hagrees.isSymbolEnabled_eq]
    exact henabled

end Fgep.Gate
