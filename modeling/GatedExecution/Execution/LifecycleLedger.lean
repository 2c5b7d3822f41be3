import GatedExecution.Execution.OrderLifecycle

/-!
# Quantities over a whole history

Every accepted result says how much it took from which order.  What an order was
accepted with is what later results took from it and what is left of it now.

Main results:

- Theorem {lit}`Effect.leavesOf_eq`: one call takes from an order what its result says.
- Theorem {lit}`Effect.stops_live_iff`: which results end an order.
- Theorem {lit}`quantity_conserved`: the ledger of a whole run.
-/

namespace Fgep.Execution

open Std Ouch Runs

/-! ## What results say about an order -/

namespace LifecycleResult

/-- What an accepted result takes from an order. -/
def decrementOf (ref : UserRefNum) (result : LifecycleResult) : Nat :=
  match result.status with
  | .canceled | .partiallyCanceled | .partiallyFilled | .filled =>
      if result.userRefNum = ref then result.decrementQuantity.toNat else 0
  | .replaced => if result.previousUserRefNum = ref then result.decrementQuantity.toNat else 0
  | .accepted | .rejected => 0

/-- What an accepted result executes of an order. -/
def executedOf (ref : UserRefNum) (result : LifecycleResult) : Nat :=
  match result.status with
  | .partiallyFilled | .filled =>
      if result.userRefNum = ref then result.decrementQuantity.toNat else 0
  | _ => 0

/-- The result reports filled, canceled or replaced for an order. -/
def retires (ref : UserRefNum) (result : LifecycleResult) : Bool :=
  match result.status with
  | .canceled | .filled => result.userRefNum = ref
  | .replaced => result.previousUserRefNum = ref
  | _ => false

theorem executedOf_le (ref : UserRefNum) (result : LifecycleResult) :
    result.executedOf ref ≤ result.decrementOf ref := by
  unfold executedOf decrementOf
  cases result.status with
  | partiallyFilled => exact Nat.le_refl _
  | filled => exact Nat.le_refl _
  | accepted => exact Nat.zero_le _
  | replaced => exact Nat.zero_le _
  | canceled => exact Nat.zero_le _
  | partiallyCanceled => exact Nat.zero_le _
  | rejected => exact Nat.zero_le _

theorem sum_executedOf_le (ref : UserRefNum) (results : List LifecycleResult) :
    (results.map (executedOf ref)).sum ≤ (results.map (decrementOf ref)).sum :=
  List.sum_le_sum (fun result _ => executedOf_le ref result)

end LifecycleResult

/-- The quantity a call asks for. -/
def LifecycleCall.quantity : LifecycleCall → Quantity
  | .enter message => message.quantity
  | .replace message => message.quantity
  | .cancel message => message.quantity
  | .execute _ executedQuantity => executedQuantity

namespace OrderLifecycleEngine

/-- What is left of an order; nothing when it is not live. -/
def leavesOf (engine : OrderLifecycleEngine) (ref : UserRefNum) : Nat :=
  match engine.find ref with
  | some order => order.leavesQuantity.toNat
  | none => 0

section Effect

variable {engine next : OrderLifecycleEngine} {call : LifecycleCall} {result : LifecycleResult}
  {ref : UserRefNum}

theorem leavesOf_enroll_of_ne (engine : OrderLifecycleEngine) {order : LiveOrder}
    (hne : order.userRefNum ≠ ref) : (engine.enroll order).leavesOf ref = engine.leavesOf ref := by
  rw [leavesOf, find_enroll, if_neg hne]
  rfl

theorem leavesOf_erase (engine : OrderLifecycleEngine) (erased : UserRefNum) :
    (engine.erase erased).leavesOf ref = if erased = ref then 0 else engine.leavesOf ref := by
  by_cases hkey : erased = ref
  · rw [leavesOf, find_erase, if_pos hkey, if_pos hkey]
  · rw [leavesOf, find_erase, if_neg hkey, if_neg hkey]
    rfl

theorem leavesOf_setLeaves (engine : OrderLifecycleEngine) (changed : UserRefNum)
    (order : LiveOrder) (leavesQuantity : Quantity) :
    (engine.setLeaves changed order leavesQuantity).leavesOf ref =
      if changed = ref then leavesQuantity.toNat else engine.leavesOf ref := by
  by_cases hkey : changed = ref
  · rw [leavesOf, find_setLeaves, if_pos hkey, if_pos hkey]
  · rw [leavesOf, find_setLeaves, if_neg hkey, if_neg hkey]
    rfl

theorem leavesOf_of_find {order : LiveOrder} (hlive : engine.find ref = some order) :
    engine.leavesOf ref = order.leavesQuantity.toNat := by
  rw [leavesOf, hlive]

/-- A number that is still to come belongs to no known order. -/
theorem ne_of_known {userRefNum : UserRefNum} (hknown : ref ≤ engine.highestUserRefNum)
    (hnew : engine.highestUserRefNum < userRefNum) : userRefNum ≠ ref :=
  (UInt32.ne_of_lt (UInt32.lt_of_le_of_lt hknown hnew)).symm

/-- One call takes from a known order what its result says. -/
theorem Effect.leavesOf_eq (heffect : Effect engine call result next)
    (hknown : ref ≤ engine.highestUserRefNum) :
    engine.leavesOf ref = result.decrementOf ref + next.leavesOf ref := by
  cases heffect with
  | rejected => exact (Nat.zero_add _).symm
  | entered message hvalid hnew =>
      have hne := ne_of_known hknown hnew
      rw [leavesOf_enroll_of_ne engine hne]
      exact (Nat.zero_add _).symm
  | replaced message oldOrder hvalid hold hnew =>
      have hne := ne_of_known hknown hnew
      rw [leavesOf_enroll_of_ne _ hne, leavesOf_erase, LifecycleResult.decrementOf]
      dsimp only
      split
      · rename_i horig
        rw [← horig, leavesOf_of_find hold, Nat.add_zero]
      · exact (Nat.zero_add _).symm
  | removed call status userRefNum order hstatus hlive =>
      have hdecrement : LifecycleResult.decrementOf ref
          { status := status, userRefNum := userRefNum,
            decrementQuantity := order.leavesQuantity } =
          if userRefNum = ref then order.leavesQuantity.toNat else 0 := by
        rcases hstatus with rfl | rfl <;> rfl
      rw [hdecrement, leavesOf_erase]
      split
      · rename_i hkey
        rw [← hkey, leavesOf_of_find hlive, Nat.add_zero]
      · exact (Nat.zero_add _).symm
  | reduced call status userRefNum order quantity hstatus hlive hquantity =>
      have hdecrement : LifecycleResult.decrementOf ref
          { status := status, userRefNum := userRefNum, decrementQuantity := quantity,
            leavesQuantity := order.leavesQuantity - quantity } =
          if userRefNum = ref then quantity.toNat else 0 := by
        rcases hstatus with rfl | rfl <;> rfl
      have hle := UInt32.le_iff_toNat_le.mp (UInt32.le_of_lt hquantity)
      rw [hdecrement, leavesOf_setLeaves]
      split
      · rename_i hkey
        rw [← hkey, leavesOf_of_find hlive, UInt32.toNat_sub_of_le _ _ (UInt32.le_of_lt hquantity)]
        exact (Nat.add_sub_cancel' hle).symm
      · exact (Nat.zero_add _).symm

/-- The quantity an accepted result reports as left is what is left. -/
theorem Effect.leavesQuantity_eq (heffect : Effect engine call result next)
    (haccepted : result.accepted = true) :
    result.leavesQuantity.toNat = next.leavesOf result.userRefNum := by
  cases heffect with
  | rejected => cases haccepted
  | entered message hvalid hnew =>
      exact (leavesOf_of_find (find_enroll_self engine (enteredOrder message))).symm
  | replaced message oldOrder hvalid hold hnew =>
      exact (leavesOf_of_find (find_enroll_self _ (replacement oldOrder message))).symm
  | removed call status userRefNum order hstatus hlive =>
      rw [leavesOf_erase, if_pos rfl]
      rfl
  | reduced call status userRefNum order quantity hstatus hlive hquantity =>
      rw [leavesOf_setLeaves, if_pos rfl]

/-- A live order stops being live exactly on the result that ends it. -/
theorem Effect.stops_live_iff (heffect : Effect engine call result next) {order : LiveOrder}
    (hknown : ref ≤ engine.highestUserRefNum) (hlive : engine.find ref = some order) :
    next.find ref = none ↔ result.retires ref = true := by
  cases heffect with
  | rejected =>
      rw [hlive]
      exact iff_of_false nofun nofun
  | entered message hvalid hnew =>
      have hne := ne_of_known hknown hnew
      rw [find_enroll]
      change (if message.userRefNum = ref then _ else _) = none ↔ _
      rw [if_neg hne, hlive]
      exact iff_of_false nofun nofun
  | replaced message oldOrder hvalid hold hnew =>
      have hne := ne_of_known hknown hnew
      rw [find_enroll, find_erase]
      change (if message.userRefNum = ref then _ else _) = none ↔
        decide (message.origUserRefNum = ref) = true
      rw [if_neg hne, hlive, decide_eq_true_eq]
      simp
  | removed call status userRefNum order' hstatus hlive' =>
      have hretires : LifecycleResult.retires ref
          { status := status, userRefNum := userRefNum,
            decrementQuantity := order'.leavesQuantity } = decide (userRefNum = ref) := by
        rcases hstatus with rfl | rfl <;> rfl
      rw [hretires, find_erase, hlive, decide_eq_true_eq]
      simp
  | reduced call status userRefNum order' quantity hstatus hlive' hquantity =>
      have hretires : LifecycleResult.retires ref
          { status := status, userRefNum := userRefNum, decrementQuantity := quantity,
            leavesQuantity := order'.leavesQuantity - quantity } = false := by
        rcases hstatus with rfl | rfl <;> rfl
      rw [hretires, find_setLeaves, hlive]
      split <;> exact iff_of_false nofun nofun

/-- What an accepted enter or replace stores. -/
theorem Effect.accepted_order (heffect : Effect engine call result next)
    (hstatus : result.status = .accepted ∨ result.status = .replaced) :
    result.userRefNum = next.highestUserRefNum ∧
      ∃ order, next.find result.userRefNum = some order ∧
        order.originalQuantity = call.quantity ∧ order.leavesQuantity = call.quantity := by
  cases heffect with
  | rejected => rcases hstatus with h | h <;> cases h
  | entered message hvalid hnew =>
      exact ⟨rfl, enteredOrder message, find_enroll_self _ _, rfl, rfl⟩
  | replaced message oldOrder hvalid hold hnew =>
      exact ⟨rfl, replacement oldOrder message, find_enroll_self _ _, rfl, rfl⟩
  | removed call status userRefNum order hkind hlive =>
      rcases hkind with rfl | rfl <;> rcases hstatus with h | h <;> cases h
  | reduced call status userRefNum order quantity hkind hlive hquantity =>
      rcases hkind with rfl | rfl <;> rcases hstatus with h | h <;> cases h

theorem Effect.highest_le (heffect : Effect engine call result next) :
    engine.highestUserRefNum ≤ next.highestUserRefNum := by
  cases heffect with
  | rejected => exact UInt32.le_refl _
  | entered message hvalid hnew => exact UInt32.le_of_lt hnew
  | replaced message oldOrder hvalid hold hnew => exact UInt32.le_of_lt hnew
  | removed => exact UInt32.le_refl _
  | reduced => exact UInt32.le_refl _

end Effect

/-! ## Whole runs -/

theorem leavesOf_run (engine : OrderLifecycleEngine) {ref : UserRefNum}
    (hknown : ref ≤ engine.highestUserRefNum) (calls : List LifecycleCall) :
    engine.leavesOf ref =
      ((engine.results calls).map (LifecycleResult.decrementOf ref)).sum +
        (engine.run calls).leavesOf ref := by
  have hkeeps : ∀ (engine : OrderLifecycleEngine) (call : LifecycleCall),
      ref ≤ engine.highestUserRefNum → ref ≤ (engine.after call).highestUserRefNum :=
    fun engine call hle => UInt32.le_trans hle (call_effect engine call).highest_le
  have hstep : ∀ (engine : OrderLifecycleEngine) (call : LifecycleCall),
      ref ≤ engine.highestUserRefNum → engine.leavesOf ref =
        LifecycleResult.decrementOf ref (engine.resultOf call) + (engine.after call).leavesOf ref :=
    fun engine call hle => (call_effect engine call).leavesOf_eq hle
  exact left_eq_sum_add_left hkeeps hstep hknown calls

/-- The quantity of an accepted order is what later results take from it and what is left, and
an order goes exactly when a result retires it. -/
theorem quantity_conserved (before later : List LifecycleCall) (call : LifecycleCall) :
    let engine := run {} before
    let result := engine.resultOf call
    let ref := result.userRefNum
    let laterResults := (engine.after call).results later
    ((result.status = .accepted ∨ result.status = .replaced) →
      (∃ order, (engine.after call).find ref = some order ∧
        order.originalQuantity = call.quantity) ∧
      call.quantity.toNat = (laterResults.map (LifecycleResult.decrementOf ref)).sum +
        (run {} (before ++ call :: later)).leavesOf ref ∧
      (laterResults.map (LifecycleResult.executedOf ref)).sum ≤ call.quantity.toNat) ∧
    (result.accepted = true → result.leavesQuantity.toNat = (engine.after call).leavesOf ref) ∧
    ∀ other, engine.contains other = true →
      ((engine.after call).contains other = false ↔ result.retires other = true) := by
  intro engine result ref laterResults
  have heffect := call_effect engine call
  refine ⟨?_, heffect.leavesQuantity_eq, ?_⟩
  · intro hstatus
    rcases heffect.accepted_order hstatus with ⟨hhighest, order, hfind, horiginal, hleaves⟩
    have hknown : ref ≤ (engine.after call).highestUserRefNum := hhighest ▸ UInt32.le_refl _
    have hfinal : run {} (before ++ call :: later) = (engine.after call).run later := by
      rw [run, List.foldl_append]
      rfl
    have hconserved := leavesOf_run (engine.after call) hknown later
    rw [leavesOf_of_find hfind, hleaves] at hconserved
    refine ⟨⟨order, hfind, horiginal⟩, ?_, ?_⟩
    · rw [hfinal]
      exact hconserved
    · have hexecuted := LifecycleResult.sum_executedOf_le ref laterResults
      have hdecremented : (laterResults.map (LifecycleResult.decrementOf ref)).sum ≤
          call.quantity.toNat := hconserved ▸ Nat.le_add_right _ _
      exact Nat.le_trans hexecuted hdecremented
  · intro other hcontains
    have hsome : (engine.find other).isSome = true := by
      rwa [contains, ExtTreeMap.contains_eq_isSome_getElem?] at hcontains
    rcases Option.isSome_iff_exists.mp hsome with ⟨order, hlive⟩
    have hknown := (run_engineInv initial_engineInv before other order hlive).le_highest
    rw [← heffect.stops_live_iff hknown hlive, contains, ExtTreeMap.contains_eq_isSome_getElem?,
      Option.isSome_eq_false_iff, Option.isNone_iff_eq_none]
    rfl

end OrderLifecycleEngine

end Fgep.Execution
