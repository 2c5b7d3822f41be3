import GatedExecution.Ouch.Messages

/-!
# Notional of an order

The risk supervisor and the guardrail state each have their own copy of one
computation: price times quantity in 64 bits, with the product checked by a division
before it is formed.

Main results:

- Theorem {lit}`toNat_orderNotional`: the product, or the largest 64-bit number.
- Theorem {lit}`exceedsNotional_eq_false_iff`: the limit is tested on the exact product.
- Theorems {lit}`orderNotionalChecked_eq` and {lit}`exceedsNotionalChecked_eq`: no
  product on the way wraps and no divisor is zero.
-/

namespace Fgep.Core

open Ouch

abbrev Notional := UInt64

/-- {lit}`std::numeric_limits<Notional>::max()`. -/
def maxNotional : Notional := 0xFFFFFFFFFFFFFFFF

/-- The common body of {lit}`calculate_order_notional` and {lit}`calculate_notional`. -/
def orderNotional (quantity : Quantity) (price : Price4) : Notional :=
  if quantity = 0 || price = 0 then 0
  else if price > maxNotional / quantity.toUInt64 then maxNotional
  else price * quantity.toUInt64

/-- The common body of the two functions {lit}`exceeds_notional_limit`. -/
def exceedsNotional (maxOrderNotional : Notional) (quantity : Quantity) (price : Price4) : Bool :=
  if quantity = 0 || price = 0 then false
  else if price > maxNotional / quantity.toUInt64 then true
  else orderNotional quantity price > maxOrderNotional

section Notional

variable {quantity : Quantity} {price : Price4}

theorem product_eq_zero (hzero : (quantity = 0 || price = 0) = true) :
    price.toNat * quantity.toNat = 0 := by
  rw [Bool.or_eq_true, decide_eq_true_eq, decide_eq_true_eq] at hzero
  rcases hzero with rfl | rfl
  · exact Nat.mul_zero _
  · exact Nat.zero_mul _

/-- The division tells whether the product fits. -/
theorem gt_max_div_iff (hsome : ¬(quantity = 0 || price = 0) = true) :
    price > maxNotional / quantity.toUInt64 ↔ 2 ^ 64 - 1 < price.toNat * quantity.toNat := by
  have hpos : 0 < quantity.toNat := by
    rw [Bool.or_eq_true, not_or, decide_eq_true_eq] at hsome
    apply Nat.pos_of_ne_zero
    intro hzero
    exact hsome.1 (UInt32.toNat_inj.mp hzero)
  change maxNotional / quantity.toUInt64 < price ↔ _
  rw [UInt64.lt_iff_toNat_lt, UInt64.toNat_div, UInt32.toNat_toUInt64]
  exact Nat.div_lt_iff_lt_mul hpos

theorem toNat_product (hfits : price.toNat * quantity.toNat ≤ 2 ^ 64 - 1) :
    (price * quantity.toUInt64).toNat = price.toNat * quantity.toNat := by
  rw [UInt64.toNat_mul, UInt32.toNat_toUInt64]
  exact Nat.mod_eq_of_lt (by omega)

theorem toNat_orderNotional (quantity : Quantity) (price : Price4) :
    (orderNotional quantity price).toNat = min (price.toNat * quantity.toNat) (2 ^ 64 - 1) := by
  unfold orderNotional
  split
  · rename_i hzero
    rw [product_eq_zero hzero]
    rfl
  rename_i hsome
  split
  · rename_i hlarge
    have hlt := (gt_max_div_iff hsome).mp hlarge
    rw [Nat.min_eq_right (Nat.le_of_lt hlt)]
    rfl
  · rename_i hsmall
    have hfits := Nat.le_of_not_lt (fun hlt => hsmall ((gt_max_div_iff hsome).mpr hlt))
    rw [Nat.min_eq_left hfits, toNat_product hfits]

theorem exceedsNotional_eq_false_iff (maxOrderNotional : Notional) :
    exceedsNotional maxOrderNotional quantity price = false ↔
      price.toNat * quantity.toNat ≤ maxOrderNotional.toNat := by
  have hbound : maxOrderNotional.toNat ≤ 2 ^ 64 - 1 := by
    have hlt := maxOrderNotional.toNat_lt
    omega
  unfold exceedsNotional
  split
  · rename_i hzero
    rw [product_eq_zero hzero]
    exact iff_of_true rfl (Nat.zero_le _)
  rename_i hsome
  split
  · rename_i hlarge
    have hlt := (gt_max_div_iff hsome).mp hlarge
    exact iff_of_false nofun (by omega)
  · rename_i hsmall
    have hfits := Nat.le_of_not_lt (fun hlt => hsmall ((gt_max_div_iff hsome).mpr hlt))
    rw [decide_eq_false_iff_not]
    change ¬maxOrderNotional < _ ↔ _
    rw [UInt64.lt_iff_toNat_lt, toNat_orderNotional, Nat.min_eq_left hfits, Nat.not_lt]

end Notional

/-! ## Checked arithmetic

The same computations with every division and product checked: a zero divisor or a
product that leaves 64 bits ends the computation with nothing. -/

def checkedDiv (dividend divisor : UInt64) : Option UInt64 :=
  if divisor = 0 then none else some (dividend / divisor)

def checkedMul (left right : UInt64) : Option UInt64 :=
  if left.toNat * right.toNat < 2 ^ 64 then some (left * right) else none

def orderNotionalChecked (quantity : Quantity) (price : Price4) : Option Notional :=
  if quantity = 0 || price = 0 then some 0
  else do
    let bound ← checkedDiv maxNotional quantity.toUInt64
    if price > bound then some maxNotional
    else checkedMul price quantity.toUInt64

def exceedsNotionalChecked (maxOrderNotional : Notional) (quantity : Quantity)
    (price : Price4) : Option Bool :=
  if quantity = 0 || price = 0 then some false
  else do
    let bound ← checkedDiv maxNotional quantity.toUInt64
    if price > bound then some true
    else
      let notional ← orderNotionalChecked quantity price
      some (notional > maxOrderNotional)

section Checked

variable {quantity : Quantity} {price : Price4}

theorem checkedDiv_quantity (hsome : ¬(quantity = 0 || price = 0) = true)
    (dividend : UInt64) :
    checkedDiv dividend quantity.toUInt64 = some (dividend / quantity.toUInt64) := by
  have hquantity : quantity ≠ 0 := by
    intro hzero
    simp [hzero] at hsome
  have hdivisor : quantity.toUInt64 ≠ 0 := by
    intro hzero
    apply hquantity
    apply UInt32.toNat_inj.mp
    simpa using congrArg UInt64.toNat hzero
  simp [checkedDiv, hdivisor]

theorem checkedMul_quantity (hfits : price.toNat * quantity.toNat ≤ 2 ^ 64 - 1) :
    checkedMul price quantity.toUInt64 = some (price * quantity.toUInt64) := by
  have hlt : price.toNat * quantity.toUInt64.toNat < 2 ^ 64 := by
    rw [UInt32.toNat_toUInt64]
    omega
  exact if_pos hlt

theorem orderNotionalChecked_eq (quantity : Quantity) (price : Price4) :
    orderNotionalChecked quantity price = some (orderNotional quantity price) := by
  unfold orderNotionalChecked orderNotional
  by_cases hzero : (quantity = 0 || price = 0) = true
  · simp [hzero]
  · rw [if_neg hzero, if_neg hzero, checkedDiv_quantity hzero, Option.bind_eq_bind,
      Option.bind_some]
    by_cases hlarge : price > maxNotional / quantity.toUInt64
    · simp [hlarge]
    · have hfits := Nat.le_of_not_lt (fun hlt => hlarge ((gt_max_div_iff hzero).mpr hlt))
      simp [hlarge, checkedMul_quantity hfits]

theorem exceedsNotionalChecked_eq (maxOrderNotional : Notional) (quantity : Quantity)
    (price : Price4) :
    exceedsNotionalChecked maxOrderNotional quantity price =
      some (exceedsNotional maxOrderNotional quantity price) := by
  unfold exceedsNotionalChecked exceedsNotional
  by_cases hzero : (quantity = 0 || price = 0) = true
  · simp [hzero]
  · rw [if_neg hzero, if_neg hzero, checkedDiv_quantity hzero, orderNotionalChecked_eq,
      Option.bind_eq_bind, Option.bind_some]
    by_cases hlarge : price > maxNotional / quantity.toUInt64
    · simp [hlarge]
    · simp [hlarge]

end Checked

end Fgep.Core
