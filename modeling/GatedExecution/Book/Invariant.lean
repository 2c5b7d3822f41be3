import GatedExecution.Book.SymbolOrderBook
import GatedExecution.Lib.GroupedSums
import GatedExecution.Lib.Runs
import GatedExecution.Lib.TreeMapEntries

/-!
# The containers of a book agree

Each level is the summary of the orders that rest at it.  The orders form a list
grouped by side and price; entering, shrinking and withdrawing an order change
one element of it, and the level helpers follow that change as long as the
quantities of the state at hand fit their type.

Main results:

- Theorem {lit}`applyAll_ordersStored`: orders are stored under their own reference
  numbers after every run.
- Theorem {lit}`apply_consistent`: one message keeps the levels in step.
- Theorem {lit}`applyAll_consistent`: every run does.
- Theorem {lit}`applyAll_containersAgree`: what the invariant says of the three
  containers and of the calls of {lit}`remove_from_level`.
-/

namespace Fgep.Book

open Std Itch Instrument GroupedSums TreeMapEntries Runs

/-! ## Summaries of order lists -/

def RestingOrder.weight (order : RestingOrder) : Nat :=
  order.shares.toNat

theorem RestingOrder.IsValid.weight_pos {order : RestingOrder} (hvalid : order.IsValid) :
    0 < order.weight := by
  have hshares := hvalid.shares
  rw [isValidShares, decide_eq_true_iff] at hshares
  exact UInt32.lt_iff_toNat_lt.mp hshares

abbrev sharesAt (place : Side × Price4) (orders : List RestingOrder) : Nat :=
  groupTotal RestingOrder.place RestingOrder.weight place orders

abbrev ordersAt (place : Side × Price4) (orders : List RestingOrder) : Nat :=
  groupCount RestingOrder.place place orders

theorem sharesAt_cons_place (order : RestingOrder) (orders : List RestingOrder) :
    sharesAt order.place (order :: orders) = order.weight + sharesAt order.place orders := by
  rw [sharesAt, groupTotal_cons, if_pos rfl]

/-- The level a list of orders amounts to at a place. -/
def levelSummary (place : Side × Price4) (orders : List RestingOrder) : Option LevelState :=
  if ordersAt place orders = 0 then none
  else some ⟨UInt64.ofNat (sharesAt place orders), UInt64.ofNat (ordersAt place orders)⟩

theorem levelSummary_perm {orders orders' : List RestingOrder} (hperm : orders.Perm orders')
    (place : Side × Price4) : levelSummary place orders = levelSummary place orders' := by
  unfold levelSummary
  rw [sharesAt, sharesAt, ordersAt, ordersAt, groupTotal_perm hperm, groupCount_perm hperm]

/-- An order at another place does not show. -/
theorem levelSummary_cons_of_ne {order : RestingOrder} {place : Side × Price4}
    (orders : List RestingOrder) (hne : order.place ≠ place) :
    levelSummary place (order :: orders) = levelSummary place orders := by
  unfold levelSummary
  rw [sharesAt, sharesAt, ordersAt, ordersAt, groupTotal_cons, groupCount_cons, if_neg hne,
    if_neg hne, Nat.zero_add, Nat.zero_add]

theorem levelSummary_cons_place (order : RestingOrder) (orders : List RestingOrder) :
    levelSummary order.place (order :: orders) =
      some ⟨UInt64.ofNat (order.weight + sharesAt order.place orders),
        UInt64.ofNat (1 + ordersAt order.place orders)⟩ := by
  unfold levelSummary
  rw [sharesAt, ordersAt, groupTotal_cons, groupCount_cons, if_pos rfl, if_pos rfl,
    if_neg (by omega)]

/-- An order that joins its level turns the summary into the summary with it. -/
theorem joinLevel_levelSummary (order : RestingOrder) (orders : List RestingOrder) :
    joinLevel order (levelSummary order.place orders) =
      levelSummary order.place (order :: orders) := by
  have hshares : order.shares.toUInt64 = UInt64.ofNat order.weight :=
    (UInt64.ofNat_uInt32ToNat order.shares).symm
  rw [levelSummary_cons_place, joinLevel, hshares, Nat.add_comm, UInt64.ofNat_add,
    Nat.add_comm, UInt64.ofNat_add, levelSummary]
  split
  · rename_i hnone
    have hzero : sharesAt order.place orders = 0 := groupTotal_eq_zero_of_groupCount hnone
    rw [hzero, hnone]
    rfl
  · rfl

section Leaving

variable {order : RestingOrder} {shares : Shares} {total count : Nat}

/-- Nothing saturates when the level holds the shares that leave. -/
theorem removeFromState_ofNat (hle : shares.toNat ≤ total) (htotal : total < 2 ^ 64)
    (hpos : 0 < count) (hcount : count < 2 ^ 64) :
    removeFromState order shares ⟨UInt64.ofNat total, UInt64.ofNat count⟩ =
      ⟨UInt64.ofNat (total - shares.toNat),
        UInt64.ofNat (if shares = order.shares then count - 1 else count)⟩ := by
  have htotal' : (UInt64.ofNat total).toNat = total := UInt64.toNat_ofNat_of_lt' htotal
  have hcount' : (UInt64.ofNat count).toNat = count := UInt64.toNat_ofNat_of_lt' hcount
  have hquantity : (if shares.toUInt64 ≥ UInt64.ofNat total then 0
      else UInt64.ofNat total - shares.toUInt64) = UInt64.ofNat (total - shares.toNat) := by
    split
    · rename_i hge
      have hge' := UInt64.le_iff_toNat_le.mp hge
      rw [htotal', UInt32.toNat_toUInt64] at hge'
      rw [Nat.sub_eq_zero_of_le hge']
      rfl
    · rw [UInt64.ofNat_sub hle, UInt64.ofNat_uInt32ToNat]
  have hone : UInt64.ofNat count > 0 := UInt64.lt_iff_toNat_lt.mpr (by rw [hcount']; exact hpos)
  rw [removeFromState, hquantity]
  congr 1
  by_cases hall : shares = order.shares
  · rw [if_pos ⟨hall, hone⟩, if_pos hall, UInt64.ofNat_sub hpos]
    rfl
  · rw [if_neg (fun h => hall h.1), if_neg hall]

theorem isEmpty_ofNat (price : Price4) (htotal : total < 2 ^ 64) (hcount : count < 2 ^ 64) :
    isEmpty (makeLevel price ⟨UInt64.ofNat total, UInt64.ofNat count⟩) =
      decide (total = 0 ∨ count = 0) := by
  have htotal' : (UInt64.ofNat total).toNat = total := UInt64.toNat_ofNat_of_lt' htotal
  have hcount' : (UInt64.ofNat count).toNat = count := UInt64.toNat_ofNat_of_lt' hcount
  rw [isEmpty, makeLevel, Bool.eq_iff_iff]
  simp only [Bool.or_eq_true, beq_iff_eq, decide_eq_true_eq, ← UInt64.toNat_inj, htotal', hcount',
    UInt64.toNat_zero]

/-- The level that is left when part or all of an order leaves. -/
theorem leaveLevel_ofNat (hle : shares.toNat ≤ total) (htotal : total < 2 ^ 64)
    (hpos : 0 < count) (hcount : count < 2 ^ 64) :
    leaveLevel order shares (some ⟨UInt64.ofNat total, UInt64.ofNat count⟩) =
      if total - shares.toNat = 0 ∨ (if shares = order.shares then count - 1 else count) = 0
      then none
      else some ⟨UInt64.ofNat (total - shares.toNat),
        UInt64.ofNat (if shares = order.shares then count - 1 else count)⟩ := by
  rw [leaveLevel, Option.map_some, removeFromState_ofNat hle htotal hpos hcount, Option.filter,
    isEmpty_ofNat order.price (by omega) (by split <;> omega)]
  simp only [Bool.not_eq_true', decide_eq_false_iff_not, ite_not]

end Leaving

section Withdrawing

variable {order : RestingOrder} {orders : List RestingOrder}

/-- Orders at a place are at most as many as their shares. -/
theorem ordersAt_le_sharesAt (hvalid : ∀ other ∈ orders, other.IsValid)
    (place : Side × Price4) : ordersAt place orders ≤ sharesAt place orders :=
  groupCount_le_groupTotal place (fun other hmem => (hvalid other hmem).weight_pos)

theorem leaveLevel_levelSummary_all (hvalid : ∀ other ∈ orders, other.IsValid)
    (horder : order.IsValid) (hfits : sharesAt order.place (order :: orders) < 2 ^ 64) :
    leaveLevel order order.shares (levelSummary order.place (order :: orders)) =
      levelSummary order.place orders := by
  have hcount := ordersAt_le_sharesAt hvalid order.place
  have hzero : sharesAt order.place orders = 0 ↔ ordersAt order.place orders = 0 :=
    groupTotal_eq_zero_iff (fun other hmem => (hvalid other hmem).weight_pos)
  have hpos := horder.weight_pos
  rw [sharesAt_cons_place] at hfits
  rw [levelSummary_cons_place, leaveLevel_ofNat (by rw [← RestingOrder.weight]; omega)
    (by omega) (by omega) (by omega), if_pos rfl, levelSummary, ← RestingOrder.weight,
    Nat.add_sub_cancel_left, Nat.add_sub_cancel_left]
  simp only [hzero, or_self]

/-- The rest of an order that loses some of its shares. -/
def RestingOrder.less (order : RestingOrder) (shares : Shares) : RestingOrder :=
  { order with shares := order.shares - shares }

theorem RestingOrder.less_weight {shares : Shares} (hless : shares < order.shares) :
    (order.less shares).weight = order.weight - shares.toNat :=
  UInt32.toNat_sub_of_le _ _ (UInt32.le_of_lt hless)

theorem leaveLevel_levelSummary_part {shares : Shares}
    (hvalid : ∀ other ∈ orders, other.IsValid) (hless : shares < order.shares)
    (hfits : sharesAt order.place (order :: orders) < 2 ^ 64) :
    leaveLevel order shares (levelSummary order.place (order :: orders)) =
      levelSummary order.place (order.less shares :: orders) := by
  have hcount := ordersAt_le_sharesAt hvalid order.place
  have hless' : shares.toNat < order.weight := UInt32.lt_iff_toNat_lt.mp hless
  rw [sharesAt_cons_place] at hfits
  rw [levelSummary_cons_place, leaveLevel_ofNat (by omega) (by omega) (by omega) (by omega),
    if_neg (UInt32.ne_of_lt hless), if_neg (by omega)]
  have hplace : order.place = (order.less shares).place := rfl
  rw [hplace, levelSummary_cons_place, RestingOrder.less_weight hless, Nat.sub_add_comm]
  omega

end Withdrawing

namespace SymbolOrderBook

/-! ## Resting orders -/

def restingOrders (book : SymbolOrderBook) : List RestingOrder :=
  values book.orders

theorem restingOrders_enterOrder_perm {book : SymbolOrderBook} {order : RestingOrder}
    (hfresh : book.orders[order.orderReferenceNumber]? = none) :
    (book.enterOrder order).restingOrders.Perm (order :: book.restingOrders) := by
  have hperm := values_insert_perm book.orders order.orderReferenceNumber order
  rwa [erase_of_getElem?_eq_none hfresh] at hperm

theorem restingOrders_perm_withdrawOrder {book : SymbolOrderBook}
    {reference : OrderReferenceNumber} {order : RestingOrder}
    (hentry : book.orders[reference]? = some order) :
    book.restingOrders.Perm (order :: (book.withdrawOrder reference order).restingOrders) :=
  values_perm_cons_erase hentry

theorem restingOrders_shrinkOrder_perm (book : SymbolOrderBook)
    (reference : OrderReferenceNumber) (order : RestingOrder) (shares : Shares) :
    (book.shrinkOrder reference order shares).restingOrders.Perm
      (order.less shares :: (book.withdrawOrder reference order).restingOrders) :=
  values_insert_perm book.orders reference (order.less shares)

/-! ## The invariant -/

/-- Valid orders are stored under their own reference numbers. -/
structure OrdersStored (book : SymbolOrderBook) : Prop where
  stored : ∀ (reference : OrderReferenceNumber) (order : RestingOrder),
    book.orders[reference]? = some order →
      order.orderReferenceNumber = reference ∧ order.IsValid

/-- Each level also summarises the orders that rest at it. -/
structure Consistent (book : SymbolOrderBook) : Prop extends book.OrdersStored where
  levels : ∀ side price,
    book.levelAt side price = levelSummary (side, price) book.restingOrders

/-- No level's shares exceed the type of its quantity. -/
def SharesFit (book : SymbolOrderBook) : Prop :=
  ∀ place, sharesAt place book.restingOrders < 2 ^ 64

theorem new_ordersStored (key : InstrumentKey) (stock : StockSymbol) :
    (new key stock).OrdersStored where
  stored := by
    intro reference order hentry
    rw [new, ExtTreeMap.getElem?_empty] at hentry
    cases hentry

theorem new_consistent (key : InstrumentKey) (stock : StockSymbol) :
    (new key stock).Consistent where
  toOrdersStored := new_ordersStored key stock
  levels := by
    rintro (_ | _) price <;> rfl

theorem OrdersStored.valid {book : SymbolOrderBook} (hbook : book.OrdersStored)
    {order : RestingOrder} (hmem : order ∈ book.restingOrders) : order.IsValid := by
  rcases mem_values_iff.mp hmem with ⟨reference, hentry⟩
  exact (hbook.stored reference order hentry).2

theorem enterOrder_ordersStored {book : SymbolOrderBook} {order : RestingOrder}
    (hbook : book.OrdersStored) (hvalid : order.IsValid) :
    (book.enterOrder order).OrdersStored where
  stored := by
    intro reference other hentry
    rw [enterOrder, ExtTreeMap.getElem?_insert] at hentry
    split at hentry
    · rename_i heq
      cases hentry
      exact ⟨LawfulEqCmp.eq_of_compare heq, hvalid⟩
    · exact hbook.stored reference other hentry

theorem enterOrder_consistent {book : SymbolOrderBook} {order : RestingOrder}
    (hbook : book.Consistent) (hvalid : order.IsValid)
    (hfresh : book.orders[order.orderReferenceNumber]? = none) :
    (book.enterOrder order).Consistent where
  toOrdersStored := enterOrder_ordersStored hbook.toOrdersStored hvalid
  levels := by
    intro side price
    have hlevel : (book.enterOrder order).levelAt side price =
        (book.addToLevel order).levelAt side price := by
      cases side <;> rfl
    rw [hlevel, levelAt_addToLevel, hbook.levels,
      levelSummary_perm (restingOrders_enterOrder_perm hfresh)]
    by_cases hplace : order.place = (side, price)
    · rw [if_pos hplace, ← hplace, joinLevel_levelSummary]
    · rw [if_neg hplace, levelSummary_cons_of_ne _ hplace]

section Stored

variable {book : SymbolOrderBook} {reference : OrderReferenceNumber} {order : RestingOrder}

theorem OrdersStored.valid_rest (hbook : book.OrdersStored)
    (hentry : book.orders[reference]? = some order) :
    ∀ other ∈ (book.withdrawOrder reference order).restingOrders, other.IsValid := by
  intro other hmem
  have hperm := restingOrders_perm_withdrawOrder hentry
  exact hbook.valid (hperm.mem_iff.mpr (List.mem_cons_of_mem _ hmem))

theorem SharesFit.cons (hfits : book.SharesFit) (hentry : book.orders[reference]? = some order) :
    sharesAt order.place (order :: (book.withdrawOrder reference order).restingOrders) <
      2 ^ 64 := by
  have hsame : sharesAt order.place book.restingOrders = sharesAt order.place
      (order :: (book.withdrawOrder reference order).restingOrders) :=
    groupTotal_perm (restingOrders_perm_withdrawOrder hentry) order.place
  rw [← hsame]
  exact hfits order.place

/-- All of a stored order leaves its level. -/
theorem levelAt_removeFromLevel_all (hbook : book.Consistent) (hfits : book.SharesFit)
    (hentry : book.orders[reference]? = some order) (side : Side) (price : Price4) :
    (book.removeFromLevel order order.shares).levelAt side price =
      levelSummary (side, price) (book.withdrawOrder reference order).restingOrders := by
  rw [levelAt_removeFromLevel, hbook.levels,
    levelSummary_perm (restingOrders_perm_withdrawOrder hentry)]
  by_cases hplace : order.place = (side, price)
  · rw [if_pos hplace, ← hplace]
    exact leaveLevel_levelSummary_all (hbook.valid_rest hentry)
      (hbook.stored reference order hentry).2 (hfits.cons hentry)
  · rw [if_neg hplace, levelSummary_cons_of_ne _ hplace]

/-- Some of the shares of a stored order leave its level. -/
theorem levelAt_removeFromLevel_part {shares : Shares} (hbook : book.Consistent)
    (hfits : book.SharesFit) (hentry : book.orders[reference]? = some order)
    (hless : shares < order.shares) (side : Side) (price : Price4) :
    (book.removeFromLevel order shares).levelAt side price =
      levelSummary (side, price)
        (order.less shares :: (book.withdrawOrder reference order).restingOrders) := by
  rw [levelAt_removeFromLevel, hbook.levels,
    levelSummary_perm (restingOrders_perm_withdrawOrder hentry)]
  by_cases hplace : order.place = (side, price)
  · rw [if_pos hplace, ← hplace]
    exact leaveLevel_levelSummary_part (hbook.valid_rest hentry) hless (hfits.cons hentry)
  · have hplace' : (order.less shares).place ≠ (side, price) := hplace
    rw [if_neg hplace, levelSummary_cons_of_ne _ hplace, levelSummary_cons_of_ne _ hplace']

theorem withdrawOrder_ordersStored (hbook : book.OrdersStored) (reference : OrderReferenceNumber)
    (order : RestingOrder) : (book.withdrawOrder reference order).OrdersStored where
  stored := by
    intro reference' other hentry
    rw [withdrawOrder, ExtTreeMap.getElem?_erase] at hentry
    split at hentry
    · cases hentry
    · exact hbook.stored reference' other hentry

theorem withdrawOrder_consistent (hbook : book.Consistent) (hfits : book.SharesFit)
    (hentry : book.orders[reference]? = some order) :
    (book.withdrawOrder reference order).Consistent where
  toOrdersStored := withdrawOrder_ordersStored hbook.toOrdersStored reference order
  levels := by
    intro side price
    rw [← levelAt_removeFromLevel_all hbook hfits hentry]
    cases side <;> rfl

theorem shrinkOrder_ordersStored {shares : Shares} (hbook : book.OrdersStored)
    (hentry : book.orders[reference]? = some order) (hless : shares < order.shares) :
    (book.shrinkOrder reference order shares).OrdersStored where
  stored := by
    intro reference' other hentry'
    rw [shrinkOrder, ExtTreeMap.getElem?_insert] at hentry'
    split at hentry'
    · rename_i heq
      cases hentry'
      have horder := hbook.stored reference order hentry
      refine ⟨horder.1.trans (LawfulEqCmp.eq_of_compare heq), horder.2.reference, ?_,
        horder.2.price⟩
      have hrest := RestingOrder.less_weight hless
      have hless' : shares.toNat < order.weight := UInt32.lt_iff_toNat_lt.mp hless
      rw [isValidShares, decide_eq_true_iff]
      apply UInt32.lt_iff_toNat_lt.mpr
      change 0 < (order.less shares).weight
      omega
    · exact hbook.stored reference' other hentry'

theorem shrinkOrder_consistent {shares : Shares} (hbook : book.Consistent)
    (hfits : book.SharesFit) (hentry : book.orders[reference]? = some order)
    (hless : shares < order.shares) :
    (book.shrinkOrder reference order shares).Consistent where
  toOrdersStored := shrinkOrder_ordersStored hbook.toOrdersStored hentry hless
  levels := by
    intro side price
    rw [levelSummary_perm (restingOrders_shrinkOrder_perm book reference order shares),
      ← levelAt_removeFromLevel_part hbook hfits hentry hless]
    cases side <;> rfl

end Stored

/-! ## Steps and runs -/

/-- Whatever the quantities, a message leaves valid orders stored. -/
theorem Effect.ordersStored {book : SymbolOrderBook} {outcome : Outcome}
    (heffect : Effect book outcome) (hbook : book.OrdersStored) :
    outcome.book.OrdersStored := by
  cases heffect with
  | unchanged code => exact hbook
  | entered order hvalid hfresh => exact enterOrder_ordersStored hbook hvalid
  | shrunk reference order shares hentry hpos hless =>
      exact shrinkOrder_ordersStored hbook hentry hless
  | withdrawn reference order hentry => exact withdrawOrder_ordersStored hbook reference order
  | replaced reference order newOrder hentry hvalid hfresh =>
      exact enterOrder_ordersStored (withdrawOrder_ordersStored hbook reference order) hvalid
  | lost reference order hentry => exact withdrawOrder_ordersStored hbook reference order

theorem applyAll_ordersStored {book : SymbolOrderBook} (hbook : book.OrdersStored)
    (messages : List Message) : (book.applyAll messages).OrdersStored := by
  have hstep : ∀ (current : SymbolOrderBook) (message : Message), True →
      current.OrdersStored → (current.apply message).book.OrdersStored :=
    fun current message _ => (apply_effect current message).ordersStored
  exact foldl_invariant hstep hbook (fun _ _ => trivial)

/-- Every effect of a message on a consistent book leaves it consistent. -/
theorem Effect.consistent {book : SymbolOrderBook} {outcome : Outcome}
    (heffect : Effect book outcome) (hfits : book.SharesFit) (hbook : book.Consistent) :
    outcome.book.Consistent := by
  cases heffect with
  | unchanged code => exact hbook
  | entered order hvalid hfresh => exact enterOrder_consistent hbook hvalid hfresh
  | shrunk reference order shares hentry hpos hless =>
      exact shrinkOrder_consistent hbook hfits hentry hless
  | withdrawn reference order hentry => exact withdrawOrder_consistent hbook hfits hentry
  | replaced reference order newOrder hentry hvalid hfresh =>
      exact enterOrder_consistent (withdrawOrder_consistent hbook hfits hentry) hvalid
        (withdrawOrder_getElem?_of_none hfresh)
  | lost reference order hentry => exact withdrawOrder_consistent hbook hfits hentry

theorem apply_consistent {book : SymbolOrderBook} (message : Message)
    (hfits : book.SharesFit) (hbook : book.Consistent) :
    (book.apply message).book.Consistent :=
  (apply_effect book message).consistent hfits hbook

theorem applyAll_consistent {book : SymbolOrderBook} {messages : List Message}
    (hbook : book.Consistent)
    (hfits : ∀ done, done <+: messages → (book.applyAll done).SharesFit) :
    (book.applyAll messages).Consistent := by
  have hstep : ∀ (current : SymbolOrderBook) (message : Message), current.SharesFit →
      current.Consistent → (current.apply message).book.Consistent :=
    fun _ message => apply_consistent message
  exact foldl_invariant hstep hbook hfits

/-! ## Short runs -/

theorem length_restingOrders_withdrawOrder {book : SymbolOrderBook}
    {reference : OrderReferenceNumber} {order : RestingOrder}
    (hentry : book.orders[reference]? = some order) :
    (book.withdrawOrder reference order).restingOrders.length + 1 =
      book.restingOrders.length :=
  (restingOrders_perm_withdrawOrder hentry).length_eq.symm

/-- A message adds at most one order. -/
theorem Effect.length_restingOrders_le {book : SymbolOrderBook} {outcome : Outcome}
    (heffect : Effect book outcome) :
    outcome.book.restingOrders.length ≤ book.restingOrders.length + 1 := by
  cases heffect with
  | unchanged code => exact Nat.le_succ _
  | entered order hvalid hfresh =>
      exact Nat.le_of_eq (restingOrders_enterOrder_perm hfresh).length_eq
  | shrunk reference order shares hentry hpos hless =>
      have hafter := (restingOrders_shrinkOrder_perm book reference order shares).length_eq
      rw [List.length_cons, length_restingOrders_withdrawOrder hentry] at hafter
      exact Nat.le_succ_of_le (Nat.le_of_eq hafter)
  | withdrawn reference order hentry =>
      have hbefore := length_restingOrders_withdrawOrder hentry
      dsimp only
      omega
  | replaced reference order newOrder hentry hvalid hfresh =>
      have hbefore := length_restingOrders_withdrawOrder hentry
      have hafter := (restingOrders_enterOrder_perm
        (@withdrawOrder_getElem?_of_none book reference _ order hfresh)).length_eq
      rw [List.length_cons] at hafter
      dsimp only
      omega
  | lost reference order hentry =>
      have hbefore := length_restingOrders_withdrawOrder hentry
      dsimp only
      omega

theorem length_restingOrders_applyAll_le (book : SymbolOrderBook) (messages : List Message) :
    (book.applyAll messages).restingOrders.length ≤
      book.restingOrders.length + messages.length := by
  induction messages generalizing book with
  | nil => exact Nat.le_refl _
  | cons message rest ih =>
      have hstep := (apply_effect book message).length_restingOrders_le
      have hrest := ih (book.apply message).book
      rw [List.length_cons]
      exact Nat.le_trans hrest (by omega)

/-- Up to {lit}`2^32 + 1` calls cannot bring a level out of range. -/
theorem applyAll_sharesFit {key : InstrumentKey} {stock : StockSymbol}
    {messages : List Message} (hshort : messages.length ≤ 2 ^ 32 + 1) :
    ((new key stock).applyAll messages).SharesFit := by
  intro place
  have hlength := length_restingOrders_applyAll_le (new key stock) messages
  have hempty : (new key stock).restingOrders = [] := rfl
  rw [hempty, List.length_nil, Nat.zero_add] at hlength
  have hbound : ∀ order ∈ ((new key stock).applyAll messages).restingOrders,
      order.weight ≤ 2 ^ 32 - 1 := by
    intro order _
    have := UInt32.toNat_lt order.shares
    rw [RestingOrder.weight]
    omega
  have htotal : sharesAt place ((new key stock).applyAll messages).restingOrders ≤ _ :=
    groupTotal_le_length_mul place hbound
  calc sharesAt place ((new key stock).applyAll messages).restingOrders
      ≤ ((new key stock).applyAll messages).restingOrders.length * (2 ^ 32 - 1) := htotal
    _ ≤ (2 ^ 32 + 1) * (2 ^ 32 - 1) := Nat.mul_le_mul_right _ (Nat.le_trans hlength hshort)
    _ < 2 ^ 64 := by decide

/-! ## The containers and the calls on levels -/

/-- The three containers tell the same story. -/
structure ContainersAgree (book : SymbolOrderBook) : Prop where
  level_iff : ∀ side price, (book.levelAt side price).isSome = true ↔
    ∃ order ∈ book.restingOrders, order.side = side ∧ order.price = price
  level_sums : ∀ side price state, book.levelAt side price = some state →
    let resting :=
      book.restingOrders.filter (fun order => order.side = side ∧ order.price = price)
    state.quantity.toNat = (resting.map (fun order => order.shares.toNat)).sum ∧
      state.orderCount.toNat = resting.length
  stored : ∀ (reference : OrderReferenceNumber) (order : RestingOrder),
    book.orders[reference]? = some order →
      order.orderReferenceNumber = reference ∧ reference ≠ 0 ∧ 0 < order.shares ∧ 0 < order.price

/-- A call of {lit}`remove_from_level` finds its level, takes no more than the level
holds, and erases it only when no other order rests there. -/
structure RemovalSafe (removal : LevelRemoval) : Prop where
  enough : ∃ state,
    removal.book.levelAt removal.order.side removal.order.price = some state ∧
      removal.shares.toNat ≤ state.quantity.toNat
  erases : (removal.book.removeFromLevel removal.order removal.shares).levelAt
      removal.order.side removal.order.price = none →
    ∀ other ∈ removal.book.restingOrders, other.side = removal.order.side →
      other.price = removal.order.price → other = removal.order

theorem place_eq_iff {order : RestingOrder} {side : Side} {price : Price4} :
    order.place = (side, price) ↔ order.side = side ∧ order.price = price := by
  rw [RestingOrder.place, Prod.mk.injEq]

theorem Consistent.containersAgree {book : SymbolOrderBook} (hbook : book.Consistent)
    (hfits : book.SharesFit) : book.ContainersAgree where
  level_iff := by
    intro side price
    have hpos : 0 < ordersAt (side, price) book.restingOrders ↔
        ∃ order ∈ book.restingOrders, order.place = (side, price) := groupCount_pos_iff
    simp only [place_eq_iff] at hpos
    rw [hbook.levels, ← hpos, levelSummary]
    split
    · rename_i hzero
      simp [hzero]
    · rename_i hne
      simp [Nat.pos_iff_ne_zero, hne]
  level_sums := by
    intro side price state hstate
    have hcount := ordersAt_le_sharesAt (fun order => hbook.valid) (side, price)
    have hshares := hfits (side, price)
    have hresting : groupMembers RestingOrder.place (side, price) book.restingOrders =
        book.restingOrders.filter (fun order => order.side = side ∧ order.price = price) := by
      simp only [groupMembers, place_eq_iff]
    rw [hbook.levels, levelSummary] at hstate
    split at hstate
    · cases hstate
    · cases hstate
      dsimp only
      rw [UInt64.toNat_ofNat_of_lt' hshares,
        UInt64.toNat_ofNat_of_lt' (Nat.lt_of_le_of_lt hcount hshares), ← hresting]
      exact ⟨rfl, rfl⟩
  stored := by
    intro reference order hentry
    rcases hbook.stored reference order hentry with ⟨hkey, hreference, hshares, hprice⟩
    rw [isValidOrderReferenceNumber, decide_eq_true_iff] at hreference
    rw [isValidShares, decide_eq_true_iff] at hshares
    rw [isValidPrice4, decide_eq_true_iff] at hprice
    refine ⟨hkey, ?_, hshares, hprice⟩
    rw [← hkey]
    exact (UInt64.ne_of_lt hreference).symm

/-- A call is made for a stored order and for at most its shares. -/
theorem Effect.removal_cases {book : SymbolOrderBook} {outcome : Outcome}
    (heffect : Effect book outcome) {removal : LevelRemoval}
    (hremoval : outcome.removal = some removal) :
    removal.book = book ∧ ∃ reference : OrderReferenceNumber,
      book.orders[reference]? = some removal.order ∧
        (removal.shares = removal.order.shares ∨ removal.shares < removal.order.shares) := by
  cases heffect with
  | unchanged code => cases hremoval
  | entered order hvalid hfresh => cases hremoval
  | shrunk reference order shares hentry hpos hless =>
      cases hremoval
      exact ⟨rfl, reference, hentry, Or.inr hless⟩
  | withdrawn reference order hentry =>
      cases hremoval
      exact ⟨rfl, reference, hentry, Or.inl rfl⟩
  | replaced reference order newOrder hentry hvalid hfresh =>
      cases hremoval
      exact ⟨rfl, reference, hentry, Or.inl rfl⟩
  | lost reference order hentry =>
      cases hremoval
      exact ⟨rfl, reference, hentry, Or.inl rfl⟩

/-- The level of a stored order holds that order's shares. -/
theorem Consistent.level_of_stored {book : SymbolOrderBook} (hbook : book.Consistent)
    (hfits : book.SharesFit) {reference : OrderReferenceNumber} {order : RestingOrder}
    (hentry : book.orders[reference]? = some order) :
    ∃ state, book.levelAt order.side order.price = some state ∧
      order.shares.toNat ≤ state.quantity.toNat := by
  have hfit := hfits.cons hentry
  have hlevel := hbook.levels order.side order.price
  rw [levelSummary_perm (restingOrders_perm_withdrawOrder hentry)] at hlevel
  change _ = levelSummary order.place _ at hlevel
  rw [levelSummary_cons_place, ← sharesAt_cons_place] at hlevel
  refine ⟨_, hlevel, ?_⟩
  rw [UInt64.toNat_ofNat_of_lt' hfit, sharesAt_cons_place]
  exact Nat.le_add_right _ _

theorem Effect.removalSafe {book : SymbolOrderBook} {outcome : Outcome}
    (heffect : Effect book outcome) (hfits : book.SharesFit) (hbook : book.Consistent)
    {removal : LevelRemoval} (hremoval : outcome.removal = some removal) :
    RemovalSafe removal := by
  rcases removal with ⟨removalBook, order, shares⟩
  rcases heffect.removal_cases hremoval with ⟨hsame, reference, hentry, hshares⟩
  dsimp only at hsame hentry hshares
  subst hsame
  rcases hbook.level_of_stored hfits hentry with ⟨state, hstate, hle⟩
  refine ⟨⟨state, hstate, ?_⟩, ?_⟩
  · rcases hshares with hall | hless
    · rw [hall]
      exact hle
    · exact Nat.le_of_lt (Nat.lt_of_lt_of_le (UInt32.lt_iff_toNat_lt.mp hless) hle)
  · intro hnone other hmem hside hprice
    dsimp only at hnone hmem hside hprice
    rcases hshares with hall | hless
    · -- The level is gone, so nothing is left of it once the order is out.
      subst hall
      rw [levelAt_removeFromLevel_all hbook hfits hentry, levelSummary] at hnone
      have hzero : ordersAt (order.side, order.price)
          (removalBook.withdrawOrder reference order).restingOrders = 0 := by
        by_contra hne
        rw [if_neg hne] at hnone
        cases hnone
      rcases List.mem_cons.mp ((restingOrders_perm_withdrawOrder hentry).mem_iff.mp hmem) with
        heq | hrest
      · exact heq
      · have hpos := groupCount_pos_iff.mpr ⟨other, hrest, place_eq_iff.mpr ⟨hside, hprice⟩⟩
        rw [ordersAt] at hzero
        omega
    · rw [levelAt_removeFromLevel_part hbook hfits hentry hless] at hnone
      change levelSummary (order.less shares).place _ = none at hnone
      rw [levelSummary_cons_place] at hnone
      cases hnone

/-- After any calls, while the shares at every level fit, the containers agree and
the next call asks nothing wrong of its level. -/
theorem applyAll_containersAgree (key : InstrumentKey) (stock : StockSymbol)
    (messages : List Message)
    (hfits : ∀ done, done <+: messages → ((new key stock).applyAll done).SharesFit) :
    ((new key stock).applyAll messages).ContainersAgree ∧
      ∀ message removal,
        (((new key stock).applyAll messages).apply message).removal = some removal →
          RemovalSafe removal := by
  have hbook := applyAll_consistent (new_consistent key stock) hfits
  have hfit := hfits messages List.prefix_rfl
  refine ⟨hbook.containersAgree hfit, ?_⟩
  intro message removal hremoval
  exact (apply_effect _ message).removalSafe hfit hbook hremoval

/-- A buy order of 100 shares of which 30 are cancelled leaves one level of 70. -/
theorem applyAll_containersAgree_cancel :
    let stock : StockSymbol := List.Vector.replicate 8 0x20
    let book := (new ⟨1, 1⟩ stock).applyAll
      [.addOrderNoMpid ⟨⟨1, 0, 0⟩, 7, .buy, 100, stock, 50⟩, .orderCancel ⟨⟨1, 0, 0⟩, 7, 30⟩]
    book.ContainersAgree ∧ book.levelAt .buy 50 = some ⟨70, 1⟩ := by
  intro stock book
  refine ⟨?_, by decide⟩
  refine (applyAll_containersAgree ⟨1, 1⟩ stock _ ?_).1
  intro done hdone
  exact applyAll_sharesFit (Nat.le_trans hdone.length_le (by decide))

end SymbolOrderBook

end Fgep.Book
