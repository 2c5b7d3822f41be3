import GatedExecution.Book.Invariant

/-!
# Rejected messages

Most calls that return an error leave the book alone.  An Order Replace is the
exception: it withdraws the old order before {lit}`add_order` looks at the new
reference number, so a replacement under reference number zero is refused only
after the old order is gone.

Main results:

- Theorem {lit}`applyOrderReplace_of_losesOrder`: what such a message does.
- Theorem {lit}`rejected_unchanged_iff`: it is the only rejected message that
  changes a container.
-/

namespace Fgep.Book.SymbolOrderBook

open Std Itch Instrument

/-! ## Rejections that leave the book alone -/

/-- An error leaves the book as it was. -/
def KeepsOnError (book : SymbolOrderBook) (outcome : Outcome) : Prop :=
  outcome.code ≠ .ok → outcome.book = book

theorem addOrder_keepsOnError (book : SymbolOrderBook)
    (orderReferenceNumber : OrderReferenceNumber) (side : Side) (shares : Shares)
    (stock : StockSymbol) (price : Price4) :
    book.KeepsOnError (book.addOrder orderReferenceNumber side shares stock price) := by
  unfold addOrder
  intro herror
  split
  · rfl
  · dsimp only
    split
    · rfl
    · split
      · rfl
      · simp_all

theorem reduceOrder_keepsOnError (book : SymbolOrderBook)
    (orderReferenceNumber : OrderReferenceNumber) (sharesToReduce : Shares) :
    book.KeepsOnError (book.reduceOrder orderReferenceNumber sharesToReduce) := by
  unfold reduceOrder
  split
  · exact fun _ => rfl
  · split
    · exact fun _ => rfl
    · split
      · exact fun _ => rfl
      · exact fun herror => absurd rfl herror

theorem deleteOrder_keepsOnError (book : SymbolOrderBook)
    (orderReferenceNumber : OrderReferenceNumber) :
    book.KeepsOnError (book.deleteOrder orderReferenceNumber) := by
  unfold deleteOrder
  split
  · exact fun _ => rfl
  · exact fun herror => absurd rfl herror

theorem applyChecked_keepsOnError {book : SymbolOrderBook} {body : Outcome} (header : Header)
    (hbody : book.KeepsOnError body) : book.KeepsOnError (book.applyChecked header body) := by
  unfold applyChecked
  dsimp only
  split
  · exact fun _ => rfl
  · exact hbody

/-! ## Order Replace -/

/-- A replacement of a live order that passes every check made before the old order
is withdrawn, under reference number zero. -/
def LosesOrder (book : SymbolOrderBook) (message : OrderReplaceMessage) : Prop :=
  book.requireMatchingHeader message.header = .ok ∧
    book.containsOrder message.originalOrderReferenceNumber = true ∧
    isValidShares message.shares = true ∧ isValidPrice4 message.price = true ∧
    message.newOrderReferenceNumber = 0

instance (book : SymbolOrderBook) (message : OrderReplaceMessage) :
    Decidable (book.LosesOrder message) :=
  inferInstanceAs (Decidable (_ ∧ _))

theorem isValidOrderReferenceNumber_eq_false_iff {orderReferenceNumber : OrderReferenceNumber} :
    isValidOrderReferenceNumber orderReferenceNumber = false ↔ orderReferenceNumber = 0 := by
  rw [isValidOrderReferenceNumber, decide_eq_false_iff_not, ← UInt64.toNat_inj]
  change ¬(0 : UInt64) < orderReferenceNumber ↔ _
  rw [UInt64.lt_iff_toNat_lt, UInt64.toNat_zero]
  omega

/-- Reference number zero is never live. -/
theorem OrdersStored.containsOrder_zero {book : SymbolOrderBook} (hbook : book.OrdersStored) :
    book.orders[(0 : OrderReferenceNumber)]? = none := by
  by_contra hsome
  rcases Option.ne_none_iff_exists'.mp hsome with ⟨order, hentry⟩
  rcases hbook.stored 0 order hentry with ⟨hkey, hvalid⟩
  have hzero := isValidOrderReferenceNumber_eq_false_iff.mpr hkey
  rw [hvalid.reference] at hzero
  cases hzero

/-- The old order leaves the book and the call reports an error. -/
theorem applyOrderReplace_of_losesOrder {book : SymbolOrderBook} {message : OrderReplaceMessage}
    (hbook : book.OrdersStored) (hloses : book.LosesOrder message) :
    ∃ order, book.orders[message.originalOrderReferenceNumber]? = some order ∧
      (book.applyOrderReplace message).code = .invalidArgument ∧
      (book.applyOrderReplace message).book =
        book.withdrawOrder message.originalOrderReferenceNumber order := by
  rcases hloses with ⟨hheader, hlive, hshares, hprice, hzero⟩
  rw [containsOrder, ExtTreeMap.contains_eq_isSome_getElem?, Option.isSome_iff_exists] at hlive
  rcases hlive with ⟨order, hentry⟩
  refine ⟨order, hentry, ?_⟩
  have hfresh : book.orders[message.newOrderReferenceNumber]? = none := by
    rw [hzero]
    exact hbook.containsOrder_zero
  have hcontains := containsOrder_eq_false_iff.mpr hfresh
  have hreference := isValidOrderReferenceNumber_eq_false_iff.mpr hzero
  unfold applyOrderReplace applyChecked
  simp [hheader, hentry, hshares, hprice, hcontains, addOrder_after_withdraw, hfresh, hreference]

/-- Any other replacement that is refused leaves the book alone. -/
theorem applyOrderReplace_keepsOnError {book : SymbolOrderBook} {message : OrderReplaceMessage}
    (hkeeps : ¬book.LosesOrder message) :
    book.KeepsOnError (book.applyOrderReplace message) := by
  unfold applyOrderReplace applyChecked
  dsimp only
  split
  · exact fun _ => rfl
  · rename_i hheader
    split
    · exact fun _ => rfl
    · rename_i existing hentry
      split
      · exact fun _ => rfl
      · rename_i hvalid
        simp only [Bool.or_eq_true, Bool.not_eq_true', not_or, Bool.not_eq_false] at hvalid
        split
        · exact fun _ => rfl
        · rename_i hcontains
          rw [Bool.not_eq_true, containsOrder_eq_false_iff] at hcontains
          have hlive : book.containsOrder message.originalOrderReferenceNumber = true := by
            rw [containsOrder, ExtTreeMap.contains_eq_isSome_getElem?, hentry]
            rfl
          have hreference :
              isValidOrderReferenceNumber message.newOrderReferenceNumber = true := by
            by_contra hinvalid
            rw [Bool.not_eq_true, isValidOrderReferenceNumber_eq_false_iff] at hinvalid
            exact hkeeps ⟨not_not.mp hheader, hlive, hvalid.1, hvalid.2, hinvalid⟩
          intro herror
          rw [withdrawOrder_stock, addOrder_after_withdraw hvalid.1 hvalid.2 hcontains,
            if_pos hreference] at herror
          exact absurd rfl herror

/-- Withdrawing a stored order changes the orders. -/
theorem withdrawOrder_orders_ne {book : SymbolOrderBook} {reference : OrderReferenceNumber}
    {order : RestingOrder} (hentry : book.orders[reference]? = some order) :
    (book.withdrawOrder reference order).orders ≠ book.orders := by
  intro hsame
  rw [← hsame, withdrawOrder, ExtTreeMap.getElem?_erase_self] at hentry
  cases hentry

/-! ## Every message -/

theorem apply_keepsOnError {book : SymbolOrderBook} {message : Message}
    (hkeeps : ¬∃ replace, message = .orderReplace replace ∧ book.LosesOrder replace) :
    book.KeepsOnError (book.apply message) := by
  cases message with
  | addOrderNoMpid message => exact applyChecked_keepsOnError _ (addOrder_keepsOnError _ _ _ _ _ _)
  | addOrderWithMpid message => exact applyChecked_keepsOnError _ (addOrder_keepsOnError _ _ _ _ _ _)
  | orderExecuted message => exact applyChecked_keepsOnError _ (reduceOrder_keepsOnError _ _ _)
  | orderExecutedWithPrice message =>
      exact applyChecked_keepsOnError _ (reduceOrder_keepsOnError _ _ _)
  | orderCancel message => exact applyChecked_keepsOnError _ (reduceOrder_keepsOnError _ _ _)
  | orderDelete message => exact applyChecked_keepsOnError _ (deleteOrder_keepsOnError _ _)
  | orderReplace message =>
      exact applyOrderReplace_keepsOnError (fun hloses => hkeeps ⟨message, rfl, hloses⟩)
  | _ => exact fun herror => absurd rfl herror

/-- In every reachable book a rejected message leaves the three containers alone,
unless it is a replacement under reference number zero. -/
theorem rejected_unchanged_iff (key : InstrumentKey) (stock : StockSymbol)
    (messages : List Message) (message : Message) :
    let book := (new key stock).applyAll messages
    let outcome := book.apply message
    (outcome.code ≠ .ok → outcome.book.orders = book.orders ∧
        outcome.book.bids = book.bids ∧ outcome.book.asks = book.asks) ↔
      ¬∃ replace, message = .orderReplace replace ∧ book.LosesOrder replace := by
  intro book outcome
  have hbook : book.OrdersStored := applyAll_ordersStored (new_ordersStored key stock) messages
  constructor
  · rintro hunchanged ⟨replace, rfl, hloses⟩
    rcases applyOrderReplace_of_losesOrder hbook hloses with ⟨order, hentry, hcode, hafter⟩
    have herror : outcome.code ≠ .ok := by
      change (book.applyOrderReplace replace).code ≠ .ok
      rw [hcode]
      decide
    have horders := (hunchanged herror).1
    change (book.applyOrderReplace replace).book.orders = book.orders at horders
    rw [hafter] at horders
    exact withdrawOrder_orders_ne hentry horders
  · intro hkeeps herror
    have hsame : outcome.book = book := apply_keepsOnError hkeeps herror
    rw [hsame]
    exact ⟨rfl, rfl, rfl⟩

/-- A buy order of 100 shares is replaced under reference number zero: the call
fails, and the order and its level are gone. -/
theorem rejected_replace_loses_order :
    let stock : StockSymbol := List.Vector.replicate 8 0x20
    let book := (new ⟨1, 1⟩ stock).applyAll
      [.addOrderNoMpid ⟨⟨1, 0, 0⟩, 7, .buy, 100, stock, 50⟩]
    let outcome := book.apply (.orderReplace ⟨⟨1, 0, 0⟩, 7, 0, 100, 50⟩)
    outcome.code = .invalidArgument ∧ book.containsOrder 7 = true ∧
      outcome.book.containsOrder 7 = false ∧ book.levelAt .buy 50 = some ⟨100, 1⟩ ∧
      outcome.book.levelAt .buy 50 = none := by
  decide

end Fgep.Book.SymbolOrderBook
