import GatedExecution.Book.VenueBook
import GatedExecution.Itch.Layout

/-!
# Which order messages a book accepts

The code that a book returns is decided by three kinds of checks: on the fields of the
message itself, on the instrument of the book, and on the resting orders.  They are stated
here without the changes that an accepted message makes.

Main results:

- Theorem {lit}`SymbolOrderBook.apply_code_eq_ok_iff`: the checks decide what a book
  returns.
- Theorem {lit}`MultiVenueBook.bookEntry_code_eq_ok_iff`: the same behind the lookup of
  venue and instrument.
-/

namespace Fgep.Book

open Std Itch Instrument

namespace SymbolOrderBook

/-! ## The checks -/

/-- The checks that a book makes on the fields of a message.  They are fewer than those
of the decoder: a reference number that is only looked up may be zero. -/
def hasValidFields : Message → Bool
  | .addOrderNoMpid message =>
      isValidOrderReferenceNumber message.orderReferenceNumber && isValidShares message.shares
        && isValidPrice4 message.price
  | .addOrderWithMpid message =>
      isValidOrderReferenceNumber message.orderReferenceNumber && isValidShares message.shares
        && isValidPrice4 message.price
  | .orderExecuted message => isValidShares message.executedShares
  | .orderExecutedWithPrice message => isValidShares message.executedShares
  | .orderCancel message => isValidShares message.cancelledShares
  | .orderReplace message =>
      isValidOrderReferenceNumber message.newOrderReferenceNumber
        && isValidShares message.shares && isValidPrice4 message.price
  | _ => true

/-- The stock that an Add Order message states. -/
def statedStock : Message → Option StockSymbol
  | .addOrderNoMpid message => some message.stock
  | .addOrderWithMpid message => some message.stock
  | _ => none

/-- The checks on header and stock, which look at the instrument of the book only. -/
structure Addresses (book : SymbolOrderBook) (message : Message) : Prop where
  header : book.requireMatchingHeader message.header = .ok
  stock : ∀ stock ∈ statedStock message, stock = book.stock

theorem addresses_iff {book : SymbolOrderBook} {message : Message} :
    book.Addresses message ↔ book.requireMatchingHeader message.header = .ok ∧
      ∀ stock ∈ statedStock message, stock = book.stock :=
  ⟨fun h => ⟨h.header, h.stock⟩, fun h => ⟨h.1, h.2⟩⟩

instance (book : SymbolOrderBook) (message : Message) : Decidable (book.Addresses message) :=
  decidable_of_iff' _ addresses_iff

/-- The resting orders alone make the book refuse the message. -/
def absorbs (book : SymbolOrderBook) : Message → Bool
  | .addOrderNoMpid message => book.containsOrder message.orderReferenceNumber
  | .addOrderWithMpid message => book.containsOrder message.orderReferenceNumber
  | .orderExecuted message =>
      book.orders[message.orderReferenceNumber]?.all (·.shares < message.executedShares)
  | .orderExecutedWithPrice message =>
      book.orders[message.orderReferenceNumber]?.all (·.shares < message.executedShares)
  | .orderCancel message =>
      book.orders[message.orderReferenceNumber]?.all (·.shares < message.cancelledShares)
  | .orderDelete message => !book.containsOrder message.orderReferenceNumber
  | .orderReplace message =>
      !book.containsOrder message.originalOrderReferenceNumber
        || book.containsOrder message.newOrderReferenceNumber
  | _ => false

/-- All checks together. -/
def accepts (book : SymbolOrderBook) (message : Message) : Bool :=
  hasValidFields message && decide (book.Addresses message) && !book.absorbs message

theorem hasValidFields_of_isEncodable {message : Message}
    (hbook : VenueBook.affectsOrderBook message = true) (hvalid : isEncodable message = true) :
    hasValidFields message = true := by
  cases message with
  | addOrderNoMpid message =>
      simp only [isEncodable, isValidMessage, isValidAddOrderNoMpidMessage,
        Bool.and_eq_true] at hvalid
      simp [hasValidFields, hvalid]
  | addOrderWithMpid message =>
      simp only [isEncodable, isValidMessage, isValidAddOrderWithMpidMessage,
        Bool.and_eq_true] at hvalid
      simp [hasValidFields, hvalid]
  | orderExecuted message =>
      simp only [isEncodable, isValidMessage, isValidOrderExecutedMessage,
        Bool.and_eq_true] at hvalid
      exact hvalid.1.2
  | orderExecutedWithPrice message =>
      simp only [isEncodable, isValidMessage, isValidOrderExecutedWithPriceMessage,
        Bool.and_eq_true] at hvalid
      exact hvalid.1.1.2
  | orderCancel message =>
      simp only [isEncodable, isValidMessage, isValidOrderCancelMessage,
        Bool.and_eq_true] at hvalid
      exact hvalid.2
  | orderDelete message => rfl
  | orderReplace message =>
      simp only [isEncodable, isValidMessage, isValidOrderReplaceMessage,
        Bool.and_eq_true] at hvalid
      simp [hasValidFields, hvalid]
  | systemEvent _ | stockDirectory _ | stockTradingAction _ | tradeNonCross _ | crossTrade _
  | brokenTrade _ => cases hbook

/-! ## The checks decide -/

section Accepted

variable {book : SymbolOrderBook}

theorem applyChecked_code_eq_ok_iff {header : Header} {body : Outcome} :
    (book.applyChecked header body).code = .ok ↔
      book.requireMatchingHeader header = .ok ∧ body.code = .ok := by
  unfold applyChecked
  dsimp only
  split
  · rename_i hheader
    exact iff_of_false hheader (fun h => hheader h.1)
  · rename_i hheader
    exact ⟨fun hbody => ⟨not_not.mp hheader, hbody⟩, fun h => h.2⟩

theorem addOrder_code_eq_ok_iff (reference : OrderReferenceNumber) (side : Side)
    (shares : Shares) (stock : StockSymbol) (price : Price4) :
    (book.addOrder reference side shares stock price).code = .ok ↔
      (isValidOrderReferenceNumber reference && isValidShares shares && isValidPrice4 price) =
          true ∧
        stock = book.stock ∧ book.containsOrder reference = false := by
  unfold addOrder requireMatchingStock
  cases hfields :
    isValidOrderReferenceNumber reference && isValidShares shares && isValidPrice4 price with
  | false =>
      rw [if_pos (by rw [← Bool.not_and, ← Bool.not_and, hfields]; rfl)]
      exact iff_of_false (fun h => by cases h) (fun h => by cases h.1)
  | true =>
      rw [if_neg (by rw [← Bool.not_and, ← Bool.not_and, hfields]; decide)]
      by_cases hstock : stock = book.stock
      · cases hcontains : book.containsOrder reference <;> simp [hstock]
      · simp [hstock]

theorem reduceOrder_code_eq_ok_iff_all (reference : OrderReferenceNumber) (shares : Shares) :
    (book.reduceOrder reference shares).code = .ok ↔
      isValidShares shares = true ∧ book.orders[reference]?.all (·.shares < shares) = false := by
  cases hshares : isValidShares shares with
  | false => simp [reduceOrder, hshares]
  | true =>
      cases hentry : book.orders[reference]? with
      | none => simp [reduceOrder_of_none hshares hentry]
      | some existing =>
          rw [reduceOrder_code_eq_ok_iff hshares hentry, Option.all_some,
            decide_eq_false_iff_not, UInt32.not_lt]
          exact (and_iff_right rfl).symm

theorem deleteOrder_code_eq_ok_iff {reference : OrderReferenceNumber} :
    (book.deleteOrder reference).code = .ok ↔ book.containsOrder reference = true := by
  rw [deleteOrder, containsOrder, ExtTreeMap.contains_eq_isSome_getElem?]
  cases book.orders[reference]? <;> simp

/-- The new reference number is checked last, when the old order is withdrawn already. -/
theorem applyOrderReplace_code_eq_ok_iff (message : OrderReplaceMessage) :
    (book.applyOrderReplace message).code = .ok ↔
      book.requireMatchingHeader message.header = .ok ∧
        hasValidFields (.orderReplace message) = true ∧
        book.containsOrder message.originalOrderReferenceNumber = true ∧
        book.containsOrder message.newOrderReferenceNumber = false := by
  rw [applyOrderReplace, applyChecked_code_eq_ok_iff]
  refine and_congr_right (fun _ => ?_)
  cases hentry : book.orders[message.originalOrderReferenceNumber]? with
  | none => simp [containsOrder_eq_false_iff.mpr hentry]
  | some existing =>
      have hlive : book.containsOrder message.originalOrderReferenceNumber = true := by
        rw [containsOrder, ExtTreeMap.contains_eq_isSome_getElem?, hentry]
        rfl
      cases hshares : isValidShares message.shares with
      | false => simp [hasValidFields, hshares]
      | true =>
          cases hprice : isValidPrice4 message.price with
          | false => simp [hasValidFields, hprice]
          | true =>
              cases hnew : book.containsOrder message.newOrderReferenceNumber with
              | true => simp
              | false =>
                  have hfresh := containsOrder_eq_false_iff.mp hnew
                  cases hreference : isValidOrderReferenceNumber message.newOrderReferenceNumber <;>
                    simp [hasValidFields, hshares, hprice, hlive, hreference, hfresh,
                      addOrder_after_withdraw]

/-- An order message is accepted unless a field of it is invalid, it is for another
instrument, or the resting orders speak against it. -/
theorem apply_code_eq_ok_iff {message : Message}
    (hbook : VenueBook.affectsOrderBook message = true) :
    (book.apply message).code = .ok ↔
      hasValidFields message = true ∧ book.Addresses message ∧ book.absorbs message = false := by
  rw [addresses_iff]
  cases message with
  | addOrderNoMpid message =>
      simp only [apply, applyAddOrderNoMpid, applyChecked_code_eq_ok_iff,
        addOrder_code_eq_ok_iff, hasValidFields, statedStock, Option.mem_some, forall_eq',
        absorbs, Message.header, and_assoc]
      exact and_left_comm
  | addOrderWithMpid message =>
      simp only [apply, applyAddOrderWithMpid, applyChecked_code_eq_ok_iff,
        addOrder_code_eq_ok_iff, hasValidFields, statedStock, Option.mem_some, forall_eq',
        absorbs, Message.header, and_assoc]
      exact and_left_comm
  | orderExecuted message =>
      simp [apply, applyOrderExecuted, applyChecked_code_eq_ok_iff,
        reduceOrder_code_eq_ok_iff_all, hasValidFields, statedStock, absorbs, Message.header,
        and_left_comm]
  | orderExecutedWithPrice message =>
      simp [apply, applyOrderExecutedWithPrice, applyChecked_code_eq_ok_iff,
        reduceOrder_code_eq_ok_iff_all, hasValidFields, statedStock, absorbs, Message.header,
        and_left_comm]
  | orderCancel message =>
      simp [apply, applyOrderCancel, applyChecked_code_eq_ok_iff,
        reduceOrder_code_eq_ok_iff_all, hasValidFields, statedStock, absorbs, Message.header,
        and_left_comm]
  | orderDelete message =>
      simp [apply, applyOrderDelete, applyChecked_code_eq_ok_iff, deleteOrder_code_eq_ok_iff,
        hasValidFields, statedStock, absorbs, Message.header]
  | orderReplace message =>
      simp [apply, applyOrderReplace_code_eq_ok_iff, statedStock, absorbs, Message.header,
        and_left_comm]
  | systemEvent _ | stockDirectory _ | stockTradingAction _ | tradeNonCross _ | crossTrade _
  | brokenTrade _ => cases hbook

theorem accepts_eq_true_iff {message : Message} :
    book.accepts message = true ↔
      hasValidFields message = true ∧ book.Addresses message ∧ book.absorbs message = false := by
  rw [accepts, Bool.and_eq_true, Bool.and_eq_true, decide_eq_true_iff, Bool.not_eq_true',
    and_assoc]

end Accepted

end SymbolOrderBook

namespace MultiVenueBook

/-- An order message is accepted when its venue was added, its instrument is registered
and its book, which may be a new one, accepts it. -/
theorem bookEntry_code_eq_ok_iff {message : Message}
    (hbook : VenueBook.affectsOrderBook message = true) (isAdded : Bool)
    (metadata : Option InstrumentMetadata) (existing : Option SymbolOrderBook) :
    (bookEntry isAdded metadata message existing).1 = .ok ↔
      isAdded = true ∧ metadata.any (fun metadata =>
        (existing.getD (SymbolOrderBook.new metadata.key metadata.stock)).accepts message) =
          true := by
  cases isAdded with
  | false => exact iff_of_false (fun h => by cases h) (fun h => by cases h.1)
  | true =>
      cases metadata with
      | none => simp [bookEntry, hbook]
      | some metadata =>
          simp only [bookEntry, hbook, Bool.not_true, Bool.false_eq_true, if_false,
            SymbolOrderBook.apply_code_eq_ok_iff hbook, Option.any_some,
            SymbolOrderBook.accepts_eq_true_iff, true_and]

end MultiVenueBook

end Fgep.Book
