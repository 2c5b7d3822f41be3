import GatedExecution.Book.Rejection

/-!
# A book as a list of live orders

What a book is for, said without price levels or an index: a list of the orders
that are live, and for each message the code it deserves and the list it leaves.
A book represents a list when its stored orders are that list in some order; the
operations of the book then give the list's codes and represent the list's
results.

Main results:

- Theorem {lit}`apply_matches`: one valid message.
- Theorems {lit}`applyAll_bookOf` and {lit}`applyCodes_eq`: any number of them.
-/

namespace Fgep.Book

open Std Itch Instrument TreeMapEntries Runs

abbrev LiveOrders := List RestingOrder

/-! ## The list and its messages -/

namespace LiveOrders

def find (live : LiveOrders) (reference : OrderReferenceNumber) : Option RestingOrder :=
  live.find? (fun order => order.orderReferenceNumber = reference)

def remove (live : LiveOrders) (reference : OrderReferenceNumber) : LiveOrders :=
  live.filter (fun order => order.orderReferenceNumber ≠ reference)

def shrink (live : LiveOrders) (reference : OrderReferenceNumber) (shares : Shares) :
    LiveOrders :=
  live.map (fun order =>
    if order.orderReferenceNumber = reference then order.less shares else order)

/-- A new order of the list's stock. -/
def add (stock : StockSymbol) (live : LiveOrders) (order : RestingOrder)
    (orderStock : StockSymbol) : ErrorCode × LiveOrders :=
  if orderStock ≠ stock then (.invalidArgument, live)
  else if (live.find order.orderReferenceNumber).isSome then (.duplicate, live)
  else (.ok, live ++ [order])

/-- An execution or a cancellation; an order with nothing left disappears. -/
def reduce (live : LiveOrders) (reference : OrderReferenceNumber) (shares : Shares) :
    ErrorCode × LiveOrders :=
  match live.find reference with
  | none => (.notFound, live)
  | some order =>
      if shares > order.shares then (.invalidState, live)
      else if shares = order.shares then (.ok, live.remove reference)
      else (.ok, live.shrink reference shares)

def delete (live : LiveOrders) (reference : OrderReferenceNumber) : ErrorCode × LiveOrders :=
  match live.find reference with
  | none => (.notFound, live)
  | some _ => (.ok, live.remove reference)

/-- The new order takes the side of the old one. -/
def replace (live : LiveOrders) (reference newReference : OrderReferenceNumber)
    (shares : Shares) (price : Price4) : ErrorCode × LiveOrders :=
  match live.find reference with
  | none => (.notFound, live)
  | some order =>
      if (live.find newReference).isSome then (.duplicate, live)
      else (.ok, live.remove reference ++ [⟨newReference, order.side, shares, price⟩])

def apply (stock : StockSymbol) (live : LiveOrders) : Message → ErrorCode × LiveOrders
  | .addOrderNoMpid message =>
      live.add stock
        ⟨message.orderReferenceNumber, message.side, message.shares, message.price⟩ message.stock
  | .addOrderWithMpid message =>
      live.add stock
        ⟨message.orderReferenceNumber, message.side, message.shares, message.price⟩ message.stock
  | .orderExecuted message => live.reduce message.orderReferenceNumber message.executedShares
  | .orderExecutedWithPrice message =>
      live.reduce message.orderReferenceNumber message.executedShares
  | .orderCancel message => live.reduce message.orderReferenceNumber message.cancelledShares
  | .orderDelete message => live.delete message.orderReferenceNumber
  | .orderReplace message =>
      live.replace message.originalOrderReferenceNumber message.newOrderReferenceNumber
        message.shares message.price
  | _ => (.ok, live)

/-- The list after a sequence of messages. -/
def applyAll (stock : StockSymbol) (live : LiveOrders) (messages : List Message) : LiveOrders :=
  messages.foldl (fun current message => (current.apply stock message).2) live

theorem applyAll_concat (stock : StockSymbol) (live : LiveOrders) (messages : List Message)
    (message : Message) :
    LiveOrders.applyAll stock live (messages ++ [message]) =
      (LiveOrders.apply stock (LiveOrders.applyAll stock live messages) message).2 :=
  List.foldl_append

/-- The codes of a sequence of messages. -/
def applyCodes (stock : StockSymbol) (live : LiveOrders) (messages : List Message) :
    List ErrorCode :=
  runOutputs (fun current message => (LiveOrders.apply stock current message).2)
    (fun current message => (LiveOrders.apply stock current message).1) live messages

end LiveOrders

namespace SymbolOrderBook

/-- The codes a book returns for a sequence of messages. -/
def applyCodes (book : SymbolOrderBook) (messages : List Message) : List ErrorCode :=
  runOutputs (fun current message => (current.apply message).book)
    (fun current message => (current.apply message).code) book messages

/-! ## Representation -/

/-- The stored orders are the live orders. -/
structure Represents (book : SymbolOrderBook) (live : LiveOrders) : Prop
    extends book.OrdersStored where
  perm : book.restingOrders.Perm live

/-- A call gives the list's code and represents the list's result. -/
structure Matches (outcome : Outcome) (result : ErrorCode × LiveOrders) : Prop where
  code : outcome.code = result.1
  book : outcome.book.Represents result.2

variable {book : SymbolOrderBook} {live : LiveOrders}

theorem new_represents (key : InstrumentKey) (stock : StockSymbol) :
    (new key stock).Represents [] where
  toOrdersStored := new_ordersStored key stock
  perm := List.Perm.refl []

theorem OrdersStored.getElem?_of_mem (hbook : book.OrdersStored) {order : RestingOrder}
    (hmem : order ∈ book.restingOrders) :
    book.orders[order.orderReferenceNumber]? = some order := by
  rcases mem_values_iff.mp hmem with ⟨reference, hentry⟩
  rw [(hbook.stored reference order hentry).1]
  exact hentry

theorem mem_restingOrders {reference : OrderReferenceNumber} {order : RestingOrder}
    (hentry : book.orders[reference]? = some order) : order ∈ book.restingOrders :=
  mem_values_iff.mpr ⟨reference, hentry⟩

/-- Looking an order up gives the same answer in both. -/
theorem Represents.find_eq (hbook : book.Represents live) (reference : OrderReferenceNumber) :
    live.find reference = book.orders[reference]? := by
  cases hfind : live.find reference with
  | none =>
      symm
      by_contra hsome
      rcases Option.ne_none_iff_exists'.mp hsome with ⟨order, hentry⟩
      have hmem := hbook.perm.mem_iff.mp (mem_restingOrders hentry)
      have hkey := (hbook.stored reference order hentry).1
      have hnone := List.find?_eq_none.mp hfind order hmem
      simp [hkey] at hnone
  | some order =>
      have hmem := hbook.perm.mem_iff.mpr (List.mem_of_find?_eq_some hfind)
      have hkey : order.orderReferenceNumber = reference := by
        simpa using List.find?_some hfind
      rw [← hkey, hbook.getElem?_of_mem hmem]

/-- Apart from a stored order, no resting order has its reference number. -/
theorem OrdersStored.reference_ne (hbook : book.OrdersStored)
    {reference : OrderReferenceNumber} {order other : RestingOrder}
    (hmem : other ∈ (book.withdrawOrder reference order).restingOrders) :
    other.orderReferenceNumber ≠ reference := by
  intro hkey
  have hentry := (withdrawOrder_ordersStored hbook reference order).getElem?_of_mem hmem
  rw [hkey, withdrawOrder, ExtTreeMap.getElem?_erase_self] at hentry
  cases hentry

theorem Represents.withdraw (hbook : book.Represents live) {reference : OrderReferenceNumber}
    {order : RestingOrder} (hentry : book.orders[reference]? = some order) :
    (book.withdrawOrder reference order).Represents (live.remove reference) where
  toOrdersStored := withdrawOrder_ordersStored hbook.toOrdersStored reference order
  perm := by
    have hkey := (hbook.stored reference order hentry).1
    have hperm := hbook.perm.symm.trans (restingOrders_perm_withdrawOrder hentry)
    have hfilter := hperm.filter (fun other => other.orderReferenceNumber ≠ reference)
    have hrest : (book.withdrawOrder reference order).restingOrders.filter
        (fun other => other.orderReferenceNumber ≠ reference) =
          (book.withdrawOrder reference order).restingOrders := by
      rw [List.filter_eq_self]
      intro other hmem
      simpa using hbook.reference_ne hmem
    rw [List.filter_cons_of_neg (by simp [hkey]), hrest] at hfilter
    exact hfilter.symm

theorem Represents.shrink (hbook : book.Represents live) {reference : OrderReferenceNumber}
    {order : RestingOrder} {shares : Shares} (hentry : book.orders[reference]? = some order)
    (hless : shares < order.shares) :
    (book.shrinkOrder reference order shares).Represents (live.shrink reference shares) where
  toOrdersStored := shrinkOrder_ordersStored hbook.toOrdersStored hentry hless
  perm := by
    have hkey := (hbook.stored reference order hentry).1
    have hperm := hbook.perm.symm.trans (restingOrders_perm_withdrawOrder hentry)
    have hmap := hperm.map (fun other =>
      if other.orderReferenceNumber = reference then other.less shares else other)
    have hrest : (book.withdrawOrder reference order).restingOrders.map (fun other =>
        if other.orderReferenceNumber = reference then other.less shares else other) =
          (book.withdrawOrder reference order).restingOrders := by
      rw [List.map_congr_left (g := id), List.map_id]
      intro other hmem
      rw [if_neg (hbook.reference_ne hmem), id]
    rw [List.map_cons, if_pos hkey, hrest] at hmap
    exact (restingOrders_shrinkOrder_perm book reference order shares).trans hmap.symm

theorem Represents.enter (hbook : book.Represents live) {order : RestingOrder}
    (hvalid : order.IsValid) (hfresh : book.orders[order.orderReferenceNumber]? = none) :
    (book.enterOrder order).Represents (live ++ [order]) where
  toOrdersStored := enterOrder_ordersStored hbook.toOrdersStored hvalid
  perm := by
    have hperm := (restingOrders_enterOrder_perm hfresh).trans (hbook.perm.cons order)
    exact hperm.trans (List.perm_append_singleton order live).symm

/-! ## The operations -/

theorem addOrder_matches (hbook : book.Represents live) {order : RestingOrder}
    (hvalid : order.IsValid) (stock : StockSymbol) :
    Matches (book.addOrder order.orderReferenceNumber order.side order.shares stock order.price)
      (live.add book.stock order stock) := by
  rw [addOrder_of_isValid hvalid, LiveOrders.add, hbook.find_eq]
  split
  · exact ⟨rfl, hbook⟩
  · split
    · exact ⟨rfl, hbook⟩
    · rename_i hfresh
      rw [Option.not_isSome_iff_eq_none] at hfresh
      exact ⟨rfl, hbook.enter hvalid hfresh⟩

theorem reduceOrder_matches (hbook : book.Represents live) (reference : OrderReferenceNumber)
    {shares : Shares} (hshares : isValidShares shares = true) :
    Matches (book.reduceOrder reference shares) (live.reduce reference shares) := by
  unfold LiveOrders.reduce
  rw [hbook.find_eq]
  cases hentry : book.orders[reference]? with
  | none =>
      rw [reduceOrder_of_none hshares hentry]
      exact ⟨rfl, hbook⟩
  | some existing =>
      rw [reduceOrder_of_stored hshares hentry]
      dsimp only
      split
      · exact ⟨rfl, hbook⟩
      · rename_i hle
        split
        · exact ⟨rfl, hbook.withdraw hentry⟩
        · rename_i hne
          exact ⟨rfl, hbook.shrink hentry
            (UInt32.lt_of_le_of_ne (UInt32.not_lt.mp hle) hne)⟩

theorem deleteOrder_matches (hbook : book.Represents live) (reference : OrderReferenceNumber) :
    Matches (book.deleteOrder reference) (live.delete reference) := by
  unfold deleteOrder LiveOrders.delete
  rw [hbook.find_eq]
  cases hentry : book.orders[reference]? with
  | none => exact ⟨rfl, hbook⟩
  | some existing => exact ⟨rfl, hbook.withdraw hentry⟩

theorem Matches.checked {header : Header} {body : Outcome} {result : ErrorCode × LiveOrders}
    (hbody : Matches body result) (hkey : isValidInstrumentKey book.key = true)
    (hlocate : header.stockLocate = book.key.stockLocate)
    (hheader : isValidHeaderForStockMessage header = true) :
    Matches (book.applyChecked header body) result := by
  rwa [applyChecked_of_header body hkey hlocate hheader]

theorem applyOrderReplace_matches (hbook : book.Represents live)
    {message : OrderReplaceMessage} (hkey : isValidInstrumentKey book.key = true)
    (hlocate : message.header.stockLocate = book.key.stockLocate)
    (hvalid : isValidOrderReplaceMessage message = true) :
    Matches (book.applyOrderReplace message)
      (live.replace message.originalOrderReferenceNumber message.newOrderReferenceNumber
        message.shares message.price) := by
  simp only [isValidOrderReplaceMessage, Bool.and_eq_true] at hvalid
  rcases hvalid with ⟨⟨⟨⟨⟨hheader, horiginal⟩, hnew⟩, hdistinct⟩, hshares⟩, hprice⟩
  unfold applyOrderReplace LiveOrders.replace
  rw [applyChecked_of_header _ hkey hlocate hheader, hbook.find_eq, hbook.find_eq, containsOrder,
    ExtTreeMap.contains_eq_isSome_getElem?]
  cases hentry : book.orders[message.originalOrderReferenceNumber]? with
  | none => exact ⟨rfl, hbook⟩
  | some existing =>
      simp only [hshares, hprice, Bool.not_true, Bool.or_self, Bool.false_eq_true, if_false]
      cases hfresh : book.orders[message.newOrderReferenceNumber]? with
      | some other => exact ⟨rfl, hbook⟩
      | none =>
          simp only [Option.isSome_none, Bool.false_eq_true, if_false]
          rw [withdrawOrder_stock, addOrder_after_withdraw hshares hprice hfresh, if_pos hnew]
          exact ⟨rfl, (hbook.withdraw hentry).enter ⟨hnew, hshares, hprice⟩
            (withdrawOrder_getElem?_of_none hfresh)⟩

/-! ## Messages and runs -/

/-- A message that decodes and is for the instrument. -/
def IsFor (key : InstrumentKey) (message : Message) : Prop :=
  isValidMessage message = true ∧ message.header.stockLocate = key.stockLocate

instance (key : InstrumentKey) (message : Message) : Decidable (IsFor key message) :=
  inferInstanceAs (Decidable (_ ∧ _))

/-- A valid message for the book's instrument gets the list's code and leaves the
list's orders. -/
theorem apply_matches (hbook : book.Represents live)
    (hkey : isValidInstrumentKey book.key = true) {message : Message}
    (hmessage : IsFor book.key message) :
    Matches (book.apply message) (live.apply book.stock message) := by
  rcases hmessage with ⟨hvalid, hlocate⟩
  cases message with
  | addOrderNoMpid message =>
      simp only [isValidMessage, isValidAddOrderNoMpidMessage, Bool.and_eq_true] at hvalid
      rcases hvalid with ⟨⟨⟨⟨hheader, hreference⟩, hshares⟩, hprice⟩, hstock⟩
      have horder : RestingOrder.IsValid
          ⟨message.orderReferenceNumber, message.side, message.shares, message.price⟩ :=
        ⟨hreference, hshares, hprice⟩
      exact (addOrder_matches hbook horder message.stock).checked hkey hlocate hheader
  | addOrderWithMpid message =>
      simp only [isValidMessage, isValidAddOrderWithMpidMessage, Bool.and_eq_true] at hvalid
      rcases hvalid with ⟨⟨⟨⟨⟨hheader, hreference⟩, hshares⟩, hprice⟩, hstock⟩, hattribution⟩
      have horder : RestingOrder.IsValid
          ⟨message.orderReferenceNumber, message.side, message.shares, message.price⟩ :=
        ⟨hreference, hshares, hprice⟩
      exact (addOrder_matches hbook horder message.stock).checked hkey hlocate hheader
  | orderExecuted message =>
      simp only [isValidMessage, isValidOrderExecutedMessage, Bool.and_eq_true] at hvalid
      rcases hvalid with ⟨⟨⟨hheader, hreference⟩, hshares⟩, hmatch⟩
      exact (reduceOrder_matches hbook _ hshares).checked hkey hlocate hheader
  | orderExecutedWithPrice message =>
      simp only [isValidMessage, isValidOrderExecutedWithPriceMessage, Bool.and_eq_true] at hvalid
      rcases hvalid with ⟨⟨⟨⟨hheader, hreference⟩, hshares⟩, hmatch⟩, hprice⟩
      exact (reduceOrder_matches hbook _ hshares).checked hkey hlocate hheader
  | orderCancel message =>
      simp only [isValidMessage, isValidOrderCancelMessage, Bool.and_eq_true] at hvalid
      rcases hvalid with ⟨⟨hheader, hreference⟩, hshares⟩
      exact (reduceOrder_matches hbook _ hshares).checked hkey hlocate hheader
  | orderDelete message =>
      simp only [isValidMessage, isValidOrderDeleteMessage, Bool.and_eq_true] at hvalid
      exact (deleteOrder_matches hbook _).checked hkey hlocate hvalid.1
  | orderReplace message => exact applyOrderReplace_matches hbook hkey hlocate hvalid
  | _ => exact ⟨rfl, hbook⟩

/-- What a run keeps between a book of an instrument and a list. -/
structure BookOf (key : InstrumentKey) (stock : StockSymbol) (book : SymbolOrderBook)
    (live : LiveOrders) : Prop where
  key : book.key = key
  stock : book.stock = stock
  represents : book.Represents live

section Runs

variable {key : InstrumentKey} {stock : StockSymbol} {messages : List Message}

theorem new_bookOf (key : InstrumentKey) (stock : StockSymbol) :
    BookOf key stock (new key stock) [] :=
  ⟨rfl, rfl, new_represents key stock⟩

theorem BookOf.apply_matches (hkey : isValidInstrumentKey key = true)
    (hbook : BookOf key stock book live) {message : Message} (hmessage : IsFor key message) :
    Matches (book.apply message) (live.apply stock message) := by
  have hkey' : isValidInstrumentKey book.key = true := hbook.key ▸ hkey
  have hmessage' : IsFor book.key message := hbook.key ▸ hmessage
  have hmatches := SymbolOrderBook.apply_matches hbook.represents hkey' hmessage'
  rwa [hbook.stock] at hmatches

/-- One message on both sides. -/
theorem bookOf_step (hkey : isValidInstrumentKey key = true) (book : SymbolOrderBook)
    (live : LiveOrders) (message : Message) (hmessage : IsFor key message)
    (hbook : BookOf key stock book live) :
    BookOf key stock (book.apply message).book (live.apply stock message).2 := by
  have hsame := (apply_effect book message).instrument
  exact ⟨hsame.1.trans hbook.key, hsame.2.trans hbook.stock,
    (hbook.apply_matches hkey hmessage).book⟩

theorem applyAll_bookOf (hkey : isValidInstrumentKey key = true)
    (hmessages : ∀ message ∈ messages, IsFor key message) :
    BookOf key stock ((new key stock).applyAll messages)
      (LiveOrders.applyAll stock [] messages) :=
  simulation_states (bookOf_step hkey) hmessages (new_bookOf key stock)

theorem applyCodes_eq (hkey : isValidInstrumentKey key = true)
    (hmessages : ∀ message ∈ messages, IsFor key message) :
    (new key stock).applyCodes messages = LiveOrders.applyCodes stock [] messages := by
  have hcode : ∀ book live message, IsFor key message → BookOf key stock book live →
      (book.apply message).code = (LiveOrders.apply stock live message).1 :=
    fun _ _ _ hmessage hbook => (hbook.apply_matches hkey hmessage).code
  exact simulation_outputs (bookOf_step hkey) hcode hmessages (new_bookOf key stock)

end Runs

end SymbolOrderBook

end Fgep.Book
