import GatedExecution.Instrument.Directory

/-!
# The order book of one symbol

{lit}`book/symbol_order_book.cpp`: resting orders by reference number, and for
each side the price levels with their total quantity and number of orders.  The
orders and the levels are updated by separate code.

An {lit}`Outcome` is what one call returns and leaves behind.  It also records
the call of {lit}`remove_from_level` made on the way, if there was one, so that
what the book asks of that helper can be stated.

Main results:

- Theorem {lit}`apply_effect`: everything a message can do to a book.
- Theorems {lit}`levelAt_addToLevel` and {lit}`levelAt_removeFromLevel`: the level
  maps after the two helpers.
-/

namespace Fgep.Book

open Std Itch Instrument

/-! ## State -/

abbrev Price := Int64
abbrev Quantity := UInt64

/-- What {lit}`best_bid` and {lit}`best_ask` return. -/
structure Level where
  price : Price
  quantity : Quantity
  orderCount : UInt64
deriving DecidableEq

def isEmpty (level : Level) : Bool :=
  level.quantity == 0 || level.orderCount == 0

structure RestingOrder where
  orderReferenceNumber : OrderReferenceNumber
  side : Side
  shares : Shares
  price : Price4
deriving DecidableEq

/-- What {lit}`add_order` demands of an order. -/
structure RestingOrder.IsValid (order : RestingOrder) : Prop where
  reference : isValidOrderReferenceNumber order.orderReferenceNumber = true
  shares : isValidShares order.shares = true
  price : isValidPrice4 order.price = true

/-- Side and price: the level at which an order rests. -/
def RestingOrder.place (order : RestingOrder) : Side × Price4 :=
  (order.side, order.price)

structure LevelState where
  quantity : Quantity := 0
  orderCount : UInt64 := 0
deriving DecidableEq

/-- {lit}`std::greater`: the highest price comes first. -/
def compareDescending (first second : Price4) : Ordering :=
  compare second first

instance : TransCmp compareDescending :=
  inferInstanceAs (TransCmp (fun first second : Price4 => compare second first))

instance : LawfulEqCmp compareDescending where
  eq_of_compare := by
    intro first second h
    unfold compareDescending at h
    exact (LawfulEqCmp.eq_of_compare h).symm

abbrev BidLevels := ExtTreeMap Price4 LevelState compareDescending
abbrev AskLevels := ExtTreeMap Price4 LevelState compare

structure SymbolOrderBook where
  key : InstrumentKey
  stock : StockSymbol
  orders : ExtTreeMap OrderReferenceNumber RestingOrder compare
  bids : BidLevels
  asks : AskLevels

/-- One call of {lit}`remove_from_level`: its arguments and the book it is made on. -/
structure LevelRemoval where
  book : SymbolOrderBook
  order : RestingOrder
  shares : Shares

structure Outcome where
  code : ErrorCode
  book : SymbolOrderBook
  removal : Option LevelRemoval := none

/-! ## Levels -/

section Levels

variable {cmp : Price4 → Price4 → Ordering} [TransCmp cmp] [LawfulEqCmp cmp]

def makeLevel (price : Price4) (state : LevelState) : Level :=
  ⟨Int64.ofNat price.toNat, state.quantity, state.orderCount⟩

/-- {lit}`operator[]` makes a zero level for a new price. -/
def addToLevels (levels : ExtTreeMap Price4 LevelState cmp) (order : RestingOrder) :
    ExtTreeMap Price4 LevelState cmp :=
  let state := levels.getD order.price {}
  levels.insert order.price ⟨state.quantity + order.shares.toUInt64, state.orderCount + 1⟩

/-- The quantity saturates at zero; the count drops only when the whole order
leaves. -/
def removeFromState (order : RestingOrder) (shares : Shares) (state : LevelState) :
    LevelState where
  quantity :=
    if shares.toUInt64 ≥ state.quantity then 0 else state.quantity - shares.toUInt64
  orderCount :=
    if shares = order.shares ∧ state.orderCount > 0 then state.orderCount - 1
    else state.orderCount

def removeFromLevels (levels : ExtTreeMap Price4 LevelState cmp) (order : RestingOrder)
    (shares : Shares) : ExtTreeMap Price4 LevelState cmp :=
  match levels[order.price]? with
  | none => levels
  | some state =>
      let state' := removeFromState order shares state
      if isEmpty (makeLevel order.price state') then levels.erase order.price
      else levels.insert order.price state'

/-- The level an order joins. -/
def joinLevel (order : RestingOrder) (level : Option LevelState) : Option LevelState :=
  let state := level.getD {}
  some ⟨state.quantity + order.shares.toUInt64, state.orderCount + 1⟩

/-- The level {lit}`shares` of an order leave. -/
def leaveLevel (order : RestingOrder) (shares : Shares) (level : Option LevelState) :
    Option LevelState :=
  (level.map (removeFromState order shares)).filter
    (fun state => !isEmpty (makeLevel order.price state))

theorem addToLevels_getElem? (levels : ExtTreeMap Price4 LevelState cmp)
    (order : RestingOrder) (price : Price4) :
    (addToLevels levels order)[price]? =
      if order.price = price then joinLevel order levels[price]? else levels[price]? := by
  rw [addToLevels, ExtTreeMap.getElem?_insert]
  by_cases hprice : order.price = price
  · subst hprice
    rw [if_pos ReflCmp.compare_self, if_pos rfl, joinLevel, ExtTreeMap.getD_eq_getD_getElem?]
  · rw [if_neg (fun heq => hprice (LawfulEqCmp.eq_of_compare heq)), if_neg hprice]

theorem removeFromLevels_getElem? (levels : ExtTreeMap Price4 LevelState cmp)
    (order : RestingOrder) (shares : Shares) (price : Price4) :
    (removeFromLevels levels order shares)[price]? =
      if order.price = price then leaveLevel order shares levels[price]?
      else levels[price]? := by
  unfold removeFromLevels
  by_cases hprice : order.price = price
  · subst hprice
    rw [if_pos rfl, leaveLevel]
    cases hlevel : levels[order.price]? with
    | none => simp [hlevel]
    | some state =>
        by_cases hempty : isEmpty (makeLevel order.price (removeFromState order shares state))
        · simp [hempty, Option.filter]
        · simp [hempty, Option.filter]
  · have hne : ¬cmp order.price price = .eq :=
      fun heq => hprice (LawfulEqCmp.eq_of_compare heq)
    rw [if_neg hprice]
    split
    · rfl
    · dsimp only
      split
      · rw [ExtTreeMap.getElem?_erase, if_neg hne]
      · rw [ExtTreeMap.getElem?_insert, if_neg hne]

end Levels

namespace SymbolOrderBook

/-- The constructor. -/
def new (key : InstrumentKey) (stock : StockSymbol) : SymbolOrderBook :=
  ⟨key, stock, ∅, ∅, ∅⟩

def addToLevel (book : SymbolOrderBook) (order : RestingOrder) : SymbolOrderBook :=
  if order.side = .buy then { book with bids := addToLevels book.bids order }
  else { book with asks := addToLevels book.asks order }

def removeFromLevel (book : SymbolOrderBook) (order : RestingOrder) (shares : Shares) :
    SymbolOrderBook :=
  if order.side = .buy then { book with bids := removeFromLevels book.bids order shares }
  else { book with asks := removeFromLevels book.asks order shares }

/-- The level of a side at a price. -/
def levelAt (book : SymbolOrderBook) : Side → Price4 → Option LevelState
  | .buy, price => book.bids[price]?
  | .sell, price => book.asks[price]?

@[simp] theorem addToLevel_key (book : SymbolOrderBook) (order : RestingOrder) :
    (book.addToLevel order).key = book.key := by
  unfold addToLevel
  split <;> rfl

@[simp] theorem addToLevel_stock (book : SymbolOrderBook) (order : RestingOrder) :
    (book.addToLevel order).stock = book.stock := by
  unfold addToLevel
  split <;> rfl

@[simp] theorem removeFromLevel_key (book : SymbolOrderBook) (order : RestingOrder)
    (shares : Shares) : (book.removeFromLevel order shares).key = book.key := by
  unfold removeFromLevel
  split <;> rfl

@[simp] theorem removeFromLevel_stock (book : SymbolOrderBook) (order : RestingOrder)
    (shares : Shares) : (book.removeFromLevel order shares).stock = book.stock := by
  unfold removeFromLevel
  split <;> rfl

theorem levelAt_addToLevel (book : SymbolOrderBook) (order : RestingOrder) (side : Side)
    (price : Price4) :
    (book.addToLevel order).levelAt side price =
      if order.place = (side, price) then
        joinLevel order (book.levelAt side price)
      else book.levelAt side price := by
  cases hside : order.side <;> cases side <;>
    simp [addToLevel, levelAt, RestingOrder.place, hside, addToLevels_getElem?]

theorem levelAt_removeFromLevel (book : SymbolOrderBook) (order : RestingOrder)
    (shares : Shares) (side : Side) (price : Price4) :
    (book.removeFromLevel order shares).levelAt side price =
      if order.place = (side, price) then
        leaveLevel order shares (book.levelAt side price)
      else book.levelAt side price := by
  cases hside : order.side <;> cases side <;>
    simp [removeFromLevel, levelAt, RestingOrder.place, hside, removeFromLevels_getElem?]

/-! ## The checks and the three ways to change the orders -/

def requireMatchingHeader (book : SymbolOrderBook) (header : Header) : ErrorCode :=
  if !isValidInstrumentKey book.key then .invalidState
  else if header.stockLocate ≠ book.key.stockLocate then .invalidArgument
  else if !isValidTimestampNs header.timestampNs then .invalidArgument
  else .ok

def requireMatchingStock (book : SymbolOrderBook) (stock : StockSymbol) : ErrorCode :=
  if stock ≠ book.stock then .invalidArgument else .ok

def containsOrder (book : SymbolOrderBook) (orderReferenceNumber : OrderReferenceNumber) :
    Bool :=
  book.orders.contains orderReferenceNumber

def orderCount (book : SymbolOrderBook) : Nat :=
  book.orders.size

def empty (book : SymbolOrderBook) : Bool :=
  book.orders.isEmpty

/-- A new order joins its level and the orders. -/
def enterOrder (book : SymbolOrderBook) (order : RestingOrder) : SymbolOrderBook :=
  { book.addToLevel order with
    orders := book.orders.insert order.orderReferenceNumber order }

/-- A stored order leaves its level and the orders. -/
def withdrawOrder (book : SymbolOrderBook) (orderReferenceNumber : OrderReferenceNumber)
    (order : RestingOrder) : SymbolOrderBook :=
  { book.removeFromLevel order order.shares with
    orders := book.orders.erase orderReferenceNumber }

/-- A stored order keeps {lit}`shares` fewer shares. -/
def shrinkOrder (book : SymbolOrderBook) (orderReferenceNumber : OrderReferenceNumber)
    (order : RestingOrder) (shares : Shares) : SymbolOrderBook :=
  { book.removeFromLevel order shares with
    orders := book.orders.insert orderReferenceNumber
      { order with shares := order.shares - shares } }

def addOrder (book : SymbolOrderBook) (orderReferenceNumber : OrderReferenceNumber)
    (side : Side) (shares : Shares) (stock : StockSymbol) (price : Price4) : Outcome :=
  if !isValidOrderReferenceNumber orderReferenceNumber || !isValidShares shares
      || !isValidPrice4 price then
    { code := .invalidArgument, book := book }
  else
    let error := book.requireMatchingStock stock
    if error ≠ .ok then { code := error, book := book }
    else if book.containsOrder orderReferenceNumber then
      { code := .duplicate, book := book }
    else { code := .ok, book := book.enterOrder ⟨orderReferenceNumber, side, shares, price⟩ }

def reduceOrder (book : SymbolOrderBook) (orderReferenceNumber : OrderReferenceNumber)
    (sharesToReduce : Shares) : Outcome :=
  if !isValidShares sharesToReduce then { code := .invalidArgument, book := book }
  else
    match book.orders[orderReferenceNumber]? with
    | none => { code := .notFound, book := book }
    | some existing =>
        if sharesToReduce > existing.shares then { code := .invalidState, book := book }
        else
          -- The order is dropped once nothing of it is left.
          let book' := { book.removeFromLevel existing sharesToReduce with
            orders :=
              if existing.shares - sharesToReduce = 0 then
                book.orders.erase orderReferenceNumber
              else
                book.orders.insert orderReferenceNumber
                  { existing with shares := existing.shares - sharesToReduce } }
          { code := .ok, book := book', removal := some ⟨book, existing, sharesToReduce⟩ }

def deleteOrder (book : SymbolOrderBook) (orderReferenceNumber : OrderReferenceNumber) :
    Outcome :=
  match book.orders[orderReferenceNumber]? with
  | none => { code := .notFound, book := book }
  | some existing =>
      { code := .ok, book := book.withdrawOrder orderReferenceNumber existing,
        removal := some ⟨book, existing, existing.shares⟩ }

/-! ## Messages -/

/-- The common shape of the order messages: the header is checked first. -/
def applyChecked (book : SymbolOrderBook) (header : Header) (body : Outcome) : Outcome :=
  let error := book.requireMatchingHeader header
  if error ≠ .ok then { code := error, book := book } else body

def applyAddOrderNoMpid (book : SymbolOrderBook) (message : AddOrderNoMpidMessage) : Outcome :=
  book.applyChecked message.header
    (book.addOrder message.orderReferenceNumber message.side message.shares message.stock
      message.price)

def applyAddOrderWithMpid (book : SymbolOrderBook) (message : AddOrderWithMpidMessage) :
    Outcome :=
  book.applyChecked message.header
    (book.addOrder message.orderReferenceNumber message.side message.shares message.stock
      message.price)

def applyOrderExecuted (book : SymbolOrderBook) (message : OrderExecutedMessage) : Outcome :=
  book.applyChecked message.header
    (book.reduceOrder message.orderReferenceNumber message.executedShares)

def applyOrderExecutedWithPrice (book : SymbolOrderBook)
    (message : OrderExecutedWithPriceMessage) : Outcome :=
  book.applyChecked message.header
    (book.reduceOrder message.orderReferenceNumber message.executedShares)

def applyOrderCancel (book : SymbolOrderBook) (message : OrderCancelMessage) : Outcome :=
  book.applyChecked message.header
    (book.reduceOrder message.orderReferenceNumber message.cancelledShares)

def applyOrderDelete (book : SymbolOrderBook) (message : OrderDeleteMessage) : Outcome :=
  book.applyChecked message.header (book.deleteOrder message.orderReferenceNumber)

/-- The old order is withdrawn before {lit}`add_order` checks the new one. -/
def applyOrderReplace (book : SymbolOrderBook) (message : OrderReplaceMessage) : Outcome :=
  book.applyChecked message.header <|
    match book.orders[message.originalOrderReferenceNumber]? with
    | none => { code := .notFound, book := book }
    | some existing =>
        if !isValidShares message.shares || !isValidPrice4 message.price then
          { code := .invalidArgument, book := book }
        else if book.containsOrder message.newOrderReferenceNumber then
          { code := .duplicate, book := book }
        else
          let removed := book.withdrawOrder message.originalOrderReferenceNumber existing
          { removed.addOrder message.newOrderReferenceNumber existing.side message.shares
              removed.stock message.price with
            removal := some ⟨book, existing, existing.shares⟩ }

def apply (book : SymbolOrderBook) : Message → Outcome
  | .systemEvent _ => { code := .ok, book := book }
  | .stockDirectory _ => { code := .ok, book := book }
  | .stockTradingAction _ => { code := .ok, book := book }
  | .addOrderNoMpid message => book.applyAddOrderNoMpid message
  | .addOrderWithMpid message => book.applyAddOrderWithMpid message
  | .orderExecuted message => book.applyOrderExecuted message
  | .orderExecutedWithPrice message => book.applyOrderExecutedWithPrice message
  | .orderCancel message => book.applyOrderCancel message
  | .orderDelete message => book.applyOrderDelete message
  | .orderReplace message => book.applyOrderReplace message
  | .tradeNonCross _ => { code := .ok, book := book }
  | .crossTrade _ => { code := .ok, book := book }
  | .brokenTrade _ => { code := .ok, book := book }

/-- {lit}`*levels.begin()`, if there is one. -/
def firstLevel {cmp : Price4 → Price4 → Ordering} [TransCmp cmp]
    (levels : ExtTreeMap Price4 LevelState cmp) : Option Level :=
  match levels.toList.head? with
  | none => none
  | some (price, state) => some (makeLevel price state)

def bestBid (book : SymbolOrderBook) : Option Level :=
  firstLevel book.bids

def bestAsk (book : SymbolOrderBook) : Option Level :=
  firstLevel book.asks

/-- The book after a sequence of calls, whatever they returned. -/
def applyAll (book : SymbolOrderBook) (messages : List Message) : SymbolOrderBook :=
  messages.foldl (fun current message => (current.apply message).book) book

/-! ## What a message can do -/

/-- Everything a call can do to a book.  A change goes with the code and the call
of {lit}`remove_from_level` that belong to it. -/
inductive Effect (book : SymbolOrderBook) : Outcome → Prop where
  | unchanged (code : ErrorCode) : Effect book { code := code, book := book }
  | entered (order : RestingOrder) (hvalid : order.IsValid)
      (hfresh : book.orders[order.orderReferenceNumber]? = none) :
      Effect book { code := .ok, book := book.enterOrder order }
  | shrunk (reference : OrderReferenceNumber) (order : RestingOrder) (shares : Shares)
      (hentry : book.orders[reference]? = some order) (hpos : 0 < shares)
      (hless : shares < order.shares) :
      Effect book { code := .ok, book := book.shrinkOrder reference order shares,
                    removal := some ⟨book, order, shares⟩ }
  | withdrawn (reference : OrderReferenceNumber) (order : RestingOrder)
      (hentry : book.orders[reference]? = some order) :
      Effect book { code := .ok, book := book.withdrawOrder reference order,
                    removal := some ⟨book, order, order.shares⟩ }
  | replaced (reference : OrderReferenceNumber) (order newOrder : RestingOrder)
      (hentry : book.orders[reference]? = some order) (hvalid : newOrder.IsValid)
      (hfresh : book.orders[newOrder.orderReferenceNumber]? = none) :
      Effect book { code := .ok, book := (book.withdrawOrder reference order).enterOrder newOrder,
                    removal := some ⟨book, order, order.shares⟩ }
  | lost (reference : OrderReferenceNumber) (order : RestingOrder)
      (hentry : book.orders[reference]? = some order) :
      Effect book { code := .invalidArgument, book := book.withdrawOrder reference order,
                    removal := some ⟨book, order, order.shares⟩ }

theorem containsOrder_eq_false_iff {book : SymbolOrderBook}
    {orderReferenceNumber : OrderReferenceNumber} :
    book.containsOrder orderReferenceNumber = false ↔
      book.orders[orderReferenceNumber]? = none := by
  rw [containsOrder, ExtTreeMap.contains_eq_isSome_getElem?]
  exact Option.isSome_eq_false_iff.trans Option.isNone_iff_eq_none

/-- A valid order of the book's stock and with a new reference number is entered. -/
theorem addOrder_of_isValid {book : SymbolOrderBook} {order : RestingOrder}
    (hvalid : order.IsValid) (stock : StockSymbol) :
    book.addOrder order.orderReferenceNumber order.side order.shares stock order.price =
      if stock ≠ book.stock then { code := .invalidArgument, book := book }
      else if book.orders[order.orderReferenceNumber]?.isSome then
        { code := .duplicate, book := book }
      else { code := .ok, book := book.enterOrder order } := by
  unfold addOrder requireMatchingStock
  rw [hvalid.reference, hvalid.shares, hvalid.price, containsOrder,
    ExtTreeMap.contains_eq_isSome_getElem?]
  by_cases hstock : stock = book.stock
  · simp [hstock]
  · simp [hstock]

theorem addOrder_effect (book : SymbolOrderBook) (orderReferenceNumber : OrderReferenceNumber)
    (side : Side) (shares : Shares) (stock : StockSymbol) (price : Price4) :
    Effect book (book.addOrder orderReferenceNumber side shares stock price) := by
  by_cases hvalid : RestingOrder.IsValid ⟨orderReferenceNumber, side, shares, price⟩
  · rw [addOrder_of_isValid hvalid]
    split
    · exact .unchanged _
    · split
      · exact .unchanged _
      · rename_i hfresh
        rw [Option.not_isSome_iff_eq_none] at hfresh
        exact .entered _ hvalid hfresh
  · unfold addOrder
    rw [if_pos]
    · exact .unchanged _
    · by_contra hchecks
      simp only [Bool.or_eq_true, Bool.not_eq_true', not_or, Bool.not_eq_false] at hchecks
      exact hvalid ⟨hchecks.1.1, hchecks.1.2, hchecks.2⟩

/-- A stored order gives up at most the shares it has; with nothing left it is
withdrawn. -/
theorem reduceOrder_of_stored {book : SymbolOrderBook} {reference : OrderReferenceNumber}
    {existing : RestingOrder} {shares : Shares} (hshares : isValidShares shares = true)
    (hentry : book.orders[reference]? = some existing) :
    book.reduceOrder reference shares =
      if shares > existing.shares then { code := .invalidState, book := book }
      else if shares = existing.shares then
        { code := .ok, book := book.withdrawOrder reference existing,
          removal := some ⟨book, existing, existing.shares⟩ }
      else
        { code := .ok, book := book.shrinkOrder reference existing shares,
          removal := some ⟨book, existing, shares⟩ } := by
  unfold reduceOrder
  simp only [hshares, hentry, Bool.not_true, Bool.false_eq_true, if_false]
  by_cases hmore : shares > existing.shares
  · rw [if_pos hmore, if_pos hmore]
  · rw [if_neg hmore, if_neg hmore]
    by_cases hall : shares = existing.shares
    · subst hall
      simp only [UInt32.sub_self, if_true]
      rfl
    · have hless : shares < existing.shares :=
        UInt32.lt_of_le_of_ne (UInt32.not_lt.mp hmore) hall
      have hrest : existing.shares - shares ≠ 0 := by
        intro hzero
        have hsub := UInt32.toNat_sub_of_le _ _ (UInt32.le_of_lt hless)
        rw [hzero, UInt32.toNat_zero] at hsub
        have := UInt32.lt_iff_toNat_lt.mp hless
        omega
      simp only [hall, hrest, if_false]
      rfl

theorem reduceOrder_of_none {book : SymbolOrderBook} {reference : OrderReferenceNumber}
    {shares : Shares} (hshares : isValidShares shares = true)
    (hentry : book.orders[reference]? = none) :
    book.reduceOrder reference shares = { code := .notFound, book := book } := by
  simp [reduceOrder, hshares, hentry]

theorem reduceOrder_code_eq_ok_iff {book : SymbolOrderBook} {reference : OrderReferenceNumber}
    {existing : RestingOrder} {shares : Shares} (hshares : isValidShares shares = true)
    (hentry : book.orders[reference]? = some existing) :
    (book.reduceOrder reference shares).code = .ok ↔ shares ≤ existing.shares := by
  rw [reduceOrder_of_stored hshares hentry]
  split
  · rename_i hmore
    exact iff_of_false (by simp) (UInt32.not_le.mpr hmore)
  · rename_i hle
    refine iff_of_true ?_ (UInt32.not_lt.mp hle)
    split <;> rfl

/-- Other orders do not notice. -/
theorem reduceOrder_orders_of_ne {book : SymbolOrderBook} {reference other : OrderReferenceNumber}
    (hne : reference ≠ other) (shares : Shares) :
    (book.reduceOrder reference shares).book.orders[other]? = book.orders[other]? := by
  have hcompare : ¬compare reference other = .eq :=
    fun heq => hne (LawfulEqCmp.eq_of_compare heq)
  unfold reduceOrder
  split
  · rfl
  split
  · rfl
  split
  · rfl
  dsimp only
  split
  · rw [ExtTreeMap.getElem?_erase, if_neg hcompare]
  · rw [ExtTreeMap.getElem?_insert, if_neg hcompare]

theorem reduceOrder_effect (book : SymbolOrderBook)
    (orderReferenceNumber : OrderReferenceNumber) (sharesToReduce : Shares) :
    Effect book (book.reduceOrder orderReferenceNumber sharesToReduce) := by
  cases hshares : isValidShares sharesToReduce with
  | false =>
      simp only [reduceOrder, hshares, Bool.not_false, if_true]
      exact .unchanged _
  | true =>
      cases hentry : book.orders[orderReferenceNumber]? with
      | none =>
          rw [reduceOrder_of_none hshares hentry]
          exact .unchanged _
      | some existing =>
          rw [reduceOrder_of_stored hshares hentry]
          rw [isValidShares, decide_eq_true_iff] at hshares
          split
          · exact .unchanged _
          · rename_i hle
            split
            · exact .withdrawn _ _ hentry
            · rename_i hne
              exact .shrunk _ _ _ hentry hshares
                (UInt32.lt_of_le_of_ne (UInt32.not_lt.mp hle) hne)

theorem deleteOrder_effect (book : SymbolOrderBook)
    (orderReferenceNumber : OrderReferenceNumber) :
    Effect book (book.deleteOrder orderReferenceNumber) := by
  unfold deleteOrder
  split
  · exact .unchanged _
  · rename_i existing hentry
    exact .withdrawn _ _ hentry

/-- The header check passes for a message of the book's instrument. -/
theorem applyChecked_of_header {book : SymbolOrderBook} {header : Header} (body : Outcome)
    (hkey : isValidInstrumentKey book.key = true)
    (hlocate : header.stockLocate = book.key.stockLocate)
    (hheader : isValidHeaderForStockMessage header = true) :
    book.applyChecked header body = body := by
  rw [isValidHeaderForStockMessage, Bool.and_eq_true] at hheader
  simp [applyChecked, requireMatchingHeader, hkey, hlocate, hheader.2]

theorem applyChecked_effect {book : SymbolOrderBook} {body : Outcome} (header : Header)
    (hbody : Effect book body) : Effect book (book.applyChecked header body) := by
  unfold applyChecked
  dsimp only
  split
  · exact .unchanged _
  · exact hbody

theorem withdrawOrder_getElem?_of_none {book : SymbolOrderBook}
    {reference fresh : OrderReferenceNumber} {order : RestingOrder}
    (hfresh : book.orders[fresh]? = none) :
    (book.withdrawOrder reference order).orders[fresh]? = none := by
  rw [withdrawOrder, ExtTreeMap.getElem?_erase, hfresh, ite_self]

@[simp] theorem withdrawOrder_stock (book : SymbolOrderBook) (reference : OrderReferenceNumber)
    (order : RestingOrder) : (book.withdrawOrder reference order).stock = book.stock :=
  removeFromLevel_stock ..

/-- After the old order is withdrawn, only the new reference number can still be
refused. -/
theorem addOrder_after_withdraw {book : SymbolOrderBook} {reference fresh : OrderReferenceNumber}
    {order : RestingOrder} {side : Side} {shares : Shares} {price : Price4}
    (hshares : isValidShares shares = true) (hprice : isValidPrice4 price = true)
    (hfresh : book.orders[fresh]? = none) :
    (book.withdrawOrder reference order).addOrder fresh side shares book.stock price =
      if isValidOrderReferenceNumber fresh then
        { code := .ok,
          book := (book.withdrawOrder reference order).enterOrder ⟨fresh, side, shares, price⟩ }
      else { code := .invalidArgument, book := book.withdrawOrder reference order } := by
  have hcontains : (book.withdrawOrder reference order).containsOrder fresh = false :=
    containsOrder_eq_false_iff.mpr (withdrawOrder_getElem?_of_none hfresh)
  unfold addOrder
  cases hreference : isValidOrderReferenceNumber fresh
  · simp
  · have hstock : (book.withdrawOrder reference order).requireMatchingStock book.stock = .ok := by
      simp [requireMatchingStock]
    simp [hshares, hprice, hstock, hcontains]

theorem applyOrderReplace_effect (book : SymbolOrderBook) (message : OrderReplaceMessage) :
    Effect book (book.applyOrderReplace message) := by
  unfold applyOrderReplace
  apply applyChecked_effect
  split
  · exact .unchanged _
  · rename_i existing hentry
    split
    · exact .unchanged _
    · rename_i hvalid
      simp only [Bool.or_eq_true, Bool.not_eq_true', not_or, Bool.not_eq_false] at hvalid
      split
      · exact .unchanged _
      · rename_i hcontains
        rw [Bool.not_eq_true, containsOrder_eq_false_iff] at hcontains
        dsimp only
        rw [withdrawOrder_stock, addOrder_after_withdraw hvalid.1 hvalid.2 hcontains]
        cases hreference : isValidOrderReferenceNumber message.newOrderReferenceNumber with
        | true => exact .replaced _ _ _ hentry ⟨hreference, hvalid.1, hvalid.2⟩ hcontains
        | false => exact .lost _ _ hentry

/-- Every message has one of the effects. -/
theorem apply_effect (book : SymbolOrderBook) (message : Message) :
    Effect book (book.apply message) := by
  cases message with
  | addOrderNoMpid message => exact applyChecked_effect _ (addOrder_effect ..)
  | addOrderWithMpid message => exact applyChecked_effect _ (addOrder_effect ..)
  | orderExecuted message => exact applyChecked_effect _ (reduceOrder_effect ..)
  | orderExecutedWithPrice message => exact applyChecked_effect _ (reduceOrder_effect ..)
  | orderCancel message => exact applyChecked_effect _ (reduceOrder_effect ..)
  | orderDelete message => exact applyChecked_effect _ (deleteOrder_effect ..)
  | orderReplace message => exact applyOrderReplace_effect book message
  | _ => exact .unchanged _

/-- No message changes which instrument a book is for. -/
theorem Effect.instrument {book : SymbolOrderBook} {outcome : Outcome}
    (heffect : Effect book outcome) :
    outcome.book.key = book.key ∧ outcome.book.stock = book.stock := by
  cases heffect <;> simp [enterOrder, shrinkOrder, withdrawOrder]

end SymbolOrderBook

end Fgep.Book
