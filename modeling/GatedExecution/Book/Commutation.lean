import GatedExecution.Book.Quotes

/-!
# Messages about different orders

A message reads and changes the orders under the reference numbers that it names and no
others.  Two messages that name different ones therefore return the same codes and leave
the same orders whichever comes first.  The levels are not updated order by order, but in
a consistent book they are determined by the orders, so they agree as well, as long as
the quantities fit their type after either message.

Main results:

- Theorem {lit}`apply_agree`: what a message does is decided by the orders it names.
- Theorem {lit}`apply_orders_of_not_mem`: it leaves the others alone.
- Theorem {lit}`updates_commute`: two messages about different orders commute.
- Theorem {lit}`updates_at_limit`: they need not when one of them fills a level.
-/

namespace Fgep.Book.SymbolOrderBook

open Std Itch Instrument TreeMapEntries GroupedSums

/-- The reference numbers under which the book looks when it gets a message.  That of a
trade is never looked up. -/
def references : Message → List OrderReferenceNumber
  | .addOrderNoMpid message => [message.orderReferenceNumber]
  | .addOrderWithMpid message => [message.orderReferenceNumber]
  | .orderExecuted message => [message.orderReferenceNumber]
  | .orderExecutedWithPrice message => [message.orderReferenceNumber]
  | .orderCancel message => [message.orderReferenceNumber]
  | .orderDelete message => [message.orderReferenceNumber]
  | .orderReplace message =>
      [message.originalOrderReferenceNumber, message.newOrderReferenceNumber]
  | _ => []

/-- Books of one instrument with the same orders under some reference numbers. -/
structure AgreeOn (named : List OrderReferenceNumber) (book other : SymbolOrderBook) :
    Prop where
  key : book.key = other.key
  stock : book.stock = other.stock
  orders : ∀ reference ∈ named, book.orders[reference]? = other.orders[reference]?

/-- The same code, and books that agree. -/
structure AgreeAfter (named : List OrderReferenceNumber) (outcome other : Outcome) : Prop where
  code : outcome.code = other.code
  book : AgreeOn named outcome.book other.book

section Agreement

variable {named : List OrderReferenceNumber} {book other : SymbolOrderBook}
  {reference : OrderReferenceNumber}

theorem AgreeOn.containsOrder_eq (hagree : AgreeOn named book other) (hmem : reference ∈ named) :
    book.containsOrder reference = other.containsOrder reference := by
  rw [containsOrder, containsOrder, ExtTreeMap.contains_eq_isSome_getElem?,
    ExtTreeMap.contains_eq_isSome_getElem?, hagree.orders reference hmem]

/-- Orders that are stored alike on both sides keep the agreement. -/
theorem AgreeOn.insert (hagree : AgreeOn named book other) {changed changed' : SymbolOrderBook}
    (hbook : changed.key = book.key ∧ changed.stock = book.stock)
    (hother : changed'.key = other.key ∧ changed'.stock = other.stock) (order : RestingOrder) :
    AgreeOn named { changed with orders := book.orders.insert reference order }
      { changed' with orders := other.orders.insert reference order } where
  key := hbook.1.trans (hagree.key.trans hother.1.symm)
  stock := hbook.2.trans (hagree.stock.trans hother.2.symm)
  orders := by
    intro reference' hmem
    dsimp only
    rw [getElem?_insert_eq_ite, getElem?_insert_eq_ite, hagree.orders reference' hmem]

theorem AgreeOn.erase (hagree : AgreeOn named book other) {changed changed' : SymbolOrderBook}
    (hbook : changed.key = book.key ∧ changed.stock = book.stock)
    (hother : changed'.key = other.key ∧ changed'.stock = other.stock) :
    AgreeOn named { changed with orders := book.orders.erase reference }
      { changed' with orders := other.orders.erase reference } where
  key := hbook.1.trans (hagree.key.trans hother.1.symm)
  stock := hbook.2.trans (hagree.stock.trans hother.2.symm)
  orders := by
    intro reference' hmem
    dsimp only
    rw [getElem?_erase_eq_ite, getElem?_erase_eq_ite, hagree.orders reference' hmem]

theorem addOrder_agree (hagree : AgreeOn named book other) (hmem : reference ∈ named)
    (side : Side) (shares : Shares) (stock : StockSymbol) (price : Price4) :
    AgreeAfter named (book.addOrder reference side shares stock price)
      (other.addOrder reference side shares stock price) := by
  have hstock : book.requireMatchingStock stock = other.requireMatchingStock stock := by
    rw [requireMatchingStock, requireMatchingStock, hagree.stock]
  rw [addOrder, addOrder, hstock, hagree.containsOrder_eq hmem]
  split
  · exact ⟨rfl, hagree⟩
  dsimp only
  split
  · exact ⟨rfl, hagree⟩
  split
  · exact ⟨rfl, hagree⟩
  · exact ⟨rfl, hagree.insert ⟨addToLevel_key .., addToLevel_stock ..⟩
      ⟨addToLevel_key .., addToLevel_stock ..⟩ _⟩

theorem withdrawOrder_agree (hagree : AgreeOn named book other) (order : RestingOrder) :
    AgreeOn named (book.withdrawOrder reference order) (other.withdrawOrder reference order) :=
  hagree.erase ⟨removeFromLevel_key .., removeFromLevel_stock ..⟩
    ⟨removeFromLevel_key .., removeFromLevel_stock ..⟩

theorem reduceOrder_agree (hagree : AgreeOn named book other) (hmem : reference ∈ named)
    (shares : Shares) :
    AgreeAfter named (book.reduceOrder reference shares) (other.reduceOrder reference shares) := by
  rw [reduceOrder, reduceOrder, hagree.orders reference hmem]
  split
  · exact ⟨rfl, hagree⟩
  cases other.orders[reference]? with
  | none => exact ⟨rfl, hagree⟩
  | some existing =>
      dsimp only
      split
      · exact ⟨rfl, hagree⟩
      split
      · exact ⟨rfl, hagree.erase ⟨removeFromLevel_key .., removeFromLevel_stock ..⟩
          ⟨removeFromLevel_key .., removeFromLevel_stock ..⟩⟩
      · exact ⟨rfl, hagree.insert ⟨removeFromLevel_key .., removeFromLevel_stock ..⟩
          ⟨removeFromLevel_key .., removeFromLevel_stock ..⟩ _⟩

theorem deleteOrder_agree (hagree : AgreeOn named book other) (hmem : reference ∈ named) :
    AgreeAfter named (book.deleteOrder reference) (other.deleteOrder reference) := by
  rw [deleteOrder, deleteOrder, hagree.orders reference hmem]
  cases other.orders[reference]? with
  | none => exact ⟨rfl, hagree⟩
  | some existing => exact ⟨rfl, withdrawOrder_agree hagree existing⟩

theorem applyChecked_agree (hagree : AgreeOn named book other) (header : Header)
    {body body' : Outcome} (hbody : AgreeAfter named body body') :
    AgreeAfter named (book.applyChecked header body) (other.applyChecked header body') := by
  have hheader : book.requireMatchingHeader header = other.requireMatchingHeader header := by
    rw [requireMatchingHeader, requireMatchingHeader, hagree.key]
  rw [applyChecked, applyChecked, hheader]
  split
  · exact ⟨rfl, hagree⟩
  · exact hbody

theorem applyOrderReplace_agree (hagree : AgreeOn named book other)
    {message : OrderReplaceMessage} (horiginal : message.originalOrderReferenceNumber ∈ named)
    (hnew : message.newOrderReferenceNumber ∈ named) :
    AgreeAfter named (book.applyOrderReplace message) (other.applyOrderReplace message) := by
  refine applyChecked_agree hagree message.header ?_
  rw [hagree.orders _ horiginal, hagree.containsOrder_eq hnew]
  cases other.orders[message.originalOrderReferenceNumber]? with
  | none => exact ⟨rfl, hagree⟩
  | some existing =>
      dsimp only
      split
      · exact ⟨rfl, hagree⟩
      split
      · exact ⟨rfl, hagree⟩
      · have hremoved := @withdrawOrder_agree named book other
          message.originalOrderReferenceNumber hagree existing
        rw [hremoved.stock]
        have hadded := addOrder_agree hremoved hnew existing.side message.shares
          (other.withdrawOrder message.originalOrderReferenceNumber existing).stock message.price
        exact ⟨hadded.code, hadded.book⟩

/-- On books that agree about the orders it names, a message does the same. -/
theorem apply_agree {message : Message} (hagree : AgreeOn (references message) book other) :
    AgreeAfter (references message) (book.apply message) (other.apply message) := by
  cases message with
  | addOrderNoMpid message =>
      exact applyChecked_agree hagree _ (addOrder_agree hagree List.mem_cons_self _ _ _ _)
  | addOrderWithMpid message =>
      exact applyChecked_agree hagree _ (addOrder_agree hagree List.mem_cons_self _ _ _ _)
  | orderExecuted message =>
      exact applyChecked_agree hagree _ (reduceOrder_agree hagree List.mem_cons_self _)
  | orderExecutedWithPrice message =>
      exact applyChecked_agree hagree _ (reduceOrder_agree hagree List.mem_cons_self _)
  | orderCancel message =>
      exact applyChecked_agree hagree _ (reduceOrder_agree hagree List.mem_cons_self _)
  | orderDelete message =>
      exact applyChecked_agree hagree _ (deleteOrder_agree hagree List.mem_cons_self)
  | orderReplace message =>
      exact applyOrderReplace_agree hagree List.mem_cons_self
        (List.mem_cons_of_mem _ List.mem_cons_self)
  | _ => exact ⟨rfl, hagree⟩

end Agreement

/-! ## The orders a message does not name -/

section Frame

variable {book : SymbolOrderBook} {reference other : OrderReferenceNumber}

theorem addOrder_orders_of_ne (hne : reference ≠ other) (side : Side) (shares : Shares)
    (stock : StockSymbol) (price : Price4) :
    (book.addOrder reference side shares stock price).book.orders[other]? =
      book.orders[other]? := by
  unfold addOrder
  split
  · rfl
  dsimp only
  split
  · rfl
  split
  · rfl
  · exact (getElem?_insert_eq_ite ..).trans (if_neg hne)

theorem withdrawOrder_orders_of_ne (hne : reference ≠ other) (order : RestingOrder) :
    (book.withdrawOrder reference order).orders[other]? = book.orders[other]? :=
  (getElem?_erase_eq_ite ..).trans (if_neg hne)

theorem deleteOrder_orders_of_ne (hne : reference ≠ other) :
    (book.deleteOrder reference).book.orders[other]? = book.orders[other]? := by
  unfold deleteOrder
  split
  · rfl
  · exact withdrawOrder_orders_of_ne hne _

theorem applyChecked_orders {header : Header} {body : Outcome}
    (hbody : body.book.orders[other]? = book.orders[other]?) :
    (book.applyChecked header body).book.orders[other]? = book.orders[other]? := by
  unfold applyChecked
  dsimp only
  split
  · rfl
  · exact hbody

theorem applyOrderReplace_orders_of_ne {message : OrderReplaceMessage}
    (horiginal : message.originalOrderReferenceNumber ≠ other)
    (hnew : message.newOrderReferenceNumber ≠ other) :
    (book.applyOrderReplace message).book.orders[other]? = book.orders[other]? := by
  apply applyChecked_orders
  split
  · rfl
  split
  · rfl
  split
  · rfl
  · exact (addOrder_orders_of_ne hnew ..).trans (withdrawOrder_orders_of_ne horiginal _)

/-- The orders that a message does not name stay as they are. -/
theorem apply_orders_of_not_mem {message : Message} (hother : other ∉ references message) :
    (book.apply message).book.orders[other]? = book.orders[other]? := by
  cases message with
  | addOrderNoMpid message =>
      exact applyChecked_orders (addOrder_orders_of_ne (List.ne_of_not_mem_cons hother).symm ..)
  | addOrderWithMpid message =>
      exact applyChecked_orders (addOrder_orders_of_ne (List.ne_of_not_mem_cons hother).symm ..)
  | orderExecuted message =>
      exact applyChecked_orders (reduceOrder_orders_of_ne (List.ne_of_not_mem_cons hother).symm _)
  | orderExecutedWithPrice message =>
      exact applyChecked_orders (reduceOrder_orders_of_ne (List.ne_of_not_mem_cons hother).symm _)
  | orderCancel message =>
      exact applyChecked_orders (reduceOrder_orders_of_ne (List.ne_of_not_mem_cons hother).symm _)
  | orderDelete message =>
      exact applyChecked_orders (deleteOrder_orders_of_ne (List.ne_of_not_mem_cons hother).symm)
  | orderReplace message =>
      exact applyOrderReplace_orders_of_ne (List.ne_of_not_mem_cons hother).symm
        (List.ne_of_not_mem_cons (List.not_mem_of_not_mem_cons hother)).symm
  | _ => rfl

end Frame

/-! ## Commutation -/

section Commutation

variable {book : SymbolOrderBook} {first second : Message}

/-- What a message reads is untouched by a message about other orders. -/
theorem agreeOn_apply (hdisjoint : (references first).Disjoint (references second)) :
    AgreeOn (references first) (book.apply second).book book := by
  obtain ⟨hkey, hstock⟩ := (apply_effect book second).instrument
  exact ⟨hkey, hstock, fun reference hmem => apply_orders_of_not_mem (hdisjoint hmem)⟩

/-- After two messages, the orders the first of them names are those it left alone. -/
theorem apply_apply_orders (hdisjoint : (references first).Disjoint (references second))
    {reference : OrderReferenceNumber} (hmem : reference ∈ references first) :
    ((book.apply first).book.apply second).book.orders[reference]? =
      ((book.apply second).book.apply first).book.orders[reference]? := by
  have hbefore := (apply_agree (@agreeOn_apply book first second hdisjoint)).book.orders
    reference hmem
  rw [apply_orders_of_not_mem (hdisjoint hmem), ← hbefore]

theorem apply_apply_orders_eq (hdisjoint : (references first).Disjoint (references second)) :
    ((book.apply first).book.apply second).book.orders =
      ((book.apply second).book.apply first).book.orders := by
  apply ExtTreeMap.ext_getElem?
  intro reference
  by_cases hfirst : reference ∈ references first
  · exact apply_apply_orders hdisjoint hfirst
  by_cases hsecond : reference ∈ references second
  · exact (apply_apply_orders hdisjoint.symm hsecond).symm
  · rw [apply_orders_of_not_mem hsecond, apply_orders_of_not_mem hfirst,
      apply_orders_of_not_mem hfirst, apply_orders_of_not_mem hsecond]

/-- The orders of a consistent book determine its levels. -/
theorem Consistent.levels_eq {other : SymbolOrderBook} (hbook : book.Consistent)
    (hother : other.Consistent) (horders : book.orders = other.orders) :
    book.bids = other.bids ∧ book.asks = other.asks := by
  have hlevels : ∀ side price, book.levelAt side price = other.levelAt side price := by
    intro side price
    rw [hbook.levels, hother.levels, restingOrders, restingOrders, horders]
  exact ⟨ExtTreeMap.ext_getElem? (fun price => hlevels .buy price),
    ExtTreeMap.ext_getElem? (fun price => hlevels .sell price)⟩

end Commutation

/-- In a reachable book whose quantities fit, also after either message, two messages
about different orders return the same codes and leave the same containers in either
order. -/
theorem updates_commute (key : InstrumentKey) (stock : StockSymbol) (messages : List Message)
    {first second : Message} (hdisjoint : (references first).Disjoint (references second))
    (hfits : ∀ done, done <+: messages → ((new key stock).applyAll done).SharesFit)
    (hfirst : (((new key stock).applyAll messages).apply first).book.SharesFit)
    (hsecond : (((new key stock).applyAll messages).apply second).book.SharesFit) :
    let book := (new key stock).applyAll messages
    let firstThenSecond := (book.apply first).book.apply second
    let secondThenFirst := (book.apply second).book.apply first
    (book.apply first).code = secondThenFirst.code ∧
      (book.apply second).code = firstThenSecond.code ∧
      firstThenSecond.book.orders = secondThenFirst.book.orders ∧
      firstThenSecond.book.bids = secondThenFirst.book.bids ∧
      firstThenSecond.book.asks = secondThenFirst.book.asks := by
  intro book firstThenSecond secondThenFirst
  have hbook : book.Consistent := applyAll_consistent (new_consistent key stock) hfits
  have hbookFits : book.SharesFit := hfits messages List.prefix_rfl
  have horders : firstThenSecond.book.orders = secondThenFirst.book.orders :=
    apply_apply_orders_eq hdisjoint
  have hconsistent : firstThenSecond.book.Consistent :=
    apply_consistent second hfirst (apply_consistent first hbookFits hbook)
  have hconsistent' : secondThenFirst.book.Consistent :=
    apply_consistent first hsecond (apply_consistent second hbookFits hbook)
  exact ⟨(apply_agree (agreeOn_apply hdisjoint)).code.symm,
    (apply_agree (agreeOn_apply hdisjoint.symm)).code.symm, horders,
    hconsistent.levels_eq hconsistent' horders⟩

/-- A level is emptied by one message and filled by the other. -/
theorem updates_commute_one_level :
    let stock : StockSymbol := List.Vector.replicate 8 0x20
    let messages : List Message := [.addOrderNoMpid ⟨⟨1, 0, 0⟩, 7, .buy, 100, stock, 50⟩]
    let first : Message := .addOrderNoMpid ⟨⟨1, 0, 0⟩, 8, .buy, 40, stock, 50⟩
    let second : Message := .orderDelete ⟨⟨1, 0, 0⟩, 7⟩
    let book := (new ⟨1, 1⟩ stock).applyAll messages
    (book.apply second).book.levelAt .buy 50 = none ∧
      ((book.apply first).book.apply second).book.levelAt .buy 50 = some ⟨40, 1⟩ ∧
      ((book.apply first).book.apply second).book.bids =
        ((book.apply second).book.apply first).book.bids := by
  intro stock messages first second book
  have hdisjoint : (references first).Disjoint (references second) := by
    simp [references, first, second]
  have hfits : ∀ done, done <+: messages → ((new ⟨1, 1⟩ stock).applyAll done).SharesFit :=
    fun done hdone => applyAll_sharesFit (Nat.le_trans hdone.length_le (by decide))
  have hafter : ∀ message, (book.apply message).book.SharesFit := by
    intro message
    have hlength : (messages ++ [message]).length ≤ 2 ^ 32 + 1 := (by decide : 2 ≤ 2 ^ 32 + 1)
    exact @applyAll_sharesFit ⟨1, 1⟩ stock (messages ++ [message]) hlength
  refine ⟨by decide +kernel, by decide +kernel, ?_⟩
  have hcommute := updates_commute ⟨1, 1⟩ stock messages hdisjoint hfits (hafter first)
    (hafter second)
  dsimp only [book]
  exact hcommute.2.2.2.1

/-! ## A full level -/

section Flood

variable {stock : StockSymbol} {n : Nat}

theorem flood_bookOf (hstock : Wire.isValidFixedAscii stock = true) (hn : n < 2 ^ 64) :
    BookOf ⟨1, 1⟩ stock
      ((new ⟨1, 1⟩ stock).applyAll ((List.range n).map (floodMessage stock)))
      ((List.range n).map floodOrder) := by
  rw [← applyAll_flood stock hn]
  apply applyAll_bookOf (by decide)
  intro message hmem
  rcases List.mem_map.mp hmem with ⟨i, hi, rfl⟩
  rw [List.mem_range] at hi
  exact floodMessage_isFor hstock (Nat.lt_of_le_of_lt hi hn)

/-- The bids of a flood make up one level. -/
theorem levelSummary_flood (hn : n ≠ 0) :
    levelSummary (.buy, 1) ((List.range n).map floodOrder) =
      some ⟨UInt64.ofNat (n * (2 ^ 32 - 1)), UInt64.ofNat n⟩ := by
  have hplace : groupMembers RestingOrder.place (.buy, 1) ((List.range n).map floodOrder) =
      (List.range n).map floodOrder := by
    rw [groupMembers, List.filter_eq_self]
    intro order hmem
    rcases List.mem_map.mp hmem with ⟨i, -, rfl⟩
    rfl
  have hweights : ((List.range n).map floodOrder).map RestingOrder.weight =
      List.replicate n (2 ^ 32 - 1) := by
    rw [List.map_map, List.eq_replicate_iff]
    refine ⟨by simp, ?_⟩
    intro weight hmem
    rcases List.mem_map.mp hmem with ⟨i, -, rfl⟩
    rfl
  have hcount : ordersAt (.buy, 1) ((List.range n).map floodOrder) = n := by
    rw [ordersAt, groupCount, hplace, List.length_map, List.length_range]
  have htotal : sharesAt (.buy, 1) ((List.range n).map floodOrder) = n * (2 ^ 32 - 1) := by
    rw [sharesAt, groupTotal, hplace, hweights, List.sum_replicate, smul_eq_mul]
  rw [levelSummary, hcount, htotal, if_neg hn]

/-- One share more at the price of the flood. -/
def lastShare (stock : StockSymbol) : Message :=
  .addOrderNoMpid ⟨⟨1, 0, 0⟩, 0x200000000, .buy, 1, stock, 1⟩

/-- One share less of the first bid of the flood. -/
def cancelShare : Message :=
  .orderCancel ⟨⟨1, 0, 0⟩, 1, 1⟩

variable {book : SymbolOrderBook}

theorem requireMatchingHeader_flood (hkey : book.key = ⟨1, 1⟩) :
    book.requireMatchingHeader ⟨1, 0, 0⟩ = .ok := by
  rw [requireMatchingHeader, hkey]
  decide

theorem levelAt_lastShare (hkey : book.key = ⟨1, 1⟩) (hstock : book.stock = stock)
    (hfresh : book.orders[(0x200000000 : OrderReferenceNumber)]? = none) :
    (book.apply (lastShare stock)).book.levelAt .buy 1 =
      joinLevel ⟨0x200000000, .buy, 1, 1⟩ (book.levelAt .buy 1) := by
  have hvalid : RestingOrder.IsValid ⟨0x200000000, .buy, 1, 1⟩ :=
    ⟨by decide, by decide, by decide⟩
  have hadd := @addOrder_of_isValid book _ hvalid stock
  rw [if_neg (not_not_intro hstock.symm), hfresh, if_neg (by decide)] at hadd
  rw [lastShare, apply, applyAddOrderNoMpid, applyChecked, requireMatchingHeader_flood hkey,
    if_neg (not_not_intro rfl), hadd]
  exact (levelAt_addToLevel book _ .buy 1).trans (if_pos rfl)

theorem levelAt_cancelShare (hkey : book.key = ⟨1, 1⟩)
    (hentry : book.orders[(1 : OrderReferenceNumber)]? = some (floodOrder 0)) :
    (book.apply cancelShare).book.levelAt .buy 1 =
      leaveLevel (floodOrder 0) 1 (book.levelAt .buy 1) := by
  have hreduce := @reduceOrder_of_stored book 1 (floodOrder 0) 1 (by decide) hentry
  rw [if_neg (by decide), if_neg (by decide)] at hreduce
  rw [cancelShare, apply, applyOrderCancel, applyChecked, requireMatchingHeader_flood hkey,
    if_neg (not_not_intro rfl), hreduce]
  exact (levelAt_removeFromLevel book (floodOrder 0) 1 .buy 1).trans (if_pos rfl)

end Flood

/-- {lit}`2^32 + 1` valid bids bring one level to {lit}`2^64 - 1` shares.  One share more
and the cancellation of another leave it there in one order; in the other order the
quantity wraps and the level is dropped. -/
theorem updates_at_limit :
    let stock : StockSymbol := List.Vector.replicate 8 0x20
    let messages := (List.range (2 ^ 32 + 1)).map (floodMessage stock)
    let book := (new ⟨1, 1⟩ stock).applyAll messages
    (∀ done, done <+: messages → ((new ⟨1, 1⟩ stock).applyAll done).SharesFit) ∧
      isValidMessage (lastShare stock) = true ∧ isValidMessage cancelShare = true ∧
      (references (lastShare stock)).Disjoint (references cancelShare) ∧
      ((book.apply (lastShare stock)).book.apply cancelShare).book.bids ≠
        ((book.apply cancelShare).book.apply (lastShare stock)).book.bids := by
  intro stock messages book
  have hfits : ∀ done, done <+: messages → ((new ⟨1, 1⟩ stock).applyAll done).SharesFit := by
    intro done hdone
    apply applyAll_sharesFit
    have hlength := hdone.length_le
    rwa [List.length_map, List.length_range] at hlength
  have hdisjoint : (references (lastShare stock)).Disjoint (references cancelShare) := by
    simp [references, lastShare, cancelShare]
  refine ⟨hfits, by decide, by decide, hdisjoint, ?_⟩
  have hbook : BookOf ⟨1, 1⟩ stock book ((List.range (2 ^ 32 + 1)).map floodOrder) :=
    flood_bookOf (by decide) (by decide)
  have hlevel : book.levelAt .buy 1 =
      some ⟨UInt64.ofNat ((2 ^ 32 + 1) * (2 ^ 32 - 1)), UInt64.ofNat (2 ^ 32 + 1)⟩ := by
    rw [(applyAll_consistent (new_consistent _ _) hfits).levels,
      levelSummary_perm hbook.represents.perm, levelSummary_flood (by decide)]
  have hentry : book.orders[(1 : OrderReferenceNumber)]? = some (floodOrder 0) := by
    have hmem : floodOrder 0 ∈ (List.range (2 ^ 32 + 1)).map floodOrder :=
      List.mem_map_of_mem (List.mem_range.mpr (by decide))
    have hreference : (floodOrder 0).orderReferenceNumber = 1 := rfl
    rw [← hreference]
    exact hbook.represents.getElem?_of_mem (hbook.represents.perm.mem_iff.mpr hmem)
  have hfresh : book.orders[(0x200000000 : OrderReferenceNumber)]? = none := by
    by_contra hsome
    rcases Option.ne_none_iff_exists'.mp hsome with ⟨order, hstored⟩
    have hkey := (hbook.represents.stored _ order hstored).1
    have hmem := hbook.represents.perm.mem_iff.mp (mem_restingOrders hstored)
    rcases List.mem_map.mp hmem with ⟨i, hi, rfl⟩
    rw [List.mem_range] at hi
    have hnumber := congrArg UInt64.toNat hkey
    change (UInt64.ofNat (i + 1)).toNat = 0x200000000 at hnumber
    rw [UInt64.toNat_ofNat_of_lt' (Nat.lt_of_le_of_lt hi (by decide))] at hnumber
    omega
  have hshareKept := (@agreeOn_apply book _ _ hdisjoint)
  have hcancelKept := (@agreeOn_apply book _ _ hdisjoint.symm)
  intro hsame
  have hlevels : ((book.apply (lastShare stock)).book.apply cancelShare).book.levelAt .buy 1 =
      ((book.apply cancelShare).book.apply (lastShare stock)).book.levelAt .buy 1 :=
    congrArg (fun bids : BidLevels => bids[(1 : Price4)]?) hsame
  rw [levelAt_cancelShare (hcancelKept.key.trans hbook.key)
      ((hcancelKept.orders 1 List.mem_cons_self).trans hentry),
    levelAt_lastShare hbook.key hbook.stock hfresh,
    levelAt_lastShare (hshareKept.key.trans hbook.key) (hshareKept.stock.trans hbook.stock)
      ((hshareKept.orders _ List.mem_cons_self).trans hfresh),
    levelAt_cancelShare hbook.key hentry, hlevel] at hlevels
  exact absurd hlevels (by decide)

end Fgep.Book.SymbolOrderBook
