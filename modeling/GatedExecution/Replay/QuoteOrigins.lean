import GatedExecution.Book.Quotes
import GatedExecution.Replay.PacketRuns

/-!
# Where quotes come from

A price level is never there without a cause: in every state that a replay can reach, each
level of each book was placed by an order message that was delivered for the book's locate.

Main results:

- Theorem {lit}`levelAt_apply`: the levels of a book after a message.
- Theorem {lit}`quotedAt_perform`: the levels of all books after any operation.
- Theorem {lit}`quotedAt_reached`: the levels of every reachable state.
- Theorem {lit}`bestBid_quotedAt` and {lit}`bestAsk_quotedAt`: a quote is one of the levels.
-/

namespace Fgep.Book

open Std Itch Instrument TreeMapEntries

/-- The places where a message may put an order.  A replacement keeps the side of the order
it replaces. -/
def Places : Message → Side → Price4 → Prop
  | .addOrderNoMpid message, side, price => message.side = side ∧ message.price = price
  | .addOrderWithMpid message, side, price => message.side = side ∧ message.price = price
  | .orderReplace message, _, price => message.price = price
  | _, _, _ => False

/-! ## One book -/

namespace SymbolOrderBook

section Levels

variable {book : SymbolOrderBook} {side : Side} {price : Price4}

theorem levelAt_enterOrder {order : RestingOrder}
    (hlevel : (book.enterOrder order).levelAt side price ≠ none) :
    book.levelAt side price ≠ none ∨ order.place = (side, price) := by
  have hjoined : (book.enterOrder order).levelAt side price =
      (book.addToLevel order).levelAt side price := by
    cases side <;> rfl
  rw [hjoined, levelAt_addToLevel] at hlevel
  split at hlevel
  · exact Or.inr ‹_›
  · exact Or.inl hlevel

theorem levelAt_removeFromLevel_ne_none {order : RestingOrder} {shares : Shares}
    (hlevel : (book.removeFromLevel order shares).levelAt side price ≠ none) :
    book.levelAt side price ≠ none := by
  rw [levelAt_removeFromLevel] at hlevel
  split at hlevel
  · intro hnone
    rw [hnone] at hlevel
    exact hlevel rfl
  · exact hlevel

theorem levelAt_withdrawOrder {reference : OrderReferenceNumber} {order : RestingOrder}
    (hlevel : (book.withdrawOrder reference order).levelAt side price ≠ none) :
    book.levelAt side price ≠ none := by
  apply @levelAt_removeFromLevel_ne_none book side price order order.shares
  cases side <;> exact hlevel

theorem levelAt_addOrder {reference : OrderReferenceNumber} {orderSide : Side} {shares : Shares}
    {stock : StockSymbol} {orderPrice : Price4}
    (hlevel : (book.addOrder reference orderSide shares stock orderPrice).book.levelAt side price ≠
      none) :
    book.levelAt side price ≠ none ∨ orderSide = side ∧ orderPrice = price := by
  unfold addOrder at hlevel
  split at hlevel
  · exact Or.inl hlevel
  dsimp only at hlevel
  split at hlevel
  · exact Or.inl hlevel
  split at hlevel
  · exact Or.inl hlevel
  · exact (levelAt_enterOrder hlevel).imp_right place_eq_iff.mp

theorem levelAt_reduceOrder {reference : OrderReferenceNumber} {shares : Shares}
    (hlevel : (book.reduceOrder reference shares).book.levelAt side price ≠ none) :
    book.levelAt side price ≠ none := by
  unfold reduceOrder at hlevel
  split at hlevel
  · exact hlevel
  split at hlevel
  · exact hlevel
  split at hlevel
  · exact hlevel
  · rename_i existing _ _
    apply @levelAt_removeFromLevel_ne_none book side price existing shares
    cases side <;> exact hlevel

theorem levelAt_deleteOrder {reference : OrderReferenceNumber}
    (hlevel : (book.deleteOrder reference).book.levelAt side price ≠ none) :
    book.levelAt side price ≠ none := by
  unfold deleteOrder at hlevel
  split at hlevel
  · exact hlevel
  · exact levelAt_withdrawOrder hlevel

/-- A message that fails the check of its header changes nothing. -/
theorem levelAt_applyChecked {header : Header} {body : Outcome} {placed : Prop}
    (hbody : body.book.levelAt side price ≠ none → book.levelAt side price ≠ none ∨ placed)
    (hlevel : (book.applyChecked header body).book.levelAt side price ≠ none) :
    book.levelAt side price ≠ none ∨ placed := by
  unfold applyChecked at hlevel
  dsimp only at hlevel
  split at hlevel
  · exact Or.inl hlevel
  · exact hbody hlevel

theorem levelAt_apply {message : Message}
    (hlevel : (book.apply message).book.levelAt side price ≠ none) :
    book.levelAt side price ≠ none ∨ Places message side price := by
  cases message with
  | addOrderNoMpid message => exact levelAt_applyChecked levelAt_addOrder hlevel
  | addOrderWithMpid message => exact levelAt_applyChecked levelAt_addOrder hlevel
  | orderExecuted message =>
      exact levelAt_applyChecked (fun h => Or.inl (levelAt_reduceOrder h)) hlevel
  | orderExecutedWithPrice message =>
      exact levelAt_applyChecked (fun h => Or.inl (levelAt_reduceOrder h)) hlevel
  | orderCancel message =>
      exact levelAt_applyChecked (fun h => Or.inl (levelAt_reduceOrder h)) hlevel
  | orderDelete message =>
      exact levelAt_applyChecked (fun h => Or.inl (levelAt_deleteOrder h)) hlevel
  | orderReplace message =>
      refine levelAt_applyChecked (fun hbody => ?_) hlevel
      split at hbody
      · exact Or.inl hbody
      split at hbody
      · exact Or.inl hbody
      split at hbody
      · exact Or.inl hbody
      · rcases levelAt_addOrder hbody with hbefore | ⟨-, hprice⟩
        · exact Or.inl (levelAt_withdrawOrder hbefore)
        · exact Or.inr hprice
  | _ => exact Or.inl hlevel

end Levels

/-- The first level of a side is one of its levels. -/
theorem firstLevel_eq_some {cmp : Price4 → Price4 → Ordering} [TransCmp cmp] [LawfulEqCmp cmp]
    {levels : ExtTreeMap Price4 LevelState cmp} {level : Level}
    (hlevel : firstLevel levels = some level) :
    ∃ price : Price4, level.price.toInt = price.toNat ∧ levels[price]? ≠ none := by
  unfold firstLevel at hlevel
  split at hlevel
  · cases hlevel
  · rename_i price state hhead
    cases hlevel
    refine ⟨price, Int64_toInt_ofNat_price price, ?_⟩
    rw [(toList_head?_eq_some hhead).1]
    exact Option.some_ne_none state

end SymbolOrderBook

/-! ## All books -/

namespace MultiVenueBook

/-- The book of a key has a level at a price. -/
def QuotedAt (books : MultiVenueBook) (key : InstrumentKey) (side : Side) (price : Price4) :
    Prop :=
  ∃ book, books.bookAt key = some book ∧ book.levelAt side price ≠ none

section Quoted

variable {books : MultiVenueBook} {directory : InstrumentDirectory} {key : InstrumentKey}
  {side : Side} {price : Price4}

theorem levelAt_new (key : InstrumentKey) (stock : StockSymbol) (side : Side) (price : Price4) :
    (SymbolOrderBook.new key stock).levelAt side price = none := by
  cases side <;> exact ExtTreeMap.getElem?_empty

theorem quotedAt_apply (hrouted : books.Routed) (hkeyed : directory.Keyed)
    {venueId : Venue.VenueId} {message : Message}
    (hquoted : (books.apply directory venueId message).2.QuotedAt key side price) :
    books.QuotedAt key side price ∨
      message.header.stockLocate = key.stockLocate ∧ Places message side price := by
  obtain ⟨book, hbook, hlevel⟩ := hquoted
  rw [(apply_changesBook hrouted hkeyed venueId message).bookAt] at hbook
  split at hbook
  · rename_i hkey
    rw [← hkey] at hbook
    unfold bookEntry at hbook
    split at hbook
    · exact Or.inl ⟨book, hbook, hlevel⟩
    split at hbook
    · exact Or.inl ⟨book, hbook, hlevel⟩
    split at hbook
    · exact Or.inl ⟨book, hbook, hlevel⟩
    · rename_i metadata _
      rw [← Option.some.inj hbook] at hlevel
      rcases SymbolOrderBook.levelAt_apply hlevel with hbefore | hplaced
      · left
        cases hexisting : books.bookAt key with
        | none =>
            rw [hexisting] at hbefore
            exact absurd (levelAt_new metadata.key metadata.stock side price) hbefore
        | some existing =>
            rw [hexisting] at hbefore
            exact ⟨existing, hexisting, hbefore⟩
      · exact Or.inr ⟨by rw [hkey], hplaced⟩
  · exact Or.inl ⟨book, hbook, hlevel⟩

theorem quoteFrom_eq_some {best : SymbolOrderBook → Option Level}
    {metadata : Option InstrumentMetadata} {book : Option SymbolOrderBook} {quote : Quote}
    (hquote : quoteFrom best metadata book = some quote) :
    ∃ stored level, book = some stored ∧ best stored = some level ∧
      quote.price = level.price := by
  cases book with
  | none => cases hquote
  | some stored =>
      cases hlevel : best stored with
      | none => simp [quoteFrom, hlevel] at hquote
      | some level =>
          cases metadata with
          | none => simp [quoteFrom] at hquote
          | some metadata =>
              refine ⟨stored, level, rfl, hlevel, ?_⟩
              simp [quoteFrom, hlevel] at hquote
              rw [← hquote]
              rfl

theorem bestBid_quotedAt (hrouted : books.Routed) {quote : Quote}
    (hquote : books.bestBid directory key = some quote) :
    ∃ price : Price4, quote.price.toInt = price.toNat ∧ books.QuotedAt key .buy price := by
  rw [bestBid_eq hrouted] at hquote
  obtain ⟨book, level, hbook, hlevel, hprice⟩ := quoteFrom_eq_some hquote
  obtain ⟨price, htoInt, hpresent⟩ := SymbolOrderBook.firstLevel_eq_some hlevel
  exact ⟨price, by rw [hprice, htoInt], book, hbook, hpresent⟩

theorem bestAsk_quotedAt (hrouted : books.Routed) {quote : Quote}
    (hquote : books.bestAsk directory key = some quote) :
    ∃ price : Price4, quote.price.toInt = price.toNat ∧ books.QuotedAt key .sell price := by
  rw [bestAsk_eq hrouted] at hquote
  obtain ⟨book, level, hbook, hlevel, hprice⟩ := quoteFrom_eq_some hquote
  obtain ⟨price, htoInt, hpresent⟩ := SymbolOrderBook.firstLevel_eq_some hlevel
  exact ⟨price, by rw [hprice, htoInt], book, hbook, hpresent⟩

end Quoted

end MultiVenueBook

end Fgep.Book

/-! ## Replays -/

namespace Fgep.Replay

open Book Instrument Runs

/-- The messages that an operation hands to the books or to the applier. -/
def ReplayOp.delivered : ReplayOp → List Itch.Message
  | .directoryCall _ => []
  | .addVenue _ => []
  | .bookCall _ message => [message]
  | .applyPacket packet => packet.messages.map (fun decoded => decoded.message)
  | .apply decodedMessage => [decodedMessage.message]

/-- A delivered message put an order at a place of the book of a key. -/
def Placed (messages : List Itch.Message) (key : InstrumentKey) (side : Itch.Side)
    (price : Itch.Price4) : Prop :=
  ∃ message ∈ messages, message.header.stockLocate = key.stockLocate ∧ Places message side price

theorem Placed.of_subset {messages more : List Itch.Message} {key : InstrumentKey}
    {side : Itch.Side} {price : Itch.Price4} (hplaced : Placed messages key side price)
    (hsubset : messages ⊆ more) : Placed more key side price := by
  obtain ⟨message, hmem, hplaces⟩ := hplaced
  exact ⟨message, hsubset hmem, hplaces⟩

namespace ItchReplayApplier

section Origins

variable {applier : ItchReplayApplier} {venueId : Venue.VenueId} {key : InstrumentKey}
  {side : Itch.Side} {price : Itch.Price4}

theorem quotedAt_applyOne (hsound : applier.Sound venueId) {decodedMessage : DecodedItchMessage}
    (hquoted : (applier.apply decodedMessage).2.books.QuotedAt key side price) :
    applier.books.QuotedAt key side price ∨ Placed [decodedMessage.message] key side price := by
  obtain ⟨sequenceNumber, message⟩ := decodedMessage
  cases hbook : VenueBook.affectsOrderBook message with
  | true =>
      have hcore := (apply_bookMessage applier sequenceNumber hbook).2
      have hbooks := congrArg (fun core => core.2.2) hcore
      change (applier.apply ⟨sequenceNumber, message⟩).2.books = _ at hbooks
      rw [hbooks] at hquoted
      rcases MultiVenueBook.quotedAt_apply hsound.routed hsound.keyed hquoted with
        hbefore | hplaced
      · exact Or.inl hbefore
      · exact Or.inr ⟨message, List.mem_singleton_self _, hplaced⟩
  | false =>
      have hbooks : (applier.apply ⟨sequenceNumber, message⟩).2.books = applier.books := by
        cases message <;> first | rfl | cases hbook
      rw [hbooks] at hquoted
      exact Or.inl hquoted

theorem quotedAt_applyAll (hsound : applier.Sound venueId)
    {decodedMessages : List DecodedItchMessage}
    (hquoted : (applier.applyAll decodedMessages).books.QuotedAt key side price) :
    applier.books.QuotedAt key side price ∨
      Placed (decodedMessages.map (fun decoded => decoded.message)) key side price := by
  induction decodedMessages generalizing applier with
  | nil => exact Or.inl hquoted
  | cons decoded rest ih =>
      rw [applyAll_cons] at hquoted
      rcases ih (hsound.apply decoded) hquoted with hfirst | hplaced
      · rcases quotedAt_applyOne hsound hfirst with hbefore | hplaced
        · exact Or.inl hbefore
        · exact Or.inr (hplaced.of_subset (by simp))
      · exact Or.inr (hplaced.of_subset (by simp))

theorem quotedAt_applyPacket (hsound : applier.Sound venueId)
    {packet : MoldUdp64ItchReplayPacket}
    (hquoted : (applier.applyPacket packet).2.books.QuotedAt key side price) :
    applier.books.QuotedAt key side price ∨
      Placed (packet.messages.map (fun decoded => decoded.message)) key side price := by
  unfold ItchReplayApplier.applyPacket at hquoted
  split at hquoted
  · exact Or.inl hquoted
  dsimp only at hquoted
  split at hquoted
  · have hbegun : applier.beginData.Sound venueId := hsound.of_core rfl
    change (applier.beginData.applyMessages packet.messages).2.books.QuotedAt key side price
      at hquoted
    rcases applyMessages_cases applier.beginData packet.messages with
      ⟨-, hresult⟩ | ⟨before, failing, after, hsplit, -, -, hresult⟩
    · rw [hresult] at hquoted
      exact quotedAt_applyAll hbegun hquoted
    · -- The messages up to the failing one are a run of their own.
      rw [hresult] at hquoted
      have hrun : (applier.beginData.applyAll (before ++ [failing])).books.QuotedAt key side
          price := by
        rw [applyAll, List.foldl_append]
        exact hquoted
      refine (quotedAt_applyAll hbegun hrun).imp_right (fun hplaced => hplaced.of_subset ?_)
      rw [hsplit]
      intro message hmem
      simp only [List.map_append, List.map_cons, List.map_nil, List.mem_append, List.mem_cons,
        List.not_mem_nil, or_false] at hmem ⊢
      tauto
  · exact Or.inl hquoted
  · exact Or.inl hquoted

theorem quotedAt_perform (hsound : applier.Sound venueId) {op : ReplayOp}
    (hquoted : (applier.perform op).books.QuotedAt key side price) :
    applier.books.QuotedAt key side price ∨ Placed op.delivered key side price := by
  cases op with
  | directoryCall call => exact Or.inl hquoted
  | addVenue added =>
      obtain ⟨book, hbook, hlevel⟩ := hquoted
      have hsame := MultiVenueBook.addVenue_bookAt applier.books added key
      exact Or.inl ⟨book, hsame ▸ hbook, hlevel⟩
  | bookCall target message =>
      rcases MultiVenueBook.quotedAt_apply hsound.routed hsound.keyed hquoted with
        hbefore | hplaced
      · exact Or.inl hbefore
      · exact Or.inr ⟨message, List.mem_singleton_self _, hplaced⟩
  | applyPacket packet => exact quotedAt_applyPacket hsound hquoted
  | apply decodedMessage => exact quotedAt_applyOne hsound hquoted

/-- Every level of a reachable state was placed by a delivered message. -/
theorem quotedAt_reached {ops : List ReplayOp}
    (hquoted : (reached venueId ops).books.QuotedAt key side price) :
    Placed (ops.flatMap ReplayOp.delivered) key side price := by
  induction ops using List.reverseRecOn with
  | nil =>
      obtain ⟨book, hbook, -⟩ := hquoted
      have hnone : MultiVenueBook.empty.bookAt key = none :=
        MultiVenueBook.bookAt_of_not_containsVenue Std.ExtTreeMap.contains_empty
      rw [show (reached venueId []).books = .empty from rfl, hnone] at hbook
      cases hbook
  | append_singleton ops op ih =>
      rw [reached, List.foldl_append] at hquoted
      rcases quotedAt_perform (reached_sound venueId ops) hquoted with hbefore | hplaced
      · exact (ih hbefore).of_subset (by simp)
      · exact hplaced.of_subset (by simp)

end Origins

end ItchReplayApplier

end Fgep.Replay
