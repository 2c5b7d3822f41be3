import GatedExecution.Book.LiveOrders

/-!
# Quotes

The first entry of a level map is the best quote of the live orders of its side,
as long as no level's shares outgrow the type of a quantity.  Together with the
simulation this makes a book a refinement of the list of live orders.

Main results:

- Theorem {lit}`firstLevel_bestQuote`: the first level of consistent levels.
- Theorem {lit}`book_refines_liveOrders`: codes, orders and quotes of a book are
  those of the list.
- Theorem {lit}`bestBid_overflow`: without the bound on the shares the quotes
  need not be.
-/

namespace Fgep.Book

open Std Itch Instrument GroupedSums TreeMapEntries Runs

/-! ## The best quote of a list -/

/-- The best price of a side among the live orders, with the shares and the number
of the orders at it. -/
structure BestQuote (side : Side) (NoBetter : Price4 → Price4 → Prop) (live : LiveOrders)
    (quote : Option Level) : Prop where
  none_iff : quote = none ↔ ∀ order ∈ live, order.side ≠ side
  best : ∀ level, quote = some level → ∃ price : Price4,
    level.price.toInt = price.toNat ∧
      (∃ order ∈ live, order.side = side ∧ order.price = price) ∧
      (∀ order ∈ live, order.side = side → NoBetter order.price price) ∧
      let resting := live.filter (fun order => order.side = side ∧ order.price = price)
      level.quantity.toNat = (resting.map (fun order => order.shares.toNat)).sum ∧
        level.orderCount.toNat = resting.length

/-- The shares at every place fit the type of a quantity. -/
def LiveOrders.SharesFit (live : LiveOrders) : Prop :=
  ∀ place, sharesAt place live < 2 ^ 64

theorem ordersAt_pos_iff {live : LiveOrders} {side : Side} {price : Price4} :
    0 < ordersAt (side, price) live ↔
      ∃ order ∈ live, order.side = side ∧ order.price = price := by
  have hpos : 0 < ordersAt (side, price) live ↔
      ∃ order ∈ live, order.place = (side, price) := groupCount_pos_iff
  simp only [SymbolOrderBook.place_eq_iff] at hpos
  exact hpos

theorem levelSummary_eq_none_iff {live : LiveOrders} {side : Side} {price : Price4} :
    levelSummary (side, price) live = none ↔
      ∀ order ∈ live, order.side = side → order.price ≠ price := by
  have hpos := @ordersAt_pos_iff live side price
  unfold levelSummary
  split
  · rename_i hzero
    rw [hzero] at hpos
    simp only [Nat.lt_irrefl, false_iff, not_exists, not_and] at hpos
    exact iff_of_true rfl hpos
  · rename_i hne
    rcases hpos.mp (Nat.pos_of_ne_zero hne) with ⟨order, hmem, hside, hprice⟩
    exact iff_of_false (by simp) (fun hnone => hnone order hmem hside hprice)

theorem Int64_toInt_ofNat_price (price : Price4) :
    (Int64.ofNat price.toNat).toInt = price.toNat := by
  have := UInt32.toNat_lt price
  rw [Int64.toInt_ofNat_of_lt]
  omega

section Levels

variable {cmp : Price4 → Price4 → Ordering} [TransCmp cmp] [LawfulEqCmp cmp]
  {levels : ExtTreeMap Price4 LevelState cmp} {side : Side} {live : LiveOrders}

/-- The first of the levels that summarise a list is its best quote. -/
theorem firstLevel_bestQuote {NoBetter : Price4 → Price4 → Prop}
    (hrefl : ∀ price, NoBetter price price)
    (hbefore : ∀ price price', cmp price price' = .lt → NoBetter price' price)
    (hlevels : ∀ price : Price4, levels[price]? = levelSummary (side, price) live)
    (hvalid : ∀ order ∈ live, order.IsValid) (hfits : live.SharesFit) :
    BestQuote side NoBetter live (SymbolOrderBook.firstLevel levels) where
  none_iff := by
    have hnone : SymbolOrderBook.firstLevel levels = none ↔ levels.toList.head? = none := by
      unfold SymbolOrderBook.firstLevel
      split <;> simp_all
    rw [hnone, toList_head?_eq_none_iff]
    simp only [hlevels, levelSummary_eq_none_iff]
    constructor
    · intro habsent order hmem hside
      exact habsent order.price order hmem hside rfl
    · intro hother price order hmem hside
      exact absurd hside (hother order hmem)
  best := by
    intro level hlevel
    unfold SymbolOrderBook.firstLevel at hlevel
    split at hlevel
    · cases hlevel
    · rename_i price state hhead
      cases hlevel
      rcases toList_head?_eq_some hhead with ⟨hentry, hfirst⟩
      have hcount := ordersAt_le_sharesAt hvalid (side, price)
      have hshares := hfits (side, price)
      have hresting : groupMembers RestingOrder.place (side, price) live =
          live.filter (fun order => order.side = side ∧ order.price = price) := by
        simp only [groupMembers, SymbolOrderBook.place_eq_iff]
      rw [hlevels, levelSummary] at hentry
      split at hentry
      · cases hentry
      · rename_i hne
        cases hentry
        refine ⟨price, Int64_toInt_ofNat_price price,
          ordersAt_pos_iff.mp (Nat.pos_of_ne_zero hne), ?_, ?_⟩
        · intro order hmem hside
          -- The level of the order is in the map, so it does not come before the first.
          have hpresent : levels[order.price]? ≠ none := by
            rw [hlevels, Ne, levelSummary_eq_none_iff]
            exact fun habsent => habsent order hmem hside rfl
          rcases Option.ne_none_iff_exists'.mp hpresent with ⟨other, hother⟩
          rcases hfirst order.price other hother with heq | hlt
          · rw [heq]
            exact hrefl price
          · exact hbefore price order.price hlt
        · dsimp only [makeLevel]
          rw [UInt64.toNat_ofNat_of_lt' hshares,
            UInt64.toNat_ofNat_of_lt' (Nat.lt_of_le_of_lt hcount hshares), ← hresting]
          exact ⟨rfl, rfl⟩

end Levels

namespace SymbolOrderBook

/-! ## The quotes of a book -/

section Quotes

variable {book : SymbolOrderBook} {live : LiveOrders}

/-- The levels of a consistent book summarise the live orders. -/
theorem Consistent.levelAt_live (hbook : book.Consistent) (hlive : book.Represents live)
    (side : Side) (price : Price4) :
    book.levelAt side price = levelSummary (side, price) live := by
  rw [hbook.levels side price, levelSummary_perm hlive.perm]

theorem Consistent.valid_live (hbook : book.Consistent) (hlive : book.Represents live) :
    ∀ order ∈ live, order.IsValid := by
  intro order hmem
  exact hbook.valid (hlive.perm.mem_iff.mpr hmem)

theorem Consistent.bestBid_bestQuote (hbook : book.Consistent)
    (hlive : book.Represents live) (hfits : live.SharesFit) :
    BestQuote .buy (fun price best => price ≤ best) live book.bestBid := by
  apply firstLevel_bestQuote
  · exact UInt32.le_refl
  · intro price price' hlt
    exact UInt32.le_of_lt (compareOfLessAndEq_eq_lt.mp hlt)
  · exact hbook.levelAt_live hlive .buy
  · exact hbook.valid_live hlive
  · exact hfits

theorem Consistent.bestAsk_bestQuote (hbook : book.Consistent)
    (hlive : book.Represents live) (hfits : live.SharesFit) :
    BestQuote .sell (fun price best => best ≤ price) live book.bestAsk := by
  apply firstLevel_bestQuote
  · exact UInt32.le_refl
  · intro price price' hlt
    exact UInt32.le_of_lt (compareOfLessAndEq_eq_lt.mp hlt)
  · exact hbook.levelAt_live hlive .sell
  · exact hbook.valid_live hlive
  · exact hfits

theorem Represents.sharesFit_iff (hlive : book.Represents live) :
    book.SharesFit ↔ live.SharesFit := by
  have hsame : ∀ place, sharesAt place book.restingOrders = sharesAt place live :=
    groupTotal_perm hlive.perm
  simp only [SharesFit, LiveOrders.SharesFit, hsame]

/-- The orders of a book are the live orders. -/
theorem Represents.observations (hlive : book.Represents live) :
    (∀ reference, book.containsOrder reference = true ↔
        ∃ order ∈ live, order.orderReferenceNumber = reference) ∧
      book.orderCount = live.length ∧ (book.empty = true ↔ live = []) := by
  have hcount : book.orderCount = live.length := by
    rw [orderCount, ← ExtTreeMap.length_toList, ← hlive.perm.length_eq]
    exact (List.length_map Prod.snd).symm
  refine ⟨?_, hcount, ?_⟩
  · intro reference
    rw [containsOrder, ExtTreeMap.contains_eq_isSome_getElem?, ← hlive.find_eq,
      LiveOrders.find, List.find?_isSome]
    simp
  · rw [← List.length_eq_zero_iff, ← hcount, SymbolOrderBook.empty,
      ExtTreeMap.isEmpty_eq_size_beq_zero, beq_iff_eq, orderCount]

end Quotes

/-! ## The refinement -/

/-- For valid messages of its instrument a book returns the codes of the list of
live orders and stores those orders; while the shares at every price fit, its best
bid and ask are those of the list. -/
theorem book_refines_liveOrders (key : InstrumentKey) (stock : StockSymbol)
    (messages : List Message) (hkey : isValidInstrumentKey key = true)
    (hmessages : ∀ message ∈ messages, IsFor key message) :
    (new key stock).applyCodes messages = LiveOrders.applyCodes stock [] messages ∧
      ∀ done, done <+: messages →
        let book := (new key stock).applyAll done
        let live := LiveOrders.applyAll stock [] done
        (∀ reference, book.containsOrder reference = true ↔
            ∃ order ∈ live, order.orderReferenceNumber = reference) ∧
          book.orderCount = live.length ∧ (book.empty = true ↔ live = []) ∧
          ((∀ earlier, earlier <+: done → (LiveOrders.applyAll stock [] earlier).SharesFit) →
            BestQuote .buy (fun price best => price ≤ best) live book.bestBid ∧
              BestQuote .sell (fun price best => best ≤ price) live book.bestAsk) := by
  refine ⟨applyCodes_eq hkey hmessages, ?_⟩
  intro done hdone book live
  have hrun : ∀ earlier, earlier <+: done → BookOf key stock ((new key stock).applyAll earlier)
      (LiveOrders.applyAll stock [] earlier) := by
    intro earlier hearlier
    apply applyAll_bookOf hkey
    intro message hmem
    exact hmessages message ((hearlier.trans hdone).subset hmem)
  have hlive := (hrun done List.prefix_rfl).represents
  rcases hlive.observations with ⟨hcontains, hcount, hempty⟩
  refine ⟨hcontains, hcount, hempty, ?_⟩
  intro hfits
  have hbook : book.Consistent := by
    apply applyAll_consistent (new_consistent key stock)
    intro earlier hearlier
    exact (hrun earlier hearlier).represents.sharesFit_iff.mpr (hfits earlier hearlier)
  have hfit := hfits done List.prefix_rfl
  exact ⟨hbook.bestBid_bestQuote hlive hfit, hbook.bestAsk_bestQuote hlive hfit⟩

/-- Two bids and an ask, then a cancellation: the better bid is quoted. -/
theorem book_refines_liveOrders_bids :
    let stock : StockSymbol := List.Vector.replicate 8 0x20
    let messages : List Message :=
      [.addOrderNoMpid ⟨⟨1, 0, 0⟩, 7, .buy, 100, stock, 50⟩,
        .addOrderNoMpid ⟨⟨1, 0, 0⟩, 8, .buy, 40, stock, 51⟩,
        .addOrderNoMpid ⟨⟨1, 0, 0⟩, 9, .sell, 10, stock, 60⟩, .orderCancel ⟨⟨1, 0, 0⟩, 8, 15⟩]
    (∀ message ∈ messages, IsFor ⟨1, 1⟩ message) ∧
      BestQuote .buy (fun price best => price ≤ best) (LiveOrders.applyAll stock [] messages)
        ((new ⟨1, 1⟩ stock).applyAll messages).bestBid ∧
      ((new ⟨1, 1⟩ stock).applyAll messages).bestBid = some ⟨51, 25, 1⟩ := by
  intro stock messages
  have hmessages : ∀ message ∈ messages, IsFor ⟨1, 1⟩ message := by decide
  have hrefines := book_refines_liveOrders ⟨1, 1⟩ stock messages (by decide) hmessages
  refine ⟨hmessages, ((hrefines.2 messages List.prefix_rfl).2.2.2 ?_).1, by decide⟩
  intro earlier hearlier
  have hbook : BookOf ⟨1, 1⟩ stock ((new ⟨1, 1⟩ stock).applyAll earlier)
      (LiveOrders.applyAll stock [] earlier) :=
    applyAll_bookOf (by decide) (fun message hmem => hmessages message (hearlier.subset hmem))
  exact hbook.represents.sharesFit_iff.mp
    (applyAll_sharesFit (Nat.le_trans hearlier.length_le (by decide)))

/-! ## Overflow -/

/-- The {lit}`i`-th of many bids for the largest number of shares at one price. -/
def floodOrder (i : Nat) : RestingOrder :=
  ⟨UInt64.ofNat (i + 1), .buy, 0xFFFFFFFF, 1⟩

def floodMessage (stock : StockSymbol) (i : Nat) : Message :=
  .addOrderNoMpid ⟨⟨1, 0, 0⟩, UInt64.ofNat (i + 1), .buy, 0xFFFFFFFF, stock, 1⟩

/-- All of them go live while the reference numbers last. -/
theorem applyAll_flood (stock : StockSymbol) {n : Nat} (hn : n < 2 ^ 64) :
    LiveOrders.applyAll stock [] ((List.range n).map (floodMessage stock)) =
      (List.range n).map floodOrder := by
  induction n with
  | zero => rfl
  | succ n ih =>
      have hfind : LiveOrders.find ((List.range n).map floodOrder) (UInt64.ofNat (n + 1)) =
          none := by
        rw [LiveOrders.find, List.find?_eq_none]
        intro order hmem
        rcases List.mem_map.mp hmem with ⟨i, hi, rfl⟩
        rw [List.mem_range] at hi
        simp only [floodOrder, decide_eq_true_eq, ← UInt64.toNat_inj]
        rw [UInt64.toNat_ofNat_of_lt' (Nat.lt_trans (by omega) hn),
          UInt64.toNat_ofNat_of_lt' hn]
        omega
      rw [List.range_succ, List.map_append, List.map_append, List.map_singleton,
        List.map_singleton, LiveOrders.applyAll_concat, ih (by omega), floodMessage,
        LiveOrders.apply, LiveOrders.add, hfind, if_neg (not_not.mpr rfl), if_neg (by simp)]
      rfl

theorem floodMessage_isFor {stock : StockSymbol} (hstock : Wire.isValidFixedAscii stock = true)
    {i : Nat} (hi : i + 1 < 2 ^ 64) : IsFor ⟨1, 1⟩ (floodMessage stock i) := by
  have hreference : isValidOrderReferenceNumber (UInt64.ofNat (i + 1)) = true := by
    rw [isValidOrderReferenceNumber, decide_eq_true_iff]
    apply UInt64.lt_iff_toNat_lt.mpr
    rw [UInt64.toNat_ofNat_of_lt' hi]
    exact Nat.succ_pos i
  refine ⟨?_, rfl⟩
  simp only [floodMessage, isValidMessage, isValidAddOrderNoMpidMessage, hreference, hstock]
  decide

/-- {lit}`2^32 + 2` valid bids at one price: their shares exceed any quantity. -/
theorem bestBid_overflow :
    let stock : StockSymbol := List.Vector.replicate 8 0x20
    let messages := (List.range (2 ^ 32 + 2)).map (floodMessage stock)
    (∀ message ∈ messages, IsFor ⟨1, 1⟩ message) ∧
      ¬BestQuote .buy (fun price best => price ≤ best) (LiveOrders.applyAll stock [] messages)
        ((new ⟨1, 1⟩ stock).applyAll messages).bestBid := by
  intro stock messages
  have hlive : LiveOrders.applyAll stock [] messages =
      (List.range (2 ^ 32 + 2)).map floodOrder := applyAll_flood stock (by decide)
  constructor
  · intro message hmem
    rcases List.mem_map.mp hmem with ⟨i, hi, rfl⟩
    rw [List.mem_range] at hi
    exact floodMessage_isFor (by decide) (Nat.lt_of_le_of_lt hi (by decide))
  · rw [hlive]
    intro hquote
    cases hbid : ((new ⟨1, 1⟩ stock).applyAll messages).bestBid with
    | none =>
        have hmem : floodOrder 0 ∈ (List.range (2 ^ 32 + 2)).map floodOrder :=
          List.mem_map_of_mem (List.mem_range.mpr (by decide))
        exact hquote.none_iff.mp hbid _ hmem rfl
    | some level =>
        rcases hquote.best level hbid with ⟨price, -, ⟨order, hmem, -, hprice⟩, -, hsum, -⟩
        rcases List.mem_map.mp hmem with ⟨i, -, rfl⟩
        have hall : ((List.range (2 ^ 32 + 2)).map floodOrder).filter
            (fun order => order.side = .buy ∧ order.price = price) =
              (List.range (2 ^ 32 + 2)).map floodOrder := by
          rw [List.filter_eq_self]
          intro order hmem'
          rcases List.mem_map.mp hmem' with ⟨j, -, rfl⟩
          simp [← hprice, floodOrder]
        have hshares : ((List.range (2 ^ 32 + 2)).map floodOrder).map
            (fun order => order.shares.toNat) = List.replicate (2 ^ 32 + 2) (2 ^ 32 - 1) := by
          rw [List.map_map, List.eq_replicate_iff]
          refine ⟨by simp, ?_⟩
          intro shares hmem'
          rcases List.mem_map.mp hmem' with ⟨j, -, rfl⟩
          rfl
        rw [hall, hshares, List.sum_replicate, smul_eq_mul] at hsum
        have := UInt64.toNat_lt level.quantity
        omega

end SymbolOrderBook

end Fgep.Book
