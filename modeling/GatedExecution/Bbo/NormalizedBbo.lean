import GatedExecution.Book.Market
import GatedExecution.Lib.Argmax

/-!
# The best quotes of a symbol across venues

{lit}`bbo/normalized_bbo.cpp`: the quotes of a symbol are scanned in the order its
instruments were registered, and a better one replaces the best so far.  Price decides
first, then quantity, then the venue; quotes that tie in all three are of one venue.

Main results:

- Theorem {lit}`isBetter_iff`: the comparison is that of a rank.
- Theorem {lit}`foldl_keepBetter`: the scan finds the first quote of the highest rank.
- Theorem {lit}`get_eq_of_agree`: the best quotes depend on the order of registration
  only within each venue.
-/

namespace Fgep.Bbo

open Book Instrument Argmax

namespace NormalizedBboView

/-! ## The scan -/

/-- The common body of the two comparisons. -/
def isBetter (betterPrice : Price → Price → Bool) (candidate current : Quote) : Bool :=
  if candidate.price ≠ current.price then betterPrice candidate.price current.price
  else if candidate.quantity ≠ current.quantity then candidate.quantity > current.quantity
  else candidate.key.venueId < current.key.venueId

def isBetterBid (candidate current : Quote) : Bool :=
  isBetter (fun price other => price > other) candidate current

def isBetterAsk (candidate current : Quote) : Bool :=
  isBetter (fun price other => price < other) candidate current

/-- One round of the loops of {lit}`get`. -/
def keepBetter (better : Quote → Quote → Bool) (best : Option Quote) (quote : Quote) :
    Option Quote :=
  match best with
  | none => some quote
  | some current => if better quote current then some quote else some current

def get (books : MultiVenueBook) (directory : InstrumentDirectory) (symbol : CanonicalSymbol) :
    Bbo where
  symbol := symbol
  bid := (books.bids directory symbol).foldl (keepBetter isBetterBid) none
  ask := (books.asks directory symbol).foldl (keepBetter isBetterAsk) none

/-! ## Ranks -/

/-- Quotes by the rank of their price, then by quantity, then by venue id downwards. -/
def rankBy (priceRank : Price → Int) (quote : Quote) : ℤ ×ₗ ℤ ×ₗ ℤ :=
  toLex (priceRank quote.price, toLex ((quote.quantity.toNat : ℤ), -(quote.key.venueId.toNat : ℤ)))

def bidRank : Quote → ℤ ×ₗ ℤ ×ₗ ℤ :=
  rankBy (fun price => price.toInt)

def askRank : Quote → ℤ ×ₗ ℤ ×ₗ ℤ :=
  rankBy (fun price => -price.toInt)

section Ranks

variable {priceRank : Price → Int} {betterPrice : Price → Price → Bool}

theorem rankBy_lt_iff (candidate current : Quote) :
    rankBy priceRank current < rankBy priceRank candidate ↔
      priceRank current.price < priceRank candidate.price ∨
        priceRank current.price = priceRank candidate.price ∧
          (current.quantity.toNat < candidate.quantity.toNat ∨
            current.quantity.toNat = candidate.quantity.toNat ∧
              candidate.key.venueId.toNat < current.key.venueId.toNat) := by
  rw [rankBy, rankBy, Prod.Lex.toLex_lt_toLex, Prod.Lex.toLex_lt_toLex]
  simp

theorem isBetter_iff
    (hbetter : ∀ price other, betterPrice price other = true ↔ priceRank other < priceRank price)
    (hrank : ∀ price other, priceRank price = priceRank other ↔ price = other)
    (candidate current : Quote) :
    isBetter betterPrice candidate current = true ↔
      rankBy priceRank current < rankBy priceRank candidate := by
  rw [rankBy_lt_iff, isBetter]
  by_cases hprice : candidate.price = current.price
  · rw [if_neg (not_not.mpr hprice), hprice]
    by_cases hquantity : candidate.quantity = current.quantity
    · rw [if_neg (not_not.mpr hquantity), hquantity, decide_eq_true_iff, UInt16.lt_iff_toNat_lt]
      simp
    · have hne : current.quantity.toNat ≠ candidate.quantity.toNat :=
        fun heq => hquantity (UInt64.toNat_inj.mp heq.symm)
      rw [if_pos hquantity, decide_eq_true_iff, gt_iff_lt, UInt64.lt_iff_toNat_lt]
      simp [hne]
  · have hne : priceRank current.price ≠ priceRank candidate.price :=
      fun heq => hprice ((hrank _ _).mp heq).symm
    rw [if_pos hprice, hbetter]
    simp [hne]

theorem isBetterBid_iff (candidate current : Quote) :
    isBetterBid candidate current = true ↔ bidRank current < bidRank candidate := by
  apply isBetter_iff
  · intro price other
    rw [decide_eq_true_iff, gt_iff_lt, Int64.lt_iff_toInt_lt]
  · intro price other
    exact Int64.toInt_inj

theorem isBetterAsk_iff (candidate current : Quote) :
    isBetterAsk candidate current = true ↔ askRank current < askRank candidate := by
  apply isBetter_iff
  · intro price other
    rw [decide_eq_true_iff, Int64.lt_iff_toInt_lt, Int.neg_lt_neg_iff]
  · intro price other
    rw [Int.neg_inj, Int64.toInt_inj]

/-- Quotes of equal rank are of one venue. -/
theorem venueId_eq_of_rankBy_eq (priceRank : Price → Int) (first second : Quote)
    (heq : rankBy priceRank first = rankBy priceRank second) :
    first.key.venueId = second.key.venueId := by
  have hvenue := congrArg (fun rank => (ofLex (ofLex rank).2).2) heq
  have hnat : first.key.venueId.toNat = second.key.venueId.toNat := by
    simpa [rankBy] using hvenue
  exact UInt16.toNat_inj.mp hnat

end Ranks

/-! ## The best quotes -/

theorem foldl_keepBetter {better : Quote → Quote → Bool} {rank : Quote → ℤ ×ₗ ℤ ×ₗ ℤ}
    (hbetter : ∀ candidate current, better candidate current = true ↔
      rank current < rank candidate) (quotes : List Quote) :
    quotes.foldl (keepBetter better) none = quotes.argmax rank := by
  have hround : keepBetter better =
      List.argAux (fun candidate current => rank current < rank candidate) := by
    funext best quote
    cases best with
    | none => rfl
    | some current => simp only [keepBetter, List.argAux, hbetter]
  rw [hround]
  rfl

theorem get_bid (books : MultiVenueBook) (directory : InstrumentDirectory)
    (symbol : CanonicalSymbol) :
    (get books directory symbol).bid = (books.bids directory symbol).argmax bidRank :=
  foldl_keepBetter isBetterBid_iff _

theorem get_ask (books : MultiVenueBook) (directory : InstrumentDirectory)
    (symbol : CanonicalSymbol) :
    (get books directory symbol).ask = (books.asks directory symbol).argmax askRank :=
  foldl_keepBetter isBetterAsk_iff _

/-- The quotes of one venue are those of its keys. -/
theorem filter_filterMap_venue {quoteAt : InstrumentKey → Option Quote}
    (hkey : ∀ key quote, quoteAt key = some quote → quote.key = key) (keys : List InstrumentKey)
    (venueId : Venue.VenueId) :
    (keys.filterMap quoteAt).filter (fun quote => quote.key.venueId = venueId) =
      (keys.filter (fun key => key.venueId = venueId)).filterMap quoteAt := by
  rw [List.filter_filterMap, List.filterMap_filter]
  congr 1
  funext key
  cases hquote : quoteAt key with
  | none => simp
  | some quote =>
      rw [Option.filter, hkey key quote hquote]

theorem quotes_argmax_eq {quoteAt : InstrumentKey → Option Quote}
    (hkey : ∀ key quote, quoteAt key = some quote → quote.key = key) (priceRank : Price → Int)
    {first second : List InstrumentKey}
    (hkeys : ∀ venueId, first.filter (fun key => key.venueId = venueId) =
      second.filter (fun key => key.venueId = venueId)) :
    (first.filterMap quoteAt).argmax (rankBy priceRank) =
      (second.filterMap quoteAt).argmax (rankBy priceRank) := by
  apply argmax_eq_of_filter_eq (venueId_eq_of_rankBy_eq priceRank)
  intro venueId
  rw [filter_filterMap_venue hkey, filter_filterMap_venue hkey, hkeys]

theorem get_eq_of_agree {market other : Market} {symbol : CanonicalSymbol}
    (hkeys : ∀ venueId,
      (market.directory.instrumentsForSymbol symbol).filter (fun key => key.venueId = venueId) =
        (other.directory.instrumentsForSymbol symbol).filter (fun key => key.venueId = venueId))
    (hbid : ∀ key, market.bestBid key = other.bestBid key)
    (hask : ∀ key, market.bestAsk key = other.bestAsk key) :
    get market.books market.directory symbol = get other.books other.directory symbol := by
  have hbids : market.books.bestBid market.directory = other.books.bestBid other.directory :=
    funext hbid
  have hasks : market.books.bestAsk market.directory = other.books.bestAsk other.directory :=
    funext hask
  have hbest : (get market.books market.directory symbol).bid =
      (get other.books other.directory symbol).bid := by
    rw [get_bid, get_bid, MultiVenueBook.bids, MultiVenueBook.bids, ← hbids]
    exact quotes_argmax_eq (fun key quote => market.bestBid_key) _ hkeys
  have hbest' : (get market.books market.directory symbol).ask =
      (get other.books other.directory symbol).ask := by
    rw [get_ask, get_ask, MultiVenueBook.asks, MultiVenueBook.asks, ← hasks]
    exact quotes_argmax_eq (fun key quote => market.bestAsk_key) _ hkeys
  rw [get, get, Bbo.mk.injEq]
  exact ⟨rfl, hbest, hbest'⟩

end NormalizedBboView

end Fgep.Bbo
