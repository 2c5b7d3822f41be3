import GatedExecution.Bbo.NormalizedBbo
import GatedExecution.Instrument.DirectoryRuns

/-!
# The best quotes are the best of all venues

What {lit}`NormalizedBboView::get` finds for a symbol, stated against the directory's
entries and not against the index it scans: the index of a reachable directory lists
exactly the keys registered with the symbol.

Main results:

- Theorem {lit}`indexed_of`: the index of every reachable directory is exact.
- Theorem {lit}`argmax_bestAmong`: the highest rank over a list of keys is the best quote
  of those keys.
- Theorem {lit}`best_across_venues`: both sides, after every run.
-/

namespace Fgep.Bbo

open Book Instrument

/-! ## The best quote of a symbol -/

/-- The key is registered with the stock of the symbol. -/
def RegisteredUnder (market : Market) (symbol : CanonicalSymbol) (key : InstrumentKey) : Prop :=
  ∃ metadata, market.directory.findKey key = some metadata ∧ metadata.stock = symbol.stock

/-- Better in price, or equal in price and larger, or equal in both and of a smaller
venue id. -/
def Outranks (BetterPrice : Price → Price → Prop) (quote other : Quote) : Prop :=
  BetterPrice quote.price other.price ∨
    quote.price = other.price ∧
      (other.quantity < quote.quantity ∨
        quote.quantity = other.quantity ∧ quote.key.venueId < other.key.venueId)

/-- {lit}`found` is a best quote of the symbol's keys, where {lit}`quoteAt` gives the
quote of a key. -/
structure BestAmong (Registered : InstrumentKey → Prop) (quoteAt : InstrumentKey → Option Quote)
    (BetterPrice : Price → Price → Prop) (found : Option Quote) : Prop where
  isSome_iff : found.isSome = true ↔ ∃ key, Registered key ∧ (quoteAt key).isSome = true
  attained : ∀ quote, found = some quote →
    ∃ key, Registered key ∧ quote.key = key ∧ quoteAt key = some quote
  optimal : ∀ quote, found = some quote → ∀ key other, Registered key →
    quoteAt key = some other → ¬Outranks BetterPrice other quote

theorem outranks_iff {BetterPrice : Price → Price → Prop} {priceRank : Price → Int}
    (hbetter : ∀ price other, BetterPrice price other ↔ priceRank other < priceRank price)
    (hrank : ∀ price other, priceRank price = priceRank other ↔ price = other)
    (quote other : Quote) :
    Outranks BetterPrice quote other ↔
      NormalizedBboView.rankBy priceRank other < NormalizedBboView.rankBy priceRank quote := by
  rw [NormalizedBboView.rankBy_lt_iff, Outranks, hbetter, hrank, UInt64.lt_iff_toNat_lt,
    UInt16.lt_iff_toNat_lt, UInt64.toNat_inj, @eq_comm _ quote.price,
    @eq_comm _ quote.quantity]

/-- The first quote of the highest rank, over any list of the registered keys. -/
theorem argmax_bestAmong {Registered : InstrumentKey → Prop}
    {quoteAt : InstrumentKey → Option Quote} {BetterPrice : Price → Price → Prop}
    {priceRank : Price → Int} {keys : List InstrumentKey}
    (hkeys : ∀ key, key ∈ keys ↔ Registered key)
    (hquote : ∀ key quote, quoteAt key = some quote → quote.key = key)
    (hbetter : ∀ price other, BetterPrice price other ↔ priceRank other < priceRank price)
    (hrank : ∀ price other, priceRank price = priceRank other ↔ price = other) :
    BestAmong Registered quoteAt BetterPrice
      ((keys.filterMap quoteAt).argmax (NormalizedBboView.rankBy priceRank)) where
  isSome_iff := by
    constructor
    · intro hsome
      rcases Option.isSome_iff_exists.mp hsome with ⟨quote, hfound⟩
      rcases List.mem_filterMap.mp (List.argmax_mem hfound) with ⟨key, hmem, hat⟩
      exact ⟨key, (hkeys key).mp hmem, Option.isSome_iff_exists.mpr ⟨quote, hat⟩⟩
    · rintro ⟨key, hregistered, hsome⟩
      rcases Option.isSome_iff_exists.mp hsome with ⟨quote, hat⟩
      have hmem : quote ∈ keys.filterMap quoteAt :=
        List.mem_filterMap.mpr ⟨key, (hkeys key).mpr hregistered, hat⟩
      rw [Option.isSome_iff_ne_none, Ne, List.argmax_eq_none]
      exact List.ne_nil_of_mem hmem
  attained := by
    intro quote hfound
    rcases List.mem_filterMap.mp (List.argmax_mem hfound) with ⟨key, hmem, hat⟩
    exact ⟨key, (hkeys key).mp hmem, hquote key quote hat, hat⟩
  optimal := by
    intro quote hfound key other hregistered hat
    have hmem : other ∈ keys.filterMap quoteAt :=
      List.mem_filterMap.mpr ⟨key, (hkeys key).mpr hregistered, hat⟩
    rw [outranks_iff hbetter hrank, not_lt]
    exact List.le_of_mem_argmax hmem hfound

/-! ## Reachable markets -/

theorem indexed_of (ops : List MarketOp) : (Market.of ops).directory.Indexed := by
  induction ops using List.reverseRecOn with
  | nil => exact InstrumentDirectory.empty_indexed
  | append_singleton earlier op ih =>
      rw [Market.of_concat]
      cases op with
      | stockDirectory venueId message => exact ih.applyCall (.stockDirectory venueId message)
      | stockTradingAction venueId message =>
          exact ih.applyCall (.stockTradingAction venueId message)
      | addVenue venueId => exact ih
      | apply venueId message => exact ih

theorem mem_instrumentsForSymbol_iff (ops : List MarketOp) (symbol : CanonicalSymbol)
    (key : InstrumentKey) :
    key ∈ (Market.of ops).directory.instrumentsForSymbol symbol ↔
      RegisteredUnder (Market.of ops) symbol key := by
  rw [(indexed_of ops).mem_iff, InstrumentDirectory.identityOf, Option.map_eq_some_iff]
  constructor
  · rintro ⟨metadata, hfind, hidentity⟩
    exact ⟨metadata, hfind, (Prod.ext_iff.mp hidentity).2⟩
  · rintro ⟨metadata, hfind, hstock⟩
    exact ⟨metadata, hfind, Prod.ext ((Market.of ops).keyed key metadata hfind) hstock⟩

/-- A quote carries the symbol its key is registered under. -/
theorem quoteFrom_symbol {market : Market} {symbol : CanonicalSymbol} {key : InstrumentKey}
    (hregistered : RegisteredUnder market symbol key) {best : SymbolOrderBook → Option Level}
    {book : Option SymbolOrderBook} {quote : Quote}
    (hquote : MultiVenueBook.quoteFrom best (market.directory.findKey key) book = some quote) :
    quote.symbol = symbol := by
  rcases hregistered with ⟨metadata, hfind, hstock⟩
  simp only [MultiVenueBook.quoteFrom, hfind, Option.bind_eq_bind, Option.bind_some,
    Option.bind_eq_some_iff] at hquote
  rcases hquote with ⟨made, -, level, -, hmade⟩
  rw [← Option.some.inj hmade, VenueBook.makeQuote, hstock]

/-- After any operations on a market, the normalized quote of a symbol has the best bid and the
best ask among the instruments registered under it. -/
theorem best_across_venues (ops : List MarketOp) (symbol : CanonicalSymbol) :
    let market := Market.of ops
    let bbo := NormalizedBboView.get market.books market.directory symbol
    BestAmong (RegisteredUnder market symbol) market.bestBid (fun price other => other < price)
      bbo.bid ∧
    BestAmong (RegisteredUnder market symbol) market.bestAsk (fun price other => price < other)
      bbo.ask ∧
    (∀ quote, bbo.bid = some quote ∨ bbo.ask = some quote → quote.symbol = symbol) ∧
    bbo.symbol = symbol := by
  intro market bbo
  have hbid : BestAmong (RegisteredUnder market symbol) market.bestBid
      (fun price other => other < price) bbo.bid := by
    rw [show bbo.bid = _ from NormalizedBboView.get_bid _ _ _]
    refine argmax_bestAmong (mem_instrumentsForSymbol_iff ops symbol)
      (fun _ _ => market.bestBid_key) ?_ ?_
    · intro price other
      exact Int64.lt_iff_toInt_lt
    · intro price other
      exact Int64.toInt_inj
  have hask : BestAmong (RegisteredUnder market symbol) market.bestAsk
      (fun price other => price < other) bbo.ask := by
    rw [show bbo.ask = _ from NormalizedBboView.get_ask _ _ _]
    refine argmax_bestAmong (mem_instrumentsForSymbol_iff ops symbol)
      (fun _ _ => market.bestAsk_key) ?_ ?_
    · intro price other
      rw [Int64.lt_iff_toInt_lt, Int.neg_lt_neg_iff]
    · intro price other
      rw [Int.neg_inj, Int64.toInt_inj]
  refine ⟨hbid, hask, ?_, rfl⟩
  rintro quote (hfound | hfound)
  · rcases hbid.attained quote hfound with ⟨key, hregistered, -, hat⟩
    rw [market.bestBid_eq] at hat
    exact quoteFrom_symbol hregistered hat
  · rcases hask.attained quote hfound with ⟨key, hregistered, -, hat⟩
    rw [market.bestAsk_eq] at hat
    exact quoteFrom_symbol hregistered hat

end Fgep.Bbo
