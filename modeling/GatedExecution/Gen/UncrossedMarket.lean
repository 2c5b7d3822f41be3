import GatedExecution.Gen.SymbolCoverage
import GatedExecution.Replay.QuoteOrigins

/-!
# The generated market is not crossed

Every buy order of the message builder is priced below its symbol's base price and every
sell order above it.  So however the generated messages reach the books, in whatever order
and whichever of them get lost or come twice, no bid is above an ask.

Main results:

- Theorems {lit}`choosePrice_buy` and {lit}`choosePrice_sell`: the two sides of a symbol.
- Theorem {lit}`places_event`: where a generated message puts an order.
- Theorem {lit}`market_uncrossed`: the quotes of every replay of the flow.
-/

namespace Fgep.Gen

open Itch Book Instrument Replay ItchMessageBuilder

/-- The lowest price of a sell order of a symbol. -/
def lowestAsk (symbol : ItchSymbolConfig) : Nat :=
  symbol.basePrice.toNat + 5 * symbol.priceStep.toNat

/-! ## Prices -/

section Prices

variable {builder : ItchMessageBuilder} {symbolState : SymbolState}

theorem toNat_wobble (hsteps : 14 * symbolState.config.priceStep.toNat < 2 ^ 32) :
    (builder.generatedCount % 10 * symbolState.config.priceStep.toUInt64).toUInt32.toNat =
      builder.generatedCount.toNat % 10 * symbolState.config.priceStep.toNat := by
  have hdigit : builder.generatedCount.toNat % 10 ≤ 9 := by omega
  have hproduct := Nat.mul_le_mul_right symbolState.config.priceStep.toNat hdigit
  rw [UInt64.toNat_toUInt32, UInt64.toNat_mul, UInt64.toNat_mod, UInt32.toNat_toUInt64]
  change builder.generatedCount.toNat % 10 * _ % 2 ^ 64 % 2 ^ 32 = _
  omega

theorem toNat_halfSpread (hsteps : 14 * symbolState.config.priceStep.toNat < 2 ^ 32) :
    (symbolState.config.priceStep * 5).toNat = 5 * symbolState.config.priceStep.toNat := by
  rw [UInt32.toNat_mul, Nat.mul_comm]
  exact Nat.mod_eq_of_lt (by change 5 * _ < _; omega)

theorem choosePrice_sell
    (htop : symbolState.config.basePrice.toNat + 14 * symbolState.config.priceStep.toNat < 2 ^ 32) :
    lowestAsk symbolState.config ≤ (builder.choosePrice symbolState .sell).toNat := by
  have hdigit : builder.generatedCount.toNat % 10 ≤ 9 := by omega
  have hproduct := Nat.mul_le_mul_right symbolState.config.priceStep.toNat hdigit
  rw [choosePrice]
  dsimp only
  rw [if_pos rfl, UInt32.toNat_add, UInt32.toNat_add, toNat_wobble (by omega),
    toNat_halfSpread (by omega), lowestAsk]
  omega

theorem choosePrice_buy
    (htop : symbolState.config.basePrice.toNat + 14 * symbolState.config.priceStep.toNat < 2 ^ 32)
    (hbase : 1 ≤ symbolState.config.basePrice.toNat) :
    (builder.choosePrice symbolState .buy).toNat ≤ lowestAsk symbolState.config ∧
      (0 < symbolState.config.priceStep →
        (builder.choosePrice symbolState .buy).toNat < lowestAsk symbolState.config) := by
  have hzero : 0 < symbolState.config.priceStep ↔ 0 < symbolState.config.priceStep.toNat :=
    UInt32.lt_iff_toNat_lt
  rw [choosePrice, lowestAsk, hzero]
  dsimp only
  rw [if_neg (fun h => by cases h)]
  split
  · split
    · omega
    · change 1 ≤ _ ∧ (_ → 1 < _)
      omega
  · rename_i hbelow
    rw [ge_iff_le, UInt32.not_le] at hbelow
    have hsub := UInt32.toNat_sub_of_le _ _ (UInt32.le_of_lt hbelow)
    rw [UInt32.toNat_add, toNat_wobble (by omega), toNat_halfSpread (by omega)] at hsub
    rw [hsub]
    omega

end Prices

/-! ## The flow -/

section Flow

variable {config : ItchMessageBuilderConfig}

/-- A symbol keeps its configuration and its locate in every run. -/
theorem symbolState_advance
    (hlocates : config.firstStockLocate.toNat + config.symbols.length - 1 ≤ 65535) {k index : Nat}
    {symbolState : SymbolState}
    (hstate : ((new config).advance k).symbolStates[index]? = some symbolState) :
    (normalize config).symbols[index]? = some symbolState.config ∧
      symbolState.stockLocate.toNat = config.firstStockLocate.toNat + index := by
  obtain ⟨-, -, hidentity⟩ := advance_placed (new_placed hlocates) k
  have hsame := congrArg (fun states => states[index]?) hidentity
  simp only [List.getElem?_map, hstate, Option.map_some] at hsame
  obtain ⟨initial, hinitial, heq⟩ := Option.map_eq_some_iff.mp hsame.symm
  have hconfig : initial.config = symbolState.config := congrArg Prod.fst heq
  have hlocate : initial.stockLocate = symbolState.stockLocate := congrArg Prod.snd heq
  constructor
  · rw [new, List.getElem?_mapIdx, Option.map_eq_some_iff] at hinitial
    obtain ⟨symbol, hsymbol, rfl⟩ := hinitial
    rw [hsymbol]
    exact congrArg some hconfig
  · rw [← hlocate]
    exact (new_symbolStates_getElem? hlocates hinitial).2.2

/-- Where a message of the builder puts an order: on its side of the lowest sell price. -/
theorem places_event (hconfig : config.Admissible) {n : Nat} {message : Message}
    (hmem : message ∈ (new config).sessionOpenMessages ++ (new config).events n) {side : Side}
    {price : Price4} (hplaces : Places message side price) :
    ∃ index symbol, (normalize config).symbols[index]? = some symbol ∧
      message.header.stockLocate.toNat = config.firstStockLocate.toNat + index ∧
      (side = .sell → lowestAsk symbol ≤ price.toNat) ∧
      (side = .buy → price.toNat ≤ lowestAsk symbol ∧
        (0 < symbol.priceStep → price.toNat < lowestAsk symbol)) := by
  rcases List.mem_append.mp hmem with hopen | hevent
  · obtain ⟨symbolState, -, rfl⟩ := List.mem_map.mp hopen
    exact hplaces.elim
  rw [events_eq_map] at hevent
  obtain ⟨k, -, rfl⟩ := List.mem_map.mp hevent
  have hplaced := (advance_placed (new_placed hconfig.locates) k).1
  generalize hresult : ((new config).advance k).nextMarketEvent = result at hplaces
  have hmarket := nextMarketEvent_marketEvent hplaced
  rw [hresult] at hmarket
  cases hmarket with
  | cancel index symbolState reference rest hstate hresting => exact hplaces.elim
  | add index symbolState hstate =>
      obtain ⟨hsymbol, hlocate⟩ := symbolState_advance hconfig.locates hstate
      obtain ⟨-, hbase, htop⟩ := normalize_symbols hconfig _ (List.mem_of_getElem? hsymbol)
      obtain ⟨hside, hprice⟩ := hplaces
      change ((new config).advance k).tick.choosePrice symbolState
        ((new config).advance k).tick.chooseSide = price at hprice
      change ((new config).advance k).tick.chooseSide = side at hside
      rw [hside] at hprice
      refine ⟨index, symbolState.config, hsymbol, hlocate, ?_, ?_⟩
      · rintro rfl
        rw [← hprice]
        exact choosePrice_sell htop
      · rintro rfl
        rw [← hprice]
        exact choosePrice_buy htop hbase

theorem priceStep_pos (hsteps : ∀ symbol ∈ config.symbols, 0 < symbol.priceStep) {index : Nat}
    {symbol : ItchSymbolConfig} (hsymbol : (normalize config).symbols[index]? = some symbol) :
    0 < symbol.priceStep := by
  have hmem := List.mem_of_getElem? hsymbol
  rw [normalize] at hmem
  dsimp only at hmem
  split at hmem
  · rw [List.mem_singleton.mp hmem]
    decide
  · exact hsteps symbol hmem

/-- However the messages of the builder are delivered, no best bid is above the best ask
of its key, and none equals it if prices move at all. -/
theorem market_uncrossed (config : ItchMessageBuilderConfig) (hconfig : config.Admissible) (n : Nat)
    (venueId : Venue.VenueId) (ops : List ReplayOp)
    (hdelivered : ∀ op ∈ ops, ∀ message ∈ op.delivered,
      message ∈ (new config).sessionOpenMessages ++ (new config).events n)
    (key : InstrumentKey) (bid ask : Quote) :
    let applier := ItchReplayApplier.reached venueId ops
    applier.books.bestBid applier.directory key = some bid →
    applier.books.bestAsk applier.directory key = some ask →
    bid.price ≤ ask.price ∧
      ((∀ symbol ∈ config.symbols, 0 < symbol.priceStep) → bid.price < ask.price) := by
  intro applier hbid hask
  have hrouted := (ItchReplayApplier.reached_sound venueId ops).routed
  have horigin : ∀ (side : Side) (price : Price4), applier.books.QuotedAt key side price →
      ∃ message ∈ (new config).sessionOpenMessages ++ (new config).events n,
        message.header.stockLocate = key.stockLocate ∧ Places message side price := by
    intro side price hquoted
    obtain ⟨message, hmem, hplaced⟩ := ItchReplayApplier.quotedAt_reached hquoted
    obtain ⟨op, hop, hmessage⟩ := List.mem_flatMap.mp hmem
    exact ⟨message, hdelivered op hop message hmessage, hplaced⟩
  obtain ⟨bidPrice, hbidPrice, hbidQuoted⟩ := MultiVenueBook.bestBid_quotedAt hrouted hbid
  obtain ⟨askPrice, haskPrice, haskQuoted⟩ := MultiVenueBook.bestAsk_quotedAt hrouted hask
  obtain ⟨buy, hbuyMem, hbuyLocate, hbuyPlaces⟩ := horigin .buy bidPrice hbidQuoted
  obtain ⟨sell, hsellMem, hsellLocate, hsellPlaces⟩ := horigin .sell askPrice haskQuoted
  obtain ⟨buyIndex, symbol, hsymbol, hbuyIndex, -, hbuy⟩ :=
    places_event hconfig hbuyMem hbuyPlaces
  obtain ⟨sellIndex, other, hother, hsellIndex, hsell, -⟩ :=
    places_event hconfig hsellMem hsellPlaces
  -- The two orders are of one symbol, since their messages have one locate.
  have hindex : sellIndex = buyIndex := by
    rw [hbuyLocate] at hbuyIndex
    rw [hsellLocate] at hsellIndex
    omega
  have hsame : other = symbol := by
    rw [hindex, hsymbol] at hother
    exact (Option.some.inj hother).symm
  subst hsame
  have hlow := hsell rfl
  obtain ⟨hhigh, hstrict⟩ := hbuy rfl
  rw [Int64.le_iff_toInt_le, Int64.lt_iff_toInt_lt, hbidPrice, haskPrice]
  refine ⟨by omega, fun hsteps => ?_⟩
  have hlt := hstrict (priceStep_pos hsteps hsymbol)
  omega

end Flow

/-- The session opening and the first two events of the default flow: a sell and a buy. -/
def openingOps : List ReplayOp :=
  .addVenue 1 ::
    ((new {}).sessionOpenMessages ++ (new {}).events 2).map (fun message => .apply ⟨0, message⟩)

theorem market_uncrossed_opening :
    let applier := ItchReplayApplier.reached 1 openingOps
    ∃ bid ask, applier.books.bestBid applier.directory ⟨1, 1⟩ = some bid ∧
      applier.books.bestAsk applier.directory ⟨1, 1⟩ = some ask ∧ bid.price < ask.price := by
  intro applier
  have hconfig : ItchMessageBuilderConfig.Admissible {} :=
    ⟨by simp, by decide, by decide, by decide, by simp⟩
  have hbids : (applier.books.bestBid applier.directory ⟨1, 1⟩).isSome = true := by decide +kernel
  have hasks : (applier.books.bestAsk applier.directory ⟨1, 1⟩).isSome = true := by decide +kernel
  obtain ⟨bid, hbid⟩ := Option.isSome_iff_exists.mp hbids
  obtain ⟨ask, hask⟩ := Option.isSome_iff_exists.mp hasks
  have hdelivered : ∀ op ∈ openingOps, ∀ message ∈ op.delivered,
      message ∈ (new {}).sessionOpenMessages ++ (new {}).events 2 := by
    intro op hop message hmem
    rcases List.mem_cons.mp hop with rfl | hop
    · cases hmem
    · obtain ⟨sent, hsent, rfl⟩ := List.mem_map.mp hop
      rw [List.mem_singleton.mp hmem]
      exact hsent
  have huncrossed := market_uncrossed {} hconfig 2 1 openingOps hdelivered ⟨1, 1⟩ bid ask hbid hask
  exact ⟨bid, ask, hbid, hask, huncrossed.2 (by simp)⟩

end Fgep.Gen
