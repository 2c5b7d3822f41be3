import GatedExecution.Itch.Messages

/-!
# The synthetic ITCH message builder

{lit}`gen/itch_message_builder.cpp`: a deterministic flow of Add Order and Order
Cancel messages over some symbols.  Symbol, side, shares, price and the choice
between the two kinds are all computed from a counter of the generated events;
the builder remembers the reference numbers it has added, not their shares.

Sizes and indices into the list of symbols are natural numbers; the counter is a
64-bit number, as it wraps.

Main results:

- Theorem {lit}`chooseSymbolIndex_lt`: the chosen symbol exists.
- Theorems {lit}`nextMarketEvent_marketEvent` and {lit}`nextMarketEvent_nextEvent`:
  everything an event can be.
- Theorem {lit}`events_references`: reference numbers count up.
-/

namespace Fgep.Gen

open Wire Itch

/-! ## Configuration -/

/-- Text padded with spaces, or cut, to a fixed size. -/
def fixedAsciiFromText (N : Nat) (text : Bytes) : FixedAscii N :=
  List.Vector.ofFn (fun index => text.getD index (asciiByte ' '))

def clampHotCount (hotSymbolCount symbolCount : Nat) : Nat :=
  if symbolCount = 0 then 0
  else if hotSymbolCount = 0 then 1
  else min hotSymbolCount symbolCount

def clampPercent (percent : UInt8) : UInt8 :=
  if percent > 100 then 100 else percent

structure ItchSymbolConfig where
  symbol : Bytes := [asciiByte 'A', asciiByte 'A', asciiByte 'P', asciiByte 'L']
  basePrice : Price4 := 1000000
  priceStep : Price4 := 100
deriving DecidableEq

structure ItchMessageBuilderConfig where
  symbols : List ItchSymbolConfig := []
  firstStockLocate : StockLocate := 1
  firstOrderReferenceNumber : OrderReferenceNumber := 1
  minShares : Shares := 100
  maxShares : Shares := 1000
  firstTimestampNs : TimestampNs := 0
  timestampStepNs : TimestampNs := 1000
  hotSymbolCount : Nat := 1
  hotSymbolPercent : UInt8 := 80
  cancelPercent : UInt8 := 10
  alternateSides : Bool := true

/-- Printable symbols, locates and reference numbers that start at one or later, no
more symbols than locates, and prices in range. -/
structure ItchMessageBuilderConfig.Admissible (config : ItchMessageBuilderConfig) : Prop where
  printable : ∀ symbol ∈ config.symbols, ∀ character ∈ symbol.symbol,
    isPrintableAsciiOrSpace character = true
  first_locate : 1 ≤ config.firstStockLocate.toNat
  locates : config.firstStockLocate.toNat + config.symbols.length - 1 ≤ 65535
  first_reference : 1 ≤ config.firstOrderReferenceNumber.toNat
  prices : ∀ symbol ∈ config.symbols,
    1 ≤ symbol.basePrice.toNat ∧ symbol.basePrice.toNat + 14 * symbol.priceStep.toNat < 2 ^ 32

/-- What the constructor makes of a configuration. -/
def normalize (config : ItchMessageBuilderConfig) : ItchMessageBuilderConfig :=
  let symbols := if config.symbols.isEmpty then [{}] else config.symbols
  let minShares := if config.minShares = 0 then 1 else config.minShares
  { config with
    symbols := symbols
    minShares := minShares
    maxShares := if config.maxShares < minShares then minShares else config.maxShares
    hotSymbolCount := clampHotCount config.hotSymbolCount symbols.length
    hotSymbolPercent := clampPercent config.hotSymbolPercent
    cancelPercent := clampPercent config.cancelPercent }

/-! ## The builder -/

structure SymbolState where
  config : ItchSymbolConfig := {}
  stockLocate : StockLocate := 0
  restingOrders : List OrderReferenceNumber := []
deriving DecidableEq

def SymbolState.stock (symbolState : SymbolState) : StockSymbol :=
  fixedAsciiFromText 8 symbolState.config.symbol

structure ItchMessageBuilder where
  config : ItchMessageBuilderConfig
  symbolStates : List SymbolState
  nextOrderReferenceNumber : OrderReferenceNumber
  generatedCount : UInt64

namespace ItchMessageBuilder

/-- The constructor. -/
def new (config : ItchMessageBuilderConfig) : ItchMessageBuilder where
  config := normalize config
  symbolStates := (normalize config).symbols.mapIdx fun index symbol =>
    { config := symbol
      stockLocate := UInt16.ofNat (config.firstStockLocate.toNat + index) }
  nextOrderReferenceNumber := config.firstOrderReferenceNumber
  generatedCount := 0

variable (builder : ItchMessageBuilder)

def chooseSymbolIndex : Nat :=
  let symbolCount := builder.symbolStates.length
  let hotSymbolCount := builder.config.hotSymbolCount
  if symbolCount ≤ 1 then 0
  else
    let bucket := (builder.generatedCount % 100).toUInt8
    if bucket < builder.config.hotSymbolPercent then
      builder.generatedCount.toNat % hotSymbolCount
    else
      let coldCount := symbolCount - hotSymbolCount
      if coldCount = 0 then builder.generatedCount.toNat % hotSymbolCount
      else hotSymbolCount + builder.generatedCount.toNat % coldCount

def chooseShares : Shares :=
  let range := builder.config.maxShares - builder.config.minShares + 1
  let offset := (builder.generatedCount % range.toUInt64).toUInt32
  builder.config.minShares + offset

def choosePrice (symbolState : SymbolState) (side : Side) : Price4 :=
  let priceConfig := symbolState.config
  let wobble := (builder.generatedCount % 10 * priceConfig.priceStep.toUInt64).toUInt32
  let halfSpread := priceConfig.priceStep * 5
  if side = .sell then priceConfig.basePrice + halfSpread + wobble
  else
    let below := halfSpread + wobble
    if below ≥ priceConfig.basePrice then
      if priceConfig.priceStep > 0 then priceConfig.priceStep else 1
    else priceConfig.basePrice - below

def chooseSide : Side :=
  if !builder.config.alternateSides then .buy
  else if builder.generatedCount % 2 = 0 then .buy
  else .sell

def currentTimestampNs : TimestampNs :=
  (builder.config.firstTimestampNs + builder.generatedCount * builder.config.timestampStepNs) %
    nanosecondsPerDay

def shouldCancel (symbolState : SymbolState) : Bool :=
  if symbolState.restingOrders.isEmpty then false
  else
    let bucket := ((builder.generatedCount * 7 + 3) % 100).toUInt8
    bucket < builder.config.cancelPercent

def makeHeader (stockLocate : StockLocate) : Header :=
  ⟨stockLocate, 0, builder.currentTimestampNs⟩

/-- The Stock Directory message of a symbol. -/
def openMessage (symbolState : SymbolState) : StockDirectoryMessage where
  header := builder.makeHeader symbolState.stockLocate
  stock := symbolState.stock
  marketCategory := asciiByte 'Q'
  financialStatusIndicator := asciiByte 'N'
  roundLotSize := 100
  roundLotsOnly := asciiByte 'N'
  issueClassification := asciiByte 'C'
  issueSubType := fixedAsciiFromText 2 []
  authenticity := asciiByte 'P'
  shortSaleThresholdIndicator := asciiByte 'N'
  ipoFlag := asciiByte 'N'
  luldReferencePriceTier := asciiByte ' '
  etpFlag := asciiByte 'N'
  etpLeverageFactor := 0
  inverseIndicator := asciiByte 'N'

def sessionOpenMessages : List Message :=
  builder.symbolStates.map (fun symbolState => .stockDirectory (builder.openMessage symbolState))

/-- {lit}`symbol_states_[symbolIndex] = symbolState`. -/
def setSymbolState (symbolIndex : Nat) (symbolState : SymbolState) : ItchMessageBuilder :=
  { builder with symbolStates := builder.symbolStates.set symbolIndex symbolState }

def buildAddOrder (symbolIndex : Nat) (symbolState : SymbolState) :
    Message × ItchMessageBuilder :=
  let side := builder.chooseSide
  let orderReferenceNumber := builder.nextOrderReferenceNumber
  let message : AddOrderNoMpidMessage :=
    { header := builder.makeHeader symbolState.stockLocate
      orderReferenceNumber := orderReferenceNumber
      side := side
      shares := builder.chooseShares
      stock := symbolState.stock
      price := builder.choosePrice symbolState side }
  (.addOrderNoMpid message,
    { builder with nextOrderReferenceNumber := orderReferenceNumber + 1 }.setSymbolState
      symbolIndex
      { symbolState with restingOrders := symbolState.restingOrders ++ [orderReferenceNumber] })

/-- Called only while the symbol has resting orders. -/
def buildCancel (symbolIndex : Nat) (symbolState : SymbolState) : Message × ItchMessageBuilder :=
  let message : OrderCancelMessage :=
    { header := builder.makeHeader symbolState.stockLocate
      orderReferenceNumber := symbolState.restingOrders.headD 0
      cancelledShares := builder.chooseShares }
  (.orderCancel message,
    builder.setSymbolState symbolIndex
      { symbolState with restingOrders := symbolState.restingOrders.tail })

/-- The chosen index is always in range ({lit}`chooseSymbolIndex_lt`), so the default
state is never used. -/
def nextMarketEvent : Message × ItchMessageBuilder :=
  let builder := { builder with generatedCount := builder.generatedCount + 1 }
  let symbolIndex := builder.chooseSymbolIndex
  let symbolState := builder.symbolStates.getD symbolIndex {}
  if builder.shouldCancel symbolState then builder.buildCancel symbolIndex symbolState
  else builder.buildAddOrder symbolIndex symbolState

/-- The builder whose counter stands at its next event. -/
def tick : ItchMessageBuilder :=
  { builder with generatedCount := builder.generatedCount + 1 }

def reset : ItchMessageBuilder :=
  { builder with
    nextOrderReferenceNumber := builder.config.firstOrderReferenceNumber
    generatedCount := 0
    symbolStates := builder.symbolStates.map
      (fun symbolState => { symbolState with restingOrders := [] }) }

/-- The messages of the next {lit}`n` events. -/
def events : ItchMessageBuilder → Nat → List Message
  | _, 0 => []
  | builder, n + 1 => builder.nextMarketEvent.1 :: events builder.nextMarketEvent.2 n

/-! ## Well-formed builders -/

/-- A symbol with its locate, whose text is printable and whose prices stay in range. -/
structure SymbolReady (firstStockLocate : StockLocate) (index : Nat)
    (symbolState : SymbolState) : Prop where
  locate : symbolState.stockLocate.toNat = firstStockLocate.toNat + index
  printable : ∀ character ∈ symbolState.config.symbol, isPrintableAsciiOrSpace character = true
  base_pos : 1 ≤ symbolState.config.basePrice.toNat
  top_lt : symbolState.config.basePrice.toNat + 14 * symbolState.config.priceStep.toNat < 2 ^ 32

/-- What the constructor establishes and every event keeps. -/
structure WellFormed (builder : ItchMessageBuilder) : Prop where
  min_pos : 1 ≤ builder.config.minShares.toNat
  min_le_max : builder.config.minShares.toNat ≤ builder.config.maxShares.toNat
  hot_pos : 0 < builder.config.hotSymbolCount
  hot_le : builder.config.hotSymbolCount ≤ builder.symbolStates.length
  first_pos : 1 ≤ builder.config.firstStockLocate.toNat
  ready : ∀ index symbolState, builder.symbolStates[index]? = some symbolState →
    SymbolReady builder.config.firstStockLocate index symbolState

/-- What the choice of a symbol relies on, and locates that tell the symbols apart. -/
structure Placed (builder : ItchMessageBuilder) : Prop where
  hot_pos : 0 < builder.config.hotSymbolCount
  hot_le : builder.config.hotSymbolCount ≤ builder.symbolStates.length
  locates : builder.symbolStates.Pairwise
    (fun first second => first.stockLocate ≠ second.stockLocate)

section WellFormed

variable {builder : ItchMessageBuilder}

/-- Different symbols have different locates. -/
theorem Placed.locate_ne (hplaced : builder.Placed) {index index' : Nat}
    {symbolState other : SymbolState} (hstate : builder.symbolStates[index]? = some symbolState)
    (hother : builder.symbolStates[index']? = some other) (hne : index ≠ index') :
    other.stockLocate ≠ symbolState.stockLocate := by
  obtain ⟨hlt, rfl⟩ := List.getElem?_eq_some_iff.mp hstate
  obtain ⟨hlt', rfl⟩ := List.getElem?_eq_some_iff.mp hother
  have hpairwise := List.pairwise_iff_getElem.mp hplaced.locates
  rcases Nat.lt_or_gt_of_ne hne with hbefore | hafter
  · exact (hpairwise index index' hlt hlt' hbefore).symm
  · exact hpairwise index' index hlt' hlt hafter

theorem pairwise_of_locate {states : List SymbolState} {first : Nat}
    (hlocate : ∀ index symbolState, states[index]? = some symbolState →
      symbolState.stockLocate.toNat = first + index) :
    states.Pairwise (fun first second => first.stockLocate ≠ second.stockLocate) := by
  rw [List.pairwise_iff_getElem]
  intro i j hi hj hlt heq
  have hfirst := hlocate i _ (List.getElem?_eq_getElem hi)
  have hsecond := hlocate j _ (List.getElem?_eq_getElem hj)
  rw [heq] at hfirst
  omega

theorem WellFormed.placed (hbuilder : builder.WellFormed) : builder.Placed :=
  ⟨hbuilder.hot_pos, hbuilder.hot_le,
    pairwise_of_locate (fun index symbolState hstate =>
      (hbuilder.ready index symbolState hstate).locate)⟩

theorem Placed.chooseSymbolIndex_lt (hplaced : builder.Placed) :
    builder.chooseSymbolIndex < builder.symbolStates.length := by
  have hpos := hplaced.hot_pos
  have hle := hplaced.hot_le
  have hhot := Nat.mod_lt builder.generatedCount.toNat hpos
  unfold chooseSymbolIndex
  dsimp only
  split
  · omega
  · split
    · omega
    · split
      · omega
      · have hcold := Nat.mod_lt builder.generatedCount.toNat
          (Nat.pos_of_ne_zero ‹¬builder.symbolStates.length - builder.config.hotSymbolCount = 0›)
        omega

/-- The size of the range of shares does not overflow, as the least is not zero. -/
theorem WellFormed.shareRange_toNat (hbuilder : builder.WellFormed) :
    (builder.config.maxShares - builder.config.minShares + 1).toNat =
      builder.config.maxShares.toNat - builder.config.minShares.toNat + 1 := by
  have hpos := hbuilder.min_pos
  have hle := hbuilder.min_le_max
  have hmax := UInt32.toNat_lt builder.config.maxShares
  rw [UInt32.toNat_add, UInt32.toNat_sub_of_le _ _ (UInt32.le_iff_toNat_le.mpr hle)]
  exact Nat.mod_eq_of_lt (by change _ + 1 < _; omega)

/-- The shares of an event run through the configured range with the counter. -/
theorem WellFormed.chooseShares_toNat (hbuilder : builder.WellFormed) :
    builder.chooseShares.toNat =
      builder.config.minShares.toNat + builder.generatedCount.toNat %
        (builder.config.maxShares.toNat - builder.config.minShares.toNat + 1) := by
  have hpos := hbuilder.min_pos
  have hle := hbuilder.min_le_max
  have hmax := UInt32.toNat_lt builder.config.maxShares
  have hrange := hbuilder.shareRange_toNat
  have hoffset : builder.generatedCount.toNat %
      (builder.config.maxShares.toNat - builder.config.minShares.toNat + 1) <
        builder.config.maxShares.toNat - builder.config.minShares.toNat + 1 :=
    Nat.mod_lt _ (Nat.succ_pos _)
  rw [chooseShares, UInt32.toNat_add, UInt64.toNat_toUInt32, UInt64.toNat_mod,
    UInt32.toNat_toUInt64, hrange, Nat.mod_eq_of_lt (by omega), Nat.mod_eq_of_lt (by omega)]

theorem WellFormed.chooseShares_bounds (hbuilder : builder.WellFormed) :
    builder.config.minShares ≤ builder.chooseShares ∧
      builder.chooseShares ≤ builder.config.maxShares := by
  have hle := hbuilder.min_le_max
  have hshares := hbuilder.chooseShares_toNat
  have hoffset : builder.generatedCount.toNat %
      (builder.config.maxShares.toNat - builder.config.minShares.toNat + 1) <
        builder.config.maxShares.toNat - builder.config.minShares.toNat + 1 :=
    Nat.mod_lt _ (Nat.succ_pos _)
  rw [UInt32.le_iff_toNat_le, UInt32.le_iff_toNat_le]
  omega

theorem WellFormed.isValidShares_chooseShares (hbuilder : builder.WellFormed) :
    isValidShares builder.chooseShares = true := by
  have hpos := hbuilder.min_pos
  have hmin := UInt32.le_iff_toNat_le.mp hbuilder.chooseShares_bounds.1
  rw [isValidShares, decide_eq_true_iff]
  apply UInt32.lt_iff_toNat_lt.mpr
  rw [UInt32.toNat_zero]
  omega

theorem isValidPrice4_choosePrice {firstStockLocate : StockLocate} {index : Nat}
    {symbolState : SymbolState} (hready : SymbolReady firstStockLocate index symbolState)
    (side : Side) : isValidPrice4 (builder.choosePrice symbolState side) = true := by
  have hbase := hready.base_pos
  have htop := hready.top_lt
  have hdigit : builder.generatedCount.toNat % 10 ≤ 9 := by omega
  have hwobble : (builder.generatedCount % 10 *
      symbolState.config.priceStep.toUInt64).toUInt32.toNat =
        builder.generatedCount.toNat % 10 * symbolState.config.priceStep.toNat := by
    have hproduct := Nat.mul_le_mul_right symbolState.config.priceStep.toNat hdigit
    rw [UInt64.toNat_toUInt32, UInt64.toNat_mul, UInt64.toNat_mod, UInt32.toNat_toUInt64]
    change builder.generatedCount.toNat % 10 * _ % 2 ^ 64 % 2 ^ 32 = _
    omega
  have hhalf : (symbolState.config.priceStep * 5).toNat =
      symbolState.config.priceStep.toNat * 5 := by
    rw [UInt32.toNat_mul]
    exact Nat.mod_eq_of_lt (by change _ * 5 < _; omega)
  rw [isValidPrice4, decide_eq_true_iff]
  apply UInt32.lt_iff_toNat_lt.mpr
  rw [UInt32.toNat_zero]
  have hproduct := Nat.mul_le_mul_right symbolState.config.priceStep.toNat hdigit
  unfold choosePrice
  dsimp only
  split
  · rw [UInt32.toNat_add, UInt32.toNat_add, hwobble, hhalf]
    omega
  · split
    · split
      · exact UInt32.lt_iff_toNat_lt.mp ‹_›
      · decide
    · rename_i hbelow
      rw [ge_iff_le, UInt32.not_le] at hbelow
      rw [UInt32.toNat_sub_of_le _ _ (UInt32.le_of_lt hbelow)]
      have := UInt32.lt_iff_toNat_lt.mp hbelow
      omega

theorem isValidTimestampNs_currentTimestampNs (builder : ItchMessageBuilder) :
    isValidTimestampNs builder.currentTimestampNs = true := by
  rw [isValidTimestampNs, decide_eq_true_iff, currentTimestampNs]
  apply UInt64.le_iff_toNat_le.mpr
  rw [UInt64.toNat_mod]
  exact Nat.le_pred_of_lt (Nat.mod_lt _ (by decide))

theorem isValidFixedAscii_fixedAsciiFromText (N : Nat) {text : Bytes}
    (htext : ∀ character ∈ text, isPrintableAsciiOrSpace character = true) :
    isValidFixedAscii (fixedAsciiFromText N text) = true := by
  rw [isValidFixedAscii, fixedAsciiFromText, List.Vector.toList_ofFn, List.all_eq_true]
  intro character hmem
  rcases List.mem_ofFn.mp hmem with ⟨index, rfl⟩
  rw [List.getD_eq_getElem?_getD]
  cases hget : text[index.val]? with
  | none => decide
  | some value => exact htext value (List.mem_of_getElem? hget)

theorem isValidHeader_of_ready (hbuilder : builder.WellFormed) {index : Nat}
    {symbolState : SymbolState} (hstate : builder.symbolStates[index]? = some symbolState)
    {header : Header} (hlocate : header.stockLocate = symbolState.stockLocate)
    (htimestamp : isValidTimestampNs header.timestampNs = true) :
    isValidHeaderForStockMessage header = true := by
  have hready := (hbuilder.ready index symbolState hstate).locate
  have hfirst := hbuilder.first_pos
  rw [isValidHeaderForStockMessage, htimestamp, Bool.and_true, hlocate, isValidStockLocate,
    decide_eq_true_iff]
  apply UInt16.lt_iff_toNat_lt.mpr
  rw [UInt16.toNat_zero]
  omega

theorem isValid_openMessage (hbuilder : builder.WellFormed) {index : Nat}
    {symbolState : SymbolState} (hstate : builder.symbolStates[index]? = some symbolState) :
    isValidStockDirectoryMessage (builder.openMessage symbolState) = true := by
  have hready := hbuilder.ready index symbolState hstate
  have hheader : isValidHeaderForStockMessage (builder.makeHeader symbolState.stockLocate) =
      true :=
    isValidHeader_of_ready hbuilder hstate rfl (isValidTimestampNs_currentTimestampNs builder)
  have hstock : isValidFixedAscii symbolState.stock = true :=
    isValidFixedAscii_fixedAsciiFromText 8 hready.printable
  simp only [isValidStockDirectoryMessage, openMessage, hheader, hstock, Bool.true_and]
  decide +kernel

/-! ## Construction -/

section Construction

variable {config : ItchMessageBuilderConfig}

/-- Every symbol has a locate of its own, also the one that stands in for none. -/
theorem normalize_symbols_length
    (hlocates : config.firstStockLocate.toNat + config.symbols.length - 1 ≤ 65535) :
    0 < (normalize config).symbols.length ∧
      config.firstStockLocate.toNat + (normalize config).symbols.length ≤ 2 ^ 16 := by
  have := UInt16.toNat_lt config.firstStockLocate
  cases hempty : config.symbols with
  | nil =>
      simp only [normalize, hempty, List.isEmpty_nil, if_true, List.length_singleton]
      omega
  | cons head rest =>
      rw [hempty] at hlocates
      simp only [normalize, hempty, List.isEmpty_cons, Bool.false_eq_true, if_false,
        List.length_cons] at hlocates ⊢
      omega

theorem new_symbolStates_getElem?
    (hlocates : config.firstStockLocate.toNat + config.symbols.length - 1 ≤ 65535) {index : Nat}
    {symbolState : SymbolState} (hstate : (new config).symbolStates[index]? = some symbolState) :
    symbolState.config ∈ (normalize config).symbols ∧ symbolState.restingOrders = [] ∧
      symbolState.stockLocate.toNat = config.firstStockLocate.toNat + index := by
  have hlength := (normalize_symbols_length hlocates).2
  rw [new, List.getElem?_mapIdx, Option.map_eq_some_iff] at hstate
  rcases hstate with ⟨symbol, hsymbol, rfl⟩
  have hindex := (List.getElem?_eq_some_iff.mp hsymbol).1
  refine ⟨List.mem_of_getElem? hsymbol, rfl, ?_⟩
  exact UInt16.toNat_ofNat_of_lt' (by change _ < 2 ^ 16; omega)

theorem clampHotCount_bounds (hotSymbolCount : Nat) {symbolCount : Nat} (hpos : 0 < symbolCount) :
    0 < clampHotCount hotSymbolCount symbolCount ∧
      clampHotCount hotSymbolCount symbolCount ≤ symbolCount := by
  unfold clampHotCount
  split
  · omega
  · split <;> omega

theorem new_placed
    (hlocates : config.firstStockLocate.toNat + config.symbols.length - 1 ≤ 65535) :
    (new config).Placed := by
  have hhot := clampHotCount_bounds config.hotSymbolCount (normalize_symbols_length hlocates).1
  refine ⟨hhot.1, ?_, ?_⟩
  · simp only [new, List.length_mapIdx]
    exact hhot.2
  · exact pairwise_of_locate (fun index symbolState hstate =>
      (new_symbolStates_getElem? hlocates hstate).2.2)

theorem normalize_symbols (hconfig : config.Admissible) :
    ∀ symbol ∈ (normalize config).symbols,
      (∀ character ∈ symbol.symbol, isPrintableAsciiOrSpace character = true) ∧
        1 ≤ symbol.basePrice.toNat ∧
        symbol.basePrice.toNat + 14 * symbol.priceStep.toNat < 2 ^ 32 := by
  intro symbol hmem
  cases hempty : config.symbols with
  | nil =>
      simp only [normalize, hempty, List.isEmpty_nil, if_true, List.mem_singleton] at hmem
      subst hmem
      exact ⟨by decide +kernel, by simp, by simp⟩
  | cons head rest =>
      simp only [normalize, hempty, List.isEmpty_cons, Bool.false_eq_true, if_false] at hmem
      rw [← hempty] at hmem
      exact ⟨hconfig.printable symbol hmem, hconfig.prices symbol hmem⟩

theorem new_wellFormed (hconfig : config.Admissible) : (new config).WellFormed := by
  have hplaced := new_placed hconfig.locates
  refine ⟨?_, ?_, hplaced.hot_pos, hplaced.hot_le, hconfig.first_locate, ?_⟩
  · change 1 ≤ (if config.minShares = 0 then 1 else config.minShares).toNat
    split
    · decide
    · rename_i hne
      rw [← UInt32.toNat_inj, UInt32.toNat_zero] at hne
      omega
  · change _ ≤ (if config.maxShares < (normalize config).minShares then
      (normalize config).minShares else config.maxShares).toNat
    split
    · exact Nat.le_refl _
    · exact UInt32.le_iff_toNat_le.mp (UInt32.not_lt.mp ‹_›)
  · intro index symbolState hstate
    obtain ⟨hsymbol, -, hlocate⟩ := new_symbolStates_getElem? hconfig.locates hstate
    obtain ⟨hprintable, hbase, htop⟩ := normalize_symbols hconfig _ hsymbol
    exact ⟨hlocate, hprintable, hbase, htop⟩

end Construction

/-! ## Events -/

/-- Everything an event can be: the cancellation of a symbol's oldest remembered
order, or a new order of a symbol. -/
inductive NextEvent (builder : ItchMessageBuilder) : Message × ItchMessageBuilder → Prop where
  | cancel (index : Nat) (symbolState : SymbolState) (rest : List OrderReferenceNumber)
      (message : OrderCancelMessage) (count : UInt64)
      (hstate : builder.symbolStates[index]? = some symbolState)
      (hresting : symbolState.restingOrders = message.orderReferenceNumber :: rest)
      (hlocate : message.header.stockLocate = symbolState.stockLocate)
      (htimestamp : isValidTimestampNs message.header.timestampNs = true)
      (hshares : isValidShares message.cancelledShares = true) :
      NextEvent builder (.orderCancel message, { builder with
        generatedCount := count
        symbolStates :=
          builder.symbolStates.set index { symbolState with restingOrders := rest } })
  | add (index : Nat) (symbolState : SymbolState) (message : AddOrderNoMpidMessage)
      (count : UInt64) (hstate : builder.symbolStates[index]? = some symbolState)
      (hreference : message.orderReferenceNumber = builder.nextOrderReferenceNumber)
      (hstock : message.stock = symbolState.stock)
      (hlocate : message.header.stockLocate = symbolState.stockLocate)
      (htimestamp : isValidTimestampNs message.header.timestampNs = true)
      (hshares : isValidShares message.shares = true)
      (hprice : isValidPrice4 message.price = true) :
      NextEvent builder (.addOrderNoMpid message, { builder with
        generatedCount := count
        nextOrderReferenceNumber := builder.nextOrderReferenceNumber + 1
        symbolStates := builder.symbolStates.set index { symbolState with
          restingOrders := symbolState.restingOrders ++ [builder.nextOrderReferenceNumber] } })

/-- The two results of {lit}`nextMarketEvent`, in full. -/
inductive MarketEvent (builder : ItchMessageBuilder) : Message × ItchMessageBuilder → Prop where
  | cancel (index : Nat) (symbolState : SymbolState) (reference : OrderReferenceNumber)
      (rest : List OrderReferenceNumber)
      (hstate : builder.symbolStates[index]? = some symbolState)
      (hresting : symbolState.restingOrders = reference :: rest) :
      MarketEvent builder
        (.orderCancel ⟨builder.tick.makeHeader symbolState.stockLocate, reference,
            builder.tick.chooseShares⟩,
          builder.tick.setSymbolState index { symbolState with restingOrders := rest })
  | add (index : Nat) (symbolState : SymbolState)
      (hstate : builder.symbolStates[index]? = some symbolState) :
      MarketEvent builder (builder.tick.buildAddOrder index symbolState)

theorem Placed.tick (hplaced : builder.Placed) : builder.tick.Placed :=
  ⟨hplaced.hot_pos, hplaced.hot_le, hplaced.locates⟩

/-- The chosen symbol exists, and its queue and the counter decide the kind of event. -/
theorem nextMarketEvent_eq (hplaced : builder.Placed) :
    ∃ symbolState, builder.symbolStates[builder.tick.chooseSymbolIndex]? = some symbolState ∧
      builder.nextMarketEvent =
        if builder.tick.shouldCancel symbolState then
          builder.tick.buildCancel builder.tick.chooseSymbolIndex symbolState
        else builder.tick.buildAddOrder builder.tick.chooseSymbolIndex symbolState := by
  have hindex : builder.tick.chooseSymbolIndex < builder.symbolStates.length :=
    hplaced.tick.chooseSymbolIndex_lt
  refine ⟨builder.symbolStates.getD builder.tick.chooseSymbolIndex {}, ?_, rfl⟩
  rw [List.getD_eq_getElem?_getD, List.getElem?_eq_getElem hindex]
  rfl

theorem nextMarketEvent_marketEvent (hplaced : builder.Placed) :
    MarketEvent builder builder.nextMarketEvent := by
  obtain ⟨symbolState, hstate, hnext⟩ := nextMarketEvent_eq hplaced
  rw [hnext]
  split
  · rename_i hcancel
    cases hresting : symbolState.restingOrders with
    | nil =>
        rw [shouldCancel, hresting] at hcancel
        cases hcancel
    | cons reference rest =>
        rw [buildCancel, hresting]
        exact .cancel _ _ reference rest hstate hresting
  · exact .add _ _ hstate

theorem WellFormed.tick (hbuilder : builder.WellFormed) : builder.tick.WellFormed :=
  ⟨hbuilder.min_pos, hbuilder.min_le_max, hbuilder.hot_pos, hbuilder.hot_le,
    hbuilder.first_pos, hbuilder.ready⟩

theorem nextMarketEvent_nextEvent (hbuilder : builder.WellFormed) :
    NextEvent builder builder.nextMarketEvent := by
  have htimestamp := isValidTimestampNs_currentTimestampNs builder.tick
  have hshares := hbuilder.tick.isValidShares_chooseShares
  have hevent := nextMarketEvent_marketEvent hbuilder.placed
  generalize builder.nextMarketEvent = result at hevent ⊢
  cases hevent with
  | cancel index symbolState reference rest hstate hresting =>
      exact .cancel index symbolState rest _ _ hstate hresting rfl htimestamp hshares
  | add index symbolState hstate =>
      exact .add index symbolState _ _ hstate rfl rfl rfl htimestamp hshares
        (isValidPrice4_choosePrice (hbuilder.ready index symbolState hstate) _)

/-- Only the remembered orders of a symbol, the counter and the next reference number
change. -/
theorem WellFormed.set {index : Nat} {symbolState : SymbolState} (hbuilder : builder.WellFormed)
    (hstate : builder.symbolStates[index]? = some symbolState)
    (restingOrders : List OrderReferenceNumber) (count : UInt64) (next : OrderReferenceNumber) :
    WellFormed { builder with
      generatedCount := count
      nextOrderReferenceNumber := next
      symbolStates := builder.symbolStates.set index
        { symbolState with restingOrders := restingOrders } } := by
  refine ⟨hbuilder.min_pos, hbuilder.min_le_max, hbuilder.hot_pos, ?_, hbuilder.first_pos, ?_⟩
  · rw [List.length_set]
    exact hbuilder.hot_le
  · intro index' other hother
    rw [List.getElem?_set] at hother
    split at hother
    · rename_i heq
      subst heq
      split at hother
      · cases hother
        have hready := hbuilder.ready _ _ hstate
        exact ⟨hready.locate, hready.printable, hready.base_pos, hready.top_lt⟩
      · cases hother
    · exact hbuilder.ready index' other hother

theorem NextEvent.wellFormed {result : Message × ItchMessageBuilder}
    (hevent : NextEvent builder result) (hbuilder : builder.WellFormed) :
    result.2.WellFormed := by
  cases hevent with
  | cancel index symbolState rest message count hstate =>
      exact hbuilder.set hstate _ count _
  | add index symbolState message count hstate =>
      exact hbuilder.set hstate _ count _

/-- The Add Order messages of a flow. -/
def addOrders (messages : List Message) : List AddOrderNoMpidMessage :=
  messages.filterMap fun
    | .addOrderNoMpid message => some message
    | _ => none

theorem addOrders_cons_add (message : AddOrderNoMpidMessage) (messages : List Message) :
    addOrders (.addOrderNoMpid message :: messages) = message :: addOrders messages :=
  rfl

theorem mem_addOrders {messages : List Message} {message : AddOrderNoMpidMessage} :
    message ∈ addOrders messages ↔ .addOrderNoMpid message ∈ messages := by
  rw [addOrders, List.mem_filterMap]
  constructor
  · rintro ⟨other, hmem, hsome⟩
    split at hsome
    · cases hsome
      exact hmem
    · cases hsome
  · exact fun hmem => ⟨_, hmem, rfl⟩

/-- While they do not wrap, the reference numbers of new orders count up. -/
theorem events_references (hbuilder : builder.WellFormed) {first n : Nat}
    (hnext : builder.nextOrderReferenceNumber = UInt64.ofNat first)
    (hfits : first + (addOrders (builder.events n)).length ≤ 2 ^ 64) :
    (addOrders (builder.events n)).map (fun message => message.orderReferenceNumber.toNat) =
      List.range' first (addOrders (builder.events n)).length := by
  induction n generalizing builder first with
  | zero => rfl
  | succ n ih =>
      have hevent := nextMarketEvent_nextEvent hbuilder
      have hafter := hevent.wellFormed hbuilder
      rw [events] at hfits ⊢
      generalize builder.nextMarketEvent = result at hevent hafter hfits ⊢
      cases hevent with
      | cancel index symbolState rest message count => exact ih hafter hnext hfits
      | add index symbolState message count hstate hreference =>
          have hnext' : builder.nextOrderReferenceNumber + 1 = UInt64.ofNat (first + 1) := by
            rw [hnext, UInt64.ofNat_add]
            rfl
          dsimp only at hafter hfits ⊢
          rw [addOrders_cons_add, List.length_cons] at hfits ⊢
          have hhead : message.orderReferenceNumber.toNat = first := by
            rw [hreference, hnext]
            exact UInt64.toNat_ofNat_of_lt' (Nat.lt_of_lt_of_le (by omega) hfits)
          rw [List.map_cons, List.range'_succ, hhead, ih hafter hnext' (by omega)]

end WellFormed

end ItchMessageBuilder

end Fgep.Gen
