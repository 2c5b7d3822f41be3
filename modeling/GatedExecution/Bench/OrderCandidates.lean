import GatedExecution.Gen.SymbolCoverage
import GatedExecution.Ouch.Messages

/-!
# Order candidates

{lit}`bench/order_candidate_generator.cpp`: a deterministic flow of Enter Order messages
for the execution benchmark.  Everything but the user reference number is computed from a
counter of the generated orders.

The constructor's repairs of a configuration are a type of its own here, so a generator
cannot hold a configuration that was not repaired.

Main results:

- Theorem {lit}`readClOrdId_makeClOrdId`: a client order identifier spells its number.
- Theorem {lit}`advance_eq`: where a generator stands after some orders.
- Theorem {lit}`candidate_orders`: the orders of every run.
-/

namespace Fgep.Bench

open Wire Ouch Gen HotRotation

/-! ## Configuration -/

structure OrderCandidateGeneratorConfig where
  symbols : List Symbol := []
  firstUserRefNum : UserRefNum := 1
  minQuantity : Quantity := 100
  maxQuantity : Quantity := 1000
  basePrice : Price4 := 1000000
  priceStep : Price4 := 100
  hotSymbolCount : Nat := 1
  hotSymbolPercent : UInt8 := 80
  alternateSides : Bool := true

/-- A configuration as the constructor leaves it. -/
structure CandidateConfig extends OrderCandidateGeneratorConfig where
  hot_pos : 0 < hotSymbolCount
  hot_le : hotSymbolCount ≤ symbols.length
  percent_le : hotSymbolPercent.toNat ≤ 100
  min_pos : 0 < minQuantity
  min_le_max : minQuantity ≤ maxQuantity

def defaultSymbol : Symbol :=
  fixedAsciiFromText 8 [asciiByte 'A', asciiByte 'A', asciiByte 'P', asciiByte 'L']

def configuredSymbols (config : OrderCandidateGeneratorConfig) : List Symbol :=
  if config.symbols.isEmpty then [defaultSymbol] else config.symbols

def leastQuantity (config : OrderCandidateGeneratorConfig) : Quantity :=
  if config.minQuantity = 0 then 1 else config.minQuantity

def largestQuantity (config : OrderCandidateGeneratorConfig) : Quantity :=
  if config.maxQuantity < leastQuantity config then leastQuantity config else config.maxQuantity

theorem configuredSymbols_pos (config : OrderCandidateGeneratorConfig) :
    0 < (configuredSymbols config).length := by
  unfold configuredSymbols
  split
  · simp
  · rename_i hsymbols
    rw [List.length_pos_iff]
    simpa using hsymbols

theorem leastQuantity_pos (config : OrderCandidateGeneratorConfig) :
    0 < leastQuantity config := by
  unfold leastQuantity
  split
  · decide
  · exact UInt32.pos_iff_ne_zero.mpr ‹_›

theorem leastQuantity_le (config : OrderCandidateGeneratorConfig) :
    leastQuantity config ≤ largestQuantity config := by
  unfold largestQuantity
  split
  · exact UInt32.le_refl _
  · exact UInt32.not_lt.mp ‹_›

def CandidateConfig.of (config : OrderCandidateGeneratorConfig) : CandidateConfig where
  toOrderCandidateGeneratorConfig :=
    { config with
      symbols := configuredSymbols config
      minQuantity := leastQuantity config
      maxQuantity := largestQuantity config
      hotSymbolCount := clampHotCount config.hotSymbolCount (configuredSymbols config).length
      hotSymbolPercent := clampPercent config.hotSymbolPercent }
  hot_pos := (ItchMessageBuilder.clampHotCount_bounds _ (configuredSymbols_pos config)).1
  hot_le := (ItchMessageBuilder.clampHotCount_bounds _ (configuredSymbols_pos config)).2
  percent_le := clampPercent_le _
  min_pos := leastQuantity_pos config
  min_le_max := leastQuantity_le config

/-! ## The generator -/

structure OrderCandidateGenerator where
  config : CandidateConfig
  nextUserRefNum : UserRefNum
  generatedCount : UInt64

namespace OrderCandidateGenerator

/-- The constructor. -/
def new (config : OrderCandidateGeneratorConfig) : OrderCandidateGenerator where
  config := CandidateConfig.of config
  nextUserRefNum := config.firstUserRefNum
  generatedCount := 0

variable (generator : OrderCandidateGenerator)

def chooseSymbolIndex : Nat :=
  let symbolCount := generator.config.symbols.length
  let hotSymbolCount := generator.config.hotSymbolCount
  if symbolCount = 1 then 0
  else
    let sequenceIndex := generator.generatedCount
    let bucket := (sequenceIndex % 100).toUInt8
    if bucket < generator.config.hotSymbolPercent then sequenceIndex.toNat % hotSymbolCount
    else
      let coldCount := symbolCount - hotSymbolCount
      if coldCount = 0 then sequenceIndex.toNat % hotSymbolCount
      else hotSymbolCount + sequenceIndex.toNat % coldCount

/-- The rotation of the message builder, over the symbols of the generator. -/
theorem chooseSymbolIndex_eq_pick :
    generator.chooseSymbolIndex =
      pick 100 generator.config.hotSymbolPercent.toNat generator.config.hotSymbolCount
        (generator.config.symbols.length - generator.config.hotSymbolCount)
        generator.generatedCount.toNat := by
  have hpos := generator.config.hot_pos
  have hle := generator.config.hot_le
  simp only [chooseSymbolIndex, pick, bucket_lt_iff]
  split
  · rename_i hsingle
    have hhot : generator.config.hotSymbolCount = 1 := by omega
    simp [hhot, hsingle, Nat.mod_one]
  · by_cases hbucket :
      generator.generatedCount.toNat % 100 < generator.config.hotSymbolPercent.toNat
    · simp [hbucket]
    · simp [hbucket]

theorem chooseSymbolIndex_lt :
    generator.chooseSymbolIndex < generator.config.symbols.length := by
  rw [chooseSymbolIndex_eq_pick]
  apply Nat.lt_of_lt_of_eq (pick_lt generator.config.hot_pos)
  exact Nat.add_sub_cancel' generator.config.hot_le

def chooseSymbol : Symbol :=
  generator.config.symbols.get ⟨generator.chooseSymbolIndex, generator.chooseSymbolIndex_lt⟩

def chooseQuantity : Quantity :=
  let range := generator.config.maxQuantity - generator.config.minQuantity + 1
  let offset := (generator.generatedCount % range.toUInt64).toUInt32
  generator.config.minQuantity + offset

def choosePrice : Price4 :=
  let offset := generator.generatedCount % 11
  generator.config.basePrice + offset * generator.config.priceStep

def chooseSide : Side :=
  if !generator.config.alternateSides then .buy
  else if generator.generatedCount % 2 = 0 then .buy
  else .sell

/-- One turn of the loop over the digits, from the last character to the left. -/
def writeDigit (state : ClOrdId × UserRefNum) (reverseIndex : Fin 10) : ClOrdId × UserRefNum :=
  let index : Fin 14 := ⟨14 - 1 - reverseIndex, by omega⟩
  let digit := asciiByte '0' + (state.2 % 10).toUInt8
  (state.1.set index digit, state.2 / 10)

def makeClOrdId (userRefNum : UserRefNum) : ClOrdId :=
  let value := fixedAsciiFromText 14 [asciiByte 'C', asciiByte 'I', asciiByte 'D']
  ((List.finRange 10).foldl writeDigit (value, userRefNum)).1

/-- The counters move before the fields are chosen. -/
def nextEnterOrder : EnterOrderMessage × OrderCandidateGenerator :=
  let userRefNum := generator.nextUserRefNum
  let generator :=
    { generator with
      nextUserRefNum := generator.nextUserRefNum + 1
      generatedCount := generator.generatedCount + 1 }
  ({ userRefNum := userRefNum
     side := generator.chooseSide
     quantity := generator.chooseQuantity
     symbol := generator.chooseSymbol
     price := generator.choosePrice
     timeInForce := .day
     display := .visible
     capacity := .agency
     intermarketSweepEligibility := .notEligible
     crossType := .continuousMarket
     clOrdId := makeClOrdId userRefNum
     optionalAppendage := [] },
    generator)

def reset : OrderCandidateGenerator :=
  { generator with
    nextUserRefNum := generator.config.firstUserRefNum
    generatedCount := 0 }

/-- The generator after some orders. -/
def advance : OrderCandidateGenerator → Nat → OrderCandidateGenerator
  | generator, 0 => generator
  | generator, n + 1 => (advance generator n).nextEnterOrder.2

/-- The order at a place of a run. -/
def orderAt (k : Nat) : EnterOrderMessage :=
  (generator.advance k).nextEnterOrder.1

def orders (n : Nat) : List EnterOrderMessage :=
  (List.range n).map generator.orderAt

/-! ## Client order identifiers -/

/-- The number that characters spell in decimal. -/
def readDigits (characters : Bytes) : Nat :=
  characters.foldl (fun number character => 10 * number + (character - asciiByte '0').toNat) 0

/-- The number in the last ten characters of an identifier. -/
def readClOrdId (clOrdId : ClOrdId) : Nat :=
  readDigits (clOrdId.toList.drop 4)

/-- The last digits of a number, as characters. -/
def lastDigits : Nat → UserRefNum → Bytes
  | 0, _ => []
  | width + 1, number => lastDigits width (number / 10) ++ [asciiByte '0' + (number % 10).toUInt8]

theorem toNat_digit (number : UserRefNum) :
    (asciiByte '0' + (number % 10).toUInt8).toNat = 48 + number.toNat % 10 := by
  rw [UInt8.toNat_add, UInt32.toNat_toUInt8, UInt32.toNat_mod]
  change (48 + number.toNat % 10 % 2 ^ 8) % 2 ^ 8 = _
  omega

theorem readDigits_lastDigits (width : Nat) (number : UserRefNum) :
    readDigits (lastDigits width number) = number.toNat % 10 ^ width := by
  induction width generalizing number with
  | zero => simp [lastDigits, readDigits, Nat.mod_one]
  | succ width ih =>
      have hdigit : (asciiByte '0' + (number % 10).toUInt8 - asciiByte '0').toNat =
          number.toNat % 10 := by
        rw [UInt8.toNat_sub_of_le, toNat_digit]
        · exact Nat.add_sub_cancel_left 48 _
        · rw [UInt8.le_iff_toNat_le, toNat_digit]
          exact Nat.le_add_right 48 _
      have hrest := ih (number / 10)
      rw [readDigits] at hrest
      rw [lastDigits, readDigits, List.foldl_append, hrest, List.foldl_cons, List.foldl_nil, hdigit,
        UInt32.toNat_div, Nat.pow_succ', Nat.mod_mul, Nat.add_comm]
      rfl

theorem mem_lastDigits {width : Nat} {number : UserRefNum} {character : UInt8}
    (hmem : character ∈ lastDigits width number) :
    48 ≤ character.toNat ∧ character.toNat ≤ 57 := by
  induction width generalizing number with
  | zero => cases hmem
  | succ width ih =>
      rcases List.mem_append.mp hmem with hfront | hlast
      · exact ih hfront
      · rw [List.mem_singleton.mp hlast, toNat_digit]
        omega

theorem isPrintable_lastDigits (width : Nat) (number : UserRefNum) :
    (lastDigits width number).all isPrintableAsciiOrSpace = true := by
  rw [List.all_eq_true]
  intro character hmem
  have hdigit := mem_lastDigits hmem
  rw [isPrintableAsciiOrSpace, Bool.and_eq_true, decide_eq_true_iff, decide_eq_true_iff,
    UInt8.le_iff_toNat_le, UInt8.le_iff_toNat_le]
  change 32 ≤ _ ∧ _ ≤ 126
  omega

theorem toList_makeClOrdId (userRefNum : UserRefNum) :
    (makeClOrdId userRefNum).toList =
      [asciiByte 'C', asciiByte 'I', asciiByte 'D', asciiByte ' '] ++ lastDigits 10 userRefNum :=
  rfl

/-- An identifier spells the user reference number it was made from: ten digits are enough. -/
theorem readClOrdId_makeClOrdId (userRefNum : UserRefNum) :
    readClOrdId (makeClOrdId userRefNum) = userRefNum.toNat := by
  have hlt := userRefNum.toNat_lt
  rw [readClOrdId, toList_makeClOrdId]
  change readDigits (lastDigits 10 userRefNum) = _
  rw [readDigits_lastDigits, Nat.mod_eq_of_lt (by omega)]

/-- The last ten characters of an identifier are digits. -/
theorem digits_makeClOrdId (userRefNum : UserRefNum) :
    ∀ character ∈ (makeClOrdId userRefNum).toList.drop 4,
      48 ≤ character.toNat ∧ character.toNat ≤ 57 := by
  intro character hmem
  rw [toList_makeClOrdId] at hmem
  exact mem_lastDigits hmem

theorem isValidFixedAscii_makeClOrdId (userRefNum : UserRefNum) :
    isValidFixedAscii (makeClOrdId userRefNum) = true := by
  rw [isValidFixedAscii, toList_makeClOrdId, List.all_append, isPrintable_lastDigits]
  decide

/-! ## Runs -/

section Runs

variable {generator : OrderCandidateGenerator}

theorem advance_eq (generator : OrderCandidateGenerator) (n : Nat) :
    generator.advance n =
      { generator with
        nextUserRefNum := generator.nextUserRefNum + UInt32.ofNat n
        generatedCount := generator.generatedCount + UInt64.ofNat n } := by
  induction n with
  | zero => simp [advance]
  | succ n ih =>
      rw [advance, ih, nextEnterOrder, UInt32.ofNat_add, UInt64.ofNat_add, ← UInt32.add_assoc,
        ← UInt64.add_assoc]
      rfl

theorem userRefNum_orderAt (generator : OrderCandidateGenerator) (k : Nat) :
    (generator.orderAt k).userRefNum = generator.nextUserRefNum + UInt32.ofNat k := by
  rw [orderAt, advance_eq]
  rfl

theorem chooseQuantity_bounds (generator : OrderCandidateGenerator) :
    generator.config.minQuantity ≤ generator.chooseQuantity ∧
      generator.chooseQuantity ≤ generator.config.maxQuantity := by
  have hpos := UInt32.lt_iff_toNat_lt.mp generator.config.min_pos
  have hle := UInt32.le_iff_toNat_le.mp generator.config.min_le_max
  have hmax := generator.config.maxQuantity.toNat_lt
  rw [UInt32.toNat_zero] at hpos
  -- The size of the range fits, since the least quantity is not zero.
  have hrange : (generator.config.maxQuantity - generator.config.minQuantity + 1).toNat =
      generator.config.maxQuantity.toNat - generator.config.minQuantity.toNat + 1 := by
    rw [UInt32.toNat_add, UInt32.toNat_sub_of_le _ _ generator.config.min_le_max]
    exact Nat.mod_eq_of_lt (by change _ + 1 < _; omega)
  have hoffset : generator.generatedCount.toNat %
      (generator.config.maxQuantity.toNat - generator.config.minQuantity.toNat + 1) <
        generator.config.maxQuantity.toNat - generator.config.minQuantity.toNat + 1 :=
    Nat.mod_lt _ (Nat.succ_pos _)
  rw [UInt32.le_iff_toNat_le, UInt32.le_iff_toNat_le, chooseQuantity, UInt32.toNat_add,
    UInt64.toNat_toUInt32, UInt64.toNat_mod, UInt32.toNat_toUInt64, hrange,
    Nat.mod_eq_of_lt (a := generator.generatedCount.toNat % _) (by omega),
    Nat.mod_eq_of_lt (by omega)]
  omega

theorem config_advance (generator : OrderCandidateGenerator) (n : Nat) :
    (generator.advance n).config = generator.config := by
  rw [advance_eq]

theorem generatedCount_advance (generator : OrderCandidateGenerator) (n : Nat) :
    (generator.advance n).generatedCount = generator.generatedCount + UInt64.ofNat n := by
  rw [advance_eq]

theorem quantity_orderAt (generator : OrderCandidateGenerator) (k : Nat) :
    generator.config.minQuantity ≤ (generator.orderAt k).quantity ∧
      (generator.orderAt k).quantity ≤ generator.config.maxQuantity := by
  have hbounds := chooseQuantity_bounds (generator.advance (k + 1))
  rwa [config_advance] at hbounds

theorem getElem?_chooseSymbol (generator : OrderCandidateGenerator) :
    generator.config.symbols[generator.chooseSymbolIndex]? = some generator.chooseSymbol :=
  List.getElem?_eq_getElem generator.chooseSymbolIndex_lt

theorem symbol_orderAt (generator : OrderCandidateGenerator) (k : Nat) :
    generator.config.symbols[pick 100 generator.config.hotSymbolPercent.toNat
        generator.config.hotSymbolCount
        (generator.config.symbols.length - generator.config.hotSymbolCount)
        (generator.generatedCount + UInt64.ofNat (k + 1)).toNat]? =
      some (generator.orderAt k).symbol := by
  have hsymbol := getElem?_chooseSymbol (generator.advance (k + 1))
  rw [chooseSymbolIndex_eq_pick, config_advance, generatedCount_advance] at hsymbol
  exact hsymbol

/-- Of the checks of an Enter Order message, those of the identifier and of the appendage
cannot fail, nor can the quantity be zero. -/
theorem isValid_orderAt_iff (generator : OrderCandidateGenerator) (k : Nat) :
    isValidEnterOrderMessage (generator.orderAt k) = true ↔
      0 < (generator.orderAt k).userRefNum ∧ (generator.orderAt k).quantity < 1000000 ∧
        0 < (generator.orderAt k).price ∧
        isValidFixedAscii (generator.orderAt k).symbol = true := by
  have hquantity : 0 < (generator.orderAt k).quantity :=
    UInt32.lt_of_lt_of_le generator.config.min_pos (quantity_orderAt generator k).1
  have hidentifier : isValidFixedAscii (generator.orderAt k).clOrdId = true :=
    isValidFixedAscii_makeClOrdId _
  have happendage : appendageLengthFits (generator.orderAt k).optionalAppendage = true := rfl
  simp [isValidEnterOrderMessage, isValidUserRefNum, isValidEnterOrReplaceQuantity, isValidPrice4,
    hquantity, hidentifier, happendage, and_assoc]

theorem reset_advance (config : OrderCandidateGeneratorConfig) (n : Nat) :
    ((new config).advance n).reset = new config := by
  rw [advance_eq]
  rfl

theorem userRefNum_ne {first : UserRefNum} {i j : Nat} (hlt : i < j) (hfits : j < 2 ^ 32) :
    first + UInt32.ofNat i ≠ first + UInt32.ofNat j := by
  intro heq
  have hnumber := UInt32.toNat_inj.mpr (UInt32.add_right_inj first |>.mp heq)
  rw [UInt32.toNat_ofNat_of_lt' (show i < 2 ^ 32 by omega), UInt32.toNat_ofNat_of_lt' hfits]
    at hnumber
  omega

end Runs

/-- The orders of a run: consecutive user reference numbers, each spelled by the ten digits of
the client order identifier, quantities and symbols of the repaired configuration; no two orders share
a number or an identifier before the numbers wrap; and after a reset the same orders come
again. -/
theorem candidate_orders (config : OrderCandidateGeneratorConfig) (n : Nat) :
    let start := new config
    let setup := CandidateConfig.of config
    (∀ k < n, ∃ order, (start.orders n)[k]? = some order ∧
      order.userRefNum = config.firstUserRefNum + UInt32.ofNat k ∧
      (∀ character ∈ order.clOrdId.toList.drop 4,
        48 ≤ character.toNat ∧ character.toNat ≤ 57) ∧
      readClOrdId order.clOrdId = order.userRefNum.toNat ∧
      setup.minQuantity ≤ order.quantity ∧ order.quantity ≤ setup.maxQuantity ∧
      setup.symbols[pick 100 setup.hotSymbolPercent.toNat setup.hotSymbolCount
        (setup.symbols.length - setup.hotSymbolCount) ((k + 1) % 2 ^ 64)]? = some order.symbol ∧
      (isValidEnterOrderMessage order = true ↔
        0 < order.userRefNum ∧ order.quantity < 1000000 ∧ 0 < order.price ∧
          isValidFixedAscii order.symbol = true)) ∧
    (n ≤ 2 ^ 32 → (start.orders n).Pairwise (fun first second =>
      first.userRefNum ≠ second.userRefNum ∧ first.clOrdId ≠ second.clOrdId)) ∧
    (start.advance n).reset.orders n = start.orders n := by
  intro start setup
  have hnumber : ∀ k, (start.orderAt k).userRefNum = config.firstUserRefNum + UInt32.ofNat k :=
    userRefNum_orderAt start
  have hspelled : ∀ k, readClOrdId (start.orderAt k).clOrdId =
      (start.orderAt k).userRefNum.toNat := fun k => readClOrdId_makeClOrdId _
  refine ⟨?_, ?_, ?_⟩
  · intro k hk
    have hcount : (start.generatedCount + UInt64.ofNat (k + 1)).toNat = (k + 1) % 2 ^ 64 := by
      simp [start, new]
    have hsymbol := symbol_orderAt start k
    rw [hcount] at hsymbol
    refine ⟨start.orderAt k, ?_, hnumber k, digits_makeClOrdId _, hspelled k,
      (quantity_orderAt start k).1, (quantity_orderAt start k).2, hsymbol,
      isValid_orderAt_iff start k⟩
    rw [orders, List.getElem?_map, List.getElem?_range hk, Option.map_some]
  · intro hfits
    rw [orders, List.pairwise_map]
    apply List.Pairwise.imp_of_mem _ List.pairwise_lt_range
    intro i j _ hj hlt
    have hne : (start.orderAt i).userRefNum ≠ (start.orderAt j).userRefNum := by
      rw [hnumber, hnumber]
      exact userRefNum_ne hlt (Nat.lt_of_lt_of_le (List.mem_range.mp hj) hfits)
    refine ⟨hne, fun hsame => hne ?_⟩
    rw [← UInt32.toNat_inj, ← hspelled, ← hspelled, hsame]
  · rw [reset_advance]

end OrderCandidateGenerator

end Fgep.Bench
