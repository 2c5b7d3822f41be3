import GatedExecution.Gen.BuilderRuns
import GatedExecution.Lib.HotRotation

/-!
# The symbols of a generated flow

The message builder takes the bucket of an event and the symbol within its group from the
same counter.  So the share of the hot symbols is exact, but a symbol whose position does
not agree with a bucket of its group is never traded.

Main results:

- Theorem {lit}`chooseSymbolIndex_eq_pick`: the choice of a symbol is a rotation over hot
  and cold places.
- Theorem {lit}`locate_event`: the symbol of every event of a run.
- Theorem {lit}`symbol_coverage`: the share of the hot symbols, and the symbols that some
  event is about.
-/

namespace Fgep.Gen

open Itch HotRotation ItchMessageBuilder

section Choice

variable {builder : ItchMessageBuilder}

theorem bucket_lt_iff (count : UInt64) (percent : UInt8) :
    (count % 100).toUInt8 < percent ↔ count.toNat % 100 < percent.toNat := by
  rw [UInt8.lt_iff_toNat_lt, UInt64.toNat_toUInt8, UInt64.toNat_mod]
  change count.toNat % 100 % 2 ^ 8 < _ ↔ _
  rw [Nat.mod_eq_of_lt (show count.toNat % 100 < 2 ^ 8 by omega)]

theorem chooseSymbolIndex_eq_pick (hplaced : builder.Placed) :
    builder.chooseSymbolIndex =
      pick 100 builder.config.hotSymbolPercent.toNat builder.config.hotSymbolCount
        (builder.symbolStates.length - builder.config.hotSymbolCount)
        builder.generatedCount.toNat := by
  have hpos := hplaced.hot_pos
  have hle := hplaced.hot_le
  simp only [chooseSymbolIndex, pick, bucket_lt_iff]
  split
  · -- A single symbol is the one hot symbol.
    have hhot : builder.config.hotSymbolCount = 1 := by omega
    have hcold : builder.symbolStates.length - 1 = 0 := by omega
    simp [hhot, hcold, Nat.mod_one]
  · by_cases hbucket :
      builder.generatedCount.toNat % 100 < builder.config.hotSymbolPercent.toNat
    · simp [hbucket]
    · simp [hbucket]

/-- Both kinds of event are about the chosen symbol. -/
theorem stockLocate_nextMarketEvent (builder : ItchMessageBuilder) :
    builder.nextMarketEvent.1.header.stockLocate =
      (builder.symbolStates.getD builder.tick.chooseSymbolIndex {}).stockLocate := by
  simp only [nextMarketEvent]
  split <;> rfl

theorem generatedCount_nextMarketEvent (builder : ItchMessageBuilder) :
    builder.nextMarketEvent.2.generatedCount = builder.generatedCount + 1 := by
  simp only [nextMarketEvent]
  split <;> rfl

theorem generatedCount_advance (builder : ItchMessageBuilder) (n : Nat) :
    (builder.advance n).generatedCount = builder.generatedCount + UInt64.ofNat n := by
  induction n with
  | zero => simp [advance]
  | succ n ih =>
      rw [advance_succ, generatedCount_nextMarketEvent, ih, UInt64.ofNat_add, UInt64.add_assoc]
      rfl

theorem advance_advance (builder : ItchMessageBuilder) (m n : Nat) :
    (builder.advance m).advance n = builder.advance (m + n) := by
  induction n with
  | zero => rfl
  | succ n ih => rw [advance_succ, ih, Nat.add_succ, advance_succ]

theorem events_eq_map (builder : ItchMessageBuilder) (n : Nat) :
    builder.events n = (List.range n).map (fun k => (builder.advance k).nextMarketEvent.1) := by
  induction n with
  | zero => rfl
  | succ n ih => rw [events_succ, List.range_succ, List.map_append, ih]; rfl

end Choice

/-! ## The symbols of a run -/

/-- The position of the symbol of an event, counted from zero. -/
def eventPlace (config : ItchMessageBuilderConfig) (k : Nat) : Nat :=
  pick 100 (normalize config).hotSymbolPercent.toNat (normalize config).hotSymbolCount
    ((normalize config).symbols.length - (normalize config).hotSymbolCount) ((k + 1) % 2 ^ 64)

section Runs

variable {config : ItchMessageBuilderConfig}

theorem toNat_generatedCount_event (k : Nat) :
    ((new config).advance k).tick.generatedCount.toNat = (k + 1) % 2 ^ 64 := by
  rw [tick, generatedCount_advance, UInt64.toNat_add, UInt64.toNat_add, UInt64.toNat_ofNat']
  simp [new]

theorem chooseSymbolIndex_event
    (hlocates : config.firstStockLocate.toNat + config.symbols.length - 1 ≤ 65535) (k : Nat) :
    ((new config).advance k).tick.chooseSymbolIndex = eventPlace config k := by
  obtain ⟨hplaced, hconfig, hidentity⟩ := advance_placed (new_placed hlocates) k
  have hcount := @toNat_generatedCount_event config k
  generalize (new config).advance k = builder at hplaced hconfig hidentity hcount ⊢
  have hlength : builder.symbolStates.length = (normalize config).symbols.length := by
    simpa [new] using congrArg List.length hidentity
  rw [chooseSymbolIndex_eq_pick hplaced.tick, hcount, eventPlace]
  change pick 100 builder.config.hotSymbolPercent.toNat builder.config.hotSymbolCount
    (builder.symbolStates.length - builder.config.hotSymbolCount) _ = _
  rw [hconfig, hlength]
  rfl

theorem locate_event
    (hlocates : config.firstStockLocate.toNat + config.symbols.length - 1 ≤ 65535) (k : Nat) :
    ((new config).advance k).nextMarketEvent.1.header.stockLocate.toNat =
      config.firstStockLocate.toNat + eventPlace config k := by
  obtain ⟨hplaced, -, hidentity⟩ := advance_placed (new_placed hlocates) k
  have hchosen := chooseSymbolIndex_event hlocates k
  generalize (new config).advance k = builder at hplaced hidentity hchosen ⊢
  have hlt : eventPlace config k < builder.symbolStates.length := by
    rw [← hchosen]
    exact hplaced.tick.chooseSymbolIndex_lt
  -- The locate of the chosen symbol is the one it got from the constructor.
  have hstate := congrArg (fun states => states[eventPlace config k]?) hidentity
  simp only [List.getElem?_map, List.getElem?_eq_getElem hlt, Option.map_some] at hstate
  obtain ⟨symbolState, hnew, hsame⟩ := Option.map_eq_some_iff.mp hstate.symm
  have hlocate := (new_symbolStates_getElem? hlocates hnew).2.2
  rw [stockLocate_nextMarketEvent, hchosen, List.getD_eq_getElem _ _ hlt, ← hlocate]
  exact congrArg UInt16.toNat (congrArg Prod.snd hsame).symm

theorem clampPercent_le (percent : UInt8) : (clampPercent percent).toNat ≤ 100 := by
  unfold clampPercent
  split
  · decide
  · rename_i hle
    exact UInt8.le_iff_toNat_le.mp (UInt8.not_lt.mp hle)

/-- Among any hundred events, exactly the configured percentage is about hot symbols, while
there are cold ones.  Some event is about a symbol exactly if a bucket of its group agrees
with its position; then one of the first hundred for each symbol is. -/
theorem symbol_coverage (config : ItchMessageBuilderConfig)
    (hlocates : config.firstStockLocate.toNat + config.symbols.length - 1 ≤ 65535) :
    let setup := normalize config
    let hot := setup.hotSymbolCount
    let cold := setup.symbols.length - hot
    let percent := setup.hotSymbolPercent.toNat
    let first := config.firstStockLocate.toNat
    (0 < cold → ∀ start, start + 100 < 2 ^ 64 →
      (((new config).advance start).events 100).countP
        (fun message => message.header.stockLocate.toNat < first + hot) = percent) ∧
    ∀ place < setup.symbols.length,
      ((∃ n, ∃ message ∈ (new config).events n,
          message.header.stockLocate.toNat = first + place) ↔
        Reached 100 percent hot cold place) ∧
      (Reached 100 percent hot cold place →
        ∃ message ∈ (new config).events (100 * setup.symbols.length),
          message.header.stockLocate.toNat = first + place) := by
  intro setup hot cold percent first
  have hsymbols := normalize_symbols_length hlocates
  have hhot : 0 < hot ∧ hot ≤ setup.symbols.length :=
    clampHotCount_bounds config.hotSymbolCount hsymbols.1
  have hpercent : percent ≤ 100 := clampPercent_le config.hotSymbolPercent
  have hsplit : hot + cold = setup.symbols.length := Nat.add_sub_cancel' hhot.2
  have hlocate : ∀ k, ((new config).advance k).nextMarketEvent.1.header.stockLocate.toNat =
      first + pick 100 percent hot cold ((k + 1) % 2 ^ 64) := locate_event hlocates
  have hreach : ∀ place < setup.symbols.length, Reached 100 percent hot cold place →
      ∃ message ∈ (new config).events (100 * setup.symbols.length),
        message.header.stockLocate.toNat = first + place := by
    intro place hplace hreached
    obtain ⟨counter, hpos, hle, hpick⟩ :=
      exists_pick_of_reached hpercent (by decide) (hsplit ▸ hplace) hreached
    rw [hsplit] at hle
    refine ⟨((new config).advance (counter - 1)).nextMarketEvent.1, ?_, ?_⟩
    · rw [events_eq_map]
      exact List.mem_map.mpr ⟨counter - 1, List.mem_range.mpr (by omega), rfl⟩
    · have hroom : _ + setup.symbols.length ≤ 2 ^ 16 := hsymbols.2
      rw [hlocate, Nat.sub_add_cancel hpos, Nat.mod_eq_of_lt (by omega), hpick]
  refine ⟨?_, fun place hplace => ⟨⟨?_, ?_⟩, hreach place hplace⟩⟩
  · intro hcold start hroom
    rw [events_eq_map, List.countP_map, ← countP_hot hhot.1 hcold hpercent (start + 1)]
    apply List.countP_congr
    intro turn hturn
    have hturn := List.mem_range.mp hturn
    have hcounter : (start + turn + 1) % 2 ^ 64 = start + 1 + turn := by omega
    simp only [Function.comp_apply, advance_advance, hlocate, hcounter, Nat.add_lt_add_iff_left]
  · rintro ⟨n, message, hmem, hplaced⟩
    rw [events_eq_map] at hmem
    obtain ⟨k, -, rfl⟩ := List.mem_map.mp hmem
    rw [hlocate] at hplaced
    rw [← Nat.add_left_cancel hplaced]
    exact reached_pick (by decide) hhot.1 _
  · intro hreached
    exact ⟨_, hreach place hplace hreached⟩

/-- With one hot and a hundred cold symbols, eighty of the cold ones are never traded: the
second symbol of the session is one of them. -/
theorem symbol_coverage_hundred_cold :
    let config : ItchMessageBuilderConfig := { symbols := List.replicate 101 {} }
    (∀ n, ∀ message ∈ (new config).events n, message.header.stockLocate.toNat ≠ 1 + 1) ∧
      ∃ message ∈ (new config).events (100 * 101), message.header.stockLocate.toNat = 1 + 81 := by
  intro config
  obtain ⟨-, hcoverage⟩ := symbol_coverage config (by decide)
  constructor
  · intro n message hmem hplaced
    have hreached := (hcoverage 1 (by decide)).1.mp ⟨n, message, hmem, hplaced⟩
    revert hreached
    decide +kernel
  · exact (hcoverage 81 (by decide)).2 (by decide +kernel)

end Runs

end Fgep.Gen
