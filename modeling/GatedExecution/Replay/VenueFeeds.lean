import GatedExecution.Bbo.NormalizedBbo
import GatedExecution.Lib.Noninterference
import GatedExecution.Replay.Apply

/-!
# Feeds of several venues over one directory

Every venue's applier works on the same instrument directory and the same books.  What a
venue can see of them is its own instruments, its own books and, for each symbol, its own
keys in order of registration; a message of its feed reads and changes nothing else.  So
feeds can be interleaved in any way.

Main results:

- Theorem {lit}`step_separated`: a message changes the view of its own venue, by that
  view alone.
- Theorem {lit}`interleavings_agree`: two interleavings of the same feeds agree in
  everything that can be observed.
-/

namespace Fgep.Replay

open Bbo Book Instrument Noninterference Runs

/-! ## Appliers that share their state -/

namespace ItchReplayApplier

variable {applier : ItchReplayApplier}

theorem apply_venueId (applier : ItchReplayApplier) (decodedMessage : DecodedItchMessage) :
    (applier.apply decodedMessage).2.venueId = applier.venueId := by
  rcases decodedMessage with ⟨sequenceNumber, message⟩
  cases message <;> rfl

theorem apply_keyed (hkeyed : applier.directory.Keyed) (decodedMessage : DecodedItchMessage) :
    (applier.apply decodedMessage).2.directory.Keyed := by
  rcases decodedMessage with ⟨sequenceNumber, message⟩
  cases message with
  | stockDirectory message =>
      exact (applier.directory.applyStockDirectory_changesEntry applier.venueId message).keyed
        (InstrumentDirectory.stockDirectoryEntry_entryStep applier.venueId message _) hkeyed
  | stockTradingAction message =>
      exact (applier.directory.applyStockTradingAction_changesEntry applier.venueId message).keyed
        (InstrumentDirectory.stockTradingActionEntry_entryStep applier.venueId message _) hkeyed
  | _ => exact hkeyed

theorem apply_routed (hkeyed : applier.directory.Keyed) (hrouted : applier.books.Routed)
    (decodedMessage : DecodedItchMessage) :
    (applier.apply decodedMessage).2.books.Routed := by
  rcases decodedMessage with ⟨sequenceNumber, message⟩
  cases hbook : VenueBook.affectsOrderBook message with
  | true =>
      have hcore := (applier.apply_bookMessage sequenceNumber hbook).2
      have hbooks : (applier.apply ⟨sequenceNumber, message⟩).2.books =
          (applier.books.apply applier.directory applier.venueId message).2 :=
        congrArg (fun core => core.2.2) hcore
      rw [hbooks]
      exact (MultiVenueBook.apply_changesBook hrouted hkeyed applier.venueId message).routed
  | false =>
      cases message <;> first | exact hrouted | cases hbook

end ItchReplayApplier

/-- One applier for each venue, over one market. -/
structure SharedReplay where
  market : Market
  stats : Venue.VenueId → ItchReplayApplyStats

/-- A message of the feed of a venue. -/
abbrev FeedMessage := Venue.VenueId × DecodedItchMessage

namespace SharedReplay

def applier (state : SharedReplay) (venueId : Venue.VenueId) : ItchReplayApplier where
  venueId := venueId
  directory := state.market.directory
  books := state.market.books
  stats := state.stats venueId

def code (state : SharedReplay) (input : FeedMessage) : ErrorCode :=
  ((state.applier input.1).apply input.2).1

def step (state : SharedReplay) (input : FeedMessage) : SharedReplay :=
  let applied := ((state.applier input.1).apply input.2).2
  { market :=
      { directory := applied.directory
        books := applied.books
        keyed := ItchReplayApplier.apply_keyed state.market.keyed input.2
        routed := ItchReplayApplier.apply_routed state.market.keyed state.market.routed input.2 }
    stats := Function.update state.stats input.1 applied.stats }

end SharedReplay

/-! ## What a venue sees -/

structure VenueView where
  entries : Itch.StockLocate → Option InstrumentMetadata
  indexed : CanonicalSymbol → List InstrumentKey
  isAdded : Bool
  books : Itch.StockLocate → Option SymbolOrderBook
  stats : ItchReplayApplyStats

namespace VenueView

def of (directory : InstrumentDirectory) (books : MultiVenueBook) (stats : ItchReplayApplyStats)
    (venueId : Venue.VenueId) : VenueView where
  entries stockLocate := directory.findKey ⟨venueId, stockLocate⟩
  indexed symbol :=
    (directory.instrumentsForSymbol symbol).filter (fun key => key.venueId = venueId)
  isAdded := books.containsVenue venueId
  books stockLocate := books.bookAt ⟨venueId, stockLocate⟩
  stats := stats

def withEntry (view : VenueView) (key : InstrumentKey) (entry : Option InstrumentMetadata) :
    VenueView :=
  { view with
    entries := Function.update view.entries key.stockLocate entry
    indexed := fun symbol => view.indexed symbol ++
      InstrumentDirectory.newlyIndexed key (view.entries key.stockLocate) entry symbol }

def withBook (view : VenueView) (key : InstrumentKey) (book : Option SymbolOrderBook) :
    VenueView :=
  { view with books := Function.update view.books key.stockLocate book }

/-- What a directory message does, given what becomes of its entry. -/
def reactInstrument (view : VenueView) (key : InstrumentKey)
    (entry : ErrorCode × Option InstrumentMetadata) : ErrorCode × VenueView :=
  (entry.1, { view.withEntry key entry.2 with
    stats :=
      if entry.1 = .ok then
        { view.stats with instrumentMessages := view.stats.instrumentMessages + 1 }
      else view.stats })

/-- What a book message does. -/
def reactBook (view : VenueView) (key : InstrumentKey) (message : Itch.Message) :
    ErrorCode × VenueView :=
  let entry := MultiVenueBook.bookEntry view.isAdded (view.entries key.stockLocate) message
    (view.books key.stockLocate)
  (entry.1, { view.withBook key entry.2 with
    stats :=
      if entry.1 = .ok then { view.stats with bookMessages := view.stats.bookMessages + 1 }
      else view.stats })

/-- A venue's replay on its own. -/
def react (view : VenueView) (input : FeedMessage) : ErrorCode × VenueView :=
  let seen : VenueView := { view with
    stats := { view.stats with
      hasLastSequenceNumber := true
      lastSequenceNumber := input.2.sequenceNumber } }
  match input.2.message with
  | .stockDirectory message =>
      seen.reactInstrument ⟨input.1, message.header.stockLocate⟩
        (InstrumentDirectory.stockDirectoryEntry input.1 message
          (seen.entries message.header.stockLocate))
  | .stockTradingAction message =>
      seen.reactInstrument ⟨input.1, message.header.stockLocate⟩
        (InstrumentDirectory.stockTradingActionEntry input.1 message
          (seen.entries message.header.stockLocate))
  | .systemEvent _ | .tradeNonCross _ | .crossTrade _ | .brokenTrade _ =>
      (.ok, { seen with
        stats := { seen.stats with ignoredMessages := seen.stats.ignoredMessages + 1 } })
  | message => seen.reactBook ⟨input.1, message.header.stockLocate⟩ message

/-! ## Changes of one entry or book -/

section Of

variable {directory : InstrumentDirectory} {books : MultiVenueBook} {key : InstrumentKey}
  {venueId : Venue.VenueId}

theorem newlyIndexed_filter (key : InstrumentKey) (before after : Option InstrumentMetadata)
    (symbol : CanonicalSymbol) (venueId : Venue.VenueId) :
    (InstrumentDirectory.newlyIndexed key before after symbol).filter
        (fun key => key.venueId = venueId) =
      if key.venueId = venueId then InstrumentDirectory.newlyIndexed key before after symbol
      else [] := by
  have hall : ∀ other ∈ InstrumentDirectory.newlyIndexed key before after symbol, other = key := by
    intro other hmem
    unfold InstrumentDirectory.newlyIndexed at hmem
    split at hmem
    · split at hmem
      · exact List.mem_singleton.mp hmem
      · exact absurd hmem List.not_mem_nil
    · exact absurd hmem List.not_mem_nil
  split
  · rename_i hvenue
    rw [List.filter_eq_self]
    intro other hmem
    rw [hall other hmem]
    exact decide_eq_true hvenue
  · rename_i hvenue
    rw [List.filter_eq_nil_iff]
    intro other hmem
    rw [hall other hmem, decide_eq_true_iff]
    exact hvenue

theorem of_changesEntry {entry : ErrorCode × Option InstrumentMetadata}
    {result : ErrorCode × InstrumentDirectory}
    (hchange : directory.ChangesEntry key entry result) (books : MultiVenueBook)
    (stats : ItchReplayApplyStats) :
    of result.2 books stats key.venueId =
      (of directory books stats key.venueId).withEntry key entry.2 := by
  rw [of, withEntry, of, VenueView.mk.injEq]
  refine ⟨?_, ?_, rfl, rfl, rfl⟩
  · funext stockLocate
    rw [hchange.findKey, Function.update_apply]
    by_cases hlocate : stockLocate = key.stockLocate
    · rw [if_pos hlocate, hlocate, if_pos rfl]
    · rw [if_neg hlocate, if_neg (fun heq => hlocate (congrArg InstrumentKey.stockLocate heq))]
  · funext symbol
    rw [hchange.instrumentsForSymbol, List.filter_append, newlyIndexed_filter, if_pos rfl]

theorem of_changesEntry_of_ne {entry : ErrorCode × Option InstrumentMetadata}
    {result : ErrorCode × InstrumentDirectory}
    (hchange : directory.ChangesEntry key entry result) (hother : venueId ≠ key.venueId)
    (books : MultiVenueBook) (stats : ItchReplayApplyStats) :
    of result.2 books stats venueId = of directory books stats venueId := by
  rw [of, of, VenueView.mk.injEq]
  refine ⟨?_, ?_, rfl, rfl, rfl⟩
  · funext stockLocate
    rw [hchange.findKey, if_neg (fun heq => hother (congrArg InstrumentKey.venueId heq))]
  · funext symbol
    rw [hchange.instrumentsForSymbol, List.filter_append, newlyIndexed_filter,
      if_neg (Ne.symm hother), List.append_nil]

theorem of_changesBook {entry : ErrorCode × Option SymbolOrderBook}
    {result : ErrorCode × MultiVenueBook} (hchange : books.ChangesBook key entry result)
    (directory : InstrumentDirectory) (stats : ItchReplayApplyStats) :
    of directory result.2 stats key.venueId =
      (of directory books stats key.venueId).withBook key entry.2 := by
  rw [of, withBook, of, VenueView.mk.injEq]
  refine ⟨rfl, rfl, hchange.containsVenue _, ?_, rfl⟩
  funext stockLocate
  rw [hchange.bookAt, Function.update_apply]
  by_cases hlocate : stockLocate = key.stockLocate
  · rw [if_pos hlocate, hlocate, if_pos rfl]
  · rw [if_neg hlocate, if_neg (fun heq => hlocate (congrArg InstrumentKey.stockLocate heq))]

theorem of_changesBook_of_ne {entry : ErrorCode × Option SymbolOrderBook}
    {result : ErrorCode × MultiVenueBook} (hchange : books.ChangesBook key entry result)
    (hother : venueId ≠ key.venueId) (directory : InstrumentDirectory)
    (stats : ItchReplayApplyStats) :
    of directory result.2 stats venueId = of directory books stats venueId := by
  rw [of, of, VenueView.mk.injEq]
  refine ⟨rfl, rfl, hchange.containsVenue _, ?_, rfl⟩
  funext stockLocate
  rw [hchange.bookAt, if_neg (fun heq => hother (congrArg InstrumentKey.venueId heq))]

end Of

end VenueView

/-! ## One message -/

namespace ItchReplayApplier

variable {applier : ItchReplayApplier}

/-- What an applier sees of its own venue. -/
def view (applier : ItchReplayApplier) : VenueView :=
  .of applier.directory applier.books applier.stats applier.venueId

theorem applyInstrument_react (applier : ItchReplayApplier) {stockLocate : Itch.StockLocate}
    {entry : ErrorCode × Option InstrumentMetadata} {result : ErrorCode × InstrumentDirectory}
    (hchange : applier.directory.ChangesEntry ⟨applier.venueId, stockLocate⟩ entry result) :
    (applier.applyInstrument result).1 =
        (applier.view.reactInstrument ⟨applier.venueId, stockLocate⟩ entry).1 ∧
      (applier.applyInstrument result).2.view =
        (applier.view.reactInstrument ⟨applier.venueId, stockLocate⟩ entry).2 := by
  refine ⟨hchange.code, ?_⟩
  rw [applyInstrument, hchange.code]
  exact VenueView.of_changesEntry hchange applier.books _

theorem applyBook_react (applier : ItchReplayApplier) (hkeyed : applier.directory.Keyed)
    (hrouted : applier.books.Routed) (message : Itch.Message) :
    (applier.applyBook message).1 =
        (applier.view.reactBook ⟨applier.venueId, message.header.stockLocate⟩ message).1 ∧
      (applier.applyBook message).2.view =
        (applier.view.reactBook ⟨applier.venueId, message.header.stockLocate⟩ message).2 := by
  have hchange := MultiVenueBook.apply_changesBook hrouted hkeyed applier.venueId message
  refine ⟨hchange.code, ?_⟩
  rw [applyBook, hchange.code]
  exact VenueView.of_changesBook hchange applier.directory _

theorem apply_react (applier : ItchReplayApplier) (hkeyed : applier.directory.Keyed)
    (hrouted : applier.books.Routed) (decodedMessage : DecodedItchMessage) :
    (applier.apply decodedMessage).1 =
        (applier.view.react (applier.venueId, decodedMessage)).1 ∧
      (applier.apply decodedMessage).2.view =
        (applier.view.react (applier.venueId, decodedMessage)).2 := by
  rcases decodedMessage with ⟨sequenceNumber, message⟩
  -- The sequence number is noted before the message is dispatched.
  let noted : ItchReplayApplier := { applier with
    stats := { applier.stats with
      hasLastSequenceNumber := true
      lastSequenceNumber := sequenceNumber } }
  cases message with
  | stockDirectory message =>
      exact noted.applyInstrument_react
        (noted.directory.applyStockDirectory_changesEntry noted.venueId message)
  | stockTradingAction message =>
      exact noted.applyInstrument_react
        (noted.directory.applyStockTradingAction_changesEntry noted.venueId message)
  | systemEvent message => exact ⟨rfl, rfl⟩
  | tradeNonCross message => exact ⟨rfl, rfl⟩
  | crossTrade message => exact ⟨rfl, rfl⟩
  | brokenTrade message => exact ⟨rfl, rfl⟩
  | _ => exact noted.applyBook_react hkeyed hrouted _

/-- Other venues see no change. -/
theorem apply_of_ne (hkeyed : applier.directory.Keyed) (hrouted : applier.books.Routed)
    (decodedMessage : DecodedItchMessage) {venueId : Venue.VenueId}
    (hother : venueId ≠ applier.venueId) (stats : ItchReplayApplyStats) :
    VenueView.of (applier.apply decodedMessage).2.directory (applier.apply decodedMessage).2.books
        stats venueId =
      VenueView.of applier.directory applier.books stats venueId := by
  rcases decodedMessage with ⟨sequenceNumber, message⟩
  cases hbook : VenueBook.affectsOrderBook message with
  | true =>
      have hcore := (applier.apply_bookMessage sequenceNumber hbook).2
      rw [core, Prod.mk.injEq, Prod.mk.injEq] at hcore
      rw [hcore.2.1, hcore.2.2]
      exact VenueView.of_changesBook_of_ne
        (MultiVenueBook.apply_changesBook hrouted hkeyed applier.venueId message) hother _ _
  | false =>
      cases message with
      | stockDirectory message =>
          exact VenueView.of_changesEntry_of_ne
            (applier.directory.applyStockDirectory_changesEntry applier.venueId message) hother _ _
      | stockTradingAction message =>
          exact VenueView.of_changesEntry_of_ne
            (applier.directory.applyStockTradingAction_changesEntry applier.venueId message)
            hother _ _
      | systemEvent message => rfl
      | tradeNonCross message => rfl
      | crossTrade message => rfl
      | brokenTrade message => rfl
      | _ => cases hbook

end ItchReplayApplier

/-! ## Interleaved feeds -/

namespace SharedReplay

def view (venueId : Venue.VenueId) (state : SharedReplay) : VenueView :=
  (state.applier venueId).view

theorem step_separated : Separated step code Prod.fst view VenueView.react where
  own := by
    rintro state ⟨venueId, decodedMessage⟩
    have hreact := ((state.applier venueId).apply_react state.market.keyed state.market.routed
      decodedMessage).2
    rw [ItchReplayApplier.view, ItchReplayApplier.apply_venueId] at hreact
    have hstats : (state.step (venueId, decodedMessage)).stats venueId =
        ((state.applier venueId).apply decodedMessage).2.stats := Function.update_self ..
    rw [view, ItchReplayApplier.view, applier, hstats]
    exact hreact
  others := by
    rintro state ⟨venueId, decodedMessage⟩ other hother
    have hstats : (state.step (venueId, decodedMessage)).stats other = state.stats other :=
      Function.update_of_ne hother ..
    rw [view, ItchReplayApplier.view, applier, hstats]
    exact ItchReplayApplier.apply_of_ne state.market.keyed state.market.routed decodedMessage
      hother (state.stats other)
  output := by
    rintro state ⟨venueId, decodedMessage⟩
    exact ((state.applier venueId).apply_react state.market.keyed state.market.routed
      decodedMessage).1

def run (state : SharedReplay) (inputs : List FeedMessage) : SharedReplay :=
  inputs.foldl step state

/-- The messages of one venue, in order. -/
def messagesOf (venueId : Venue.VenueId) (inputs : List FeedMessage) : List DecodedItchMessage :=
  (inputsOf Prod.fst venueId inputs).map Prod.snd

/-- The codes that the messages of one venue get, in order. -/
def codesOf (venueId : Venue.VenueId) (state : SharedReplay) (inputs : List FeedMessage) :
    List ErrorCode :=
  outputsOf step code Prod.fst venueId state inputs

/-- The feeds of two venues, interleaved. -/
structure Interleaves (first second : Venue.VenueId)
    (firstMessages secondMessages : List DecodedItchMessage) (inputs : List FeedMessage) :
    Prop where
  only : ∀ input ∈ inputs, input.1 = first ∨ input.1 = second
  first : messagesOf first inputs = firstMessages
  second : messagesOf second inputs = secondMessages

theorem inputsOf_eq_map (venueId : Venue.VenueId) (inputs : List FeedMessage) :
    inputsOf Prod.fst venueId inputs = (messagesOf venueId inputs).map (Prod.mk venueId) := by
  have hvenue : ∀ input ∈ inputsOf Prod.fst venueId inputs, (venueId, input.2) = input := by
    rintro ⟨other, message⟩ hmem
    have hother := (List.mem_filter.mp hmem).2
    rw [decide_eq_true_iff] at hother
    rw [← hother]
  rw [messagesOf, List.map_map]
  exact ((List.map_congr_left hvenue).trans (List.map_id _)).symm

section Interleavings

variable {first second : Venue.VenueId} {firstMessages secondMessages : List DecodedItchMessage}
  {inputs inputs' : List FeedMessage}

theorem Interleaves.inputsOf_eq
    (hinputs : Interleaves first second firstMessages secondMessages inputs)
    (hinputs' : Interleaves first second firstMessages secondMessages inputs')
    (venueId : Venue.VenueId) :
    inputsOf Prod.fst venueId inputs = inputsOf Prod.fst venueId inputs' := by
  by_cases hfirst : venueId = first
  · rw [inputsOf_eq_map, inputsOf_eq_map, hfirst, hinputs.first, hinputs'.first]
  by_cases hsecond : venueId = second
  · rw [inputsOf_eq_map, inputsOf_eq_map, hsecond, hinputs.second, hinputs'.second]
  -- No other venue has any messages.
  have hnone : ∀ {other : List FeedMessage},
      (∀ input ∈ other, input.1 = first ∨ input.1 = second) →
      inputsOf Prod.fst venueId other = [] := by
    intro other honly
    rw [inputsOf, List.filter_eq_nil_iff]
    intro input hmem hvenue
    rw [decide_eq_true_iff] at hvenue
    rcases honly input hmem with hof | hof
    · exact hfirst (hvenue.symm.trans hof)
    · exact hsecond (hvenue.symm.trans hof)
  rw [hnone hinputs.only, hnone hinputs'.only]

theorem market_agrees_of_view_eq {state other : SharedReplay}
    (hview : ∀ venueId, view venueId state = view venueId other) :
    (∀ key, state.market.directory.findKey key = other.market.directory.findKey key) ∧
      (∀ key, state.market.books.bookAt key = other.market.books.bookAt key) ∧
      ∀ symbol venueId,
        (state.market.directory.instrumentsForSymbol symbol).filter
            (fun key => key.venueId = venueId) =
          (other.market.directory.instrumentsForSymbol symbol).filter
            (fun key => key.venueId = venueId) := by
  refine ⟨?_, ?_, ?_⟩
  · rintro ⟨venueId, stockLocate⟩
    exact congrArg (fun view => view.entries stockLocate) (hview venueId)
  · rintro ⟨venueId, stockLocate⟩
    exact congrArg (fun view => view.books stockLocate) (hview venueId)
  · intro symbol venueId
    exact congrArg (fun view => view.indexed symbol) (hview venueId)

/-- How the feeds of two venues are interleaved changes nothing that either of them or a reader
of the quotes can see. -/
theorem interleavings_agree (state : SharedReplay)
    (hinputs : Interleaves first second firstMessages secondMessages inputs)
    (hinputs' : Interleaves first second firstMessages secondMessages inputs') :
    codesOf first state inputs = codesOf first state inputs' ∧
    codesOf second state inputs = codesOf second state inputs' ∧
    (∀ key, (state.run inputs).market.directory.findKey key =
      (state.run inputs').market.directory.findKey key) ∧
    (∀ key, (state.run inputs).market.bestBid key = (state.run inputs').market.bestBid key) ∧
    (∀ key, (state.run inputs).market.bestAsk key = (state.run inputs').market.bestAsk key) ∧
    (state.run inputs).stats first = (state.run inputs').stats first ∧
    (state.run inputs).stats second = (state.run inputs').stats second ∧
    (∀ symbol,
      NormalizedBboView.get (state.run inputs).market.books (state.run inputs).market.directory
          symbol =
        NormalizedBboView.get (state.run inputs').market.books
          (state.run inputs').market.directory symbol) := by
  have hsame := hinputs.inputsOf_eq hinputs'
  have hview : ∀ venueId, view venueId (state.run inputs) = view venueId (state.run inputs') :=
    fun venueId => step_separated.view_eq (hsame venueId) state
  rcases market_agrees_of_view_eq hview with ⟨hfind, hbooks, hindexed⟩
  have hbid : ∀ key,
      (state.run inputs).market.bestBid key = (state.run inputs').market.bestBid key := by
    intro key
    rw [Market.bestBid_eq, Market.bestBid_eq, hfind, hbooks]
  have hask : ∀ key,
      (state.run inputs).market.bestAsk key = (state.run inputs').market.bestAsk key := by
    intro key
    rw [Market.bestAsk_eq, Market.bestAsk_eq, hfind, hbooks]
  refine ⟨?_, ?_, hfind, hbid, hask, ?_, ?_, ?_⟩
  · exact step_separated.outputs_eq (hsame first) state
  · exact step_separated.outputs_eq (hsame second) state
  · exact congrArg VenueView.stats (hview first)
  · exact congrArg VenueView.stats (hview second)
  · intro symbol
    exact NormalizedBboView.get_eq_of_agree (hindexed symbol) hbid hask

end Interleavings

/-! Two venues list the same symbol and quote it alike.  The index keeps the order in
which they did, the best bid does not depend on it. -/

section Listings

open Wire

/-- A Stock Directory message for one symbol. -/
def listing (stockLocate : Itch.StockLocate) : DecodedItchMessage where
  sequenceNumber := 1
  message := .stockDirectory {
    header := ⟨stockLocate, 0, 0⟩
    stock := List.Vector.replicate 8 (asciiByte 'A')
    marketCategory := asciiByte 'Q'
    financialStatusIndicator := asciiByte 'N'
    roundLotSize := 100
    roundLotsOnly := asciiByte 'N'
    issueClassification := asciiByte 'C'
    issueSubType := List.Vector.replicate 2 (asciiByte 'Z')
    authenticity := asciiByte 'P'
    shortSaleThresholdIndicator := asciiByte 'N'
    ipoFlag := asciiByte 'N'
    luldReferencePriceTier := asciiByte '1'
    etpFlag := asciiByte 'N'
    etpLeverageFactor := 0
    inverseIndicator := asciiByte 'N' }

/-- A buy order in that symbol. -/
def buyOrder (stockLocate : Itch.StockLocate) : DecodedItchMessage where
  sequenceNumber := 2
  message := .addOrderNoMpid
    ⟨⟨stockLocate, 0, 0⟩, 5, .buy, 100, List.Vector.replicate 8 (asciiByte 'A'), 2500⟩

/-- Venues 1 and 2 with new appliers. -/
def twoVenues : SharedReplay where
  market := .of [.addVenue 1, .addVenue 2]
  stats _ := {}

def firstThenSecond : List FeedMessage :=
  [(1, listing 7), (1, buyOrder 7), (2, listing 9), (2, buyOrder 9)]

def secondThenFirst : List FeedMessage :=
  [(2, listing 9), (1, listing 7), (2, buyOrder 9), (1, buyOrder 7)]

theorem firstThenSecond_interleaves :
    Interleaves 1 2 [listing 7, buyOrder 7] [listing 9, buyOrder 9] firstThenSecond where
  only := by decide
  first := by decide
  second := by decide

theorem secondThenFirst_interleaves :
    Interleaves 1 2 [listing 7, buyOrder 7] [listing 9, buyOrder 9] secondThenFirst where
  only := by decide
  first := by decide
  second := by decide

theorem interleavings_agree_listings :
    let symbol : CanonicalSymbol := ⟨List.Vector.replicate 8 (asciiByte 'A')⟩
    let run := twoVenues.run firstThenSecond
    let run' := twoVenues.run secondThenFirst
    run.market.directory.instrumentsForSymbol symbol = [⟨1, 7⟩, ⟨2, 9⟩] ∧
    run'.market.directory.instrumentsForSymbol symbol = [⟨2, 9⟩, ⟨1, 7⟩] ∧
    (NormalizedBboView.get run.market.books run.market.directory symbol).bid =
      some ⟨⟨1, 7⟩, symbol, 2500, 100, 1⟩ ∧
    NormalizedBboView.get run.market.books run.market.directory symbol =
      NormalizedBboView.get run'.market.books run'.market.directory symbol := by
  intro symbol run run'
  refine ⟨by decide +kernel, by decide +kernel, by decide +kernel, ?_⟩
  exact (interleavings_agree twoVenues firstThenSecond_interleaves
    secondThenFirst_interleaves).2.2.2.2.2.2.2 symbol

end Listings

end SharedReplay

end Fgep.Replay
