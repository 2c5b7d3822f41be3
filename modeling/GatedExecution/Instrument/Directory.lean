import GatedExecution.Itch.Messages
import GatedExecution.Lib.TreeMapEntries

/-!
# Instruments and their directory

Instrument keys ({lit}`instrument/instrument_key.hpp`) and the directory that
Stock Directory and Stock Trading Action messages maintain
({lit}`instrument/instrument_directory.cpp`).  A hash map of the source is an
ordered map here; nothing reads its iteration order.

Main results:

- Theorem {lit}`InstrumentDirectory.applyStockDirectory_new`: a valid message for
  a new key registers the instrument.
- Theorem {lit}`InstrumentDirectory.applyStockDirectory_frame`: other keys keep
  their metadata.
- Theorems {lit}`InstrumentDirectory.applyStockDirectory_changesEntry` and
  {lit}`InstrumentDirectory.applyStockTradingAction_changesEntry`: a message changes
  the entry of its key, by that entry alone.
-/

namespace Fgep.Venue

abbrev VenueId := UInt16

abbrev invalidVenueId : VenueId := 0

def isValidVenueId (venueId : VenueId) : Bool :=
  venueId != invalidVenueId

end Fgep.Venue

namespace Fgep.Instrument

open Std Wire Itch TreeMapEntries

/-! ## Keys -/

structure InstrumentKey where
  venueId : Venue.VenueId
  stockLocate : StockLocate
deriving DecidableEq, Repr

/-- Keys in venue order, then locate order. -/
def InstrumentKey.compare (first second : InstrumentKey) : Ordering :=
  compareLex (compareOn InstrumentKey.venueId) (compareOn InstrumentKey.stockLocate)
    first second

instance : TransCmp InstrumentKey.compare :=
  inferInstanceAs (TransCmp
    (compareLex (compareOn InstrumentKey.venueId) (compareOn InstrumentKey.stockLocate)))

instance : LawfulEqCmp InstrumentKey.compare where
  eq_of_compare := by
    rintro ⟨venue, locate⟩ ⟨venue', locate'⟩ h
    simp only [InstrumentKey.compare, compareLex, compareOn, Ordering.then_eq_eq] at h
    rw [LawfulEqCmp.eq_of_compare h.1, LawfulEqCmp.eq_of_compare h.2]

/-- The venue-independent name of an instrument. -/
structure CanonicalSymbol where
  stock : StockSymbol
deriving DecidableEq

def CanonicalSymbol.compare (first second : CanonicalSymbol) : Ordering :=
  Ord.compare first.stock.toList second.stock.toList

instance : TransCmp CanonicalSymbol.compare :=
  inferInstanceAs (TransCmp (compareOn (fun symbol : CanonicalSymbol => symbol.stock.toList)))

instance : LawfulEqCmp CanonicalSymbol.compare where
  eq_of_compare := by
    rintro ⟨first⟩ ⟨second⟩ h
    rw [List.Vector.eq first second (LawfulEqCmp.eq_of_compare h)]

def isValidInstrumentKey (key : InstrumentKey) : Bool :=
  Venue.isValidVenueId key.venueId && isValidStockLocate key.stockLocate

/-! ## The directory -/

inductive SymbolTradingStatus where
  | unknown
  | halted
  | paused
  | quotationOnly
  | trading
deriving DecidableEq, Repr

structure InstrumentMetadata where
  key : InstrumentKey
  stock : StockSymbol
  marketCategory : UInt8
  financialStatusIndicator : UInt8
  roundLotSize : RoundLotSize
  roundLotsOnly : UInt8
  issueClassification : UInt8
  issueSubType : IssueSubType
  authenticity : UInt8
  shortSaleThresholdIndicator : UInt8
  ipoFlag : UInt8
  luldReferencePriceTier : UInt8
  etpFlag : UInt8
  etpLeverageFactor : EtpLeverageFactor
  inverseIndicator : UInt8
  tradingStatus : SymbolTradingStatus
  lastTradingActionReason : ReasonCode4
deriving DecidableEq

structure InstrumentDirectory where
  instruments : ExtTreeMap InstrumentKey InstrumentMetadata InstrumentKey.compare
  symbolIndex : ExtTreeMap CanonicalSymbol (List InstrumentKey) CanonicalSymbol.compare

namespace InstrumentDirectory

def empty : InstrumentDirectory := ⟨∅, ∅⟩

def toSymbolTradingStatus : TradingState → SymbolTradingStatus
  | .halted => .halted
  | .paused => .paused
  | .quotationOnly => .quotationOnly
  | .trading => .trading

def canonicalSymbolFromStock (stock : StockSymbol) : CanonicalSymbol := ⟨stock⟩

/-- The fields that a Stock Directory message updates; status and reason stay. -/
def withDirectoryFields (metadata : InstrumentMetadata) (message : StockDirectoryMessage) :
    InstrumentMetadata :=
  { metadata with
    marketCategory := message.marketCategory
    financialStatusIndicator := message.financialStatusIndicator
    roundLotSize := message.roundLotSize
    roundLotsOnly := message.roundLotsOnly
    issueClassification := message.issueClassification
    issueSubType := message.issueSubType
    authenticity := message.authenticity
    shortSaleThresholdIndicator := message.shortSaleThresholdIndicator
    ipoFlag := message.ipoFlag
    luldReferencePriceTier := message.luldReferencePriceTier
    etpFlag := message.etpFlag
    etpLeverageFactor := message.etpLeverageFactor
    inverseIndicator := message.inverseIndicator }

/-- Default-constructed metadata. -/
def freshMetadata : InstrumentMetadata where
  key := ⟨0, 0⟩
  stock := List.Vector.replicate 8 0
  marketCategory := asciiByte ' '
  financialStatusIndicator := asciiByte ' '
  roundLotSize := 0
  roundLotsOnly := asciiByte 'N'
  issueClassification := asciiByte ' '
  issueSubType := List.Vector.replicate 2 0
  authenticity := asciiByte ' '
  shortSaleThresholdIndicator := asciiByte ' '
  ipoFlag := asciiByte ' '
  luldReferencePriceTier := asciiByte ' '
  etpFlag := asciiByte ' '
  etpLeverageFactor := 0
  inverseIndicator := asciiByte ' '
  tradingStatus := .unknown
  lastTradingActionReason := List.Vector.replicate 4 0

/-- The metadata of a new key.  The source lists the fields a second time here, apart from
those of an update. -/
def insertedMetadata (key : InstrumentKey) (message : StockDirectoryMessage) :
    InstrumentMetadata :=
  { freshMetadata with
    key := key
    stock := message.stock
    marketCategory := message.marketCategory
    financialStatusIndicator := message.financialStatusIndicator
    roundLotSize := message.roundLotSize
    roundLotsOnly := message.roundLotsOnly
    issueClassification := message.issueClassification
    issueSubType := message.issueSubType
    authenticity := message.authenticity
    shortSaleThresholdIndicator := message.shortSaleThresholdIndicator
    ipoFlag := message.ipoFlag
    luldReferencePriceTier := message.luldReferencePriceTier
    etpFlag := message.etpFlag
    etpLeverageFactor := message.etpLeverageFactor
    inverseIndicator := message.inverseIndicator }

def applyStockDirectory (directory : InstrumentDirectory) (venueId : Venue.VenueId)
    (message : StockDirectoryMessage) : ErrorCode × InstrumentDirectory :=
  if !Venue.isValidVenueId venueId then (.invalidArgument, directory)
  else if !isValidStockDirectoryMessage message then (.invalidArgument, directory)
  else
    let key : InstrumentKey := ⟨venueId, message.header.stockLocate⟩
    let canonicalSymbol := canonicalSymbolFromStock message.stock
    match directory.instruments[key]? with
    | some existing =>
        if existing.stock ≠ message.stock then (.invalidState, directory)
        else
          (.ok, { directory with
            instruments :=
              directory.instruments.insert key (withDirectoryFields existing message) })
    | none =>
        let metadata := insertedMetadata key message
        (.ok, {
          instruments := directory.instruments.insert key metadata
          symbolIndex := directory.symbolIndex.insert canonicalSymbol
            (directory.symbolIndex.getD canonicalSymbol [] ++ [key]) })

def applyStockTradingAction (directory : InstrumentDirectory) (venueId : Venue.VenueId)
    (message : StockTradingActionMessage) : ErrorCode × InstrumentDirectory :=
  if !Venue.isValidVenueId venueId then (.invalidArgument, directory)
  else if !isValidStockTradingActionMessage message then (.invalidArgument, directory)
  else
    let key : InstrumentKey := ⟨venueId, message.header.stockLocate⟩
    match directory.instruments[key]? with
    | none => (.notFound, directory)
    | some existing =>
        if existing.stock ≠ message.stock then (.invalidState, directory)
        else
          (.ok, { directory with
            instruments := directory.instruments.insert key { existing with
              tradingStatus := toSymbolTradingStatus message.tradingState
              lastTradingActionReason := message.reason } })

def find (directory : InstrumentDirectory) (venueId : Venue.VenueId)
    (stockLocate : StockLocate) : Option InstrumentMetadata :=
  directory.instruments[(⟨venueId, stockLocate⟩ : InstrumentKey)]?

/-- The overload of {lit}`find` that takes a key. -/
def findKey (directory : InstrumentDirectory) (key : InstrumentKey) :
    Option InstrumentMetadata :=
  directory.instruments[key]?

def contains (directory : InstrumentDirectory) (key : InstrumentKey) : Bool :=
  (directory.findKey key).isSome

def instrumentsForSymbol (directory : InstrumentDirectory) (symbol : CanonicalSymbol) :
    List InstrumentKey :=
  directory.symbolIndex.getD symbol []

/-! ## One entry at a time -/

/-- What a Stock Directory message makes of the entry of its key. -/
def stockDirectoryEntry (venueId : Venue.VenueId) (message : StockDirectoryMessage)
    (existing : Option InstrumentMetadata) : ErrorCode × Option InstrumentMetadata :=
  if !Venue.isValidVenueId venueId then (.invalidArgument, existing)
  else if !isValidStockDirectoryMessage message then (.invalidArgument, existing)
  else
    match existing with
    | some metadata =>
        if metadata.stock ≠ message.stock then (.invalidState, some metadata)
        else (.ok, some (withDirectoryFields metadata message))
    | none =>
        (.ok, some (insertedMetadata ⟨venueId, message.header.stockLocate⟩ message))

/-- What a Stock Trading Action message makes of the entry of its key. -/
def stockTradingActionEntry (venueId : Venue.VenueId) (message : StockTradingActionMessage)
    (existing : Option InstrumentMetadata) : ErrorCode × Option InstrumentMetadata :=
  if !Venue.isValidVenueId venueId then (.invalidArgument, existing)
  else if !isValidStockTradingActionMessage message then (.invalidArgument, existing)
  else
    match existing with
    | none => (.notFound, none)
    | some metadata =>
        if metadata.stock ≠ message.stock then (.invalidState, some metadata)
        else
          (.ok, some { metadata with
            tradingStatus := toSymbolTradingStatus message.tradingState
            lastTradingActionReason := message.reason })

/-- The keys that a symbol gains when an entry changes. -/
def newlyIndexed (key : InstrumentKey) (before after : Option InstrumentMetadata)
    (symbol : CanonicalSymbol) : List InstrumentKey :=
  match before, after with
  | none, some metadata => if canonicalSymbolFromStock metadata.stock = symbol then [key] else []
  | _, _ => []

/-- The result of a call that makes something of one entry. -/
structure ChangesEntry (directory : InstrumentDirectory) (key : InstrumentKey)
    (entry : ErrorCode × Option InstrumentMetadata)
    (result : ErrorCode × InstrumentDirectory) : Prop where
  code : result.1 = entry.1
  findKey : ∀ other,
    result.2.findKey other = if other = key then entry.2 else directory.findKey other
  instrumentsForSymbol : ∀ symbol, result.2.instrumentsForSymbol symbol =
    directory.instrumentsForSymbol symbol ++
      newlyIndexed key (directory.findKey key) entry.2 symbol

section Entries

variable {directory : InstrumentDirectory} {key : InstrumentKey}

theorem newlyIndexed_self (key : InstrumentKey) (entry : Option InstrumentMetadata)
    (symbol : CanonicalSymbol) : newlyIndexed key entry entry symbol = [] := by
  cases entry <;> rfl

theorem changesEntry_unchanged {existing : Option InstrumentMetadata}
    (hexisting : directory.findKey key = existing) (code : ErrorCode) :
    ChangesEntry directory key (code, existing) (code, directory) where
  code := rfl
  findKey other := (ite_eq_right_iff.mpr (fun heq => by rw [heq, hexisting])).symm
  instrumentsForSymbol symbol := by
    rw [hexisting, newlyIndexed_self, List.append_nil]

theorem changesEntry_updated {existing : InstrumentMetadata}
    (hexisting : directory.findKey key = some existing) (metadata : InstrumentMetadata)
    (code : ErrorCode) :
    ChangesEntry directory key (code, some metadata)
      (code, { directory with instruments := directory.instruments.insert key metadata }) where
  code := rfl
  findKey other := by
    rw [InstrumentDirectory.findKey, getElem?_insert_eq_ite]
    simp only [eq_comm]
    rfl
  instrumentsForSymbol symbol := by
    rw [hexisting]
    exact (List.append_nil _).symm

theorem changesEntry_registered (hnew : directory.findKey key = none)
    (metadata : InstrumentMetadata) (code : ErrorCode) :
    ChangesEntry directory key (code, some metadata)
      (code, {
        instruments := directory.instruments.insert key metadata
        symbolIndex := directory.symbolIndex.insert (canonicalSymbolFromStock metadata.stock)
          (directory.symbolIndex.getD (canonicalSymbolFromStock metadata.stock) [] ++
            [key]) }) where
  code := rfl
  findKey other := by
    rw [InstrumentDirectory.findKey, getElem?_insert_eq_ite]
    simp only [eq_comm]
    rfl
  instrumentsForSymbol symbol := by
    rw [hnew, newlyIndexed, InstrumentDirectory.instrumentsForSymbol,
      InstrumentDirectory.instrumentsForSymbol, ExtTreeMap.getD_insert]
    simp only [LawfulEqCmp.compare_eq_iff_eq]
    split
    · rename_i hsymbol
      rw [hsymbol]
    · rw [List.append_nil]

end Entries

theorem applyStockDirectory_changesEntry (directory : InstrumentDirectory)
    (venueId : Venue.VenueId) (message : StockDirectoryMessage) :
    ChangesEntry directory ⟨venueId, message.header.stockLocate⟩
      (stockDirectoryEntry venueId message
        (directory.findKey ⟨venueId, message.header.stockLocate⟩))
      (directory.applyStockDirectory venueId message) := by
  unfold applyStockDirectory stockDirectoryEntry
  split
  · exact changesEntry_unchanged rfl _
  split
  · exact changesEntry_unchanged rfl _
  cases hentry : directory.findKey ⟨venueId, message.header.stockLocate⟩ with
  | none =>
      rw [findKey] at hentry
      simp only [hentry]
      exact changesEntry_registered hentry (insertedMetadata _ message) .ok
  | some metadata =>
      rw [findKey] at hentry
      simp only [hentry]
      split
      · exact changesEntry_unchanged hentry _
      · exact changesEntry_updated hentry _ _

theorem applyStockTradingAction_changesEntry (directory : InstrumentDirectory)
    (venueId : Venue.VenueId) (message : StockTradingActionMessage) :
    ChangesEntry directory ⟨venueId, message.header.stockLocate⟩
      (stockTradingActionEntry venueId message
        (directory.findKey ⟨venueId, message.header.stockLocate⟩))
      (directory.applyStockTradingAction venueId message) := by
  unfold applyStockTradingAction stockTradingActionEntry
  split
  · exact changesEntry_unchanged rfl _
  split
  · exact changesEntry_unchanged rfl _
  cases hentry : directory.findKey ⟨venueId, message.header.stockLocate⟩ with
  | none =>
      rw [findKey] at hentry
      simp only [hentry]
      exact changesEntry_unchanged hentry _
  | some metadata =>
      rw [findKey] at hentry
      simp only [hentry]
      split
      · exact changesEntry_unchanged hentry _
      · exact changesEntry_updated hentry _ _

/-! ## Specifications -/

/-- A valid message for a key that is not registered yet registers it. -/
theorem applyStockDirectory_new {directory : InstrumentDirectory} {venueId : Venue.VenueId}
    {message : StockDirectoryMessage} (hvenue : Venue.isValidVenueId venueId = true)
    (hvalid : isValidStockDirectoryMessage message = true)
    (hnew : directory.find venueId message.header.stockLocate = none) :
    (directory.applyStockDirectory venueId message).1 = .ok ∧
      (directory.applyStockDirectory venueId message).2.find venueId
          message.header.stockLocate =
        some (insertedMetadata ⟨venueId, message.header.stockLocate⟩ message) := by
  have hchange := directory.applyStockDirectory_changesEntry venueId message
  have hentry : stockDirectoryEntry venueId message none =
      (.ok, some (insertedMetadata ⟨venueId, message.header.stockLocate⟩ message)) := by
    simp [stockDirectoryEntry, hvenue, hvalid]
  change directory.findKey ⟨venueId, message.header.stockLocate⟩ = none at hnew
  rw [hnew, hentry] at hchange
  exact ⟨hchange.code, (hchange.findKey _).trans (if_pos rfl)⟩

/-- A message leaves the metadata of every other locate alone. -/
theorem applyStockDirectory_frame {directory : InstrumentDirectory} {venueId : Venue.VenueId}
    {message : StockDirectoryMessage} {stockLocate : StockLocate}
    (hother : stockLocate ≠ message.header.stockLocate) :
    (directory.applyStockDirectory venueId message).2.find venueId stockLocate =
      directory.find venueId stockLocate := by
  have hchange := directory.applyStockDirectory_changesEntry venueId message
  refine (hchange.findKey ⟨venueId, stockLocate⟩).trans (if_neg ?_)
  intro heq
  exact hother (congrArg InstrumentKey.stockLocate heq)

/-! ## Keys and stocks stay -/

/-- A registered entry keeps its key and its stock; a new one has those of the message
that registers it. -/
inductive EntryStep (key : InstrumentKey) (stock : StockSymbol) :
    Option InstrumentMetadata → Option InstrumentMetadata → Prop where
  | none : EntryStep key stock none none
  | registered (metadata : InstrumentMetadata) (hkey : metadata.key = key)
      (hstock : metadata.stock = stock) : EntryStep key stock none (some metadata)
  | kept (before after : InstrumentMetadata) (hkey : after.key = before.key)
      (hstock : after.stock = before.stock) : EntryStep key stock (some before) (some after)

theorem EntryStep.refl {key : InstrumentKey} {stock : StockSymbol}
    (entry : Option InstrumentMetadata) : EntryStep key stock entry entry := by
  cases entry with
  | none => exact .none
  | some metadata => exact .kept metadata metadata rfl rfl

theorem EntryStep.stock_kept {key : InstrumentKey} {stock : StockSymbol}
    {before : InstrumentMetadata} {after : Option InstrumentMetadata}
    (hstep : EntryStep key stock (some before) after) :
    ∃ metadata, after = some metadata ∧ metadata.stock = before.stock := by
  cases hstep with
  | kept _ metadata _ hstock => exact ⟨metadata, rfl, hstock⟩

theorem stockDirectoryEntry_entryStep (venueId : Venue.VenueId)
    (message : StockDirectoryMessage) (existing : Option InstrumentMetadata) :
    EntryStep ⟨venueId, message.header.stockLocate⟩ message.stock existing
      (stockDirectoryEntry venueId message existing).2 := by
  unfold stockDirectoryEntry
  split
  · exact .refl existing
  split
  · exact .refl existing
  cases existing with
  | none => exact .registered _ rfl rfl
  | some metadata =>
      dsimp only
      split
      · exact .refl _
      · exact .kept _ _ rfl rfl

theorem stockTradingActionEntry_entryStep (venueId : Venue.VenueId)
    (message : StockTradingActionMessage) (existing : Option InstrumentMetadata) :
    EntryStep ⟨venueId, message.header.stockLocate⟩ message.stock existing
      (stockTradingActionEntry venueId message existing).2 := by
  unfold stockTradingActionEntry
  split
  · exact .refl existing
  split
  · exact .refl existing
  cases existing with
  | none => exact .none
  | some metadata =>
      dsimp only
      split
      · exact .refl _
      · exact .kept _ _ rfl rfl

theorem stockTradingActionEntry_none (venueId : Venue.VenueId)
    (message : StockTradingActionMessage) :
    (stockTradingActionEntry venueId message none).2 = none := by
  unfold stockTradingActionEntry
  split
  · rfl
  split <;> rfl

/-- Every entry is stored under its own key. -/
def Keyed (directory : InstrumentDirectory) : Prop :=
  ∀ key metadata, directory.findKey key = some metadata → metadata.key = key

theorem empty_keyed : empty.Keyed := by
  intro key metadata hfind
  rw [findKey, empty, ExtTreeMap.getElem?_empty] at hfind
  exact absurd hfind nofun

section Keyed

variable {directory : InstrumentDirectory} {key : InstrumentKey} {stock : StockSymbol}
  {entry : ErrorCode × Option InstrumentMetadata} {result : ErrorCode × InstrumentDirectory}

theorem ChangesEntry.entryStep (hchange : ChangesEntry directory key entry result)
    (hentry : EntryStep key stock (directory.findKey key) entry.2) (other : InstrumentKey) :
    EntryStep other stock (directory.findKey other) (result.2.findKey other) := by
  rw [hchange.findKey]
  split
  · rename_i hother
    rw [hother]
    exact hentry
  · exact .refl _

theorem ChangesEntry.keyed (hchange : ChangesEntry directory key entry result)
    (hentry : EntryStep key stock (directory.findKey key) entry.2) (hkeyed : directory.Keyed) :
    result.2.Keyed := by
  intro other metadata hfind
  have hstep := hchange.entryStep hentry other
  rw [hfind] at hstep
  generalize hbefore : directory.findKey other = before at hstep
  cases hstep with
  | registered _ hkey _ => exact hkey
  | kept before _ hkey _ => exact hkey.trans (hkeyed other before hbefore)

end Keyed

end InstrumentDirectory

end Fgep.Instrument
