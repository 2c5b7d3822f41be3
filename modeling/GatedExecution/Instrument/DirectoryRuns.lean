import GatedExecution.Instrument.Directory
import GatedExecution.Lib.Histories
import GatedExecution.Lib.Runs

/-!
# Histories of the instrument directory

What holds of the directory after any sequence of calls of the two overloads of
{lit}`InstrumentDirectory::apply`, accepted or refused.  A call touches the entry of its
key only, and {lit}`EntryEffect` lists what it can do there; the index of symbols and the
contents of every entry follow from that list by induction over the calls.

Main results:

- Theorem {lit}`InstrumentDirectory.directory_invariants`: map and index agree, keys
  are unique and valid, stocks stay, refused calls change nothing.
- Theorem {lit}`InstrumentDirectory.find_eq_last_writes`: an entry holds what the last
  accepted messages of its key wrote.
-/

namespace Fgep.Instrument

open Std Wire Itch Runs Histories

/-- A call of one of the overloads of {lit}`apply`. -/
inductive DirectoryCall where
  | stockDirectory (venueId : Venue.VenueId) (message : StockDirectoryMessage)
  | stockTradingAction (venueId : Venue.VenueId) (message : StockTradingActionMessage)

namespace DirectoryCall

def key : DirectoryCall → InstrumentKey
  | stockDirectory venueId message => ⟨venueId, message.header.stockLocate⟩
  | stockTradingAction venueId message => ⟨venueId, message.header.stockLocate⟩

def stock : DirectoryCall → StockSymbol
  | stockDirectory _ message => message.stock
  | stockTradingAction _ message => message.stock

/-- The checks that are made before the directory is looked at. -/
def isValid : DirectoryCall → Bool
  | stockDirectory venueId message =>
      Venue.isValidVenueId venueId && isValidStockDirectoryMessage message
  | stockTradingAction venueId message =>
      Venue.isValidVenueId venueId && isValidStockTradingActionMessage message

/-- What the call makes of the entry of its key. -/
def entry (call : DirectoryCall) (existing : Option InstrumentMetadata) :
    ErrorCode × Option InstrumentMetadata :=
  match call with
  | stockDirectory venueId message =>
      InstrumentDirectory.stockDirectoryEntry venueId message existing
  | stockTradingAction venueId message =>
      InstrumentDirectory.stockTradingActionEntry venueId message existing

/-- The stock of the call is that of the entry of its key.  Only a Stock Directory message
may find no entry. -/
def fits (call : DirectoryCall) (existing : Option InstrumentMetadata) : Bool :=
  match call with
  | stockDirectory _ message => existing.all (fun metadata => metadata.stock = message.stock)
  | stockTradingAction _ message => existing.any (fun metadata => metadata.stock = message.stock)

/-- The Stock Directory message of a call for a key. -/
def directoryMessage? (key : InstrumentKey) : DirectoryCall → Option StockDirectoryMessage
  | stockDirectory venueId message =>
      if (⟨venueId, message.header.stockLocate⟩ : InstrumentKey) = key then some message
      else none
  | stockTradingAction _ _ => none

/-- The Stock Trading Action message of a call for a key. -/
def tradingAction? (key : InstrumentKey) : DirectoryCall → Option StockTradingActionMessage
  | stockDirectory _ _ => none
  | stockTradingAction venueId message =>
      if (⟨venueId, message.header.stockLocate⟩ : InstrumentKey) = key then some message
      else none

theorem directoryMessage?_of_ne {key : InstrumentKey} {call : DirectoryCall}
    (hother : call.key ≠ key) : call.directoryMessage? key = none := by
  cases call with
  | stockDirectory venueId message => exact if_neg hother
  | stockTradingAction venueId message => rfl

theorem tradingAction?_of_ne {key : InstrumentKey} {call : DirectoryCall}
    (hother : call.key ≠ key) : call.tradingAction? key = none := by
  cases call with
  | stockDirectory venueId message => rfl
  | stockTradingAction venueId message => exact if_neg hother

end DirectoryCall

namespace InstrumentDirectory

def applyCall (directory : InstrumentDirectory) :
    DirectoryCall → ErrorCode × InstrumentDirectory
  | .stockDirectory venueId message => directory.applyStockDirectory venueId message
  | .stockTradingAction venueId message => directory.applyStockTradingAction venueId message

def applyCalls (directory : InstrumentDirectory) (calls : List DirectoryCall) :
    InstrumentDirectory :=
  calls.foldl (fun directory call => (directory.applyCall call).2) directory

theorem applyCalls_concat (directory : InstrumentDirectory) (calls : List DirectoryCall)
    (call : DirectoryCall) :
    directory.applyCalls (calls ++ [call]) = ((directory.applyCalls calls).applyCall call).2 := by
  rw [applyCalls, List.foldl_append]
  rfl

theorem applyCall_changesEntry (directory : InstrumentDirectory) (call : DirectoryCall) :
    ChangesEntry directory call.key (call.entry (directory.findKey call.key))
      (directory.applyCall call) := by
  cases call with
  | stockDirectory venueId message =>
      exact directory.applyStockDirectory_changesEntry venueId message
  | stockTradingAction venueId message =>
      exact directory.applyStockTradingAction_changesEntry venueId message

/-- What a refused call must leave of the directory it was made on. -/
def KeptIfRefused (directory : InstrumentDirectory)
    (result : ErrorCode × InstrumentDirectory) : Prop :=
  result.1 ≠ .ok → result.2 = directory

theorem keptIfRefused_unchanged (directory : InstrumentDirectory) (code : ErrorCode) :
    KeptIfRefused directory (code, directory) :=
  fun _ => rfl

theorem keptIfRefused_ok (directory result : InstrumentDirectory) :
    KeptIfRefused directory (.ok, result) :=
  fun hrefused => absurd rfl hrefused

theorem applyCall_keptIfRefused (directory : InstrumentDirectory) (call : DirectoryCall) :
    KeptIfRefused directory (directory.applyCall call) := by
  cases call with
  | stockDirectory venueId message =>
      rw [applyCall, applyStockDirectory]
      split
      · exact keptIfRefused_unchanged _ _
      split
      · exact keptIfRefused_unchanged _ _
      dsimp only
      split
      · split
        · exact keptIfRefused_unchanged _ _
        · exact keptIfRefused_ok _ _
      · exact keptIfRefused_ok _ _
  | stockTradingAction venueId message =>
      rw [applyCall, applyStockTradingAction]
      split
      · exact keptIfRefused_unchanged _ _
      split
      · exact keptIfRefused_unchanged _ _
      dsimp only
      split
      · exact keptIfRefused_unchanged _ _
      split
      · exact keptIfRefused_unchanged _ _
      · exact keptIfRefused_ok _ _

/-! ## What a call can do to its entry -/

/-- The fields a Stock Trading Action message sets. -/
def withTradingAction (metadata : InstrumentMetadata) (message : StockTradingActionMessage) :
    InstrumentMetadata :=
  { metadata with
    tradingStatus := toSymbolTradingStatus message.tradingState
    lastTradingActionReason := message.reason }

/-- The effects of a call on the entry of its key. -/
inductive EntryEffect : DirectoryCall → Option InstrumentMetadata →
    ErrorCode × Option InstrumentMetadata → Prop where
  | refused (call : DirectoryCall) (existing : Option InstrumentMetadata) (code : ErrorCode)
      (hcode : code ≠ .ok) : EntryEffect call existing (code, existing)
  | inserted (venueId : Venue.VenueId) (message : StockDirectoryMessage)
      (hkey : isValidInstrumentKey ⟨venueId, message.header.stockLocate⟩ = true) :
      EntryEffect (.stockDirectory venueId message) none
        (.ok, some (insertedMetadata ⟨venueId, message.header.stockLocate⟩ message))
  | updated (venueId : Venue.VenueId) (message : StockDirectoryMessage)
      (metadata : InstrumentMetadata) (hstock : metadata.stock = message.stock) :
      EntryEffect (.stockDirectory venueId message) (some metadata)
        (.ok, some (withDirectoryFields metadata message))
  | acted (venueId : Venue.VenueId) (message : StockTradingActionMessage)
      (metadata : InstrumentMetadata) (hstock : metadata.stock = message.stock) :
      EntryEffect (.stockTradingAction venueId message) (some metadata)
        (.ok, some (withTradingAction metadata message))

theorem isValidInstrumentKey_of_message {venueId : Venue.VenueId}
    {message : StockDirectoryMessage} (hvenue : Venue.isValidVenueId venueId = true)
    (hvalid : isValidStockDirectoryMessage message = true) :
    isValidInstrumentKey ⟨venueId, message.header.stockLocate⟩ = true := by
  simp only [isValidStockDirectoryMessage, isValidHeaderForStockMessage, Bool.and_eq_true]
    at hvalid
  rw [isValidInstrumentKey, hvenue, Bool.true_and]
  grind

theorem entry_effect (call : DirectoryCall) (existing : Option InstrumentMetadata) :
    EntryEffect call existing (call.entry existing) := by
  cases call with
  | stockDirectory venueId message =>
      rw [DirectoryCall.entry]
      unfold stockDirectoryEntry
      split
      · exact .refused _ _ _ (fun h => by cases h)
      split
      · exact .refused _ _ _ (fun h => by cases h)
      rename_i hvenue hvalid
      rw [Bool.not_eq_true, Bool.not_eq_false'] at hvenue hvalid
      cases existing with
      | none => exact .inserted venueId message (isValidInstrumentKey_of_message hvenue hvalid)
      | some metadata =>
          dsimp only
          split
          · exact .refused _ _ _ (fun h => by cases h)
          · rename_i hstock
            exact .updated venueId message metadata (not_not.mp hstock)
  | stockTradingAction venueId message =>
      rw [DirectoryCall.entry]
      unfold stockTradingActionEntry
      split
      · exact .refused _ _ _ (fun h => by cases h)
      split
      · exact .refused _ _ _ (fun h => by cases h)
      cases existing with
      | none => exact .refused _ _ _ (fun h => by cases h)
      | some metadata =>
          dsimp only
          split
          · exact .refused _ _ _ (fun h => by cases h)
          · rename_i hstock
            exact .acted venueId message metadata (not_not.mp hstock)

/-! ## Map and index -/

/-- The key and the stock that an entry is stored with. -/
def identityOf (directory : InstrumentDirectory) (key : InstrumentKey) :
    Option (InstrumentKey × StockSymbol) :=
  (directory.findKey key).map (fun metadata => (metadata.key, metadata.stock))

/-- The index lists the stored keys, each once and under its stock; stored keys are
valid and are those of their metadata. -/
structure Indexed (directory : InstrumentDirectory) : Prop where
  mem_iff : ∀ key symbol, key ∈ directory.instrumentsForSymbol symbol ↔
    directory.identityOf key = some (key, symbol.stock)
  nodup : ∀ symbol, (directory.instrumentsForSymbol symbol).Nodup
  keyed : ∀ key identity, directory.identityOf key = some identity →
    identity.1 = key ∧ isValidInstrumentKey key = true

theorem empty_indexed : empty.Indexed := by
  have hidentity : ∀ key, empty.identityOf key = none := by
    intro key
    rw [identityOf, findKey, empty, ExtTreeMap.getElem?_empty, Option.map_none]
  have hlist : ∀ symbol, empty.instrumentsForSymbol symbol = [] := by
    intro symbol
    rw [instrumentsForSymbol, empty, ExtTreeMap.getD_empty]
  refine ⟨fun key symbol => ?_, fun symbol => ?_, fun key identity hfound => ?_⟩
  · simp [hidentity, hlist]
  · rw [hlist]
    exact List.nodup_nil
  · rw [hidentity] at hfound
    cases hfound

section Step

variable {directory : InstrumentDirectory} {call : DirectoryCall}

/-- A call either leaves identities and lists alone or registers its key. -/
theorem applyCall_identityOf (directory : InstrumentDirectory) (call : DirectoryCall) :
    ((∀ key, (directory.applyCall call).2.identityOf key = directory.identityOf key) ∧
        ∀ symbol, (directory.applyCall call).2.instrumentsForSymbol symbol =
          directory.instrumentsForSymbol symbol) ∨
      ∃ stock, directory.identityOf call.key = none ∧
        isValidInstrumentKey call.key = true ∧
        (∀ key, (directory.applyCall call).2.identityOf key =
          if key = call.key then some (call.key, stock) else directory.identityOf key) ∧
        ∀ symbol, (directory.applyCall call).2.instrumentsForSymbol symbol =
          directory.instrumentsForSymbol symbol ++
            if canonicalSymbolFromStock stock = symbol then [call.key] else [] := by
  have hchange := directory.applyCall_changesEntry call
  have heffect := entry_effect call (directory.findKey call.key)
  generalize hexisting : directory.findKey call.key = existing at hchange heffect
  generalize call.entry existing = entry at hchange heffect
  -- An entry that keeps key and stock keeps every identity.
  have hkept : entry.2.map (fun metadata => (metadata.key, metadata.stock)) =
      existing.map (fun metadata => (metadata.key, metadata.stock)) →
      ∀ key, (directory.applyCall call).2.identityOf key = directory.identityOf key := by
    intro hsame key
    rw [identityOf, hchange.findKey]
    split
    · rename_i heq
      rw [hsame, identityOf, heq, hexisting]
    · rfl
  cases heffect with
  | refused _ _ code hcode =>
      refine Or.inl ⟨hkept rfl, fun symbol => ?_⟩
      rw [hchange.instrumentsForSymbol, hexisting, newlyIndexed_self, List.append_nil]
  | inserted venueId message hkey =>
      refine Or.inr ⟨message.stock, ?_, hkey, fun key => ?_, fun symbol => ?_⟩
      · rw [identityOf, hexisting, Option.map_none]
      · rw [identityOf, hchange.findKey]
        split <;> rfl
      · rw [hchange.instrumentsForSymbol, hexisting]
        rfl
  | updated venueId message metadata hstock =>
      refine Or.inl ⟨hkept rfl, fun symbol => ?_⟩
      rw [hchange.instrumentsForSymbol, hexisting]
      exact List.append_nil _
  | acted venueId message metadata hstock =>
      refine Or.inl ⟨hkept rfl, fun symbol => ?_⟩
      rw [hchange.instrumentsForSymbol, hexisting]
      exact List.append_nil _

theorem Indexed.applyCall (hindexed : directory.Indexed) (call : DirectoryCall) :
    (directory.applyCall call).2.Indexed := by
  rcases directory.applyCall_identityOf call with
    ⟨hidentity, hlist⟩ | ⟨stock, hnew, hvalid, hidentity, hlist⟩
  · refine ⟨fun key symbol => ?_, fun symbol => ?_, fun key identity hfound => ?_⟩
    · rw [hlist, hidentity]
      exact hindexed.mem_iff key symbol
    · rw [hlist]
      exact hindexed.nodup symbol
    · rw [hidentity] at hfound
      exact hindexed.keyed key identity hfound
  have habsent : ∀ symbol, call.key ∉ directory.instrumentsForSymbol symbol := by
    intro symbol hmem
    rw [hindexed.mem_iff, hnew] at hmem
    cases hmem
  refine ⟨fun key symbol => ?_, fun symbol => ?_, fun key identity hfound => ?_⟩
  · rw [hlist, hidentity, List.mem_append, hindexed.mem_iff]
    by_cases hkey : key = call.key
    · rw [if_pos hkey, hkey, hnew]
      by_cases hsymbol : canonicalSymbolFromStock stock = symbol
      · simp [← hsymbol, canonicalSymbolFromStock]
      · rw [if_neg hsymbol]
        have hstock : stock ≠ symbol.stock := fun heq => hsymbol (by rw [heq]; rfl)
        simp [hstock]
    · rw [if_neg hkey]
      have hother : key ∉ (if canonicalSymbolFromStock stock = symbol then [call.key] else []) := by
        split <;> simp [hkey]
      simp only [hother, or_false]
  · rw [hlist]
    split
    · rw [← List.concat_eq_append]
      exact (hindexed.nodup symbol).concat (habsent symbol)
    · rw [List.append_nil]
      exact hindexed.nodup symbol
  · rw [hidentity] at hfound
    split at hfound
    · rename_i hkey
      cases hfound
      exact ⟨hkey.symm, hkey ▸ hvalid⟩
    · exact hindexed.keyed key identity hfound

/-- A call on a registered key leaves every identity alone. -/
theorem applyCall_identityOf_of_registered (hregistered : directory.identityOf call.key ≠ none)
    (key : InstrumentKey) :
    (directory.applyCall call).2.identityOf key = directory.identityOf key := by
  rcases directory.applyCall_identityOf call with ⟨hidentity, -⟩ | ⟨stock, hnew, -⟩
  · exact hidentity key
  · exact absurd hnew hregistered

/-- A registered key keeps its identity. -/
theorem applyCall_identityOf_some {key : InstrumentKey}
    {identity : InstrumentKey × StockSymbol} (hfound : directory.identityOf key = some identity)
    (call : DirectoryCall) : (directory.applyCall call).2.identityOf key = some identity := by
  rcases directory.applyCall_identityOf call with
    ⟨hidentity, hlist⟩ | ⟨stock, hnew, hvalid, hidentity, hlist⟩
  · rw [hidentity, hfound]
  · rw [hidentity, if_neg, hfound]
    intro hkey
    rw [hkey, hnew] at hfound
    cases hfound

/-- An accepted call leaves an entry with its stock under its key. -/
theorem applyCall_ok_stock (hok : (directory.applyCall call).1 = .ok) :
    ((directory.applyCall call).2.identityOf call.key).map Prod.snd = some call.stock := by
  have hchange := directory.applyCall_changesEntry call
  have heffect := entry_effect call (directory.findKey call.key)
  rw [hchange.code] at hok
  rw [identityOf, hchange.findKey, if_pos rfl]
  generalize directory.findKey call.key = existing at heffect hok ⊢
  generalize call.entry existing = entry at heffect hok ⊢
  cases heffect with
  | refused _ _ code hcode => exact absurd hok hcode
  | inserted venueId message hkey => rfl
  | updated venueId message metadata hstock => exact congrArg some hstock
  | acted venueId message metadata hstock => exact congrArg some hstock

theorem entry_code_eq_ok_iff (call : DirectoryCall) (existing : Option InstrumentMetadata) :
    (call.entry existing).1 = .ok ↔ call.isValid = true ∧ call.fits existing = true := by
  cases call with
  | stockDirectory venueId message =>
      rw [DirectoryCall.entry, DirectoryCall.isValid, Bool.and_eq_true]
      cases hvenue : Venue.isValidVenueId venueId with
      | false => simp [stockDirectoryEntry, hvenue]
      | true =>
          cases hvalid : isValidStockDirectoryMessage message with
          | false => simp [stockDirectoryEntry, hvenue, hvalid]
          | true =>
              cases existing with
              | none => simp [stockDirectoryEntry, hvenue, hvalid, DirectoryCall.fits]
              | some metadata =>
                  by_cases hstock : metadata.stock = message.stock <;>
                    simp [stockDirectoryEntry, hvenue, hvalid, hstock, DirectoryCall.fits]
  | stockTradingAction venueId message =>
      rw [DirectoryCall.entry, DirectoryCall.isValid, Bool.and_eq_true]
      cases hvenue : Venue.isValidVenueId venueId with
      | false => simp [stockTradingActionEntry, hvenue]
      | true =>
          cases hvalid : isValidStockTradingActionMessage message with
          | false => simp [stockTradingActionEntry, hvenue, hvalid]
          | true =>
              cases existing with
              | none => simp [stockTradingActionEntry, hvenue, hvalid, DirectoryCall.fits]
              | some metadata =>
                  by_cases hstock : metadata.stock = message.stock <;>
                    simp [stockTradingActionEntry, hvenue, hvalid, hstock, DirectoryCall.fits]

theorem applyCall_code_eq_ok_iff (directory : InstrumentDirectory) (call : DirectoryCall) :
    (directory.applyCall call).1 = .ok ↔
      call.isValid = true ∧ call.fits (directory.findKey call.key) = true := by
  rw [(directory.applyCall_changesEntry call).code, entry_code_eq_ok_iff]

/-- A valid call for a key that is registered with its stock is accepted. -/
theorem applyCall_ok_of_registered (hvalid : call.isValid = true)
    (hregistered : (directory.identityOf call.key).map Prod.snd = some call.stock) :
    (directory.applyCall call).1 = .ok := by
  rw [identityOf, Option.map_map, Option.map_eq_some_iff] at hregistered
  obtain ⟨metadata, hfind, hstock⟩ := hregistered
  rw [applyCall_code_eq_ok_iff, hfind]
  refine ⟨hvalid, ?_⟩
  cases call with
  | stockDirectory venueId message => exact decide_eq_true hstock
  | stockTradingAction venueId message => exact decide_eq_true hstock

end Step

theorem applyCalls_indexed (calls : List DirectoryCall) : (empty.applyCalls calls).Indexed := by
  have hstep : ∀ (directory : InstrumentDirectory) (call : DirectoryCall), True →
      directory.Indexed → (directory.applyCall call).2.Indexed :=
    fun directory call _ hindexed => hindexed.applyCall call
  exact foldl_invariant hstep empty_indexed (fun _ _ => trivial)

theorem applyCalls_identityOf_some {directory : InstrumentDirectory} {key : InstrumentKey}
    {identity : InstrumentKey × StockSymbol} (hfound : directory.identityOf key = some identity)
    (calls : List DirectoryCall) : (directory.applyCalls calls).identityOf key = some identity := by
  have hstep : ∀ (directory : InstrumentDirectory) (call : DirectoryCall), True →
      directory.identityOf key = some identity →
      (directory.applyCall call).2.identityOf key = some identity :=
    fun directory call _ hfound => applyCall_identityOf_some hfound call
  exact foldl_invariant hstep hfound (fun _ _ => trivial)

theorem identityOf_eq_some_iff {directory : InstrumentDirectory} {key : InstrumentKey}
    {identity : InstrumentKey × StockSymbol} :
    directory.identityOf key = some identity ↔
      ∃ metadata, directory.findKey key = some metadata ∧ metadata.key = identity.1 ∧
        metadata.stock = identity.2 := by
  simp [identityOf, Option.map_eq_some_iff, Prod.ext_iff]

/-- The directory after any calls, what later calls keep of it, and what a refused call
does to it. -/
theorem directory_invariants (calls : List DirectoryCall) :
    let directory := empty.applyCalls calls
    (∀ key symbol, key ∈ directory.instrumentsForSymbol symbol ↔
        ∃ metadata, directory.findKey key = some metadata ∧ metadata.stock = symbol.stock) ∧
      (∀ symbol, (directory.instrumentsForSymbol symbol).Nodup) ∧
      (∀ key first second, key ∈ directory.instrumentsForSymbol first →
        key ∈ directory.instrumentsForSymbol second → first = second) ∧
      (∀ key metadata, directory.findKey key = some metadata →
        key.venueId ≠ 0 ∧ key.stockLocate ≠ 0 ∧ metadata.key = key) ∧
      (∀ key metadata later, directory.findKey key = some metadata →
        ∃ metadata', (directory.applyCalls later).findKey key = some metadata' ∧
          metadata'.stock = metadata.stock) ∧
      ∀ call, (directory.applyCall call).1 ≠ .ok → (directory.applyCall call).2 = directory := by
  intro directory
  have hindexed : directory.Indexed := applyCalls_indexed calls
  have hidentity : ∀ key metadata, directory.findKey key = some metadata →
      directory.identityOf key = some (metadata.key, metadata.stock) :=
    fun key metadata hfind => identityOf_eq_some_iff.mpr ⟨metadata, hfind, rfl, rfl⟩
  refine ⟨fun key symbol => ?_, hindexed.nodup, fun key first second hfirst hsecond => ?_,
    fun key metadata hfind => ?_, fun key metadata later hfind => ?_,
    directory.applyCall_keptIfRefused⟩
  · rw [hindexed.mem_iff, identityOf_eq_some_iff]
    constructor
    · rintro ⟨metadata, hfind, hkey, hstock⟩
      exact ⟨metadata, hfind, hstock⟩
    · rintro ⟨metadata, hfind, hstock⟩
      exact ⟨metadata, hfind, (hindexed.keyed _ _ (hidentity key metadata hfind)).1, hstock⟩
  · rw [hindexed.mem_iff] at hfirst hsecond
    rw [hfirst] at hsecond
    cases first
    cases second
    cases hsecond
    rfl
  · obtain ⟨hkey, hvalid⟩ := hindexed.keyed _ _ (hidentity key metadata hfind)
    rw [isValidInstrumentKey, Bool.and_eq_true] at hvalid
    refine ⟨bne_iff_ne.mp hvalid.1, fun hzero => ?_, hkey⟩
    rw [hzero] at hvalid
    exact absurd hvalid.2 (by decide)
  · obtain ⟨metadata', hfind', hkey, hstock⟩ :=
      identityOf_eq_some_iff.mp (applyCalls_identityOf_some (hidentity key metadata hfind) later)
    exact ⟨metadata', hfind', hstock⟩

/-! ## Last writers -/

/-- The calls of a run that were accepted, in order. -/
def acceptedCalls (directory : InstrumentDirectory) : List DirectoryCall → List DirectoryCall
  | [] => []
  | call :: rest =>
      let accepted := acceptedCalls (directory.applyCall call).2 rest
      if (directory.applyCall call).1 = .ok then call :: accepted else accepted

theorem acceptedCalls_concat (directory : InstrumentDirectory) (calls : List DirectoryCall)
    (call : DirectoryCall) :
    directory.acceptedCalls (calls ++ [call]) = directory.acceptedCalls calls ++
      if ((directory.applyCalls calls).applyCall call).1 = .ok then [call] else [] := by
  induction calls generalizing directory with
  | nil => rfl
  | cons first rest ih =>
      rw [List.cons_append, acceptedCalls, acceptedCalls, ih]
      split <;> rfl

def lastDirectoryMessage (key : InstrumentKey) (accepted : List DirectoryCall) :
    Option StockDirectoryMessage :=
  latest (DirectoryCall.directoryMessage? key) accepted

def lastTradingAction (key : InstrumentKey) (accepted : List DirectoryCall) :
    Option StockTradingActionMessage :=
  latest (DirectoryCall.tradingAction? key) accepted

/-- The directory fields of an entry are those of a message. -/
structure HoldsDirectoryFields (metadata : InstrumentMetadata)
    (message : StockDirectoryMessage) : Prop where
  marketCategory : metadata.marketCategory = message.marketCategory
  financialStatusIndicator :
    metadata.financialStatusIndicator = message.financialStatusIndicator
  roundLotSize : metadata.roundLotSize = message.roundLotSize
  roundLotsOnly : metadata.roundLotsOnly = message.roundLotsOnly
  issueClassification : metadata.issueClassification = message.issueClassification
  issueSubType : metadata.issueSubType = message.issueSubType
  authenticity : metadata.authenticity = message.authenticity
  shortSaleThresholdIndicator :
    metadata.shortSaleThresholdIndicator = message.shortSaleThresholdIndicator
  ipoFlag : metadata.ipoFlag = message.ipoFlag
  luldReferencePriceTier : metadata.luldReferencePriceTier = message.luldReferencePriceTier
  etpFlag : metadata.etpFlag = message.etpFlag
  etpLeverageFactor : metadata.etpLeverageFactor = message.etpLeverageFactor
  inverseIndicator : metadata.inverseIndicator = message.inverseIndicator

/-- The status and the reason that a trading action leaves, or those of an entry that
has seen none. -/
def tradingFieldsAfter : Option StockTradingActionMessage → SymbolTradingStatus × ReasonCode4
  | some action => (toSymbolTradingStatus action.tradingState, action.reason)
  | none => (.unknown, List.Vector.replicate 4 0)

/-- An entry holds what the last accepted messages of its key wrote. -/
structure HoldsLastWrites (key : InstrumentKey) (accepted : List DirectoryCall)
    (metadata : InstrumentMetadata) : Prop where
  directory : ∃ message, lastDirectoryMessage key accepted = some message ∧
    HoldsDirectoryFields metadata message
  trading : (metadata.tradingStatus, metadata.lastTradingActionReason) =
    tradingFieldsAfter (lastTradingAction key accepted)

/-- What the accepted calls say about an entry, which may be missing. -/
def EntryRecords (key : InstrumentKey) (accepted : List DirectoryCall) :
    Option InstrumentMetadata → Prop
  | none => lastDirectoryMessage key accepted = none ∧ lastTradingAction key accepted = none
  | some metadata => HoldsLastWrites key accepted metadata

section LastWrites

variable {key : InstrumentKey} {accepted : List DirectoryCall}

theorem EntryRecords.of_ne {call : DirectoryCall} (hother : call.key ≠ key)
    {existing : Option InstrumentMetadata} (hrecords : EntryRecords key accepted existing) :
    EntryRecords key (accepted ++ [call]) existing := by
  have hdirectory : lastDirectoryMessage key (accepted ++ [call]) =
      lastDirectoryMessage key accepted := by
    rw [lastDirectoryMessage, latest_concat, DirectoryCall.directoryMessage?_of_ne hother,
      Option.none_or]
    rfl
  have htrading : lastTradingAction key (accepted ++ [call]) =
      lastTradingAction key accepted := by
    rw [lastTradingAction, latest_concat, DirectoryCall.tradingAction?_of_ne hother,
      Option.none_or]
    rfl
  cases existing with
  | none => exact ⟨hdirectory.trans hrecords.1, htrading.trans hrecords.2⟩
  | some metadata =>
      refine ⟨?_, ?_⟩
      · rw [hdirectory]
        exact hrecords.directory
      · rw [htrading]
        exact hrecords.trading

/-- One call on the entry of its key. -/
theorem EntryRecords.effect {call : DirectoryCall} {existing : Option InstrumentMetadata}
    {entry : ErrorCode × Option InstrumentMetadata}
    (hrecords : EntryRecords call.key accepted existing)
    (heffect : EntryEffect call existing entry) :
    EntryRecords call.key (accepted ++ if entry.1 = .ok then [call] else []) entry.2 := by
  cases heffect with
  | refused _ _ code hcode =>
      rw [if_neg hcode, List.append_nil]
      exact hrecords
  | inserted venueId message hkey =>
      rw [if_pos rfl]
      refine ⟨⟨message, ?_, ⟨rfl, rfl, rfl, rfl, rfl, rfl, rfl, rfl, rfl, rfl, rfl, rfl, rfl⟩⟩, ?_⟩
      · rw [lastDirectoryMessage, latest_concat, DirectoryCall.directoryMessage?, DirectoryCall.key,
          if_pos rfl, Option.some_or]
      · rw [lastTradingAction, latest_concat, DirectoryCall.tradingAction?, Option.none_or]
        exact (congrArg tradingFieldsAfter hrecords.2).symm
  | updated venueId message metadata hstock =>
      rw [if_pos rfl]
      refine ⟨⟨message, ?_, ⟨rfl, rfl, rfl, rfl, rfl, rfl, rfl, rfl, rfl, rfl, rfl, rfl, rfl⟩⟩, ?_⟩
      · rw [lastDirectoryMessage, latest_concat, DirectoryCall.directoryMessage?, DirectoryCall.key,
          if_pos rfl, Option.some_or]
      · rw [lastTradingAction, latest_concat, DirectoryCall.tradingAction?, Option.none_or]
        exact hrecords.trading
  | acted venueId message metadata hstock =>
      rw [if_pos rfl]
      obtain ⟨last, hlast, hfields⟩ := hrecords.directory
      refine ⟨⟨last, ?_, ?_⟩, ?_⟩
      · rw [lastDirectoryMessage, latest_concat, DirectoryCall.directoryMessage?, Option.none_or]
        exact hlast
      · -- The action touches none of the directory fields.
        cases hfields
        constructor <;> assumption
      · rw [lastTradingAction, latest_concat, DirectoryCall.tradingAction?, DirectoryCall.key,
          if_pos rfl, Option.some_or]
        rfl

theorem entryRecords_applyCalls (calls : List DirectoryCall) (key : InstrumentKey) :
    EntryRecords key (empty.acceptedCalls calls) ((empty.applyCalls calls).findKey key) := by
  induction calls using List.reverseRecOn with
  | nil =>
      rw [applyCalls, List.foldl_nil, findKey, empty, ExtTreeMap.getElem?_empty]
      exact ⟨rfl, rfl⟩
  | append_singleton earlier call ih =>
      have hchange := (empty.applyCalls earlier).applyCall_changesEntry call
      rw [acceptedCalls_concat, applyCalls_concat, hchange.findKey, hchange.code]
      by_cases hkey : key = call.key
      · subst hkey
        rw [if_pos rfl]
        exact ih.effect (entry_effect call _)
      · rw [if_neg hkey]
        split
        · exact ih.of_ne (fun heq => hkey heq.symm)
        · rw [List.append_nil]
          exact ih

/-- Each trading state has its status, and no other state has it. -/
theorem HoldsLastWrites.acted {metadata : InstrumentMetadata} {action : StockTradingActionMessage}
    (hholds : HoldsLastWrites key accepted metadata)
    (haction : lastTradingAction key accepted = some action) :
    (metadata.tradingStatus = .halted ↔ action.tradingState = .halted) ∧
      (metadata.tradingStatus = .paused ↔ action.tradingState = .paused) ∧
      (metadata.tradingStatus = .quotationOnly ↔ action.tradingState = .quotationOnly) ∧
      (metadata.tradingStatus = .trading ↔ action.tradingState = .trading) ∧
      metadata.lastTradingActionReason = action.reason := by
  have htrading := hholds.trading
  rw [haction, tradingFieldsAfter, Prod.mk.injEq] at htrading
  obtain ⟨hstatus, hreason⟩ := htrading
  rw [hstatus]
  cases action.tradingState <;> simp [toSymbolTradingStatus, hreason]

theorem HoldsLastWrites.never_acted {metadata : InstrumentMetadata}
    (hholds : HoldsLastWrites key accepted metadata)
    (hnone : lastTradingAction key accepted = none) :
    metadata.tradingStatus = .unknown ∧
      metadata.lastTradingActionReason = List.Vector.replicate 4 0 := by
  have htrading := hholds.trading
  rw [hnone, tradingFieldsAfter, Prod.mk.injEq] at htrading
  exact htrading

end LastWrites

/-- A key is registered once a Stock Directory message for it has been accepted, and its
entry then holds what the last accepted messages for it wrote: the directory fields of the
last Stock Directory message, and the state and the reason of the last trading action. -/
theorem find_eq_last_writes (calls : List DirectoryCall) (key : InstrumentKey) :
    let accepted := empty.acceptedCalls calls
    let entry := (empty.applyCalls calls).findKey key
    (entry.isSome = (lastDirectoryMessage key accepted).isSome) ∧
      ∀ metadata, entry = some metadata →
        (∃ message, lastDirectoryMessage key accepted = some message ∧
          HoldsDirectoryFields metadata message) ∧
        (∀ action, lastTradingAction key accepted = some action →
          (metadata.tradingStatus = .halted ↔ action.tradingState = .halted) ∧
          (metadata.tradingStatus = .paused ↔ action.tradingState = .paused) ∧
          (metadata.tradingStatus = .quotationOnly ↔ action.tradingState = .quotationOnly) ∧
          (metadata.tradingStatus = .trading ↔ action.tradingState = .trading) ∧
          metadata.lastTradingActionReason = action.reason) ∧
        (lastTradingAction key accepted = none →
          metadata.tradingStatus = .unknown ∧
          metadata.lastTradingActionReason = List.Vector.replicate 4 0) := by
  intro accepted entry
  have hrecords : EntryRecords key accepted entry := entryRecords_applyCalls calls key
  cases hentry : entry with
  | none =>
      rw [hentry] at hrecords
      refine ⟨by rw [hrecords.1]; rfl, fun metadata hfound => ?_⟩
      cases hfound
  | some metadata =>
      rw [hentry] at hrecords
      obtain ⟨message, hlast, hfields⟩ := hrecords.directory
      refine ⟨by rw [hlast]; rfl, fun metadata' hfound => ?_⟩
      cases hfound
      exact ⟨⟨message, hlast, hfields⟩, fun action => hrecords.acted, hrecords.never_acted⟩

end InstrumentDirectory

end Fgep.Instrument
