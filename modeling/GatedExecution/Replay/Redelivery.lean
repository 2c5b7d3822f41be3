import GatedExecution.Book.Acceptance
import GatedExecution.Replay.PacketRuns

/-!
# A packet delivered twice

The applier records sequence numbers and compares none, so a data packet that arrives a
second time is applied again from its first message on.  Instrument messages that went
through once go through again and change no identity.  The first order message of the
packet decides the rest: when the resting orders make its book refuse it, the packet stops
there and every quote stays; when they do not, the message is applied a second time.

Main results:

- Theorem {lit}`ItchReplayApplier.redelivery`: what a second delivery does, for every
  reachable applier and every decoded data packet.
- Theorem {lit}`ItchReplayApplier.redelivery_execution`: an execution that is delivered
  twice is counted twice in the best bid.
-/

namespace Fgep.Replay.ItchReplayApplier

open Book Instrument Itch Runs Wire

/-! ## Instrument messages that come again -/

/-- The directory call that a message of an applier leads to. -/
def directoryCall? (venueId : Venue.VenueId) : Itch.Message → Option DirectoryCall
  | .stockDirectory message => some (.stockDirectory venueId message)
  | .stockTradingAction message => some (.stockTradingAction venueId message)
  | _ => none

/-- The instrument of a message is registered with the stock that the message states. -/
def Settled (applier : ItchReplayApplier) (message : Itch.Message) : Prop :=
  ∀ call ∈ directoryCall? applier.venueId message,
    (applier.directory.identityOf call.key).map Prod.snd = some call.stock

section Settled

variable {applier : ItchReplayApplier} {decodedMessage : DecodedItchMessage}

theorem apply_directoryCall {call : DirectoryCall}
    (hcall : directoryCall? applier.venueId decodedMessage.message = some call) :
    (applier.apply decodedMessage).1 = (applier.directory.applyCall call).1 ∧
      (applier.apply decodedMessage).2.core =
        (applier.venueId, (applier.directory.applyCall call).2, applier.books) := by
  rcases decodedMessage with ⟨sequenceNumber, message⟩
  cases message with
  | stockDirectory message =>
      cases hcall
      exact ⟨rfl, rfl⟩
  | stockTradingAction message =>
      cases hcall
      exact ⟨rfl, rfl⟩
  | _ => cases hcall

theorem apply_of_directoryCall_none
    (hcall : directoryCall? applier.venueId decodedMessage.message = none) :
    (applier.apply decodedMessage).2.directory = applier.directory := by
  rcases decodedMessage with ⟨sequenceNumber, message⟩
  cases message with
  | stockDirectory _ | stockTradingAction _ => cases hcall
  | _ => rfl

theorem apply_ignored (hbook : VenueBook.affectsOrderBook decodedMessage.message = false)
    (hcall : directoryCall? applier.venueId decodedMessage.message = none) :
    (applier.apply decodedMessage).1 = .ok ∧
      (applier.apply decodedMessage).2.core = applier.core := by
  rcases decodedMessage with ⟨sequenceNumber, message⟩
  cases message with
  | systemEvent _ | tradeNonCross _ | crossTrade _ | brokenTrade _ => exact ⟨rfl, rfl⟩
  | stockDirectory _ | stockTradingAction _ => cases hcall
  | _ => cases hbook

theorem apply_identityOf_some {key : InstrumentKey} {identity : InstrumentKey × StockSymbol}
    (hfound : applier.directory.identityOf key = some identity)
    (decodedMessage : DecodedItchMessage) :
    (applier.apply decodedMessage).2.directory.identityOf key = some identity := by
  cases hcall : directoryCall? applier.venueId decodedMessage.message with
  | none => rw [apply_of_directoryCall_none hcall, hfound]
  | some call =>
      have hdirectory : (applier.apply decodedMessage).2.directory =
          (applier.directory.applyCall call).2 :=
        congrArg (fun core => core.2.1) (apply_directoryCall hcall).2
      rw [hdirectory]
      exact InstrumentDirectory.applyCall_identityOf_some hfound call

theorem Settled.apply {message : Itch.Message} (hsettled : applier.Settled message)
    (decodedMessage : DecodedItchMessage) :
    (applier.apply decodedMessage).2.Settled message := by
  intro call hcall
  rw [apply_venueId] at hcall
  obtain ⟨identity, hfound, hstock⟩ := Option.map_eq_some_iff.mp (hsettled call hcall)
  rw [apply_identityOf_some hfound, Option.map_some, hstock]

theorem settled_of_accepted (hok : (applier.apply decodedMessage).1 = .ok) :
    (applier.apply decodedMessage).2.Settled decodedMessage.message := by
  intro call hcall
  rw [apply_venueId] at hcall
  obtain ⟨hcode, hcore⟩ := apply_directoryCall hcall
  have hdirectory : (applier.apply decodedMessage).2.directory =
      (applier.directory.applyCall call).2 :=
    congrArg (fun core => core.2.1) hcore
  rw [hcode] at hok
  rw [hdirectory]
  exact InstrumentDirectory.applyCall_ok_stock hok

/-- A message that is not for a book and whose instrument is settled is accepted; it
touches no book and no identity. -/
theorem Settled.accepted (hsettled : applier.Settled decodedMessage.message)
    (hvenue : Venue.isValidVenueId applier.venueId = true)
    (hbook : VenueBook.affectsOrderBook decodedMessage.message = false)
    (hvalid : isEncodable decodedMessage.message = true) :
    (applier.apply decodedMessage).1 = .ok ∧
      (applier.apply decodedMessage).2.books = applier.books ∧
      ∀ key, (applier.apply decodedMessage).2.directory.identityOf key =
        applier.directory.identityOf key := by
  cases hcall : directoryCall? applier.venueId decodedMessage.message with
  | none =>
      obtain ⟨hok, hcore⟩ := apply_ignored hbook hcall
      refine ⟨hok, congrArg (fun core => core.2.2) hcore, fun key => ?_⟩
      rw [apply_of_directoryCall_none hcall]
  | some call =>
      obtain ⟨hcode, hcore⟩ := apply_directoryCall hcall
      have hdirectory : (applier.apply decodedMessage).2.directory =
          (applier.directory.applyCall call).2 :=
        congrArg (fun core => core.2.1) hcore
      have hstock := hsettled call hcall
      have hcallValid : call.isValid = true := by
        rcases decodedMessage with ⟨sequenceNumber, message⟩
        cases message with
        | stockDirectory message =>
            cases hcall
            exact Bool.and_eq_true_iff.mpr ⟨hvenue, hvalid⟩
        | stockTradingAction message =>
            cases hcall
            exact Bool.and_eq_true_iff.mpr ⟨hvenue, hvalid⟩
        | _ => cases hcall
      refine ⟨?_, congrArg (fun core => core.2.2) hcore, fun key => ?_⟩
      · rw [hcode]
        exact InstrumentDirectory.applyCall_ok_of_registered hcallValid hstock
      · rw [hdirectory]
        apply InstrumentDirectory.applyCall_identityOf_of_registered
        intro hnone
        rw [hnone] at hstock
        cases hstock

end Settled

section SettledRuns

variable {applier : ItchReplayApplier} {decodedMessages : List DecodedItchMessage}

/-- After a run without errors every message of it is settled. -/
theorem settled_of_codes (hcodes : ∀ code ∈ applier.applyCodes decodedMessages, code = .ok) :
    ∀ decodedMessage ∈ decodedMessages,
      (applier.applyAll decodedMessages).Settled decodedMessage.message := by
  induction decodedMessages using List.reverseRecOn with
  | nil => exact fun _ hmem => absurd hmem List.not_mem_nil
  | append_singleton earlier last ih =>
      rw [applyCodes_append, List.forall_mem_append] at hcodes
      rw [applyAll, List.foldl_append]
      intro decodedMessage hmem
      rcases List.mem_append.mp hmem with hearlier | hlast
      · exact (ih hcodes.1 decodedMessage hearlier).apply last
      · rw [List.mem_singleton] at hlast
        rw [hlast]
        exact settled_of_accepted (hcodes.2 _ List.mem_cons_self)

/-- Settled messages that are not for a book go through. -/
theorem applyAll_settled (hvenue : Venue.isValidVenueId applier.venueId = true)
    (hmessages : ∀ decodedMessage ∈ decodedMessages,
      applier.Settled decodedMessage.message ∧
        VenueBook.affectsOrderBook decodedMessage.message = false ∧
        isEncodable decodedMessage.message = true) :
    (∀ code ∈ applier.applyCodes decodedMessages, code = .ok) ∧
      (applier.applyAll decodedMessages).books = applier.books ∧
      ∀ key, (applier.applyAll decodedMessages).directory.identityOf key =
        applier.directory.identityOf key := by
  induction decodedMessages generalizing applier with
  | nil => exact ⟨fun _ hmem => absurd hmem List.not_mem_nil, rfl, fun _ => rfl⟩
  | cons decodedMessage rest ih =>
      rw [List.forall_mem_cons] at hmessages
      obtain ⟨⟨hsettled, hbook, hvalid⟩, hrest⟩ := hmessages
      obtain ⟨hok, hbooks, hidentity⟩ := hsettled.accepted hvenue hbook hvalid
      have hnext := @ih (applier.apply decodedMessage).2 (by rw [apply_venueId]; exact hvenue)
        (fun other hmem => ⟨(hrest other hmem).1.apply decodedMessage, (hrest other hmem).2⟩)
      obtain ⟨hcodes, hbooks', hidentity'⟩ := hnext
      refine ⟨?_, hbooks'.trans hbooks, fun key => (hidentity' key).trans (hidentity key)⟩
      rw [applyCodes_cons]
      exact List.forall_mem_cons.mpr ⟨hok, hcodes⟩

end SettledRuns

/-! ## Order messages that come again -/

/-- The book of a message exists, is registered and is for the message's instrument. -/
structure Serves (applier : ItchReplayApplier) (message : Itch.Message)
    (book : SymbolOrderBook) : Prop where
  bookAt : applier.books.bookAt ⟨applier.venueId, message.header.stockLocate⟩ = some book
  addresses : book.Addresses message
  registered :
    applier.directory.identityOf ⟨applier.venueId, message.header.stockLocate⟩ ≠ none

section Serves

variable {applier : ItchReplayApplier} {venueId : Venue.VenueId} {message : Itch.Message}
  {book : SymbolOrderBook}

theorem addresses_congr {other : SymbolOrderBook} (hkey : other.key = book.key)
    (hstock : other.stock = book.stock) (haddresses : book.Addresses message) :
    other.Addresses message := by
  refine ⟨?_, ?_⟩
  · rw [SymbolOrderBook.requireMatchingHeader, hkey]
    exact haddresses.header
  · rw [hstock]
    exact haddresses.stock

theorem bookEntry_of_serves (hserves : applier.Serves message book)
    (hbook : VenueBook.affectsOrderBook message = true) :
    MultiVenueBook.bookEntry (applier.books.containsVenue applier.venueId)
        (applier.directory.findKey ⟨applier.venueId, message.header.stockLocate⟩) message
        (applier.books.bookAt ⟨applier.venueId, message.header.stockLocate⟩) =
      ((book.apply message).code, some (book.apply message).book) := by
  have hadded : applier.books.containsVenue applier.venueId = true := by
    by_contra habsent
    rw [Bool.not_eq_true] at habsent
    have hnone := @MultiVenueBook.bookAt_of_not_containsVenue applier.books
      ⟨applier.venueId, message.header.stockLocate⟩ habsent
    rw [hserves.bookAt] at hnone
    cases hnone
  have hregistered := hserves.registered
  rw [InstrumentDirectory.identityOf, ne_eq, Option.map_eq_none_iff] at hregistered
  obtain ⟨metadata, hfind⟩ := Option.ne_none_iff_exists'.mp hregistered
  simp [MultiVenueBook.bookEntry, hadded, hbook, hfind, hserves.bookAt]

/-- Whether a served order message is accepted is up to the resting orders. -/
theorem Serves.code_eq_ok_iff (hserves : applier.Serves message book)
    (hsound : applier.Sound venueId) (hbook : VenueBook.affectsOrderBook message = true)
    (hvalid : isEncodable message = true) (sequenceNumber : Moldudp64.SequenceNumber) :
    (applier.apply ⟨sequenceNumber, message⟩).1 = .ok ↔ book.absorbs message = false := by
  have hchange := MultiVenueBook.apply_changesBook hsound.routed hsound.keyed applier.venueId
    message
  rw [(applier.apply_bookMessage sequenceNumber hbook).1, hchange.code,
    bookEntry_of_serves hserves hbook, SymbolOrderBook.apply_code_eq_ok_iff hbook,
    and_iff_right (SymbolOrderBook.hasValidFields_of_isEncodable hbook hvalid)]
  exact and_iff_right hserves.addresses

/-- A message finds a book as it was left or leaves it with the same instrument. -/
theorem bookEntry_some (isAdded : Bool) (metadata : Option InstrumentMetadata)
    (message : Itch.Message) (book : SymbolOrderBook) :
    ∃ book', (MultiVenueBook.bookEntry isAdded metadata message (some book)).2 = some book' ∧
      book'.key = book.key ∧ book'.stock = book.stock := by
  unfold MultiVenueBook.bookEntry
  split
  · exact ⟨book, rfl, rfl, rfl⟩
  split
  · exact ⟨book, rfl, rfl, rfl⟩
  cases metadata with
  | none => exact ⟨book, rfl, rfl, rfl⟩
  | some metadata =>
      exact ⟨_, rfl, (SymbolOrderBook.apply_effect book message).instrument⟩

/-- The order message that was accepted is served from then on. -/
theorem serves_of_accepted (hsound : applier.Sound venueId)
    (hbook : VenueBook.affectsOrderBook message = true)
    {sequenceNumber : Moldudp64.SequenceNumber}
    (hok : (applier.apply ⟨sequenceNumber, message⟩).1 = .ok) :
    ∃ book, (applier.apply ⟨sequenceNumber, message⟩).2.Serves message book := by
  obtain ⟨hcode, hcore⟩ := applier.apply_bookMessage sequenceNumber hbook
  have hchange := MultiVenueBook.apply_changesBook hsound.routed hsound.keyed applier.venueId
    message
  rw [hcode, hchange.code, MultiVenueBook.bookEntry_code_eq_ok_iff hbook, Option.any_eq_true] at hok
  obtain ⟨hadded, metadata, hfind, haccepts⟩ := hok
  have hbooks : (applier.apply ⟨sequenceNumber, message⟩).2.books =
      (applier.books.apply applier.directory applier.venueId message).2 :=
    congrArg (fun core => core.2.2) hcore
  have hdirectory : (applier.apply ⟨sequenceNumber, message⟩).2.directory = applier.directory :=
    congrArg (fun core => core.2.1) hcore
  have hentry := hchange.bookAt ⟨applier.venueId, message.header.stockLocate⟩
  rw [if_pos rfl, ← hbooks] at hentry
  simp only [MultiVenueBook.bookEntry, hadded, hbook, hfind, Bool.not_true, Bool.false_eq_true,
    if_false] at hentry
  generalize (applier.books.bookAt ⟨applier.venueId, message.header.stockLocate⟩).getD
    (SymbolOrderBook.new metadata.key metadata.stock) = existing at haccepts hentry
  have haddresses := (SymbolOrderBook.accepts_eq_true_iff.mp haccepts).2.1
  have hinstrument := (SymbolOrderBook.apply_effect existing message).instrument
  refine ⟨(existing.apply message).book, ?_, ?_, ?_⟩
  · rw [apply_venueId]
    exact hentry
  · exact addresses_congr hinstrument.1 hinstrument.2 haddresses
  · rw [apply_venueId, hdirectory, InstrumentDirectory.identityOf, hfind, Option.map_some]
    exact Option.some_ne_none _

theorem Serves.apply (hserves : applier.Serves message book) (hsound : applier.Sound venueId)
    (decodedMessage : DecodedItchMessage) :
    ∃ book', (applier.apply decodedMessage).2.Serves message book' := by
  have hregistered : (applier.apply decodedMessage).2.directory.identityOf
      ⟨applier.venueId, message.header.stockLocate⟩ ≠ none := by
    obtain ⟨identity, hfound⟩ := Option.ne_none_iff_exists'.mp hserves.registered
    rw [apply_identityOf_some hfound]
    exact Option.some_ne_none _
  rcases decodedMessage with ⟨sequenceNumber, other⟩
  cases hbook : VenueBook.affectsOrderBook other with
  | false =>
      have hbooks : (applier.apply ⟨sequenceNumber, other⟩).2.books = applier.books := by
        cases other <;> first | rfl | cases hbook
      refine ⟨book, ?_, hserves.addresses, ?_⟩
      · rw [apply_venueId, hbooks]
        exact hserves.bookAt
      · rw [apply_venueId]
        exact hregistered
  | true =>
      have hbooks : (applier.apply ⟨sequenceNumber, other⟩).2.books =
          (applier.books.apply applier.directory applier.venueId other).2 :=
        congrArg (fun core => core.2.2) (applier.apply_bookMessage sequenceNumber hbook).2
      have hentry := (MultiVenueBook.apply_changesBook hsound.routed hsound.keyed applier.venueId
        other).bookAt ⟨applier.venueId, message.header.stockLocate⟩
      rw [← hbooks] at hentry
      split at hentry
      · rename_i hsame
        rw [← hsame, hserves.bookAt] at hentry
        obtain ⟨book', hbook', hkey, hstock⟩ := bookEntry_some
          (applier.books.containsVenue applier.venueId)
          (applier.directory.findKey ⟨applier.venueId, message.header.stockLocate⟩) other book
        refine ⟨book', ?_, addresses_congr hkey hstock hserves.addresses, ?_⟩
        · rw [apply_venueId, hentry, hbook']
        · rw [apply_venueId]
          exact hregistered
      · refine ⟨book, ?_, hserves.addresses, ?_⟩
        · rw [apply_venueId, hentry, hserves.bookAt]
        · rw [apply_venueId]
          exact hregistered

theorem Serves.applyAll (hserves : applier.Serves message book) (hsound : applier.Sound venueId)
    (decodedMessages : List DecodedItchMessage) :
    ∃ book', (applier.applyAll decodedMessages).Serves message book' := by
  induction decodedMessages generalizing applier book with
  | nil => exact ⟨book, hserves⟩
  | cons decodedMessage rest ih =>
      obtain ⟨book', hserves'⟩ := hserves.apply hsound decodedMessage
      exact ih hserves' (hsound.apply decodedMessage)

end Serves

/-! ## Quotes -/

def bestBid (applier : ItchReplayApplier) (key : InstrumentKey) : Option Quote :=
  applier.books.bestBid applier.directory key

def bestAsk (applier : ItchReplayApplier) (key : InstrumentKey) : Option Quote :=
  applier.books.bestAsk applier.directory key

/-- Identities and contents decide every quote. -/
structure SameQuotes (first second : ItchReplayApplier) : Prop where
  identityOf : ∀ key, first.directory.identityOf key = second.directory.identityOf key
  contentsAt : ∀ key, first.contentsAt key = second.contentsAt key

theorem quoteFrom_eq {best : SymbolOrderBook → Option Level} (bestIn : BookContents → Option Level)
    (hbest : ∀ book, best book = bestIn (.of (some book))) (hnone : bestIn (.of none) = none)
    (metadata : Option InstrumentMetadata) (book : Option SymbolOrderBook) :
    MultiVenueBook.quoteFrom best metadata book =
      (bestIn (.of book)).bind (fun level =>
        (metadata.map (fun metadata => (metadata.key, metadata.stock))).map
          (fun identity => ⟨identity.1, ⟨identity.2⟩, level.price, level.quantity,
            level.orderCount⟩)) := by
  cases book with
  | none =>
      rw [hnone]
      rfl
  | some book =>
      rw [← hbest]
      cases hlevel : best book with
      | none => simp [MultiVenueBook.quoteFrom, hlevel]
      | some level =>
          cases metadata <;> simp [MultiVenueBook.quoteFrom, hlevel, VenueBook.makeQuote]

section Quotes

variable {first second : ItchReplayApplier}

theorem SameQuotes.quoteFrom_eq (hsame : SameQuotes first second)
    {best : SymbolOrderBook → Option Level} (bestIn : BookContents → Option Level)
    (hbest : ∀ book, best book = bestIn (.of (some book))) (hnone : bestIn (.of none) = none)
    (key : InstrumentKey) :
    MultiVenueBook.quoteFrom best (first.directory.findKey key) (first.books.bookAt key) =
      MultiVenueBook.quoteFrom best (second.directory.findKey key) (second.books.bookAt key) := by
  have hcontents := hsame.contentsAt key
  have hidentity := hsame.identityOf key
  rw [ItchReplayApplier.contentsAt, ItchReplayApplier.contentsAt] at hcontents
  rw [InstrumentDirectory.identityOf, InstrumentDirectory.identityOf] at hidentity
  rw [ItchReplayApplier.quoteFrom_eq bestIn hbest hnone,
    ItchReplayApplier.quoteFrom_eq bestIn hbest hnone, hcontents, hidentity]

theorem SameQuotes.bestBid_eq (hsame : SameQuotes first second) (hfirst : first.books.Routed)
    (hsecond : second.books.Routed) (key : InstrumentKey) :
    first.bestBid key = second.bestBid key := by
  rw [bestBid, bestBid, MultiVenueBook.bestBid_eq hfirst, MultiVenueBook.bestBid_eq hsecond]
  exact hsame.quoteFrom_eq (fun contents => SymbolOrderBook.firstLevel contents.bids)
    (fun _ => rfl) rfl key

theorem SameQuotes.bestAsk_eq (hsame : SameQuotes first second) (hfirst : first.books.Routed)
    (hsecond : second.books.Routed) (key : InstrumentKey) :
    first.bestAsk key = second.bestAsk key := by
  rw [bestAsk, bestAsk, MultiVenueBook.bestAsk_eq hfirst, MultiVenueBook.bestAsk_eq hsecond]
  exact hsame.quoteFrom_eq (fun contents => SymbolOrderBook.firstLevel contents.asks)
    (fun _ => rfl) rfl key

end Quotes

/-! ## The second delivery -/

/-- The first message of a packet that is for an order book. -/
def firstBookMessage (packet : MoldUdp64ItchReplayPacket) : Option DecodedItchMessage :=
  packet.messages.find? (fun decodedMessage =>
    VenueBook.affectsOrderBook decodedMessage.message)

/-- The resting orders make the book of a message refuse it. -/
def absorbs (applier : ItchReplayApplier) (message : Itch.Message) : Bool :=
  (applier.books.bookAt ⟨applier.venueId, message.header.stockLocate⟩).any
    (fun book => book.absorbs message)

section Redelivery

variable {applier : ItchReplayApplier} {venueId : Venue.VenueId}
  {front rest : List DecodedItchMessage} {decodedMessage : DecodedItchMessage}

/-- Once a run went through, its messages before the first order message go through again
and leave books and identities. -/
theorem again_front (hvenue : Venue.isValidVenueId venueId = true)
    (hsound : applier.Sound venueId)
    (hencodable : ∀ other ∈ front ++ rest, isEncodable other.message = true)
    (hfront : ∀ other ∈ front, VenueBook.affectsOrderBook other.message = false)
    (hcodes : ∀ code ∈ applier.applyCodes (front ++ rest), code = .ok) :
    let done := (applier.applyAll (front ++ rest)).beginData
    (∀ code ∈ done.applyCodes front, code = .ok) ∧
      (done.applyAll front).books = (applier.applyAll (front ++ rest)).books ∧
      ∀ key, (done.applyAll front).directory.identityOf key =
        (applier.applyAll (front ++ rest)).directory.identityOf key := by
  intro done
  have hdone : done.Sound venueId := (hsound.applyAll (front ++ rest)).of_core rfl
  have hsettled := settled_of_codes hcodes
  apply applyAll_settled
  · exact hdone.isValidVenueId hvenue
  · intro other hmem
    have hmem' : other ∈ front ++ rest := List.mem_append_left _ hmem
    exact ⟨hsettled other hmem', hfront other hmem, hencodable other hmem'⟩

/-- The first order message of a run that went through meets its book again. -/
theorem again_serves (hvenue : Venue.isValidVenueId venueId = true)
    (hsound : applier.Sound venueId)
    (hencodable : ∀ other ∈ front ++ decodedMessage :: rest, isEncodable other.message = true)
    (hfront : ∀ other ∈ front, VenueBook.affectsOrderBook other.message = false)
    (hbook : VenueBook.affectsOrderBook decodedMessage.message = true)
    (hcodes : ∀ code ∈ applier.applyCodes (front ++ decodedMessage :: rest), code = .ok) :
    let first := applier.applyAll (front ++ decodedMessage :: rest)
    ∃ book, (first.beginData.applyAll front).Serves decodedMessage.message book ∧
      first.absorbs decodedMessage.message = book.absorbs decodedMessage.message := by
  intro first
  have hvalid := hencodable decodedMessage (List.mem_append_right _ List.mem_cons_self)
  have hfirst : first =
      ((applier.applyAll front).apply decodedMessage).2.applyAll rest :=
    List.foldl_append
  have hsoundFirst : first.Sound venueId := hsound.applyAll _
  obtain ⟨-, hbooks, hidentity⟩ := again_front hvenue hsound hencodable hfront hcodes
  rw [applyCodes_append, applyCodes_cons, List.forall_mem_append, List.forall_mem_cons] at hcodes
  obtain ⟨_, haccepted⟩ := serves_of_accepted (hsound.applyAll front) hbook hcodes.2.1
  obtain ⟨book, hserves⟩ :=
    haccepted.applyAll ((hsound.applyAll front).apply decodedMessage) rest
  rw [← hfirst] at hserves
  have hbegun : first.beginData.Sound venueId := hsoundFirst.of_core rfl
  have hsoundAgain := hbegun.applyAll front
  have hsameVenue : (first.beginData.applyAll front).venueId = first.venueId :=
    hsoundAgain.venueId.trans hsoundFirst.venueId.symm
  refine ⟨book, ⟨?_, hserves.addresses, ?_⟩, ?_⟩
  · rw [hbooks, hsameVenue]
    exact hserves.bookAt
  · rw [hidentity, hsameVenue]
    exact hserves.registered
  · rw [absorbs, hserves.bookAt, Option.any_some]

/-- Without order messages a second delivery changes no quote. -/
theorem again_instruments (hvenue : Venue.isValidVenueId venueId = true)
    (hsound : applier.Sound venueId)
    (hencodable : ∀ other ∈ front, isEncodable other.message = true)
    (hfront : ∀ other ∈ front, VenueBook.affectsOrderBook other.message = false)
    (hcodes : ∀ code ∈ applier.applyCodes front, code = .ok) :
    SameQuotes ((applier.applyAll front).beginData.applyMessages front).2
      (applier.applyAll front) := by
  have hagain := @again_front applier venueId front [] hvenue hsound
  rw [List.append_nil] at hagain
  obtain ⟨hcodes', hbooks, hidentity⟩ := hagain hencodable hfront hcodes
  have hend := applyMessages_append hcodes' []
  rw [List.append_nil] at hend
  rw [hend]
  exact ⟨hidentity, fun key =>
    congrArg (fun books : MultiVenueBook => BookContents.of (books.bookAt key)) hbooks⟩

/-- A second delivery that stops at its first order message changes no quote. -/
theorem again_absorbed (hvenue : Venue.isValidVenueId venueId = true)
    (hsound : applier.Sound venueId)
    (hencodable : ∀ other ∈ front ++ decodedMessage :: rest, isEncodable other.message = true)
    (hfront : ∀ other ∈ front, VenueBook.affectsOrderBook other.message = false)
    (hbook : VenueBook.affectsOrderBook decodedMessage.message = true)
    (hcodes : ∀ code ∈ applier.applyCodes (front ++ decodedMessage :: rest), code = .ok)
    (habsorbed : (applier.applyAll (front ++ decodedMessage :: rest)).absorbs
      decodedMessage.message = true) :
    let first := applier.applyAll (front ++ decodedMessage :: rest)
    SameQuotes (first.beginData.applyMessages (front ++ decodedMessage :: rest)).2 first := by
  intro first
  have hvalid := hencodable decodedMessage (List.mem_append_right _ List.mem_cons_self)
  obtain ⟨hcodes', hbooks, hidentity⟩ := again_front hvenue hsound hencodable hfront hcodes
  obtain ⟨book, hserves, hsame⟩ := again_serves hvenue hsound hencodable hfront hbook hcodes
  have hbegun : first.beginData.Sound venueId := (hsound.applyAll _).of_core rfl
  have hstopped := hbegun.applyAll front
  have hrefused : ((first.beginData.applyAll front).apply decodedMessage).1 ≠ .ok := by
    intro hok
    have hfree := (hserves.code_eq_ok_iff hstopped hbook hvalid _).mp hok
    rw [← hsame, habsorbed] at hfree
    cases hfree
  have hkept := apply_refused hstopped.keyed hstopped.routed hvalid hrefused
  rw [applyMessages_append hcodes', applyMessages, if_pos hrefused]
  refine ⟨fun key => ?_, fun key => ?_⟩
  · refine Eq.trans ?_ (hidentity key)
    exact congrArg (fun directory => InstrumentDirectory.identityOf directory key)
      hkept.directory
  · refine (hkept.contentsAt key).trans ?_
    exact congrArg (fun books : MultiVenueBook => BookContents.of (books.bookAt key)) hbooks

/-- An order message that is not absorbed is accepted again. -/
theorem again_accepted (hvenue : Venue.isValidVenueId venueId = true)
    (hsound : applier.Sound venueId)
    (hencodable : ∀ other ∈ front ++ decodedMessage :: rest, isEncodable other.message = true)
    (hfront : ∀ other ∈ front, VenueBook.affectsOrderBook other.message = false)
    (hbook : VenueBook.affectsOrderBook decodedMessage.message = true)
    (hcodes : ∀ code ∈ applier.applyCodes (front ++ decodedMessage :: rest), code = .ok)
    (hfree : (applier.applyAll (front ++ decodedMessage :: rest)).absorbs
      decodedMessage.message = false) :
    let first := applier.applyAll (front ++ decodedMessage :: rest)
    ∀ code ∈ first.beginData.applyCodes (front ++ [decodedMessage]), code = .ok := by
  intro first
  have hvalid := hencodable decodedMessage (List.mem_append_right _ List.mem_cons_self)
  obtain ⟨hcodes', -, -⟩ := again_front hvenue hsound hencodable hfront hcodes
  obtain ⟨book, hserves, hsame⟩ := again_serves hvenue hsound hencodable hfront hbook hcodes
  have hbegun : first.beginData.Sound venueId := (hsound.applyAll _).of_core rfl
  rw [applyCodes_append, List.forall_mem_append]
  refine ⟨hcodes', List.forall_mem_singleton.mpr ?_⟩
  exact (hserves.code_eq_ok_iff (hbegun.applyAll front) hbook hvalid _).mpr (hsame ▸ hfree)

end Redelivery

/-- A data packet that went through and comes again.  If its first order message, where it
has one, is absorbed, every quote stays; if it is not, the message is accepted again. -/
theorem redelivery {venueId : Venue.VenueId} (hvenue : Venue.isValidVenueId venueId = true)
    (ops : List ReplayOp) {bytes : Bytes} {packet : MoldUdp64ItchReplayPacket}
    (hdecode : decodeMoldudp64ItchPacket bytes = .ok packet) (hdata : packet.kind = .data)
    (hok : ((reached venueId ops).applyPacket packet).1 = .ok) :
    let first := ((reached venueId ops).applyPacket packet).2
    let second := (first.applyPacket packet).2
    ((∀ decodedMessage ∈ firstBookMessage packet,
        first.absorbs decodedMessage.message = true) →
      ∀ key, second.bestBid key = first.bestBid key ∧
        second.bestAsk key = first.bestAsk key) ∧
    ∀ decodedMessage ∈ firstBookMessage packet,
      first.absorbs decodedMessage.message = false →
      ∃ front rest, packet.messages = front ++ decodedMessage :: rest ∧
        ∀ code ∈ first.applyCodes (front ++ [decodedMessage]), code = .ok := by
  intro first second
  have hsound := reached_sound venueId ops
  have hbegun : (reached venueId ops).beginData.Sound venueId := hsound.of_core rfl
  have hsoundFirst : first.Sound venueId := hsound.applyPacket packet
  have hsoundSecond : second.Sound venueId := hsoundFirst.applyPacket packet
  obtain ⟨-, -, hencodable⟩ := decodeMoldudp64ItchPacket_eq_ok hdecode hdata
  obtain ⟨hcodes, hfirst⟩ := applyPacket_ok (hsound.isValidVenueId hvenue) hdata hok
  have hsecond : second = (first.beginData.applyMessages packet.messages).2 :=
    congrArg Prod.snd (applyPacket_data (hsoundFirst.isValidVenueId hvenue) hdata)
  have hfirst' : first = (reached venueId ops).beginData.applyAll packet.messages := hfirst
  rw [hfirst'] at hsecond
  refine ⟨fun habsorbed => ?_, fun decodedMessage hmember hfree => ?_⟩
  · have hsame : SameQuotes second first := by
      rw [hsecond, hfirst']
      cases hfind : firstBookMessage packet with
      | none =>
          have hfront := List.find?_eq_none.mp hfind
          exact again_instruments hvenue hbegun hencodable
            (fun other hmem => Bool.eq_false_of_not_eq_true (hfront other hmem)) hcodes
      | some decodedMessage =>
          have hstops := habsorbed decodedMessage hfind
          rw [hfirst'] at hstops
          obtain ⟨hbook, front, rest, hsplit, hfront⟩ := List.find?_eq_some_iff_append.mp hfind
          rw [hsplit] at hencodable hcodes hstops ⊢
          exact again_absorbed hvenue hbegun hencodable
            (fun other hmem => by simpa using hfront other hmem) hbook hcodes hstops
    exact fun key => ⟨hsame.bestBid_eq hsoundSecond.routed hsoundFirst.routed key,
      hsame.bestAsk_eq hsoundSecond.routed hsoundFirst.routed key⟩
  · obtain ⟨hbook, front, rest, hsplit, hfront⟩ := List.find?_eq_some_iff_append.mp hmember
    refine ⟨front, rest, hsplit, ?_⟩
    rw [hfirst'] at hfree ⊢
    rw [hsplit] at hencodable hcodes hfree ⊢
    have hcore : ((reached venueId ops).beginData.applyAll (front ++ decodedMessage :: rest)).core =
        ((reached venueId ops).beginData.applyAll
          (front ++ decodedMessage :: rest)).beginData.core := rfl
    rw [applyCodes_congr hcore]
    exact again_accepted hvenue hbegun hencodable
      (fun other hmem => by simpa using hfront other hmem) hbook hcodes hfree

/-! ## Two packets -/

/-- An instrument and a bid for 100 shares. -/
def openingMessages : List Itch.Message :=
  [(SharedReplay.listing 7).message, (SharedReplay.buyOrder 7).message]

/-- An execution of 30 of these shares. -/
def executionMessages : List Itch.Message :=
  [.orderExecuted ⟨⟨7, 0, 0⟩, 5, 30, 1⟩]

/-- The bid still rests when its packet comes again. -/
theorem redelivery_openingMessages :
    let packet := dataPacket 1 openingMessages
    let symbol : CanonicalSymbol := ⟨List.Vector.replicate 8 (asciiByte 'A')⟩
    let first := ((reached 1 [.addVenue 1]).applyPacket packet).2
    first.bestBid ⟨1, 7⟩ = some ⟨⟨1, 7⟩, symbol, 2500, 100, 1⟩ ∧
      (first.applyPacket packet).1 = .duplicate ∧
      ∀ key, (first.applyPacket packet).2.bestBid key = first.bestBid key := by
  intro packet symbol first
  have hvenue : Venue.isValidVenueId 1 = true := by decide
  have hdecode : decodeMoldudp64ItchPacket (dataBytes 1 openingMessages) = .ok packet := by
    decide +kernel
  have hok : ((reached 1 [.addVenue 1]).applyPacket packet).1 = .ok := by decide +kernel
  have habsorbed : ∀ decodedMessage ∈ firstBookMessage packet,
      first.absorbs decodedMessage.message = true := by
    intro decodedMessage hmember
    cases hmember
    decide +kernel
  refine ⟨by decide +kernel, by decide +kernel, fun key => ?_⟩
  exact ((redelivery hvenue [.addVenue 1] hdecode rfl hok).1 habsorbed key).1

/-- An execution that is delivered twice takes its shares twice. -/
theorem redelivery_execution :
    let packet := dataPacket 3 executionMessages
    let symbol : CanonicalSymbol := ⟨List.Vector.replicate 8 (asciiByte 'A')⟩
    let applier := reached 1 [.addVenue 1, .applyPacket (dataPacket 1 openingMessages)]
    let first := (applier.applyPacket packet).2
    let second := (first.applyPacket packet).2
    decodeMoldudp64ItchPacket (dataBytes 3 executionMessages) = .ok packet ∧
      packet.kind = .data ∧ (applier.applyPacket packet).1 = .ok ∧
      first.stats.lastSequenceNumber = 3 ∧
      first.bestBid ⟨1, 7⟩ = some ⟨⟨1, 7⟩, symbol, 2500, 70, 1⟩ ∧
      second.bestBid ⟨1, 7⟩ = some ⟨⟨1, 7⟩, symbol, 2500, 40, 1⟩ := by
  decide +kernel

end Fgep.Replay.ItchReplayApplier
