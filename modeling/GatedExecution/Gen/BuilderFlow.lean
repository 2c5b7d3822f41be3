import GatedExecution.Gen.MessageBuilder
import GatedExecution.Replay.Apply

/-!
# The builder's flow through the platform's own books

The messages of a builder, applied to a fresh directory and a venue's books.  The
session-open messages register every symbol; after that each Add Order is accepted
and each Order Cancel is accepted exactly when it asks for no more than the shares
its order was added with.  The builder does not see to that: it takes the shares of
a cancellation from the counter of the event that cancels.

Main results:

- Theorem {lit}`openSession`: the session-open messages are accepted.
- Theorems {lit}`Linked.add` and {lit}`Linked.cancel`: one event.
- Theorem {lit}`codes_ok_iff_cancelFits`: a whole session.
-/

namespace Fgep.Gen

open Std Itch Instrument Book Replay ItchMessageBuilder

/-! ## A symbol and its book -/

/-- The book a venue has for a symbol, or would make for it. -/
def bookAt (venue : VenueBook) (symbolState : SymbolState) : SymbolOrderBook :=
  venue.books.getD symbolState.stockLocate
    (SymbolOrderBook.new ⟨venue.venueId, symbolState.stockLocate⟩ symbolState.stock)

/-- The directory knows the symbol under its locate. -/
def Registered (directory : InstrumentDirectory) (venueId : Venue.VenueId)
    (symbolState : SymbolState) : Prop :=
  ∃ metadata, directory.find venueId symbolState.stockLocate = some metadata ∧
    metadata.key = ⟨venueId, symbolState.stockLocate⟩ ∧ metadata.stock = symbolState.stock

/-- The applier's venue is valid and has its books. -/
structure Connected (applier : ItchReplayApplier) (venue : VenueBook) : Prop where
  valid : Venue.isValidVenueId applier.venueId = true
  lookup : applier.books.venues[applier.venueId]? = some venue
  venueId : venue.venueId = applier.venueId

/-- An order message of a registered symbol goes to that symbol's book alone. -/
theorem Connected.apply {applier : ItchReplayApplier} {venue : VenueBook}
    (hconnected : Connected applier venue) {symbolState : SymbolState}
    (hregistered : Registered applier.directory applier.venueId symbolState)
    (sequenceNumber : Moldudp64.SequenceNumber) (message : Message)
    (hbook : VenueBook.affectsOrderBook message = true)
    (hlocate : message.header.stockLocate = symbolState.stockLocate) :
    (applier.apply ⟨sequenceNumber, message⟩).1 =
        ((bookAt venue symbolState).apply message).code ∧
      (applier.apply ⟨sequenceNumber, message⟩).2.directory = applier.directory ∧
      (applier.apply ⟨sequenceNumber, message⟩).2.venueId = applier.venueId ∧
      ∃ venue', Connected (applier.apply ⟨sequenceNumber, message⟩).2 venue' ∧
        bookAt venue' symbolState = ((bookAt venue symbolState).apply message).book ∧
        ∀ other, other.stockLocate ≠ symbolState.stockLocate →
          bookAt venue' other = bookAt venue other := by
  rcases hregistered with ⟨metadata, hfind, hkey, hstock⟩
  rcases applier.apply_bookMessage sequenceNumber hbook with ⟨hcode, hcore⟩
  rcases MultiVenueBook.apply_of_venue hconnected.lookup applier.directory message with
    ⟨hvenueCode, hvenueLookup⟩
  have hsame : venue.bookFor metadata = bookAt venue symbolState := by
    rw [VenueBook.bookFor, hkey, hstock, bookAt, hconnected.venueId]
  have hvalid : Venue.isValidVenueId venue.venueId = true := by
    rw [hconnected.venueId]
    exact hconnected.valid
  rw [← hlocate, ← hconnected.venueId] at hfind
  have happly := VenueBook.apply_of_find hvalid hbook hfind
  rw [hsame, hkey] at happly
  simp only [ItchReplayApplier.core, Prod.mk.injEq] at hcore
  rcases hcore with ⟨hvenueId, hdirectory, hbooks⟩
  rw [happly] at hvenueCode hvenueLookup
  refine ⟨hcode.trans hvenueCode, hdirectory, hvenueId,
    ⟨venue.venueId, venue.books.insert symbolState.stockLocate
      ((bookAt venue symbolState).apply message).book⟩, ⟨?_, ?_, ?_⟩, ?_, ?_⟩
  · rw [hvenueId]
    exact hconnected.valid
  · rw [hbooks, hvenueId]
    exact hvenueLookup
  · rw [hvenueId]
    exact hconnected.venueId
  · rw [bookAt, ExtTreeMap.getD_insert_self]
  · intro other hother
    unfold bookAt
    dsimp only
    rw [ExtTreeMap.getD_insert, if_neg (fun heq => hother (LawfulEqCmp.eq_of_compare heq).symm)]

/-! ## What the builder and the books agree on -/

/-- A cancellation asks for no more than an order of the flow was added with. -/
def CancelFits (flow : List Message) (cancel : OrderCancelMessage) : Prop :=
  ∀ add, .addOrderNoMpid add ∈ flow →
    add.orderReferenceNumber = cancel.orderReferenceNumber → cancel.cancelledShares ≤ add.shares

/-- The orders the builder remembers for a symbol rest in its book with the shares
they were added with, and later reference numbers are unused. -/
structure SymbolLinked (flow : List Message) (next : Nat) (venueId : Venue.VenueId)
    (directory : InstrumentDirectory) (book : SymbolOrderBook) (symbolState : SymbolState) :
    Prop where
  registered : Registered directory venueId symbolState
  key : book.key = ⟨venueId, symbolState.stockLocate⟩
  stock : book.stock = symbolState.stock
  used : ∀ (reference : OrderReferenceNumber) (order : RestingOrder),
    book.orders[reference]? = some order → reference.toNat < next
  resting : ∀ reference ∈ symbolState.restingOrders, ∃ order add,
    book.orders[reference]? = some order ∧ .addOrderNoMpid add ∈ flow ∧
      add.orderReferenceNumber = reference ∧ add.shares = order.shares
  distinct : symbolState.restingOrders.Nodup

/-- The builder and the applier after the same events of a flow. -/
structure Linked (flow : List Message) (next : Nat) (builder : ItchMessageBuilder)
    (applier : ItchReplayApplier) (venue : VenueBook) : Prop where
  connected : Connected applier venue
  nextReference : builder.nextOrderReferenceNumber = UInt64.ofNat next
  next_pos : 1 ≤ next
  symbols : ∀ (index : Nat) symbolState, builder.symbolStates[index]? = some symbolState →
    SymbolLinked flow next applier.venueId applier.directory (bookAt venue symbolState)
      symbolState

/-- No two Add Orders of a flow share a reference number. -/
def DistinctReferences (flow : List Message) : Prop :=
  ∀ add other, .addOrderNoMpid add ∈ flow → .addOrderNoMpid other ∈ flow →
    add.orderReferenceNumber = other.orderReferenceNumber → add = other

section Book

variable {flow : List Message} {next : Nat} {venueId : Venue.VenueId}
  {directory : InstrumentDirectory} {book : SymbolOrderBook} {symbolState : SymbolState}

theorem SymbolLinked.mono {next' : Nat}
    (hsymbol : SymbolLinked flow next venueId directory book symbolState) (hle : next ≤ next') :
    SymbolLinked flow next' venueId directory book symbolState :=
  { hsymbol with used := fun reference order hentry =>
      Nat.lt_of_lt_of_le (hsymbol.used reference order hentry) hle }

/-- The order of an Add Order message is entered and remembered. -/
theorem SymbolLinked.enter
    (hsymbol : SymbolLinked flow next venueId directory book symbolState)
    {message : AddOrderNoMpidMessage} (hmem : .addOrderNoMpid message ∈ flow)
    (hnumber : message.orderReferenceNumber.toNat = next) :
    SymbolLinked flow (next + 1) venueId directory
      (book.enterOrder
        ⟨message.orderReferenceNumber, message.side, message.shares, message.price⟩)
      { symbolState with
        restingOrders := symbolState.restingOrders ++ [message.orderReferenceNumber] } := by
  have hnew : ∀ (reference : OrderReferenceNumber) (order : RestingOrder),
      book.orders[reference]? = some order → message.orderReferenceNumber ≠ reference := by
    rintro reference order hentry rfl
    have := hsymbol.used _ order hentry
    omega
  refine ⟨hsymbol.registered, ?_, ?_, ?_, ?_, ?_⟩
  · rw [SymbolOrderBook.enterOrder, SymbolOrderBook.addToLevel_key]
    exact hsymbol.key
  · rw [SymbolOrderBook.enterOrder, SymbolOrderBook.addToLevel_stock]
    exact hsymbol.stock
  · intro reference order hentry
    rw [SymbolOrderBook.enterOrder, ExtTreeMap.getElem?_insert] at hentry
    split at hentry
    · rename_i heq
      rw [← LawfulEqCmp.eq_of_compare heq, hnumber]
      exact Nat.lt_succ_self next
    · exact Nat.lt_succ_of_lt (hsymbol.used reference order hentry)
  · intro reference hreference
    rcases List.mem_append.mp hreference with hold | hlast
    · rcases hsymbol.resting reference hold with ⟨order, add, hentry, hadd⟩
      refine ⟨order, add, ?_, hadd⟩
      rw [SymbolOrderBook.enterOrder, ExtTreeMap.getElem?_insert,
        if_neg (fun heq => hnew reference order hentry (LawfulEqCmp.eq_of_compare heq))]
      exact hentry
    · rw [List.mem_singleton] at hlast
      subst hlast
      exact ⟨_, message, ExtTreeMap.getElem?_insert_self, hmem, rfl, rfl⟩
  · rw [List.nodup_append]
    refine ⟨hsymbol.distinct, List.nodup_singleton _, ?_⟩
    intro reference hold other hlast heq
    rw [List.mem_singleton] at hlast
    rcases hsymbol.resting reference hold with ⟨order, -, hentry, -⟩
    exact hnew reference order hentry (hlast.symm.trans heq.symm)

/-- The oldest remembered order is reduced, or not, and forgotten. -/
theorem SymbolLinked.reduce
    (hsymbol : SymbolLinked flow next venueId directory book symbolState)
    {reference : OrderReferenceNumber} {rest : List OrderReferenceNumber} {order : RestingOrder}
    (hresting : symbolState.restingOrders = reference :: rest)
    (hentry : book.orders[reference]? = some order) (shares : Shares) :
    SymbolLinked flow next venueId directory (book.reduceOrder reference shares).book
      { symbolState with restingOrders := rest } := by
  have hinstrument := (SymbolOrderBook.reduceOrder_effect book reference shares).instrument
  have hdistinct := hsymbol.distinct
  rw [hresting, List.nodup_cons] at hdistinct
  refine ⟨hsymbol.registered, hinstrument.1.trans hsymbol.key,
    hinstrument.2.trans hsymbol.stock, ?_, ?_, hdistinct.2⟩
  · intro other stored hstored
    by_cases heq : reference = other
    · subst heq
      exact hsymbol.used reference order hentry
    · rw [SymbolOrderBook.reduceOrder_orders_of_ne heq] at hstored
      exact hsymbol.used other stored hstored
  · intro other hother
    have hne : reference ≠ other := by
      rintro rfl
      exact hdistinct.1 hother
    rw [SymbolOrderBook.reduceOrder_orders_of_ne hne]
    apply hsymbol.resting other
    rw [hresting]
    exact List.mem_cons_of_mem _ hother

end Book

section Step

variable {flow : List Message} {next : Nat} {builder : ItchMessageBuilder}
  {applier : ItchReplayApplier} {venue : VenueBook} {index : Nat} {symbolState : SymbolState}

/-- The symbol's own book is valid for its messages. -/
theorem Linked.applyChecked (hlinked : Linked flow next builder applier venue)
    (hbuilder : builder.WellFormed)
    (hstate : builder.symbolStates[index]? = some symbolState) {header : Header}
    (hlocate : header.stockLocate = symbolState.stockLocate)
    (htimestamp : isValidTimestampNs header.timestampNs = true) (body : Outcome) :
    (bookAt venue symbolState).applyChecked header body = body := by
  have hsymbol := hlinked.symbols index symbolState hstate
  have hheader := isValidHeader_of_ready hbuilder hstate hlocate htimestamp
  apply SymbolOrderBook.applyChecked_of_header
  · rw [hsymbol.key, isValidInstrumentKey, hlinked.connected.valid, ← hlocate]
    rw [isValidHeaderForStockMessage, Bool.and_eq_true] at hheader
    rw [hheader.1, Bool.and_self]
  · rw [hlocate, hsymbol.key]
  · exact hheader

/-- After a message of one symbol, the builder and the books agree again if they do
on that symbol. -/
theorem Linked.set (hlinked : Linked flow next builder applier venue)
    (hbuilder : builder.WellFormed)
    (hstate : builder.symbolStates[index]? = some symbolState) {next' : Nat} (hle : next ≤ next')
    (sequenceNumber : Moldudp64.SequenceNumber) (message : Message)
    (hbook : VenueBook.affectsOrderBook message = true)
    (hlocate : message.header.stockLocate = symbolState.stockLocate)
    (restingOrders : List OrderReferenceNumber) (count : UInt64)
    (hsymbol : SymbolLinked flow next' applier.venueId applier.directory
      ((bookAt venue symbolState).apply message).book
      { symbolState with restingOrders := restingOrders }) :
    ∃ venue', Linked flow next'
      { builder with
        generatedCount := count
        nextOrderReferenceNumber := UInt64.ofNat next'
        symbolStates := builder.symbolStates.set index
          { symbolState with restingOrders := restingOrders } }
      (applier.apply ⟨sequenceNumber, message⟩).2 venue' := by
  have hregistered := (hlinked.symbols index symbolState hstate).registered
  rcases hlinked.connected.apply hregistered sequenceNumber message hbook hlocate with
    ⟨-, hdirectory, hvenueId, venue', hconnected, hown, hframe⟩
  refine ⟨venue', hconnected, rfl, Nat.le_trans hlinked.next_pos hle, ?_⟩
  intro index' other hother
  rw [hdirectory, hvenueId]
  rw [List.getElem?_set] at hother
  split at hother
  · split at hother
    · cases hother
      change SymbolLinked flow next' _ _ (bookAt venue' symbolState) _
      rw [hown]
      exact hsymbol
    · cases hother
  · rename_i hne
    rw [hframe other (hbuilder.placed.locate_ne hstate hother hne)]
    exact (hlinked.symbols index' other hother).mono hle

/-! ## One event -/

/-- A new order is accepted and remembered on both sides. -/
theorem Linked.add (hlinked : Linked flow next builder applier venue)
    (hbuilder : builder.WellFormed)
    (hstate : builder.symbolStates[index]? = some symbolState)
    {message : AddOrderNoMpidMessage} (hmem : .addOrderNoMpid message ∈ flow)
    (hroom : next < 2 ^ 64)
    (hreference : message.orderReferenceNumber = builder.nextOrderReferenceNumber)
    (hstock : message.stock = symbolState.stock)
    (hlocate : message.header.stockLocate = symbolState.stockLocate)
    (htimestamp : isValidTimestampNs message.header.timestampNs = true)
    (hshares : isValidShares message.shares = true)
    (hprice : isValidPrice4 message.price = true)
    (sequenceNumber : Moldudp64.SequenceNumber) (count : UInt64) :
    (applier.apply ⟨sequenceNumber, .addOrderNoMpid message⟩).1 = .ok ∧
      ∃ venue', Linked flow (next + 1)
        { builder with
          generatedCount := count
          nextOrderReferenceNumber := builder.nextOrderReferenceNumber + 1
          symbolStates := builder.symbolStates.set index { symbolState with
            restingOrders := symbolState.restingOrders ++ [builder.nextOrderReferenceNumber] } }
        (applier.apply ⟨sequenceNumber, .addOrderNoMpid message⟩).2 venue' := by
  have hsymbol := hlinked.symbols index symbolState hstate
  have hpos := hlinked.next_pos
  have hnumber : message.orderReferenceNumber.toNat = next := by
    rw [hreference, hlinked.nextReference]
    exact UInt64.toNat_ofNat_of_lt' hroom
  have hfresh : (bookAt venue symbolState).orders[message.orderReferenceNumber]? = none := by
    by_contra hsome
    rcases Option.ne_none_iff_exists'.mp hsome with ⟨order, hentry⟩
    have hused := hsymbol.used _ order hentry
    omega
  have horder : RestingOrder.IsValid
      ⟨message.orderReferenceNumber, message.side, message.shares, message.price⟩ := by
    refine ⟨?_, hshares, hprice⟩
    rw [isValidOrderReferenceNumber, decide_eq_true_iff]
    apply UInt64.lt_iff_toNat_lt.mpr
    rw [hnumber]
    exact hpos
  have happly : (bookAt venue symbolState).apply (.addOrderNoMpid message) =
      { code := .ok, book := (bookAt venue symbolState).enterOrder
          ⟨message.orderReferenceNumber, message.side, message.shares, message.price⟩ } := by
    rw [SymbolOrderBook.apply, SymbolOrderBook.applyAddOrderNoMpid,
      hlinked.applyChecked hbuilder hstate hlocate htimestamp,
      SymbolOrderBook.addOrder_of_isValid horder, hsymbol.stock, hstock, hfresh]
    simp
  have hcode := (hlinked.connected.apply hsymbol.registered sequenceNumber
    (.addOrderNoMpid message) rfl hlocate).1
  refine ⟨?_, ?_⟩
  · rw [hcode, happly]
  · have hnext : builder.nextOrderReferenceNumber + 1 = UInt64.ofNat (next + 1) := by
      rw [hlinked.nextReference, UInt64.ofNat_add]
      rfl
    rw [hnext]
    apply hlinked.set hbuilder hstate (Nat.le_succ next) sequenceNumber
      (.addOrderNoMpid message) rfl hlocate
    rw [happly, ← hreference]
    exact hsymbol.enter hmem hnumber

/-- A cancellation is accepted exactly when it fits, and forgotten by the builder in
either case. -/
theorem Linked.cancel (hlinked : Linked flow next builder applier venue)
    (hbuilder : builder.WellFormed) (hdistinct : DistinctReferences flow)
    (hstate : builder.symbolStates[index]? = some symbolState)
    {message : OrderCancelMessage} {rest : List OrderReferenceNumber}
    (hresting : symbolState.restingOrders = message.orderReferenceNumber :: rest)
    (hlocate : message.header.stockLocate = symbolState.stockLocate)
    (htimestamp : isValidTimestampNs message.header.timestampNs = true)
    (hshares : isValidShares message.cancelledShares = true)
    (sequenceNumber : Moldudp64.SequenceNumber) (count : UInt64) :
    ((applier.apply ⟨sequenceNumber, .orderCancel message⟩).1 = .ok ↔
        CancelFits flow message) ∧
      ∃ venue', Linked flow next
        { builder with
          generatedCount := count
          symbolStates := builder.symbolStates.set index { symbolState with
            restingOrders := rest } }
        (applier.apply ⟨sequenceNumber, .orderCancel message⟩).2 venue' := by
  have hsymbol := hlinked.symbols index symbolState hstate
  have hfront : message.orderReferenceNumber ∈ symbolState.restingOrders := by
    rw [hresting]
    exact List.mem_cons_self
  rcases hsymbol.resting _ hfront with ⟨order, add, hentry, hadd, hreference, hsame⟩
  have happly : (bookAt venue symbolState).apply (.orderCancel message) =
      (bookAt venue symbolState).reduceOrder message.orderReferenceNumber
        message.cancelledShares := by
    rw [SymbolOrderBook.apply, SymbolOrderBook.applyOrderCancel,
      hlinked.applyChecked hbuilder hstate hlocate htimestamp]
  have hcode := (hlinked.connected.apply hsymbol.registered sequenceNumber
    (.orderCancel message) rfl hlocate).1
  refine ⟨?_, ?_⟩
  · rw [hcode, happly, SymbolOrderBook.reduceOrder_code_eq_ok_iff hshares hentry, ← hsame]
    constructor
    · intro hle other hother hsameReference
      rw [hdistinct other add hother hadd (hsameReference.trans hreference.symm)]
      exact hle
    · intro hfits
      exact hfits add hadd hreference
  · rw [hlinked.nextReference]
    apply hlinked.set hbuilder hstate (Nat.le_refl next) sequenceNumber (.orderCancel message)
      rfl hlocate
    rw [happly]
    exact hsymbol.reduce hresting hentry _

end Step

/-! ## The session -/

/-- The Stock Directory message of a new locate is accepted and registers its symbol,
and nothing else changes. -/
theorem apply_openMessage {builder : ItchMessageBuilder} {applier after : ItchReplayApplier}
    {symbolState : SymbolState} {sequenceNumber : Moldudp64.SequenceNumber} {code : ErrorCode}
    (happly : applier.apply ⟨sequenceNumber, .stockDirectory (builder.openMessage symbolState)⟩ =
      (code, after))
    (hvalid : isValidStockDirectoryMessage (builder.openMessage symbolState) = true)
    (hvenue : Venue.isValidVenueId applier.venueId = true)
    (hnew : applier.directory.find applier.venueId symbolState.stockLocate = none) :
    code = .ok ∧ after.venueId = applier.venueId ∧ after.books = applier.books ∧
      Registered after.directory applier.venueId symbolState ∧
      ∀ stockLocate, symbolState.stockLocate ≠ stockLocate →
        after.directory.find applier.venueId stockLocate =
          applier.directory.find applier.venueId stockLocate := by
  rcases applier.apply_stockDirectory sequenceNumber (builder.openMessage symbolState) with
    ⟨hcode, hcore⟩
  rw [happly] at hcode hcore
  simp only [ItchReplayApplier.core, Prod.mk.injEq] at hcore
  rcases hcore with ⟨hvenueId, hdirectory, hbooks⟩
  rcases InstrumentDirectory.applyStockDirectory_new hvenue hvalid hnew with ⟨hok, hfind⟩
  rw [← hdirectory] at hfind
  refine ⟨hcode.trans hok, hvenueId, hbooks, ⟨_, hfind, rfl, rfl⟩, ?_⟩
  intro stockLocate hne
  rw [hdirectory]
  exact InstrumentDirectory.applyStockDirectory_frame hne.symm

/-- Stock Directory messages of distinct new locates are accepted and register their
symbols; the books stay as they are. -/
theorem openSession {builder : ItchMessageBuilder} {states : List SymbolState}
    {applier : ItchReplayApplier} {decoded : List DecodedItchMessage}
    (hdecoded : decoded.map (fun item => item.message) =
      states.map (fun symbolState => .stockDirectory (builder.openMessage symbolState)))
    (hvalid : ∀ symbolState ∈ states,
      isValidStockDirectoryMessage (builder.openMessage symbolState) = true)
    (hdistinct : states.Pairwise (fun first second => first.stockLocate ≠ second.stockLocate))
    (hvenue : Venue.isValidVenueId applier.venueId = true)
    (hnew : ∀ symbolState ∈ states,
      applier.directory.find applier.venueId symbolState.stockLocate = none) :
    (∀ code ∈ applier.applyCodes decoded, code = .ok) ∧
      (applier.applyAll decoded).venueId = applier.venueId ∧
      (applier.applyAll decoded).books = applier.books ∧
      (∀ symbolState ∈ states,
        Registered (applier.applyAll decoded).directory applier.venueId symbolState) ∧
      ∀ stockLocate, (∀ symbolState ∈ states, symbolState.stockLocate ≠ stockLocate) →
        (applier.applyAll decoded).directory.find applier.venueId stockLocate =
          applier.directory.find applier.venueId stockLocate := by
  induction states generalizing applier decoded with
  | nil =>
      rw [List.map_nil, List.map_eq_nil_iff] at hdecoded
      subst hdecoded
      exact ⟨fun code hmem => absurd hmem List.not_mem_nil, rfl, rfl,
        fun _ hmem => absurd hmem List.not_mem_nil, fun _ _ => rfl⟩
  | cons symbolState rest ih =>
      rw [List.map_cons, List.map_eq_cons_iff] at hdecoded
      rcases hdecoded with ⟨⟨sequenceNumber, message⟩, tail, rfl, hmessage, htail⟩
      dsimp only at hmessage
      subst hmessage
      rw [List.pairwise_cons] at hdistinct
      rw [List.forall_mem_cons] at hvalid hnew
      rcases happly : applier.apply
        ⟨sequenceNumber, .stockDirectory (builder.openMessage symbolState)⟩ with ⟨code, after⟩
      rcases apply_openMessage happly hvalid.1 hvenue hnew.1 with
        ⟨hcode, hvenueId, hbooks, hregistered, hframe⟩
      have hnew' : ∀ other ∈ rest,
          after.directory.find applier.venueId other.stockLocate = none := by
        intro other hmem
        rw [hframe _ (hdistinct.1 other hmem)]
        exact hnew.2 other hmem
      rw [← hvenueId] at hvenue hnew'
      have hrest := ih htail hvalid.2 hdistinct.2 hvenue hnew'
      rw [hvenueId] at hrest
      rcases hrest with ⟨hcodes, hvenueId', hbooks', hregistered', hframe'⟩
      rw [ItchReplayApplier.applyCodes_cons, ItchReplayApplier.applyAll_cons, happly,
        List.forall_mem_cons, List.forall_mem_cons]
      refine ⟨⟨hcode, hcodes⟩, hvenueId', hbooks'.trans hbooks, ⟨?_, hregistered'⟩, ?_⟩
      · rw [Registered, hframe' _ (fun later hlater => (hdistinct.1 later hlater).symm)]
        exact hregistered
      · intro stockLocate hother
        rw [List.forall_mem_cons] at hother
        rw [hframe' stockLocate hother.2]
        exact hframe stockLocate hother.1

/-- The codes of the events of a builder that agrees with the books. -/
theorem Linked.events {flow : List Message} {next n : Nat} {builder : ItchMessageBuilder}
    {applier : ItchReplayApplier} {venue : VenueBook} {decoded : List DecodedItchMessage}
    (hlinked : Linked flow next builder applier venue) (hbuilder : builder.WellFormed)
    (hdistinct : DistinctReferences flow)
    (hdecoded : decoded.map (fun item => item.message) = builder.events n)
    (hflow : ∀ message ∈ builder.events n, message ∈ flow)
    (hroom : next + (addOrders (builder.events n)).length ≤ 2 ^ 64) :
    (∀ code ∈ applier.applyCodes decoded, code = .ok) ↔
      ∀ cancel, .orderCancel cancel ∈ builder.events n → CancelFits flow cancel := by
  induction n generalizing builder applier venue decoded next with
  | zero =>
      rw [ItchMessageBuilder.events, List.map_eq_nil_iff] at hdecoded
      subst hdecoded
      exact iff_of_true (fun code hmem => absurd hmem List.not_mem_nil)
        (fun cancel hmem => absurd hmem List.not_mem_nil)
  | succ n ih =>
      have hevent := nextMarketEvent_nextEvent hbuilder
      have hafter := hevent.wellFormed hbuilder
      rw [ItchMessageBuilder.events] at hdecoded hflow hroom ⊢
      rw [List.map_eq_cons_iff] at hdecoded
      rcases hdecoded with ⟨⟨sequenceNumber, message⟩, tail, rfl, hmessage, htail⟩
      dsimp only at hmessage
      subst hmessage
      have hfirst := hflow _ List.mem_cons_self
      have hlater : ∀ message ∈ ItchMessageBuilder.events builder.nextMarketEvent.2 n,
          message ∈ flow := fun message hmem => hflow message (List.mem_cons_of_mem _ hmem)
      generalize builder.nextMarketEvent = result at hevent hafter hfirst hlater htail hroom ⊢
      rw [ItchReplayApplier.applyCodes_cons, List.forall_mem_cons]
      cases hevent with
      | cancel index symbolState rest message count hstate hresting hlocate htimestamp hshares =>
          rcases hlinked.cancel hbuilder hdistinct hstate hresting hlocate htimestamp hshares
            sequenceNumber count with ⟨hcode, venue', hlinked'⟩
          rw [hcode, ih hlinked' hafter htail hlater hroom]
          simp only [List.mem_cons, Message.orderCancel.injEq, forall_eq_or_imp]
      | add index symbolState message count hstate hreference hstock hlocate htimestamp hshares
          hprice =>
          rw [addOrders_cons_add, List.length_cons] at hroom
          dsimp only at hroom
          rcases hlinked.add hbuilder hstate hfirst (by omega) hreference hstock hlocate
            htimestamp hshares hprice sequenceNumber count with ⟨hcode, venue', hlinked'⟩
          rw [ih hlinked' hafter htail hlater (by omega)]
          simp only [hcode, true_and, List.mem_cons, reduceCtorEq, false_or]

/-- An applier of one registered venue on a fresh directory and fresh books. -/
def freshApplier (venueId : Venue.VenueId) : ItchReplayApplier where
  venueId := venueId
  directory := InstrumentDirectory.empty
  books := (MultiVenueBook.empty.addVenue venueId).2

theorem distinctReferences_events {builder : ItchMessageBuilder}
    (hbuilder : builder.WellFormed) {n : Nat}
    (hroom : builder.nextOrderReferenceNumber.toNat +
      (addOrders (builder.events n)).length ≤ 2 ^ 64) :
    DistinctReferences (builder.events n) := by
  have hnext : builder.nextOrderReferenceNumber =
      UInt64.ofNat builder.nextOrderReferenceNumber.toNat := UInt64.ofNat_toNat.symm
  have hnodup : ((addOrders (builder.events n)).map
      (fun message => message.orderReferenceNumber.toNat)).Nodup := by
    rw [events_references hbuilder hnext hroom]
    exact List.nodup_range'
  intro add other hadd hother hsame
  exact List.inj_on_of_nodup_map hnodup (mem_addOrders.mpr hadd) (mem_addOrders.mpr hother)
    (congrArg UInt64.toNat hsame)

/-- Once the session is open, a fresh builder agrees with the fresh books. -/
theorem linked_of_openSession {config : ItchMessageBuilderConfig}
    (hconfig : config.Admissible) {venueId : Venue.VenueId}
    (hvenue : Venue.isValidVenueId venueId = true) {applier : ItchReplayApplier}
    (hvenueId : applier.venueId = venueId)
    (hbooks : applier.books = (freshApplier venueId).books)
    (hregistered : ∀ symbolState ∈ (ItchMessageBuilder.new config).symbolStates,
      Registered applier.directory venueId symbolState) (flow : List Message) :
    Linked flow config.firstOrderReferenceNumber.toNat (ItchMessageBuilder.new config) applier
      (VenueBook.new venueId) := by
  refine ⟨⟨?_, ?_, hvenueId.symm⟩, UInt64.ofNat_toNat.symm, hconfig.first_reference, ?_⟩
  · rw [hvenueId]
    exact hvenue
  · rw [hvenueId, hbooks]
    exact MultiVenueBook.addVenue_empty hvenue
  · intro index symbolState hstate
    have hbook : bookAt (VenueBook.new venueId) symbolState =
        SymbolOrderBook.new ⟨venueId, symbolState.stockLocate⟩ symbolState.stock :=
      ExtTreeMap.getD_empty
    have hresting : symbolState.restingOrders = [] := by
      rw [ItchMessageBuilder.new, List.getElem?_mapIdx, Option.map_eq_some_iff] at hstate
      rcases hstate with ⟨symbol, -, rfl⟩
      rfl
    rw [hbook, hvenueId]
    refine ⟨hregistered symbolState (List.mem_of_getElem? hstate), rfl, rfl, ?_, ?_, ?_⟩
    · intro reference order hentry
      rw [SymbolOrderBook.new, ExtTreeMap.getElem?_empty] at hentry
      cases hentry
    · rw [hresting]
      exact fun reference hmem => absurd hmem List.not_mem_nil
    · rw [hresting]
      exact List.nodup_nil

/-- The platform accepts the whole session of an admissible builder exactly when no
cancellation asks for more than its order was added with. -/
theorem codes_ok_iff_cancelFits (config : ItchMessageBuilderConfig) (n : Nat)
    (venueId : Venue.VenueId) (decoded : List DecodedItchMessage)
    (hconfig : config.Admissible)
    (hroom : config.firstOrderReferenceNumber.toNat +
      (addOrders ((ItchMessageBuilder.new config).events n)).length ≤ 2 ^ 64)
    (hvenue : Venue.isValidVenueId venueId = true)
    (hdecoded : decoded.map (fun item => item.message) =
      (ItchMessageBuilder.new config).sessionOpenMessages ++
        (ItchMessageBuilder.new config).events n) :
    (∀ code ∈ (freshApplier venueId).applyCodes decoded, code = .ok) ↔
      ∀ cancel, .orderCancel cancel ∈ (ItchMessageBuilder.new config).events n →
        CancelFits ((ItchMessageBuilder.new config).events n) cancel := by
  have hbuilder := new_wellFormed hconfig
  rcases List.map_eq_append_iff.mp hdecoded with ⟨opening, market, rfl, hopening, hmarket⟩
  have hvalid : ∀ symbolState ∈ (ItchMessageBuilder.new config).symbolStates,
      isValidStockDirectoryMessage
        ((ItchMessageBuilder.new config).openMessage symbolState) = true := by
    intro symbolState hmem
    rcases List.mem_iff_getElem?.mp hmem with ⟨index, hstate⟩
    exact isValid_openMessage hbuilder hstate
  have hnew : ∀ symbolState ∈ (ItchMessageBuilder.new config).symbolStates,
      (freshApplier venueId).directory.find (freshApplier venueId).venueId
        symbolState.stockLocate = none := fun _ _ => ExtTreeMap.getElem?_empty
  rcases openSession hopening hvalid hbuilder.placed.locates hvenue hnew with
    ⟨hcodes, hvenueId, hbooks, hregistered, -⟩
  have hlinked := linked_of_openSession hconfig hvenue hvenueId hbooks hregistered
    ((ItchMessageBuilder.new config).events n)
  rw [ItchReplayApplier.applyCodes_append, List.forall_mem_append]
  rw [← hlinked.events hbuilder (distinctReferences_events hbuilder hroom) hmarket
    (fun _ hmem => hmem) hroom]
  exact ⟨fun hall => hall.2, fun hall => ⟨hcodes, hall⟩⟩

end Fgep.Gen
