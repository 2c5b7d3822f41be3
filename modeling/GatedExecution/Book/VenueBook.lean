import GatedExecution.Book.SymbolOrderBook

/-!
# Books of a venue and of several venues

{lit}`book/venue_book.cpp` and {lit}`book/multi_venue_book.cpp`.  A venue keeps
one order book for each locate of the shared instrument directory and makes it
with the first message that needs it; several venues are kept by their ids.  The
source holds the directory by reference; here the calls that read it take it as
an argument.  Its null checks have no counterpart.

Main results:

- Theorem {lit}`VenueBook.apply_of_find`: a message for a registered instrument
  reaches the book of its locate.
- Theorem {lit}`MultiVenueBook.apply_changesBook`: a message changes the book of its
  venue and locate, by that book and the instrument's metadata alone.
- Theorems {lit}`MultiVenueBook.bestBid_eq` and {lit}`MultiVenueBook.bestAsk_eq`: a
  quote is read off the book and the metadata of its key.
-/

namespace Fgep.Book

open Std Itch Instrument TreeMapEntries

structure Quote where
  key : InstrumentKey
  symbol : CanonicalSymbol
  price : Price
  quantity : Quantity
  orderCount : UInt64
deriving DecidableEq

/-- The best quotes of a symbol. -/
structure Bbo where
  symbol : CanonicalSymbol
  bid : Option Quote
  ask : Option Quote
deriving DecidableEq

/-! ## One venue -/

structure VenueBook where
  venueId : Venue.VenueId
  books : ExtTreeMap StockLocate SymbolOrderBook compare

namespace VenueBook

def new (venueId : Venue.VenueId) : VenueBook := ⟨venueId, ∅⟩

def affectsOrderBook : Message → Bool
  | .addOrderNoMpid _ => true
  | .addOrderWithMpid _ => true
  | .orderExecuted _ => true
  | .orderExecutedWithPrice _ => true
  | .orderCancel _ => true
  | .orderDelete _ => true
  | .orderReplace _ => true
  | _ => false

def stockLocateFrom (message : Message) : StockLocate :=
  message.header.stockLocate

def metadataFor (venue : VenueBook) (directory : InstrumentDirectory)
    (stockLocate : StockLocate) : Option InstrumentMetadata :=
  directory.find venue.venueId stockLocate

/-- The book {lit}`get_or_create_book` returns. -/
def bookFor (venue : VenueBook) (metadata : InstrumentMetadata) : SymbolOrderBook :=
  venue.books.getD metadata.key.stockLocate (SymbolOrderBook.new metadata.key metadata.stock)

/-- The book is made, applied to and kept whatever the message's code is. -/
def apply (venue : VenueBook) (directory : InstrumentDirectory) (message : Message) :
    ErrorCode × VenueBook :=
  if !Venue.isValidVenueId venue.venueId then (.invalidState, venue)
  else if !affectsOrderBook message then (.ok, venue)
  else
    match venue.metadataFor directory (stockLocateFrom message) with
    | none => (.notFound, venue)
    | some metadata =>
        let outcome := (venue.bookFor metadata).apply message
        (outcome.code, { venue with
          books := venue.books.insert metadata.key.stockLocate outcome.book })

def makeQuote (metadata : InstrumentMetadata) (level : Level) : Quote :=
  ⟨metadata.key, ⟨metadata.stock⟩, level.price, level.quantity, level.orderCount⟩

/-- The common body of {lit}`best_bid` and {lit}`best_ask`. -/
def bestQuote (best : SymbolOrderBook → Option Level) (venue : VenueBook)
    (directory : InstrumentDirectory) (key : InstrumentKey) : Option Quote :=
  if key.venueId ≠ venue.venueId then none
  else do
    let book ← venue.books[key.stockLocate]?
    let level ← best book
    let metadata ← venue.metadataFor directory key.stockLocate
    return makeQuote metadata level

def bestBid (venue : VenueBook) (directory : InstrumentDirectory) (key : InstrumentKey) :
    Option Quote :=
  bestQuote SymbolOrderBook.bestBid venue directory key

def bestAsk (venue : VenueBook) (directory : InstrumentDirectory) (key : InstrumentKey) :
    Option Quote :=
  bestQuote SymbolOrderBook.bestAsk venue directory key

section Apply

variable {venue : VenueBook} {directory : InstrumentDirectory} {message : Message}
  {metadata : InstrumentMetadata}

/-- A book message for a registered instrument gets the code of that instrument's
book. -/
theorem apply_of_find (hvenue : Venue.isValidVenueId venue.venueId = true)
    (hbook : affectsOrderBook message = true)
    (hfind : directory.find venue.venueId message.header.stockLocate = some metadata) :
    venue.apply directory message =
      (((venue.bookFor metadata).apply message).code, { venue with
        books := venue.books.insert metadata.key.stockLocate
          ((venue.bookFor metadata).apply message).book }) := by
  unfold apply metadataFor stockLocateFrom
  simp [hvenue, hbook, hfind]

end Apply

end VenueBook

/-! ## Several venues -/

structure MultiVenueBook where
  venues : ExtTreeMap Venue.VenueId VenueBook compare

namespace MultiVenueBook

def empty : MultiVenueBook := ⟨∅⟩

def addVenue (books : MultiVenueBook) (venueId : Venue.VenueId) : ErrorCode × MultiVenueBook :=
  if !Venue.isValidVenueId venueId then (.invalidArgument, books)
  else if books.venues.contains venueId then (.duplicate, books)
  else (.ok, ⟨books.venues.insert venueId (VenueBook.new venueId)⟩)

def apply (books : MultiVenueBook) (directory : InstrumentDirectory) (venueId : Venue.VenueId)
    (message : Message) : ErrorCode × MultiVenueBook :=
  match books.venues[venueId]? with
  | none => (.notFound, books)
  | some venue =>
      let result := venue.apply directory message
      (result.1, ⟨books.venues.insert venueId result.2⟩)

def bestBid (books : MultiVenueBook) (directory : InstrumentDirectory) (key : InstrumentKey) :
    Option Quote := do
  let venue ← books.venues[key.venueId]?
  venue.bestBid directory key

def bestAsk (books : MultiVenueBook) (directory : InstrumentDirectory) (key : InstrumentKey) :
    Option Quote := do
  let venue ← books.venues[key.venueId]?
  venue.bestAsk directory key

def containsVenue (books : MultiVenueBook) (venueId : Venue.VenueId) : Bool :=
  books.venues.contains venueId

/-- The quotes of a symbol, in the order its instruments were registered. -/
def bids (books : MultiVenueBook) (directory : InstrumentDirectory) (symbol : CanonicalSymbol) :
    List Quote :=
  (directory.instrumentsForSymbol symbol).filterMap (books.bestBid directory)

def asks (books : MultiVenueBook) (directory : InstrumentDirectory) (symbol : CanonicalSymbol) :
    List Quote :=
  (directory.instrumentsForSymbol symbol).filterMap (books.bestAsk directory)

/-- A registered venue gets the message. -/
theorem apply_of_venue {books : MultiVenueBook} {venueId : Venue.VenueId} {venue : VenueBook}
    (hvenue : books.venues[venueId]? = some venue) (directory : InstrumentDirectory)
    (message : Message) :
    (books.apply directory venueId message).1 = (venue.apply directory message).1 ∧
      (books.apply directory venueId message).2.venues[venueId]? =
        some (venue.apply directory message).2 := by
  unfold apply
  rw [hvenue]
  exact ⟨rfl, ExtTreeMap.getElem?_insert_self⟩

theorem addVenue_empty {venueId : Venue.VenueId}
    (hvenue : Venue.isValidVenueId venueId = true) :
    (empty.addVenue venueId).2.venues[venueId]? = some (VenueBook.new venueId) := by
  have habsent : (∅ : ExtTreeMap Venue.VenueId VenueBook compare).contains venueId = false :=
    ExtTreeMap.contains_empty
  simp only [addVenue, empty, hvenue, habsent, Bool.not_true, Bool.false_eq_true, if_false]
  exact ExtTreeMap.getElem?_insert_self

/-! ## One book at a time -/

/-- The book of a key, if it was made. -/
def bookAt (books : MultiVenueBook) (key : InstrumentKey) : Option SymbolOrderBook := do
  let venue ← books.venues[key.venueId]?
  venue.books[key.stockLocate]?

/-- Every venue is stored under its own id, which is a valid one. -/
def Routed (books : MultiVenueBook) : Prop :=
  ∀ venueId venue, books.venues[venueId]? = some venue →
    venue.venueId = venueId ∧ Venue.isValidVenueId venueId = true

/-- What a message makes of the book of its key, given whether the venue was added and the
key's metadata. -/
def bookEntry (isAdded : Bool) (metadata : Option InstrumentMetadata) (message : Message)
    (existing : Option SymbolOrderBook) : ErrorCode × Option SymbolOrderBook :=
  if !isAdded then (.notFound, existing)
  else if !VenueBook.affectsOrderBook message then (.ok, existing)
  else
    match metadata with
    | none => (.notFound, existing)
    | some metadata =>
        let book := existing.getD (SymbolOrderBook.new metadata.key metadata.stock)
        ((book.apply message).code, some (book.apply message).book)

/-- No book is made for a key that is not registered. -/
theorem bookEntry_none (isAdded : Bool) (message : Message) :
    (bookEntry isAdded none message none).2 = none := by
  unfold bookEntry
  split
  · rfl
  split <;> rfl

/-- The result of a call that makes something of one book. -/
structure ChangesBook (books : MultiVenueBook) (key : InstrumentKey)
    (entry : ErrorCode × Option SymbolOrderBook) (result : ErrorCode × MultiVenueBook) : Prop where
  code : result.1 = entry.1
  bookAt : ∀ other, result.2.bookAt other = if other = key then entry.2 else books.bookAt other
  containsVenue : ∀ venueId, result.2.containsVenue venueId = books.containsVenue venueId
  routed : result.2.Routed

section Books

variable {books : MultiVenueBook} {directory : InstrumentDirectory} {venueId : Venue.VenueId}

theorem containsVenue_eq_isSome (books : MultiVenueBook) (venueId : Venue.VenueId) :
    books.containsVenue venueId = books.venues[venueId]?.isSome :=
  ExtTreeMap.contains_eq_isSome_getElem?

theorem bookAt_of_not_containsVenue {key : InstrumentKey}
    (habsent : books.containsVenue key.venueId = false) : books.bookAt key = none := by
  rw [containsVenue_eq_isSome, Option.isSome_eq_false_iff, Option.isNone_iff_eq_none] at habsent
  rw [bookAt, habsent]
  rfl

theorem bookAt_of_venue {key : InstrumentKey} {venue : VenueBook}
    (hvenue : books.venues[key.venueId]? = some venue) :
    books.bookAt key = venue.books[key.stockLocate]? := by
  rw [bookAt, hvenue]
  rfl

theorem bookAt_insert (books : MultiVenueBook) (venueId : Venue.VenueId) (venue : VenueBook)
    (key : InstrumentKey) :
    bookAt ⟨books.venues.insert venueId venue⟩ key =
      if key.venueId = venueId then venue.books[key.stockLocate]? else books.bookAt key := by
  rw [bookAt, getElem?_insert_eq_ite]
  split
  · rename_i hvenue
    rw [if_pos hvenue.symm]
    rfl
  · rename_i hvenue
    rw [if_neg (fun heq => hvenue heq.symm)]
    rfl

theorem routed_insert (hrouted : books.Routed) {venue : VenueBook}
    (hid : venue.venueId = venueId) (hvalid : Venue.isValidVenueId venueId = true) :
    Routed ⟨books.venues.insert venueId venue⟩ := by
  intro other stored hstored
  rw [getElem?_insert_eq_ite] at hstored
  split at hstored
  · rename_i hother
    rw [← hother, ← Option.some.inj hstored]
    exact ⟨hid, hvalid⟩
  · exact hrouted other stored hstored

theorem empty_routed : empty.Routed := by
  intro venueId venue hvenue
  rw [empty, ExtTreeMap.getElem?_empty] at hvenue
  exact absurd hvenue nofun

section Venue

variable {venue : VenueBook} {message : Message}

/-- A book message for a registered key, with the book under the message's locate. -/
theorem venue_apply_of_findKey (hid : venue.venueId = venueId)
    (hvalid : Venue.isValidVenueId venueId = true) (hkeyed : directory.Keyed)
    (hbook : VenueBook.affectsOrderBook message = true) {metadata : InstrumentMetadata}
    (hfind : directory.findKey ⟨venueId, message.header.stockLocate⟩ = some metadata) :
    let outcome := (venue.books[message.header.stockLocate]?.getD
      (SymbolOrderBook.new metadata.key metadata.stock)).apply message
    venue.apply directory message = (outcome.code, { venue with
      books := venue.books.insert message.header.stockLocate outcome.book }) := by
  have hlocate : metadata.key.stockLocate = message.header.stockLocate := by
    rw [hkeyed _ metadata hfind]
  have hfound : directory.find venue.venueId message.header.stockLocate = some metadata := by
    rw [hid]
    exact hfind
  rw [VenueBook.apply_of_find (hid ▸ hvalid) hbook hfound, VenueBook.bookFor,
    ExtTreeMap.getD_eq_getD_getElem?, hlocate]

/-- A venue's books after a message. -/
theorem venue_apply_eq (hid : venue.venueId = venueId)
    (hvalid : Venue.isValidVenueId venueId = true) (hkeyed : directory.Keyed)
    (message : Message) :
    let entry := bookEntry true (directory.findKey ⟨venueId, message.header.stockLocate⟩) message
      venue.books[message.header.stockLocate]?
    (venue.apply directory message).1 = entry.1 ∧
      (venue.apply directory message).2.venueId = venueId ∧
      ∀ stockLocate, (venue.apply directory message).2.books[stockLocate]? =
        if stockLocate = message.header.stockLocate then entry.2
        else venue.books[stockLocate]? := by
  have hsame : ∀ stockLocate, venue.books[stockLocate]? =
      if stockLocate = message.header.stockLocate then venue.books[message.header.stockLocate]?
      else venue.books[stockLocate]? :=
    fun stockLocate => (ite_eq_right_iff.mpr (fun heq => by rw [heq])).symm
  cases hbook : VenueBook.affectsOrderBook message with
  | false =>
      have happly : venue.apply directory message = (.ok, venue) := by
        simp [VenueBook.apply, hid, hvalid, hbook]
      simp only [happly, bookEntry, hbook]
      exact ⟨rfl, hid, hsame⟩
  | true =>
      cases hfind : directory.findKey ⟨venueId, message.header.stockLocate⟩ with
      | none =>
          have hmetadata :
              venue.metadataFor directory (VenueBook.stockLocateFrom message) = none := by
            rw [VenueBook.metadataFor, hid]
            exact hfind
          have happly : venue.apply directory message = (.notFound, venue) := by
            simp [VenueBook.apply, hid, hvalid, hbook, hmetadata]
          simp only [happly, bookEntry, hbook]
          exact ⟨rfl, hid, hsame⟩
      | some metadata =>
          simp only [venue_apply_of_findKey hid hvalid hkeyed hbook hfind, bookEntry, hbook]
          refine ⟨rfl, hid, ?_⟩
          intro stockLocate
          rw [getElem?_insert_eq_ite]
          simp only [eq_comm]
          rfl

end Venue

theorem apply_of_not_containsVenue (habsent : books.containsVenue venueId = false)
    (message : Message) : books.apply directory venueId message = (.notFound, books) := by
  rw [containsVenue_eq_isSome, Option.isSome_eq_false_iff, Option.isNone_iff_eq_none] at habsent
  rw [apply, habsent]

theorem changesBook_unchanged (hrouted : books.Routed) (key : InstrumentKey) (code : ErrorCode) :
    ChangesBook books key (code, books.bookAt key) (code, books) := by
  refine ⟨rfl, ?_, fun _ => rfl, hrouted⟩
  intro other
  exact (ite_eq_right_iff.mpr (fun heq => by rw [heq])).symm

theorem apply_changesBook_of_venue (hrouted : books.Routed) (hkeyed : directory.Keyed)
    {venue : VenueBook} (hvenue : books.venues[venueId]? = some venue) (message : Message) :
    ChangesBook books ⟨venueId, message.header.stockLocate⟩
      (bookEntry true (directory.findKey ⟨venueId, message.header.stockLocate⟩) message
        (books.bookAt ⟨venueId, message.header.stockLocate⟩))
      (books.apply directory venueId message) := by
  rcases hrouted venueId venue hvenue with ⟨hid, hvalid⟩
  rcases venue_apply_eq hid hvalid hkeyed message with ⟨hcode, hid', hbooks⟩
  have happly : books.apply directory venueId message =
      ((venue.apply directory message).1,
        ⟨books.venues.insert venueId (venue.apply directory message).2⟩) := by
    rw [apply, hvenue]
  rw [happly, bookAt_of_venue hvenue]
  refine ⟨hcode, ?_, ?_, routed_insert hrouted hid' hvalid⟩
  · rintro ⟨otherVenue, otherLocate⟩
    rw [bookAt_insert, hbooks]
    by_cases hother : otherVenue = venueId
    · subst hother
      rw [if_pos rfl, bookAt_of_venue hvenue]
      simp only [InstrumentKey.mk.injEq, true_and]
    · rw [if_neg hother, if_neg]
      intro heq
      rw [InstrumentKey.mk.injEq] at heq
      exact hother heq.1
  · intro other
    rw [containsVenue_eq_isSome, containsVenue_eq_isSome, getElem?_insert_eq_ite]
    split
    · rename_i hother
      rw [← hother, hvenue]
      rfl
    · rfl

theorem apply_changesBook (hrouted : books.Routed) (hkeyed : directory.Keyed)
    (venueId : Venue.VenueId) (message : Message) :
    ChangesBook books ⟨venueId, message.header.stockLocate⟩
      (bookEntry (books.containsVenue venueId)
        (directory.findKey ⟨venueId, message.header.stockLocate⟩) message
        (books.bookAt ⟨venueId, message.header.stockLocate⟩))
      (books.apply directory venueId message) := by
  cases hadded : books.containsVenue venueId with
  | false =>
      rw [apply_of_not_containsVenue hadded]
      exact changesBook_unchanged hrouted _ _
  | true =>
      rw [containsVenue_eq_isSome, Option.isSome_iff_exists] at hadded
      rcases hadded with ⟨venue, hvenue⟩
      exact apply_changesBook_of_venue hrouted hkeyed hvenue message

/-- A new venue has no books yet. -/
theorem addVenue_bookAt (books : MultiVenueBook) (venueId : Venue.VenueId) (key : InstrumentKey) :
    (books.addVenue venueId).2.bookAt key = books.bookAt key := by
  unfold addVenue
  split
  · rfl
  split
  · rfl
  rename_i habsent
  rw [bookAt_insert]
  split
  · rename_i hvenue
    rw [bookAt_of_not_containsVenue]
    · exact ExtTreeMap.getElem?_empty
    · rw [hvenue]
      exact Bool.eq_false_of_not_eq_true habsent
  · rfl

theorem addVenue_containsVenue (books : MultiVenueBook) (added venueId : Venue.VenueId) :
    (books.addVenue added).2.containsVenue venueId = true ↔
      books.containsVenue venueId = true ∨
        (added = venueId ∧ Venue.isValidVenueId venueId = true) := by
  unfold addVenue
  split
  · rename_i hinvalid
    refine (or_iff_left ?_).symm
    rintro ⟨rfl, hvalid⟩
    rw [hvalid] at hinvalid
    cases hinvalid
  rename_i hvalid
  split
  · rename_i hpresent
    refine (or_iff_left_of_imp ?_).symm
    rintro ⟨rfl, -⟩
    exact hpresent
  · rw [containsVenue_eq_isSome, containsVenue_eq_isSome, getElem?_insert_eq_ite]
    split
    · rename_i hsame
      subst hsame
      exact iff_of_true rfl (Or.inr ⟨rfl, by simpa using hvalid⟩)
    · rename_i hother
      exact (or_iff_left (fun hadded => hother hadded.1)).symm

theorem addVenue_routed (hrouted : books.Routed) (venueId : Venue.VenueId) :
    (books.addVenue venueId).2.Routed := by
  unfold addVenue
  split
  · exact hrouted
  rename_i hvalid
  split
  · exact hrouted
  · exact routed_insert hrouted rfl (by simpa using hvalid)

/-! ## Quotes -/

/-- The quote of a key, given its metadata and its book. -/
def quoteFrom (best : SymbolOrderBook → Option Level) (metadata : Option InstrumentMetadata)
    (book : Option SymbolOrderBook) : Option Quote := do
  let level ← best (← book)
  return VenueBook.makeQuote (← metadata) level

theorem bestQuote_eq (hrouted : books.Routed) (best : SymbolOrderBook → Option Level)
    (directory : InstrumentDirectory) (key : InstrumentKey) :
    (do let venue ← books.venues[key.venueId]?
        VenueBook.bestQuote best venue directory key) =
      quoteFrom best (directory.findKey key) (books.bookAt key) := by
  rw [bookAt]
  cases hvenue : books.venues[key.venueId]? with
  | none => rfl
  | some venue =>
      have hid := (hrouted _ venue hvenue).1
      change VenueBook.bestQuote best venue directory key = _
      rw [VenueBook.bestQuote, if_neg (fun hne => hne hid.symm), VenueBook.metadataFor, hid]
      rfl

theorem bestBid_eq (hrouted : books.Routed) (directory : InstrumentDirectory)
    (key : InstrumentKey) : books.bestBid directory key =
      quoteFrom SymbolOrderBook.bestBid (directory.findKey key) (books.bookAt key) :=
  bestQuote_eq hrouted SymbolOrderBook.bestBid directory key

theorem bestAsk_eq (hrouted : books.Routed) (directory : InstrumentDirectory)
    (key : InstrumentKey) : books.bestAsk directory key =
      quoteFrom SymbolOrderBook.bestAsk (directory.findKey key) (books.bookAt key) :=
  bestQuote_eq hrouted SymbolOrderBook.bestAsk directory key

end Books

end MultiVenueBook

end Fgep.Book
