import GatedExecution.Book.VenueBook
import GatedExecution.Lib.Runs

/-!
# An instrument directory and the books over it

Directory messages, new venues and book messages arrive in any order.  The books of a
venue are made from the directory as it stands when a message needs them; still, each
key's quotes are those of one order book that was fed the key's own messages.

Main results:

- Theorem {lit}`step_projects`: an operation feeds the book of a registered key with the
  messages that are for it.
- Theorem {lit}`registered_or_projects`: what a run makes of a key.
- Theorem {lit}`quotes_projection`: the quotes of every key after every run.
-/

namespace Fgep.Book

open Itch Instrument Runs

/-! ## Markets -/

/-- A directory and the books that refer to it. -/
structure Market where
  directory : InstrumentDirectory
  books : MultiVenueBook
  keyed : directory.Keyed
  routed : books.Routed

inductive MarketOp where
  | stockDirectory (venueId : Venue.VenueId) (message : StockDirectoryMessage)
  | stockTradingAction (venueId : Venue.VenueId) (message : StockTradingActionMessage)
  | addVenue (venueId : Venue.VenueId)
  | apply (venueId : Venue.VenueId) (message : Message)

/-- The key that a message is for. -/
def MarketOp.target : MarketOp → Option InstrumentKey
  | .stockDirectory venueId message => some ⟨venueId, message.header.stockLocate⟩
  | .stockTradingAction venueId message => some ⟨venueId, message.header.stockLocate⟩
  | .addVenue _ => none
  | .apply venueId message => some ⟨venueId, message.header.stockLocate⟩

namespace Market

def empty : Market where
  directory := .empty
  books := .empty
  keyed := InstrumentDirectory.empty_keyed
  routed := MultiVenueBook.empty_routed

def step (market : Market) : MarketOp → Market
  | .stockDirectory venueId message =>
      { market with
        directory := (market.directory.applyStockDirectory venueId message).2
        keyed := (market.directory.applyStockDirectory_changesEntry venueId message).keyed
          (InstrumentDirectory.stockDirectoryEntry_entryStep venueId message _) market.keyed }
  | .stockTradingAction venueId message =>
      { market with
        directory := (market.directory.applyStockTradingAction venueId message).2
        keyed := (market.directory.applyStockTradingAction_changesEntry venueId message).keyed
          (InstrumentDirectory.stockTradingActionEntry_entryStep venueId message _)
          market.keyed }
  | .addVenue venueId =>
      { market with
        books := (market.books.addVenue venueId).2
        routed := MultiVenueBook.addVenue_routed market.routed venueId }
  | .apply venueId message =>
      { market with
        books := (market.books.apply market.directory venueId message).2
        routed :=
          (MultiVenueBook.apply_changesBook market.routed market.keyed venueId message).routed }

/-- The market after some operations on a new directory and new books. -/
def of (ops : List MarketOp) : Market :=
  ops.foldl step empty

theorem of_concat (ops : List MarketOp) (op : MarketOp) : of (ops ++ [op]) = (of ops).step op :=
  List.foldl_append

theorem step_stockDirectory_books (market : Market) (venueId : Venue.VenueId)
    (message : StockDirectoryMessage) :
    (market.step (.stockDirectory venueId message)).books = market.books := rfl

theorem step_apply_books (market : Market) (venueId : Venue.VenueId) (message : Message) :
    (market.step (.apply venueId message)).books =
      (market.books.apply market.directory venueId message).2 := rfl

def bestBid (market : Market) (key : InstrumentKey) : Option Quote :=
  market.books.bestBid market.directory key

def bestAsk (market : Market) (key : InstrumentKey) : Option Quote :=
  market.books.bestAsk market.directory key

/-- The key is registered, and its venue added. -/
def isServed (market : Market) (key : InstrumentKey) : Bool :=
  market.directory.contains key && market.books.containsVenue key.venueId

/-- The message an operation applies to a key's venue and locate, once the key is
registered and its venue added. -/
def fedBy (key : InstrumentKey) (market : Market) : MarketOp → List Message
  | .apply venueId message =>
      if (⟨venueId, message.header.stockLocate⟩ : InstrumentKey) = key ∧ market.isServed key then
        [message]
      else []
  | _ => []

/-- The messages a run feeds to a key, in order. -/
def fed (key : InstrumentKey) (ops : List MarketOp) : List Message :=
  (runOutputs step (fedBy key) empty ops).flatten

theorem fed_concat (key : InstrumentKey) (ops : List MarketOp) (op : MarketOp) :
    fed key (ops ++ [op]) = fed key ops ++ fedBy key (of ops) op := by
  rw [fed, runOutputs_append, List.flatten_append]
  exact congrArg (fun last => fed key ops ++ last) (List.append_nil _)

/-! ## Other keys -/

section Frame

variable {market : Market} {key : InstrumentKey} {op : MarketOp}

theorem step_findKey_of_ne (hother : op.target ≠ some key) :
    (market.step op).directory.findKey key = market.directory.findKey key := by
  cases op with
  | stockDirectory venueId message =>
      have hchange := market.directory.applyStockDirectory_changesEntry venueId message
      exact (hchange.findKey key).trans (if_neg (fun heq => hother (congrArg some heq.symm)))
  | stockTradingAction venueId message =>
      have hchange := market.directory.applyStockTradingAction_changesEntry venueId message
      exact (hchange.findKey key).trans (if_neg (fun heq => hother (congrArg some heq.symm)))
  | addVenue venueId => rfl
  | apply venueId message => rfl

theorem step_bookAt_of_ne (hother : op.target ≠ some key) :
    (market.step op).books.bookAt key = market.books.bookAt key := by
  cases op with
  | stockDirectory venueId message => rfl
  | stockTradingAction venueId message => rfl
  | addVenue venueId => exact market.books.addVenue_bookAt venueId key
  | apply venueId message =>
      have hchange := MultiVenueBook.apply_changesBook market.routed market.keyed venueId message
      exact (hchange.bookAt key).trans (if_neg (fun heq => hother (congrArg some heq.symm)))

theorem bestBid_eq (market : Market) (key : InstrumentKey) :
    market.bestBid key = MultiVenueBook.quoteFrom SymbolOrderBook.bestBid
      (market.directory.findKey key) (market.books.bookAt key) :=
  MultiVenueBook.bestBid_eq market.routed market.directory key

theorem bestAsk_eq (market : Market) (key : InstrumentKey) :
    market.bestAsk key = MultiVenueBook.quoteFrom SymbolOrderBook.bestAsk
      (market.directory.findKey key) (market.books.bookAt key) :=
  MultiVenueBook.bestAsk_eq market.routed market.directory key

end Frame

theorem quoteFrom_key {market : Market} {key : InstrumentKey}
    {best : SymbolOrderBook → Option Level} {book : Option SymbolOrderBook} {quote : Quote}
    (hquote : MultiVenueBook.quoteFrom best (market.directory.findKey key) book = some quote) :
    quote.key = key := by
  simp only [MultiVenueBook.quoteFrom, Option.bind_eq_bind, Option.bind_eq_some_iff] at hquote
  rcases hquote with ⟨made, -, level, -, metadata, hfind, hmade⟩
  rw [← Option.some.inj hmade]
  exact market.keyed key metadata hfind

theorem bestBid_key (market : Market) {key : InstrumentKey} {quote : Quote}
    (hquote : market.bestBid key = some quote) : quote.key = key :=
  quoteFrom_key ((market.bestBid_eq key).symm.trans hquote)

theorem bestAsk_key (market : Market) {key : InstrumentKey} {quote : Quote}
    (hquote : market.bestAsk key = some quote) : quote.key = key :=
  quoteFrom_key ((market.bestAsk_eq key).symm.trans hquote)

/-- No operation changes the stock of a registered key. -/
theorem step_stock_kept (market : Market) {key : InstrumentKey} {metadata : InstrumentMetadata}
    (hfind : market.directory.findKey key = some metadata) (op : MarketOp) :
    ∃ after, (market.step op).directory.findKey key = some after ∧
      after.stock = metadata.stock := by
  cases op with
  | stockDirectory venueId message =>
      have hentry := (market.directory.applyStockDirectory_changesEntry venueId message).entryStep
        (InstrumentDirectory.stockDirectoryEntry_entryStep venueId message _) key
      rw [hfind] at hentry
      exact hentry.stock_kept
  | stockTradingAction venueId message =>
      have hentry :=
        (market.directory.applyStockTradingAction_changesEntry venueId message).entryStep
          (InstrumentDirectory.stockTradingActionEntry_entryStep venueId message _) key
      rw [hfind] at hentry
      exact hentry.stock_kept
  | addVenue venueId => exact ⟨metadata, hfind, rfl⟩
  | apply venueId message => exact ⟨metadata, hfind, rfl⟩

/-! ## One key -/

/-- A registered key with the book it was fed.  A book that was not made yet counts as a
new one. -/
structure Projects (key : InstrumentKey) (stock : StockSymbol) (messages : List Message)
    (market : Market) : Prop where
  metadata : ∃ metadata, market.directory.findKey key = some metadata ∧ metadata.stock = stock
  book : (market.books.bookAt key).getD (SymbolOrderBook.new key stock) =
    (SymbolOrderBook.new key stock).applyAll messages

structure Unregistered (key : InstrumentKey) (market : Market) : Prop where
  findKey : market.directory.findKey key = none
  bookAt : market.books.bookAt key = none

theorem apply_book_of_not_affectsOrderBook (book : SymbolOrderBook) {message : Message}
    (hnot : VenueBook.affectsOrderBook message = false) : (book.apply message).book = book := by
  cases message <;> first | rfl | cases hnot

section Key

variable {market : Market} {key : InstrumentKey} {stock : StockSymbol} {messages : List Message}

theorem Projects.contains (hprojects : Projects key stock messages market) :
    market.directory.contains key = true := by
  rcases hprojects.metadata with ⟨metadata, hfind, -⟩
  rw [InstrumentDirectory.contains, hfind]
  rfl

theorem Unregistered.fedBy_eq (hunregistered : Unregistered key market) (op : MarketOp) :
    fedBy key market op = [] := by
  cases op with
  | apply venueId message =>
      refine if_neg ?_
      rintro ⟨-, hserved⟩
      rw [isServed, InstrumentDirectory.contains, hunregistered.findKey] at hserved
      exact Bool.false_ne_true hserved
  | _ => rfl

theorem fedBy_of_ne {op : MarketOp} (hother : op.target ≠ some key) :
    fedBy key market op = [] := by
  cases op with
  | apply venueId message => exact if_neg (fun h => hother (congrArg some h.1))
  | _ => rfl

/-- A message of the key goes to its book if the venue was added. -/
theorem apply_book (hprojects : Projects key stock messages market) (message : Message)
    (hkey : (⟨key.venueId, message.header.stockLocate⟩ : InstrumentKey) = key) :
    ((market.step (.apply key.venueId message)).books.bookAt key).getD
        (SymbolOrderBook.new key stock) =
      (SymbolOrderBook.new key stock).applyAll
        (messages ++ fedBy key market (.apply key.venueId message)) := by
  have hchange := MultiVenueBook.apply_changesBook market.routed market.keyed key.venueId message
  rw [hkey] at hchange
  rcases hprojects.metadata with ⟨metadata, hfind, hstock⟩
  rw [step_apply_books, hchange.bookAt, if_pos rfl, hfind, MultiVenueBook.bookEntry]
  cases hadded : market.books.containsVenue key.venueId with
  | false =>
      have hfed : fedBy key market (.apply key.venueId message) = [] := by
        refine if_neg ?_
        rintro ⟨-, hserved⟩
        rw [isServed, hadded, Bool.and_false] at hserved
        exact Bool.false_ne_true hserved
      rw [hfed, List.append_nil]
      exact hprojects.book
  | true =>
      have hfed : fedBy key market (.apply key.venueId message) = [message] := by
        refine if_pos ⟨hkey, ?_⟩
        rw [isServed, hprojects.contains, hadded]
        rfl
      rw [hfed, SymbolOrderBook.applyAll, List.foldl_append]
      change _ = (((SymbolOrderBook.new key stock).applyAll messages).apply message).book
      rw [← hprojects.book, Bool.not_true, if_neg Bool.false_ne_true]
      split
      · rename_i hnot
        rw [apply_book_of_not_affectsOrderBook]
        simpa using hnot
      · rw [market.keyed key metadata hfind, hstock]
        rfl

theorem step_projects (hprojects : Projects key stock messages market) (op : MarketOp) :
    Projects key stock (messages ++ fedBy key market op) (market.step op) := by
  refine ⟨?_, ?_⟩
  · rcases hprojects.metadata with ⟨metadata, hfind, hstock⟩
    rcases market.step_stock_kept hfind op with ⟨after, hafter, hkept⟩
    exact ⟨after, hafter, hkept.trans hstock⟩
  · by_cases htarget : op.target = some key
    · cases op with
      | apply venueId message =>
          have hkey := Option.some.inj htarget
          subst hkey
          exact apply_book hprojects message rfl
      | addVenue venueId => cases htarget
      | _ => exact hprojects.book.trans (congrArg _ (List.append_nil messages).symm)
    · rw [fedBy_of_ne htarget, List.append_nil, step_bookAt_of_ne htarget]
      exact hprojects.book

/-- Only a Stock Directory message registers a key. -/
theorem step_unregistered (hunregistered : Unregistered key market) (op : MarketOp) :
    Unregistered key (market.step op) ∨
      ∃ message, op = .stockDirectory key.venueId message ∧
        message.header.stockLocate = key.stockLocate ∧
        Projects key message.stock [] (market.step op) := by
  by_cases htarget : op.target = some key
  · cases op with
    | stockDirectory venueId message =>
        have hkey := Option.some.inj htarget
        subst hkey
        have hentry := (market.directory.applyStockDirectory_changesEntry venueId message).entryStep
          (InstrumentDirectory.stockDirectoryEntry_entryStep venueId message _)
          ⟨venueId, message.header.stockLocate⟩
        rw [hunregistered.findKey] at hentry
        generalize hafter : (market.directory.applyStockDirectory venueId message).2.findKey
          ⟨venueId, message.header.stockLocate⟩ = after at hentry
        cases hentry with
        | none => exact Or.inl ⟨hafter, hunregistered.bookAt⟩
        | registered metadata _ hstock =>
            refine Or.inr ⟨message, rfl, rfl, ⟨metadata, hafter, hstock⟩, ?_⟩
            rw [step_stockDirectory_books, hunregistered.bookAt]
            rfl
    | stockTradingAction venueId message =>
        have hkey := Option.some.inj htarget
        subst hkey
        have hchange := market.directory.applyStockTradingAction_changesEntry venueId message
        have hfind := hchange.findKey ⟨venueId, message.header.stockLocate⟩
        rw [if_pos rfl, hunregistered.findKey,
          InstrumentDirectory.stockTradingActionEntry_none] at hfind
        exact Or.inl ⟨hfind, hunregistered.bookAt⟩
    | addVenue venueId => cases htarget
    | apply venueId message =>
        have hkey := Option.some.inj htarget
        subst hkey
        refine Or.inl ⟨hunregistered.findKey, ?_⟩
        have hchange :=
          MultiVenueBook.apply_changesBook market.routed market.keyed venueId message
        rw [step_apply_books, hchange.bookAt, if_pos rfl, hunregistered.findKey,
          hunregistered.bookAt]
        exact MultiVenueBook.bookEntry_none _ _
  · refine Or.inl ⟨?_, ?_⟩
    · rw [step_findKey_of_ne htarget]
      exact hunregistered.findKey
    · rw [step_bookAt_of_ne htarget]
      exact hunregistered.bookAt

end Key

/-! ## Whole runs -/

theorem registered_or_projects (key : InstrumentKey) (ops : List MarketOp) :
    (Unregistered key (of ops) ∧ fed key ops = []) ∨
      ∃ before message after,
        ops = before ++ MarketOp.stockDirectory key.venueId message :: after ∧
        message.header.stockLocate = key.stockLocate ∧
        (of before).directory.contains key = false ∧
        (of (before ++ [.stockDirectory key.venueId message])).directory.contains key = true ∧
        Projects key message.stock (fed key ops) (of ops) := by
  induction ops using List.reverseRecOn with
  | nil =>
      refine Or.inl ⟨⟨?_, ?_⟩, rfl⟩
      · exact Std.ExtTreeMap.getElem?_empty
      · exact MultiVenueBook.bookAt_of_not_containsVenue Std.ExtTreeMap.contains_empty
  | append_singleton earlier op ih =>
      rw [fed_concat, of_concat]
      rcases ih with ⟨hunregistered, hnone⟩ | ⟨before, message, after, hsplit, hregisters⟩
      · rw [hnone, hunregistered.fedBy_eq]
        rcases step_unregistered hunregistered op with hstill | ⟨message, rfl, hlocate, hprojects⟩
        · exact Or.inl ⟨hstill, rfl⟩
        · refine Or.inr ⟨earlier, message, [], rfl, hlocate, ?_, ?_, hprojects⟩
          · rw [InstrumentDirectory.contains, hunregistered.findKey]
            rfl
          · rw [of_concat]
            exact hprojects.contains
      · rcases hregisters with ⟨hlocate, hbefore, hafter, hprojects⟩
        refine Or.inr ⟨before, message, after ++ [op], ?_, hlocate, hbefore, hafter,
          step_projects hprojects op⟩
        rw [hsplit, List.append_assoc, List.cons_append]

/-- A level of a key's book as a quote. -/
def quoteOf (key : InstrumentKey) (stock : StockSymbol) (level : Level) : Quote :=
  ⟨key, ⟨stock⟩, level.price, level.quantity, level.orderCount⟩

theorem Projects.quoteFrom_eq {market : Market} {key : InstrumentKey} {stock : StockSymbol}
    {messages : List Message} (hprojects : Projects key stock messages market)
    {best : SymbolOrderBook → Option Level} (hnew : best (SymbolOrderBook.new key stock) = none) :
    MultiVenueBook.quoteFrom best (market.directory.findKey key) (market.books.bookAt key) =
      (best ((SymbolOrderBook.new key stock).applyAll messages)).map (quoteOf key stock) := by
  rcases hprojects.metadata with ⟨metadata, hfind, hstock⟩
  have hbook := hprojects.book
  rw [hfind]
  cases hmade : market.books.bookAt key with
  | none =>
      rw [hmade, Option.getD_none] at hbook
      rw [← hbook, hnew]
      rfl
  | some book =>
      rw [hmade, Option.getD_some] at hbook
      have hquote : VenueBook.makeQuote metadata = quoteOf key stock := by
        funext level
        rw [VenueBook.makeQuote, market.keyed key metadata hfind, hstock]
        rfl
      rw [← hbook, ← hquote]
      cases hlevel : best book with
      | none =>
          change (best book).bind _ = none
          rw [hlevel]
          rfl
      | some level =>
          change (best book).bind _ = some (VenueBook.makeQuote metadata level)
          rw [hlevel]
          rfl

theorem quoteFrom_of_not_served {market : Market} {key : InstrumentKey}
    (hunserved : market.isServed key = false) (best : SymbolOrderBook → Option Level) :
    MultiVenueBook.quoteFrom best (market.directory.findKey key) (market.books.bookAt key) =
      none := by
  rw [isServed, Bool.and_eq_false_iff] at hunserved
  rcases hunserved with hunregistered | hnotAdded
  · rw [InstrumentDirectory.contains, Option.isSome_eq_false_iff,
      Option.isNone_iff_eq_none] at hunregistered
    rw [hunregistered]
    cases market.books.bookAt key with
    | none => rfl
    | some book =>
        change (best book).bind _ = none
        cases best book <;> rfl
  · rw [MultiVenueBook.bookAt_of_not_containsVenue hnotAdded]
    rfl

/-- Only {lit}`add_venue` adds a venue, and only under a valid number. -/
theorem step_containsVenue (market : Market) (op : MarketOp) (venueId : Venue.VenueId) :
    (market.step op).books.containsVenue venueId = true ↔
      market.books.containsVenue venueId = true ∨
        (op = .addVenue venueId ∧ Venue.isValidVenueId venueId = true) := by
  have hsame : ∀ books : MultiVenueBook,
      books.containsVenue venueId = market.books.containsVenue venueId →
      ¬(op = .addVenue venueId ∧ Venue.isValidVenueId venueId = true) →
      (books.containsVenue venueId = true ↔ market.books.containsVenue venueId = true ∨
        (op = .addVenue venueId ∧ Venue.isValidVenueId venueId = true)) := by
    intro books hbooks hnot
    rw [hbooks, or_iff_left hnot]
  cases op with
  | stockDirectory other message => exact hsame _ rfl (fun h => by cases h.1)
  | stockTradingAction other message => exact hsame _ rfl (fun h => by cases h.1)
  | apply other message =>
      have hchange := MultiVenueBook.apply_changesBook market.routed market.keyed other message
      exact hsame _ (hchange.containsVenue venueId) (fun h => by cases h.1)
  | addVenue other =>
      rw [MarketOp.addVenue.injEq]
      change (market.books.addVenue other).2.containsVenue venueId = true ↔ _
      exact MultiVenueBook.addVenue_containsVenue market.books other venueId

theorem of_containsVenue (ops : List MarketOp) (venueId : Venue.VenueId) :
    (of ops).books.containsVenue venueId = true ↔
      MarketOp.addVenue venueId ∈ ops ∧ Venue.isValidVenueId venueId = true := by
  induction ops using List.reverseRecOn with
  | nil =>
      have hnone : (of []).books.containsVenue venueId = false := Std.ExtTreeMap.contains_empty
      simp [hnone]
  | append_singleton ops op ih =>
      rw [of_concat, step_containsVenue, ih, List.mem_append, List.mem_singleton, or_and_right,
        @eq_comm _ op]

theorem bestBid_new (key : InstrumentKey) (stock : StockSymbol) :
    (SymbolOrderBook.new key stock).bestBid = none := rfl

theorem bestAsk_new (key : InstrumentKey) (stock : StockSymbol) :
    (SymbolOrderBook.new key stock).bestAsk = none := rfl

/-- The quotes of a key that is registered and whose venue was added are those of one book,
of the stock first registered for it, that was fed the key's own messages; other keys have no
quotes; a venue is added by {lit}`add_venue` alone; and a message for one key leaves the quotes
of the others. -/
theorem quotes_projection (ops : List MarketOp) (key : InstrumentKey) :
    let market := of ops
    (market.directory.contains key = true ∧ market.books.containsVenue key.venueId = true →
      ∃ before message after, ops = before ++ .stockDirectory key.venueId message :: after ∧
        message.header.stockLocate = key.stockLocate ∧
        (of before).directory.contains key = false ∧
        (of (before ++ [.stockDirectory key.venueId message])).directory.contains key = true ∧
        let book := (SymbolOrderBook.new key message.stock).applyAll (fed key ops)
        market.bestBid key = book.bestBid.map (quoteOf key message.stock) ∧
        market.bestAsk key = book.bestAsk.map (quoteOf key message.stock)) ∧
    (¬(market.directory.contains key = true ∧ market.books.containsVenue key.venueId = true) →
      market.bestBid key = none ∧ market.bestAsk key = none) ∧
    (market.books.containsVenue key.venueId = true ↔
      MarketOp.addVenue key.venueId ∈ ops ∧ Venue.isValidVenueId key.venueId = true) ∧
    (∀ op, op.target ≠ some key →
      (market.step op).bestBid key = market.bestBid key ∧
      (market.step op).bestAsk key = market.bestAsk key) := by
  intro market
  refine ⟨?_, ?_, of_containsVenue ops key.venueId, ?_⟩
  · rintro ⟨hregistered, -⟩
    rcases registered_or_projects key ops with
      ⟨hunregistered, -⟩ | ⟨before, message, after, hsplit, hlocate, hbefore, hafter, hprojects⟩
    · rw [InstrumentDirectory.contains, hunregistered.findKey] at hregistered
      exact absurd hregistered Bool.false_ne_true
    · refine ⟨before, message, after, hsplit, hlocate, hbefore, hafter, ?_, ?_⟩
      · rw [bestBid_eq]
        exact hprojects.quoteFrom_eq (bestBid_new key message.stock)
      · rw [bestAsk_eq]
        exact hprojects.quoteFrom_eq (bestAsk_new key message.stock)
  · intro hunserved
    rw [← Bool.and_eq_true, Bool.not_eq_true] at hunserved
    rw [bestBid_eq, bestAsk_eq]
    exact ⟨quoteFrom_of_not_served hunserved _, quoteFrom_of_not_served hunserved _⟩
  · intro op hother
    rw [bestBid_eq, bestAsk_eq, bestBid_eq, bestAsk_eq, step_findKey_of_ne hother,
      step_bookAt_of_ne hother]
    exact ⟨rfl, rfl⟩

/-- A venue is added, an instrument registered, and an order to buy rests in its book. -/
example :
    let blank : StockSymbol := List.Vector.replicate 8 32
    let directory : StockDirectoryMessage :=
      ⟨⟨5, 0, 0⟩, blank, 81, 78, 100, 78, 67, List.Vector.replicate 2 32, 80, 78, 78, 49, 78, 0, 78⟩
    let order : AddOrderNoMpidMessage := ⟨⟨5, 0, 0⟩, 1, .buy, 200, blank, 150000⟩
    let market := of [.addVenue 1, .stockDirectory 1 directory, .apply 1 (.addOrderNoMpid order)]
    (market.bestBid ⟨1, 5⟩).map (fun quote => (quote.price, quote.quantity, quote.orderCount)) =
        some (150000, 200, 1) ∧
      market.bestAsk ⟨1, 5⟩ = none ∧ market.bestBid ⟨2, 5⟩ = none := by
  decide +kernel

end Market

end Fgep.Book
