import GatedExecution.Book.Rejection
import GatedExecution.Instrument.DirectoryRuns
import GatedExecution.Replay.VenueFeeds

/-!
# Packets of a replay

A data packet is applied message by message until one fails.  Messages that come out of
the decoder are valid, and a valid message that fails has changed neither the directory
nor the contents of any book; so a packet leaves exactly what its messages before the
first failing one leave, and the last sequence number says where it stopped.

Main results:

- Theorem {lit}`applyMessages_cases`: the two ways in which the loop ends.
- Theorem {lit}`apply_refused`: a refused valid message changes no contents.
- Theorem {lit}`applyPacket_until_error`: the prefix law, for every reachable applier and
  every decoded data packet.
-/

namespace Fgep.Replay

open Book Instrument Itch Runs Wire

/-! ## Contents of the books -/

/-- The resting orders and the levels of a book. -/
structure BookContents where
  orders : Std.ExtTreeMap OrderReferenceNumber RestingOrder compare
  bids : BidLevels
  asks : AskLevels

/-- A book that was not made yet holds nothing. -/
def BookContents.of : Option SymbolOrderBook → BookContents
  | none => ⟨∅, ∅, ∅⟩
  | some book => ⟨book.orders, book.bids, book.asks⟩

namespace ItchReplayApplier

def contentsAt (applier : ItchReplayApplier) (key : InstrumentKey) : BookContents :=
  .of (applier.books.bookAt key)

/-- Two appliers with the same directory and, book by book, the same contents. -/
structure SameContents (first second : ItchReplayApplier) : Prop where
  directory : first.directory = second.directory
  contentsAt : ∀ key, first.contentsAt key = second.contentsAt key

theorem SameContents.trans {first second third : ItchReplayApplier}
    (hfirst : SameContents first second) (hsecond : SameContents second third) :
    SameContents first third :=
  ⟨hfirst.directory.trans hsecond.directory,
    fun key => (hfirst.contentsAt key).trans (hsecond.contentsAt key)⟩

theorem sameContents_of_core {first second : ItchReplayApplier}
    (hcore : first.core = second.core) : SameContents first second := by
  have hdirectory : first.directory = second.directory :=
    congrArg (fun core => core.2.1) hcore
  have hbooks : first.books = second.books := congrArg (fun core => core.2.2) hcore
  exact ⟨hdirectory, fun key => by rw [contentsAt, contentsAt, hbooks]⟩

/-! ## Statistics decide nothing -/

theorem apply_congr {first second : ItchReplayApplier} (hcore : first.core = second.core)
    (decodedMessage : DecodedItchMessage) :
    (first.apply decodedMessage).1 = (second.apply decodedMessage).1 ∧
      (first.apply decodedMessage).2.core = (second.apply decodedMessage).2.core := by
  rcases first with ⟨venueId, directory, books, stats⟩
  rcases second with ⟨venueId', directory', books', stats'⟩
  cases hcore
  rcases decodedMessage with ⟨sequenceNumber, message⟩
  cases message <;> exact ⟨rfl, rfl⟩

theorem applyAll_congr {first second : ItchReplayApplier} (hcore : first.core = second.core)
    (decodedMessages : List DecodedItchMessage) :
    (first.applyAll decodedMessages).core = (second.applyAll decodedMessages).core := by
  have hstep : ∀ (s t : ItchReplayApplier) (decodedMessage : DecodedItchMessage), True →
      s.core = t.core → (s.apply decodedMessage).2.core = (t.apply decodedMessage).2.core :=
    fun s t decodedMessage _ hcore => (apply_congr hcore decodedMessage).2
  exact simulation_states hstep (fun _ _ => trivial) hcore

theorem applyCodes_congr {first second : ItchReplayApplier} (hcore : first.core = second.core)
    (decodedMessages : List DecodedItchMessage) :
    first.applyCodes decodedMessages = second.applyCodes decodedMessages := by
  have hstep : ∀ (s t : ItchReplayApplier) (decodedMessage : DecodedItchMessage), True →
      s.core = t.core → (s.apply decodedMessage).2.core = (t.apply decodedMessage).2.core :=
    fun s t decodedMessage _ hcore => (apply_congr hcore decodedMessage).2
  have hout : ∀ (s t : ItchReplayApplier) (decodedMessage : DecodedItchMessage), True →
      s.core = t.core → (s.apply decodedMessage).1 = (t.apply decodedMessage).1 :=
    fun s t decodedMessage _ hcore => (apply_congr hcore decodedMessage).1
  exact simulation_outputs hstep hout (fun _ _ => trivial) hcore

/-- The counter that an accepted message of a kind raises. -/
def countAccepted (stats : ItchReplayApplyStats) : Itch.Message → ItchReplayApplyStats
  | .stockDirectory _ | .stockTradingAction _ =>
      { stats with instrumentMessages := stats.instrumentMessages + 1 }
  | .systemEvent _ | .tradeNonCross _ | .crossTrade _ | .brokenTrade _ =>
      { stats with ignoredMessages := stats.ignoredMessages + 1 }
  | _ => { stats with bookMessages := stats.bookMessages + 1 }

/-- What a call notes of its message before it is handed on. -/
def noteSequenceNumber (stats : ItchReplayApplyStats)
    (sequenceNumber : Moldudp64.SequenceNumber) : ItchReplayApplyStats :=
  { stats with hasLastSequenceNumber := true, lastSequenceNumber := sequenceNumber }

theorem apply_stats (applier : ItchReplayApplier) (decodedMessage : DecodedItchMessage) :
    (applier.apply decodedMessage).2.stats =
      if (applier.apply decodedMessage).1 = .ok then
        countAccepted (noteSequenceNumber applier.stats decodedMessage.sequenceNumber)
          decodedMessage.message
      else noteSequenceNumber applier.stats decodedMessage.sequenceNumber := by
  rcases decodedMessage with ⟨sequenceNumber, message⟩
  cases message <;> rfl

theorem apply_lastSequenceNumber (applier : ItchReplayApplier)
    (decodedMessage : DecodedItchMessage) :
    (applier.apply decodedMessage).2.stats.hasLastSequenceNumber = true ∧
      (applier.apply decodedMessage).2.stats.lastSequenceNumber =
        decodedMessage.sequenceNumber := by
  rw [apply_stats]
  split
  · cases decodedMessage.message <;> exact ⟨rfl, rfl⟩
  · exact ⟨rfl, rfl⟩

/-! ## The loop -/

/-- The count that the loop keeps of a message that failed. -/
def countFailed (applier : ItchReplayApplier) : ItchReplayApplier :=
  let stats := applier.stats
  { applier with stats := { stats with failedMessages := stats.failedMessages + 1 } }

/-- The loop goes through all messages, or it stops at the first that fails. -/
theorem applyMessages_cases (applier : ItchReplayApplier)
    (decodedMessages : List DecodedItchMessage) :
    ((∀ code ∈ applier.applyCodes decodedMessages, code = .ok) ∧
        applier.applyMessages decodedMessages = (.ok, applier.applyAll decodedMessages)) ∨
      ∃ before failing after, decodedMessages = before ++ failing :: after ∧
        (∀ code ∈ applier.applyCodes before, code = .ok) ∧
        ((applier.applyAll before).apply failing).1 ≠ .ok ∧
        applier.applyMessages decodedMessages =
          (((applier.applyAll before).apply failing).1,
            ((applier.applyAll before).apply failing).2.countFailed) := by
  induction decodedMessages generalizing applier with
  | nil => exact Or.inl ⟨fun code hmem => absurd hmem List.not_mem_nil, rfl⟩
  | cons decodedMessage rest ih =>
      rw [applyMessages]
      by_cases hcode : (applier.apply decodedMessage).1 = .ok
      · rw [if_neg (not_not_intro hcode)]
        rcases ih (applier.apply decodedMessage).2 with
          ⟨hcodes, hresult⟩ | ⟨before, failing, after, hsplit, hcodes, hfailed, hresult⟩
        · refine Or.inl ⟨?_, hresult⟩
          rw [applyCodes_cons]
          exact List.forall_mem_cons.mpr ⟨hcode, hcodes⟩
        · refine Or.inr ⟨decodedMessage :: before, failing, after, ?_, ?_, hfailed, hresult⟩
          · rw [hsplit, List.cons_append]
          · rw [applyCodes_cons]
            exact List.forall_mem_cons.mpr ⟨hcode, hcodes⟩
      · rw [if_pos hcode]
        exact Or.inr ⟨[], decodedMessage, rest, rfl,
          fun code hmem => absurd hmem List.not_mem_nil, hcode, rfl⟩

/-- Messages that go through are behind the loop. -/
theorem applyMessages_append {applier : ItchReplayApplier} {front : List DecodedItchMessage}
    (hcodes : ∀ code ∈ applier.applyCodes front, code = .ok) (rest : List DecodedItchMessage) :
    applier.applyMessages (front ++ rest) = (applier.applyAll front).applyMessages rest := by
  induction front generalizing applier with
  | nil => rfl
  | cons decodedMessage front ih =>
      rw [applyCodes_cons, List.forall_mem_cons] at hcodes
      rw [List.cons_append, applyMessages, if_neg (not_not_intro hcodes.1)]
      exact ih hcodes.2

/-- The applier at the start of the loop over a data packet. -/
def beginData (applier : ItchReplayApplier) : ItchReplayApplier :=
  let stats := { applier.stats with packets := applier.stats.packets + 1 }
  { applier with stats := { stats with dataPackets := stats.dataPackets + 1 } }

theorem applyPacket_data {applier : ItchReplayApplier} {packet : MoldUdp64ItchReplayPacket}
    (hvenue : Venue.isValidVenueId applier.venueId = true) (hdata : packet.kind = .data) :
    applier.applyPacket packet = applier.beginData.applyMessages packet.messages := by
  rw [applyPacket, hvenue, hdata]
  rfl

/-- A data packet that goes through has had all its messages applied. -/
theorem applyPacket_ok {applier : ItchReplayApplier} {packet : MoldUdp64ItchReplayPacket}
    (hvenue : Venue.isValidVenueId applier.venueId = true) (hdata : packet.kind = .data)
    (hok : (applier.applyPacket packet).1 = .ok) :
    (∀ code ∈ applier.beginData.applyCodes packet.messages, code = .ok) ∧
      (applier.applyPacket packet).2 = applier.beginData.applyAll packet.messages := by
  rw [applyPacket_data hvenue hdata] at hok ⊢
  rcases applyMessages_cases applier.beginData packet.messages with
    ⟨hcodes, hend⟩ | ⟨before, failing, after, -, -, hfailed, hend⟩
  · exact ⟨hcodes, by rw [hend]⟩
  · rw [hend] at hok
    exact absurd hok hfailed

/-! ## Refused messages -/

section Refused

variable {applier : ItchReplayApplier}

/-- A valid book message that is refused leaves the contents of its book. -/
theorem contents_bookEntry {message : Itch.Message} (hvalid : Itch.isEncodable message = true)
    (isAdded : Bool) (metadata : Option InstrumentMetadata) (existing : Option SymbolOrderBook)
    (hrefused : (MultiVenueBook.bookEntry isAdded metadata message existing).1 ≠ .ok) :
    BookContents.of (MultiVenueBook.bookEntry isAdded metadata message existing).2 =
      BookContents.of existing := by
  unfold MultiVenueBook.bookEntry at hrefused ⊢
  split
  · rfl
  rename_i hadded
  rw [if_neg hadded] at hrefused
  split
  · rfl
  rename_i haffects
  rw [if_neg haffects] at hrefused
  cases metadata with
  | none => rfl
  | some metadata =>
      dsimp only at hrefused ⊢
      -- Reference number zero is what the validity check of a replacement rules out.
      have hkeeps : ∀ book : SymbolOrderBook,
          ¬∃ replace, message = .orderReplace replace ∧ book.LosesOrder replace := by
        rintro book ⟨replace, rfl, hloses⟩
        have hzero := hloses.2.2.2.2
        simp only [Itch.isEncodable, isValidMessage, isValidOrderReplaceMessage,
          Bool.and_eq_true] at hvalid
        have hinvalid := SymbolOrderBook.isValidOrderReferenceNumber_eq_false_iff.mpr hzero
        rw [hvalid.1.1.1.2] at hinvalid
        cases hinvalid
      rw [SymbolOrderBook.apply_keepsOnError (hkeeps _) hrefused]
      cases existing <;> rfl

/-- A refused valid message changes neither the directory nor the contents of a book. -/
theorem apply_refused (hkeyed : applier.directory.Keyed) (hrouted : applier.books.Routed)
    {decodedMessage : DecodedItchMessage}
    (hvalid : Itch.isEncodable decodedMessage.message = true)
    (hrefused : (applier.apply decodedMessage).1 ≠ .ok) :
    SameContents (applier.apply decodedMessage).2 applier := by
  rcases decodedMessage with ⟨sequenceNumber, message⟩
  cases hbook : VenueBook.affectsOrderBook message with
  | true =>
      obtain ⟨hcode, hcore⟩ := applier.apply_bookMessage sequenceNumber hbook
      have hchange := MultiVenueBook.apply_changesBook hrouted hkeyed applier.venueId message
      rw [hcode, hchange.code] at hrefused
      have hafter : SameContents (applier.apply ⟨sequenceNumber, message⟩).2 { applier with
          books := (applier.books.apply applier.directory applier.venueId message).2 } :=
        sameContents_of_core hcore
      refine hafter.trans ⟨rfl, fun key => ?_⟩
      rw [contentsAt, contentsAt, hchange.bookAt]
      split
      · rename_i hkey
        rw [hkey]
        exact contents_bookEntry hvalid _ _ _ hrefused
      · rfl
  | false =>
      cases message with
      | stockDirectory message =>
          exact ⟨applier.directory.applyCall_keptIfRefused
            (.stockDirectory applier.venueId message) hrefused, fun _ => rfl⟩
      | stockTradingAction message =>
          exact ⟨applier.directory.applyCall_keptIfRefused
            (.stockTradingAction applier.venueId message) hrefused, fun _ => rfl⟩
      | systemEvent _ | tradeNonCross _ | crossTrade _ | brokenTrade _ =>
          exact absurd rfl hrefused
      | _ => cases hbook

end Refused

end ItchReplayApplier

/-! ## Decoded packets -/

/-- A decoded payload is an encodable message under the number of its block. -/
theorem decodeItchMessages_eq_ok {blocks : List Moldudp64.MessageBlock}
    {before decoded : List DecodedItchMessage}
    (hdecode : decodeItchMessages blocks before = .ok decoded) :
    ∃ added, decoded = before ++ added ∧
      added.map (·.sequenceNumber) = blocks.map (·.sequenceNumber) ∧
      ∀ decodedMessage ∈ added, Itch.isEncodable decodedMessage.message = true := by
  induction blocks generalizing before with
  | nil =>
      cases hdecode
      exact ⟨[], (List.append_nil _).symm, rfl, fun _ hmem => absurd hmem List.not_mem_nil⟩
  | cons block rest ih =>
      rw [decodeItchMessages, Result.bind_eq_ok_iff] at hdecode
      obtain ⟨message, hmessage, hrest⟩ := hdecode
      obtain ⟨added, hadded, hnumbers, hencodable⟩ := ih hrest
      refine ⟨⟨block.sequenceNumber, message⟩ :: added, ?_, ?_, ?_⟩
      · rw [hadded, List.append_assoc, List.singleton_append]
      · rw [List.map_cons, List.map_cons, hnumbers]
      · exact List.forall_mem_cons.mpr
          ⟨(Itch.decodeMessage_eq_ok_iff.mp hmessage).1, hencodable⟩

/-- A decoded data packet carries at least one message, under distinct sequence numbers,
and all its messages are encodable. -/
theorem decodeMoldudp64ItchPacket_eq_ok {bytes : Bytes} {packet : MoldUdp64ItchReplayPacket}
    (hdecode : decodeMoldudp64ItchPacket bytes = .ok packet) (hdata : packet.kind = .data) :
    packet.messages ≠ [] ∧ (packet.messages.map (·.sequenceNumber)).Nodup ∧
      ∀ decodedMessage ∈ packet.messages, Itch.isEncodable decodedMessage.message = true := by
  rw [decodeMoldudp64ItchPacket, Result.bind_eq_ok_iff] at hdecode
  obtain ⟨moldPacket, hmold, hrest⟩ := hdecode
  split at hrest
  · -- A packet without blocks keeps its kind.
    rename_i hkind
    cases hrest
    cases hmoldKind : moldPacket.kind <;> simp_all [toReplayPacketKind]
  · rename_i hkind
    obtain ⟨hblocks, hnumbers⟩ :=
      Moldudp64.decodeDownstreamPacket_data hmold (not_not.mp hkind)
    obtain ⟨messages, hmessages, hpacket⟩ := Result.bind_eq_ok_iff.mp hrest
    cases hpacket
    obtain ⟨added, hadded, hsame, hencodable⟩ := decodeItchMessages_eq_ok hmessages
    rw [List.nil_append] at hadded
    subst hadded
    refine ⟨?_, ?_, hencodable⟩
    · intro (hnil : messages = [])
      rw [hnil, List.map_nil] at hsame
      exact hblocks (List.map_eq_nil_iff.mp hsame.symm)
    · rw [hsame]
      apply List.Nodup.of_map UInt64.toNat
      rw [List.map_map]
      change (moldPacket.messages.map (·.sequenceNumber.toNat)).Nodup
      rw [hnumbers]
      exact List.nodup_range'

/-! ## Reachable appliers -/

/-- What can happen to an applier and to the directory and the books it refers to. -/
inductive ReplayOp where
  | directoryCall (call : DirectoryCall)
  | addVenue (venueId : Venue.VenueId)
  | bookCall (venueId : Venue.VenueId) (message : Itch.Message)
  | applyPacket (packet : MoldUdp64ItchReplayPacket)
  | apply (decodedMessage : DecodedItchMessage)

namespace ItchReplayApplier

def perform (applier : ItchReplayApplier) : ReplayOp → ItchReplayApplier
  | .directoryCall call => { applier with directory := (applier.directory.applyCall call).2 }
  | .addVenue venueId => { applier with books := (applier.books.addVenue venueId).2 }
  | .bookCall venueId message =>
      { applier with books := (applier.books.apply applier.directory venueId message).2 }
  | .applyPacket packet => (applier.applyPacket packet).2
  | .apply decodedMessage => (applier.apply decodedMessage).2

/-- An applier over a directory and books that were new when the history began. -/
def reached (venueId : Venue.VenueId) (ops : List ReplayOp) : ItchReplayApplier :=
  ops.foldl perform ⟨venueId, .empty, .empty, {}⟩

/-- What every reachable applier relies on. -/
structure Sound (venueId : Venue.VenueId) (applier : ItchReplayApplier) : Prop where
  venueId : applier.venueId = venueId
  keyed : applier.directory.Keyed
  routed : applier.books.Routed

section Sound

variable {venueId : Venue.VenueId} {applier : ItchReplayApplier}

theorem Sound.isValidVenueId (hsound : applier.Sound venueId)
    (hvenue : Venue.isValidVenueId venueId = true) :
    Venue.isValidVenueId applier.venueId = true := by
  rw [hsound.venueId]
  exact hvenue

theorem Sound.of_core (hsound : applier.Sound venueId) {other : ItchReplayApplier}
    (hcore : other.core = applier.core) : other.Sound venueId := by
  rcases applier with ⟨_, _, _, stats⟩
  rcases other with ⟨_, _, _, stats'⟩
  cases hcore
  exact ⟨hsound.venueId, hsound.keyed, hsound.routed⟩

theorem Sound.apply (hsound : applier.Sound venueId) (decodedMessage : DecodedItchMessage) :
    (applier.apply decodedMessage).2.Sound venueId :=
  ⟨(applier.apply_venueId decodedMessage).trans hsound.venueId,
    apply_keyed hsound.keyed decodedMessage,
    apply_routed hsound.keyed hsound.routed decodedMessage⟩

theorem Sound.applyAll (hsound : applier.Sound venueId)
    (decodedMessages : List DecodedItchMessage) :
    (applier.applyAll decodedMessages).Sound venueId := by
  have hstep : ∀ (current : ItchReplayApplier) (decodedMessage : DecodedItchMessage), True →
      current.Sound venueId → (current.apply decodedMessage).2.Sound venueId :=
    fun current decodedMessage _ hsound => hsound.apply decodedMessage
  exact foldl_invariant hstep hsound (fun _ _ => trivial)

theorem Sound.applyPacket (hsound : applier.Sound venueId)
    (packet : MoldUdp64ItchReplayPacket) : (applier.applyPacket packet).2.Sound venueId := by
  unfold ItchReplayApplier.applyPacket
  split
  · exact hsound
  dsimp only
  split
  · have hbegun : applier.beginData.Sound venueId := hsound.of_core rfl
    rcases applyMessages_cases applier.beginData packet.messages with
      ⟨-, hresult⟩ | ⟨before, failing, after, -, -, -, hresult⟩
    · exact hresult ▸ hbegun.applyAll packet.messages
    · have hstopped := (hbegun.applyAll before).apply failing
      exact hresult ▸ hstopped.of_core rfl
  · exact hsound.of_core rfl
  · exact hsound.of_core rfl

theorem Sound.perform (hsound : applier.Sound venueId) (op : ReplayOp) :
    (applier.perform op).Sound venueId := by
  cases op with
  | directoryCall call =>
      refine ⟨hsound.venueId, ?_, hsound.routed⟩
      have hchange := applier.directory.applyCall_changesEntry call
      cases call with
      | stockDirectory venueId message =>
          exact hchange.keyed
            (InstrumentDirectory.stockDirectoryEntry_entryStep venueId message _) hsound.keyed
      | stockTradingAction venueId message =>
          exact hchange.keyed
            (InstrumentDirectory.stockTradingActionEntry_entryStep venueId message _) hsound.keyed
  | addVenue added =>
      exact ⟨hsound.venueId, hsound.keyed, MultiVenueBook.addVenue_routed hsound.routed added⟩
  | bookCall venueId message =>
      exact ⟨hsound.venueId, hsound.keyed,
        (MultiVenueBook.apply_changesBook hsound.routed hsound.keyed venueId message).routed⟩
  | applyPacket packet => exact hsound.applyPacket packet
  | apply decodedMessage => exact hsound.apply decodedMessage

theorem reached_sound (venueId : Venue.VenueId) (ops : List ReplayOp) :
    (reached venueId ops).Sound venueId := by
  have hstep : ∀ (current : ItchReplayApplier) (op : ReplayOp), True →
      current.Sound venueId → (current.perform op).Sound venueId :=
    fun current op _ hsound => hsound.perform op
  exact foldl_invariant hstep
    ⟨rfl, InstrumentDirectory.empty_keyed, MultiVenueBook.empty_routed⟩ (fun _ _ => trivial)

end Sound

/-! ## The prefix law -/

theorem applyAll_lastSequenceNumber (applier : ItchReplayApplier)
    {decodedMessages : List DecodedItchMessage} (hsome : decodedMessages ≠ []) :
    (applier.applyAll decodedMessages).stats.hasLastSequenceNumber = true ∧
      some (applier.applyAll decodedMessages).stats.lastSequenceNumber =
        (decodedMessages.map (·.sequenceNumber)).getLast? := by
  rcases List.eq_nil_or_concat decodedMessages with rfl | ⟨front, last, rfl⟩
  · exact absurd rfl hsome
  · rw [List.concat_eq_append, applyAll, List.foldl_append, List.map_append, List.map_singleton,
      List.getLast?_concat]
    obtain ⟨hnoted, hlast⟩ := (applier.applyAll front).apply_lastSequenceNumber last
    exact ⟨hnoted, congrArg some hlast⟩

/-- A decoded data packet leaves what its messages, applied one at a time, leave before
the first that fails. -/
theorem applyPacket_until_error {venueId : Venue.VenueId}
    (hvenue : Venue.isValidVenueId venueId = true) (ops : List ReplayOp) {bytes : Bytes}
    {packet : MoldUdp64ItchReplayPacket}
    (hdecode : decodeMoldudp64ItchPacket bytes = .ok packet) (hdata : packet.kind = .data) :
    let applier := reached venueId ops
    let result := applier.applyPacket packet
    (packet.messages.map (·.sequenceNumber)).Nodup ∧
      result.2.stats.hasLastSequenceNumber = true ∧
      (((∀ code ∈ applier.applyCodes packet.messages, code = .ok) ∧ result.1 = .ok ∧
          SameContents result.2 (applier.applyAll packet.messages) ∧
          some result.2.stats.lastSequenceNumber =
            (packet.messages.map (·.sequenceNumber)).getLast?) ∨
        ∃ before failing after, packet.messages = before ++ failing :: after ∧
          (∀ code ∈ applier.applyCodes before, code = .ok) ∧
          ((applier.applyAll before).apply failing).1 ≠ .ok ∧
          result.1 = ((applier.applyAll before).apply failing).1 ∧
          SameContents result.2 (applier.applyAll before) ∧
          result.2.stats.lastSequenceNumber = failing.sequenceNumber) := by
  intro applier result
  have hsound : applier.Sound venueId := reached_sound venueId ops
  obtain ⟨hsome, hdistinct, hencodable⟩ := decodeMoldudp64ItchPacket_eq_ok hdecode hdata
  have hcore : applier.beginData.core = applier.core := rfl
  have hresult : result = applier.beginData.applyMessages packet.messages :=
    applyPacket_data (hsound.isValidVenueId hvenue) hdata
  refine ⟨hdistinct, ?_⟩
  rcases applyMessages_cases applier.beginData packet.messages with
    ⟨hcodes, hend⟩ | ⟨before, failing, after, hsplit, hcodes, hfailed, hend⟩
  · rw [applyCodes_congr hcore] at hcodes
    rw [hresult, hend]
    obtain ⟨hnoted, hlast⟩ := applier.beginData.applyAll_lastSequenceNumber hsome
    exact ⟨hnoted, Or.inl ⟨hcodes, rfl, sameContents_of_core (applyAll_congr hcore _), hlast⟩⟩
  · have hbefore := applyAll_congr hcore before
    have hstep := apply_congr hbefore failing
    obtain ⟨hnoted, hlast⟩ := (applier.beginData.applyAll before).apply_lastSequenceNumber failing
    rw [applyCodes_congr hcore] at hcodes
    rw [hstep.1] at hfailed
    rw [hresult, hend]
    refine ⟨hnoted, Or.inr ⟨before, failing, after, hsplit, hcodes, hfailed, hstep.1, ?_, hlast⟩⟩
    have hsound' := hsound.applyAll before
    have hmember : failing ∈ packet.messages := by
      rw [hsplit]
      exact List.mem_append_right _ List.mem_cons_self
    have hstopped : SameContents ((applier.beginData.applyAll before).apply failing).2.countFailed
        ((applier.applyAll before).apply failing).2 :=
      sameContents_of_core hstep.2
    exact hstopped.trans
      (apply_refused hsound'.keyed hsound'.routed (hencodable failing hmember) hfailed)

/-! A packet whose third message deletes an order that is not there. -/

/-- The bytes of a data packet. -/
def dataBytes (first : Moldudp64.SequenceNumber) (messages : List Itch.Message) : Bytes :=
  Moldudp64.wireBytes ⟨List.Vector.replicate 10 (asciiByte 'S'), first,
    UInt16.ofNat messages.length, .data,
    Moldudp64.numberFrom first 0 (messages.map Itch.wireBytes)⟩

def dataPacket (first : Moldudp64.SequenceNumber) (messages : List Itch.Message) :
    MoldUdp64ItchReplayPacket :=
  ⟨List.Vector.replicate 10 (asciiByte 'S'), first, UInt16.ofNat messages.length, .data,
    numberMessages first 0 messages⟩

def stoppingMessages : List Itch.Message :=
  [(SharedReplay.listing 7).message, (SharedReplay.buyOrder 7).message,
    .orderDelete ⟨⟨7, 0, 0⟩, 9⟩, .orderDelete ⟨⟨7, 0, 0⟩, 5⟩]

theorem applyPacket_until_error_stoppingMessages :
    let applier := reached 1 [.addVenue 1]
    let packet := dataPacket 1 stoppingMessages
    let result := applier.applyPacket packet
    decodeMoldudp64ItchPacket (dataBytes 1 stoppingMessages) = .ok packet ∧
      result.1 = .notFound ∧ result.2.stats.lastSequenceNumber = 3 ∧
      ∃ before failing after, packet.messages = before ++ failing :: after ∧
        SameContents result.2 (applier.applyAll before) ∧
        result.2.stats.lastSequenceNumber = failing.sequenceNumber := by
  intro applier packet result
  have hdecode : decodeMoldudp64ItchPacket (dataBytes 1 stoppingMessages) = .ok packet := by
    decide +kernel
  have hcode : result.1 = .notFound := by decide +kernel
  refine ⟨hdecode, hcode, by decide +kernel, ?_⟩
  have hvenue : Venue.isValidVenueId 1 = true := by decide
  rcases (applyPacket_until_error hvenue [.addVenue 1] hdecode rfl).2.2 with
    ⟨-, hok, -⟩ | ⟨before, failing, after, hsplit, -, -, -, hsame, hlast⟩
  · rw [hcode] at hok
    cases hok
  · dsimp only [result, applier]
    exact ⟨before, failing, after, hsplit, hsame, hlast⟩

end ItchReplayApplier

end Fgep.Replay
