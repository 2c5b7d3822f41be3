import GatedExecution.Replay.Redelivery

/-!
# The accounts of a replay

A message that a handler accepts raises one of three counters, in the code that both
overloads of {lit}`apply` share.  A message that a handler refuses raises
{lit}`failed_messages` in the loop over a packet only, so what is missing from the accounts
is the number of refused messages that were handed over one at a time.

Main results:

- Theorem {lit}`apply_code_eq_ok_iff`: which messages a handler accepts, from the
  directory and the books alone.
- Theorem {lit}`applyMessages_stats`: the loop over a packet accounts for what it hands on.
- Theorem {lit}`replay_accounting`: the accounts of every history, and when they are
  complete.
- Theorem {lit}`replay_accounting_refused`: a refused message that no counter shows.
-/

namespace Fgep.Replay.ItchReplayApplier

open Book Instrument Itch Runs

/-! ## Which messages are accepted -/

/-- The handler of a message, as it is before the call, accepts it. -/
def accepts (applier : ItchReplayApplier) (message : Itch.Message) : Bool :=
  match directoryCall? applier.venueId message with
  | some call => call.isValid && call.fits (applier.directory.findKey call.key)
  | none =>
      !VenueBook.affectsOrderBook message ||
        applier.books.containsVenue applier.venueId &&
          (applier.directory.findKey ⟨applier.venueId, message.header.stockLocate⟩).any
            (fun metadata =>
              ((applier.books.bookAt ⟨applier.venueId, message.header.stockLocate⟩).getD
                (SymbolOrderBook.new metadata.key metadata.stock)).accepts message)

theorem apply_code_eq_ok_iff {applier : ItchReplayApplier} {venueId : Venue.VenueId}
    (hsound : applier.Sound venueId) (decodedMessage : DecodedItchMessage) :
    (applier.apply decodedMessage).1 = .ok ↔ applier.accepts decodedMessage.message = true := by
  rw [accepts]
  cases hcall : directoryCall? applier.venueId decodedMessage.message with
  | some call =>
      rw [(apply_directoryCall hcall).1, InstrumentDirectory.applyCall_code_eq_ok_iff,
        Bool.and_eq_true]
  | none =>
      cases hbook : VenueBook.affectsOrderBook decodedMessage.message with
      | false => exact iff_of_true (apply_ignored hbook hcall).1 rfl
      | true =>
          have hchange := MultiVenueBook.apply_changesBook hsound.routed hsound.keyed
            applier.venueId decodedMessage.message
          rw [(applier.apply_bookMessage decodedMessage.sequenceNumber hbook).1, hchange.code,
            MultiVenueBook.bookEntry_code_eq_ok_iff hbook, Bool.not_true, Bool.false_or,
            Bool.and_eq_true]

/-! ## One message -/

/-- The messages that the statistics account for. -/
def accounted (stats : ItchReplayApplyStats) : UInt64 :=
  stats.instrumentMessages + stats.bookMessages + stats.ignoredMessages + stats.failedMessages

/-- The counters of packets. -/
def packetCounts (stats : ItchReplayApplyStats) : UInt64 × UInt64 × UInt64 × UInt64 :=
  (stats.packets, stats.dataPackets, stats.heartbeatPackets, stats.endOfSessionPackets)

/-- Messages were handed on with these codes, except that failures among them that are
{lit}`uncounted` left no trace. -/
structure AccountsFor (before after : ItchReplayApplyStats) (codes : List ErrorCode)
    (uncounted : Nat) : Prop where
  accounted : ItchReplayApplier.accounted after + UInt64.ofNat uncounted =
    ItchReplayApplier.accounted before + UInt64.ofNat codes.length
  failed : after.failedMessages + UInt64.ofNat uncounted =
    before.failedMessages + UInt64.ofNat (codes.countP (· ≠ .ok))

theorem AccountsFor.trans {first second third : ItchReplayApplyStats}
    {codes codes' : List ErrorCode} {uncounted uncounted' : Nat}
    (hfirst : AccountsFor first second codes uncounted)
    (hsecond : AccountsFor second third codes' uncounted') :
    AccountsFor first third (codes ++ codes') (uncounted + uncounted') := by
  obtain ⟨haccounted, hfailed⟩ := hfirst
  obtain ⟨haccounted', hfailed'⟩ := hsecond
  constructor
  · rw [List.length_append, UInt64.ofNat_add, UInt64.ofNat_add]
    grind
  · rw [List.countP_append, UInt64.ofNat_add, UInt64.ofNat_add]
    grind

theorem countAccepted_accounted (stats : ItchReplayApplyStats) (message : Itch.Message) :
    accounted (countAccepted stats message) = accounted stats + 1 ∧
      (countAccepted stats message).failedMessages = stats.failedMessages ∧
      packetCounts (countAccepted stats message) = packetCounts stats := by
  cases message <;> refine ⟨?_, rfl, rfl⟩ <;> simp only [countAccepted, accounted] <;> grind

/-- One message by itself: a refusal is not counted. -/
theorem apply_accountsFor (applier : ItchReplayApplier) (decodedMessage : DecodedItchMessage) :
    let result := applier.apply decodedMessage
    AccountsFor applier.stats result.2.stats [result.1] (if result.1 = .ok then 0 else 1) ∧
      packetCounts result.2.stats = packetCounts applier.stats := by
  intro result
  have hstats := applier.apply_stats decodedMessage
  have hcounted := countAccepted_accounted
    (noteSequenceNumber applier.stats decodedMessage.sequenceNumber) decodedMessage.message
  by_cases hok : result.1 = .ok
  · rw [if_pos hok] at hstats
    obtain ⟨haccounted, hfailed, hpackets⟩ := hcounted
    refine ⟨⟨?_, ?_⟩, ?_⟩
    · rw [hstats, haccounted, if_pos hok]
      exact UInt64.add_zero _
    · rw [hstats, hfailed, hok]
      rfl
    · rw [hstats, hpackets]
      rfl
  · rw [if_neg hok] at hstats
    refine ⟨⟨?_, ?_⟩, ?_⟩
    · rw [hstats, if_neg hok]
      rfl
    · rw [hstats, if_neg hok, List.countP_singleton, if_pos (decide_eq_true hok)]
      rfl
    · rw [hstats]
      rfl

/-! ## The loop over a packet -/

/-- The codes of the messages that the loop hands on, up to the first that fails. -/
def loopCodes (applier : ItchReplayApplier) : List DecodedItchMessage → List ErrorCode
  | [] => []
  | decodedMessage :: rest =>
      let result := applier.apply decodedMessage
      if result.1 ≠ .ok then [result.1] else result.1 :: result.2.loopCodes rest

theorem accountsFor_nil (stats : ItchReplayApplyStats) : AccountsFor stats stats [] 0 :=
  ⟨rfl, rfl⟩

/-- The loop counts the failure that ends it. -/
theorem applyMessages_stats (applier : ItchReplayApplier)
    (decodedMessages : List DecodedItchMessage) :
    let result := applier.applyMessages decodedMessages
    AccountsFor applier.stats result.2.stats (applier.loopCodes decodedMessages) 0 ∧
      packetCounts result.2.stats = packetCounts applier.stats := by
  induction decodedMessages generalizing applier with
  | nil => exact ⟨accountsFor_nil _, rfl⟩
  | cons decodedMessage rest ih =>
      obtain ⟨hone, hpackets⟩ := applier.apply_accountsFor decodedMessage
      rw [applyMessages, loopCodes]
      by_cases hok : (applier.apply decodedMessage).1 = .ok
      · rw [if_neg (not_not_intro hok), if_neg (not_not_intro hok)]
        rw [if_pos hok] at hone
        obtain ⟨hrest, hrestPackets⟩ := ih (applier.apply decodedMessage).2
        exact ⟨hone.trans hrest, hrestPackets.trans hpackets⟩
      · rw [if_pos hok, if_pos hok]
        rw [if_neg hok] at hone
        refine ⟨⟨?_, ?_⟩, hpackets⟩
        · have haccounted := hone.accounted
          simp only [accounted] at haccounted ⊢
          grind
        · have hfailed := hone.failed
          grind

/-! ## Whole histories -/

/-- The codes of the messages that an operation hands to a handler. -/
def handedCodes (applier : ItchReplayApplier) : ReplayOp → List ErrorCode
  | .applyPacket packet =>
      if Venue.isValidVenueId applier.venueId = true ∧ packet.kind = .data then
        applier.beginData.loopCodes packet.messages
      else []
  | .apply decodedMessage => [(applier.apply decodedMessage).1]
  | _ => []

/-- A call of the overload for single messages whose handler refuses. -/
def refusesSingle (applier : ItchReplayApplier) : ReplayOp → Bool
  | .apply decodedMessage => !applier.accepts decodedMessage.message
  | _ => false

/-- The codes of all messages that a history hands on. -/
def codesOf (venueId : Venue.VenueId) (ops : List ReplayOp) : List ErrorCode :=
  (runOutputs perform handedCodes (reached venueId []) ops).flatten

/-- How many single messages of a history were refused. -/
def refusedSingles (venueId : Venue.VenueId) (ops : List ReplayOp) : Nat :=
  (runOutputs perform refusesSingle (reached venueId []) ops).countP (· = true)

/-- Every packet is of one of the three kinds. -/
def PacketsBalanced (stats : ItchReplayApplyStats) : Prop :=
  stats.packets = stats.dataPackets + stats.heartbeatPackets + stats.endOfSessionPackets

theorem packetsBalanced_of_packetCounts {before after : ItchReplayApplyStats}
    (hcounts : packetCounts after = packetCounts before) (hbalanced : PacketsBalanced before) :
    PacketsBalanced after := by
  simp only [packetCounts, Prod.mk.injEq] at hcounts
  rw [PacketsBalanced, hcounts.1, hcounts.2.1, hcounts.2.2.1, hcounts.2.2.2]
  exact hbalanced

section Step

variable {applier : ItchReplayApplier} {venueId : Venue.VenueId}

theorem applyPacket_accounts (applier : ItchReplayApplier) (packet : MoldUdp64ItchReplayPacket)
    (hbalanced : PacketsBalanced applier.stats) :
    AccountsFor applier.stats (applier.applyPacket packet).2.stats
        (applier.handedCodes (.applyPacket packet)) 0 ∧
      PacketsBalanced (applier.applyPacket packet).2.stats := by
  rw [PacketsBalanced] at hbalanced
  cases hvenue : Venue.isValidVenueId applier.venueId with
  | false =>
      rw [applyPacket, hvenue]
      simp only [handedCodes, hvenue]
      exact ⟨accountsFor_nil _, hbalanced⟩
  | true =>
      cases hkind : packet.kind with
      | data =>
          rw [applyPacket_data hvenue hkind, handedCodes, if_pos ⟨hvenue, hkind⟩]
          obtain ⟨haccounts, hcounts⟩ := applier.beginData.applyMessages_stats packet.messages
          refine ⟨⟨haccounts.accounted, haccounts.failed⟩,
            packetsBalanced_of_packetCounts hcounts ?_⟩
          simp only [PacketsBalanced, beginData]
          grind
      | heartbeat =>
          simp only [applyPacket, handedCodes, hvenue, hkind]
          refine ⟨⟨rfl, rfl⟩, ?_⟩
          simp only [PacketsBalanced]
          grind
      | endOfSession =>
          simp only [applyPacket, handedCodes, hvenue, hkind]
          refine ⟨⟨rfl, rfl⟩, ?_⟩
          simp only [PacketsBalanced]
          grind

theorem perform_accounts (hsound : applier.Sound venueId)
    (hbalanced : PacketsBalanced applier.stats) (op : ReplayOp) :
    AccountsFor applier.stats (applier.perform op).stats (applier.handedCodes op)
        (if applier.refusesSingle op then 1 else 0) ∧
      PacketsBalanced (applier.perform op).stats := by
  cases op with
  | directoryCall _ | addVenue _ | bookCall _ _ => exact ⟨accountsFor_nil _, hbalanced⟩
  | applyPacket packet => exact applier.applyPacket_accounts packet hbalanced
  | apply decodedMessage =>
      obtain ⟨haccounts, hcounts⟩ := applier.apply_accountsFor decodedMessage
      refine ⟨?_, packetsBalanced_of_packetCounts hcounts hbalanced⟩
      have huncounted : (if applier.refusesSingle (.apply decodedMessage) then 1 else 0) =
          if (applier.apply decodedMessage).1 = .ok then 0 else 1 := by
        cases haccepts : applier.accepts decodedMessage.message <;>
          simp [refusesSingle, haccepts, apply_code_eq_ok_iff hsound]
      rw [huncounted]
      exact haccounts

end Step

theorem reached_accounts (venueId : Venue.VenueId) (ops : List ReplayOp) :
    AccountsFor {} (reached venueId ops).stats (codesOf venueId ops)
        (refusedSingles venueId ops) ∧
      PacketsBalanced (reached venueId ops).stats := by
  induction ops using List.reverseRecOn with
  | nil => exact ⟨accountsFor_nil _, rfl⟩
  | append_singleton earlier op ih =>
      obtain ⟨haccounts, hbalanced⟩ := ih
      have hstart : earlier.foldl perform (reached venueId []) = reached venueId earlier := rfl
      have hlast : reached venueId (earlier ++ [op]) = (reached venueId earlier).perform op := by
        rw [reached, List.foldl_append]
        rfl
      obtain ⟨hstep, hbalanced'⟩ := perform_accounts (reached_sound venueId earlier) hbalanced op
      have hcodes : codesOf venueId (earlier ++ [op]) =
          codesOf venueId earlier ++ (reached venueId earlier).handedCodes op := by
        rw [codesOf, runOutputs_append, List.flatten_append, hstart]
        exact congrArg _ (List.append_nil _)
      have hrefused : refusedSingles venueId (earlier ++ [op]) =
          refusedSingles venueId earlier +
            if (reached venueId earlier).refusesSingle op then 1 else 0 := by
        rw [refusedSingles, runOutputs_append, List.countP_append, hstart]
        simp only [runOutputs, List.countP_singleton, decide_eq_true_eq]
        rfl
      rw [hlast, hcodes, hrefused]
      exact ⟨haccounts.trans hstep, hbalanced'⟩

/-- The packet counters always agree.  The message counters account for every message that
was handed on, and for every failure, exactly when no message that was handed over by itself
was refused (up to the range of the counters). -/
theorem replay_accounting (venueId : Venue.VenueId) (ops : List ReplayOp) :
    let stats := (reached venueId ops).stats
    let codes := codesOf venueId ops
    stats.packets = stats.dataPackets + stats.heartbeatPackets + stats.endOfSessionPackets ∧
      ((stats.instrumentMessages + stats.bookMessages + stats.ignoredMessages
            + stats.failedMessages = UInt64.ofNat codes.length ∧
          stats.failedMessages = UInt64.ofNat (codes.countP (· ≠ .ok))) ↔
        refusedSingles venueId ops % 2 ^ 64 = 0) := by
  intro stats codes
  obtain ⟨⟨haccounted, hfailed⟩, hbalanced⟩ := reached_accounts venueId ops
  refine ⟨hbalanced, ?_⟩
  have hzero : refusedSingles venueId ops % 2 ^ 64 = 0 ↔
      UInt64.ofNat (refusedSingles venueId ops) = 0 := by
    rw [← UInt64.toNat_inj, UInt64.toNat_ofNat', UInt64.toNat_zero]
  have hempty : accounted {} = 0 := rfl
  have hnone : ({} : ItchReplayApplyStats).failedMessages = 0 := rfl
  rw [hempty] at haccounted
  rw [hnone] at hfailed
  rw [hzero]
  constructor
  · rintro ⟨-, hcounted⟩
    change stats.failedMessages + _ = _ at hfailed
    grind
  · intro hnothing
    rw [hnothing] at haccounted hfailed
    constructor
    · change stats.instrumentMessages + stats.bookMessages + stats.ignoredMessages
        + stats.failedMessages + 0 = _ at haccounted
      grind
    · change stats.failedMessages + 0 = _ at hfailed
      grind

/-- A Delete of an order that is not there, handed over by itself. -/
theorem replay_accounting_refused :
    let ops : List ReplayOp := [.apply ⟨1, .orderDelete ⟨⟨7, 0, 0⟩, 9⟩⟩]
    let stats := (reached 1 ops).stats
    Venue.isValidVenueId 1 = true ∧ codesOf 1 ops = [.notFound] ∧
      stats.instrumentMessages + stats.bookMessages + stats.ignoredMessages
        + stats.failedMessages = 0 ∧
      stats.failedMessages = 0 := by
  decide +kernel

end Fgep.Replay.ItchReplayApplier
