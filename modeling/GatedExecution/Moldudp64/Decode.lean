import GatedExecution.Moldudp64.Packet

/-!
# MoldUDP64 decoding

{lit}`decode_downstream_packet` of {lit}`moldudp64/moldudp64_decode.cpp`: the
fixed header, and for data packets a loop over length-prefixed blocks with a
running offset.

Main results:

- Theorem {lit}`decodeMessageBlocks_eq_ok_iff`: what the loop accepts and where
  it stops.
- Theorem {lit}`decodeDownstreamPacket_eq_ok_iff`: a byte string decodes to a
  packet exactly when the packet is encodable and representable and the string
  is its wire form.
-/

namespace Fgep.Moldudp64

open Wire Buffer

/-! ## The decoder -/

def readSession (bytes : Bytes) (offset : Nat) : Result Session :=
  if hrange : hasRange bytes offset lengthSession = true then
    .ok ⟨(bytes.drop offset).take lengthSession, by
      rw [hasRange_iff] at hrange
      rw [List.length_take, List.length_drop]
      omega⟩
  else
    .error .parseError

def sequenceNumberWouldWrap (firstSequenceNumber : SequenceNumber)
    (zeroBasedMessageIndex : Nat) : Bool :=
  0xFFFFFFFFFFFFFFFF - UInt64.ofNat zeroBasedMessageIndex < firstSequenceNumber

/-- The loop over message blocks: rounds left, current index, running offset and
the blocks pushed so far. -/
def decodeMessageBlocks (bytes : Bytes) (firstSequenceNumber : SequenceNumber) :
    Nat → Nat → Nat → List MessageBlock → Result (Nat × List MessageBlock)
  | 0, _, offset, messages => .ok (offset, messages)
  | remaining + 1, index, offset, messages => do
      ensure (!sequenceNumberWouldWrap firstSequenceNumber index) .parseError
      let messageLength ← readU16Be bytes offset
      ensure (hasRange bytes (offset + sizeMessageLength) messageLength.toNat) .parseError
      let payload := (bytes.drop (offset + sizeMessageLength)).take messageLength.toNat
      decodeMessageBlocks bytes firstSequenceNumber remaining (index + 1)
        (offset + sizeMessageLength + messageLength.toNat)
        (messages ++ [⟨firstSequenceNumber + UInt64.ofNat index, payload⟩])

def decodeDownstreamPacket (bytes : Bytes) : Result DownstreamPacket := do
  ensure (hasRange bytes 0 lengthDownstreamHeader) .parseError
  let session ← readSession bytes offsetSession
  let firstSequenceNumber ← readU64Be bytes offsetSequenceNumber
  let messageCount ← readU16Be bytes offsetMessageCount
  let kind := packetKindFromMessageCount messageCount
  if isSpecialMessageCount messageCount then
    ensure (bytes.length == lengthDownstreamHeader) .parseError
    return { session, firstSequenceNumber, messageCount, kind, messages := [] }
  else
    let (offset, messages) ← decodeMessageBlocks bytes firstSequenceNumber
      messageCount.toNat 0 lengthDownstreamHeader []
    ensure (offset == bytes.length) .parseError
    return { session, firstSequenceNumber, messageCount, kind, messages }

/-! ## Specifications -/

theorem readSession_eq_ok_iff {bytes : Bytes} {offset : Nat} {session : Session} :
    readSession bytes offset = .ok session ↔ HoldsAt bytes offset session.toList := by
  unfold readSession
  constructor
  · intro h
    split at h
    · cases h
      simp [HoldsAt, List.Vector.toList]
    · cases h
  · intro h
    have hne : session.toList ≠ [] := by
      rw [← List.length_pos_iff, List.Vector.toList_length]
      decide
    have hfit := h.length_le hne
    rw [List.Vector.toList_length] at hfit
    rw [dif_pos (hasRange_iff.mpr hfit)]
    congr 1
    apply List.Vector.eq
    rw [HoldsAt, List.Vector.toList_length] at h
    exact h

/-- The subtraction in the wrap test does not itself wrap, so the test compares
natural numbers. -/
theorem sequenceNumberWouldWrap_eq_false_iff {first : SequenceNumber} {index : Nat}
    (hindex : index < 2 ^ 64) :
    sequenceNumberWouldWrap first index = false ↔ first.toNat + index < 2 ^ 64 := by
  have hofNat : (UInt64.ofNat index).toNat = index := by
    rw [UInt64.toNat_ofNat', Nat.mod_eq_of_lt hindex]
  have hmax : (0xFFFFFFFFFFFFFFFF : UInt64).toNat = 2 ^ 64 - 1 := by decide
  have hle : UInt64.ofNat index ≤ (0xFFFFFFFFFFFFFFFF : UInt64) := by
    rw [UInt64.le_iff_toNat_le, hofNat, hmax]
    omega
  rw [sequenceNumberWouldWrap, decide_eq_false_iff_not, UInt64.lt_iff_toNat_lt,
    UInt64.toNat_sub_of_le _ _ hle, hofNat, hmax]
  omega

/-- Reading a length and then that many bytes finds exactly the block at the
offset. -/
theorem block_iff {bytes payload : Bytes} {offset : Nat} {messageLength : MessageLength} :
    (HoldsAt bytes offset (u16Bytes messageLength) ∧
        offset + 2 + messageLength.toNat ≤ bytes.length ∧
          (bytes.drop (offset + 2)).take messageLength.toNat = payload) ↔
      payload.length = messageLength.toNat ∧ HoldsAt bytes offset (blockBytes payload) := by
  rw [blockBytes, holdsAt_append, u16Bytes_length]
  constructor
  · rintro ⟨hlength, hfit, rfl⟩
    have htaken : ((bytes.drop (offset + 2)).take messageLength.toNat).length =
        messageLength.toNat := by
      rw [List.length_take, List.length_drop]
      omega
    rw [htaken, UInt16.ofNat_toNat]
    refine ⟨rfl, hlength, ?_⟩
    rw [HoldsAt, htaken]
  · rintro ⟨hsize, hlength, hpayload⟩
    rw [hsize, UInt16.ofNat_toNat] at hlength
    rw [← hsize]
    refine ⟨hlength, ?_, hpayload⟩
    -- An empty payload only needs its length field inside the packet.
    have hfield := hlength.length_le (by rw [← List.length_pos_iff, u16Bytes_length]; decide)
    rw [u16Bytes_length] at hfield
    by_cases hempty : payload = []
    · subst hempty
      exact hfield
    · exact hpayload.length_le hempty

/-- The loop succeeds exactly on the announced number of blocks, one after the
other from the offset, and numbers them from the current index on. -/
theorem decodeMessageBlocks_eq_ok_iff {bytes : Bytes} {first : SequenceNumber}
    {remaining index offset stop : Nat} {before messages : List MessageBlock}
    (hindex : index + remaining ≤ 2 ^ 64) :
    decodeMessageBlocks bytes first remaining index offset before = .ok (stop, messages) ↔
      ∃ payloads : List Bytes, payloads.length = remaining ∧
        (∀ payload ∈ payloads, payload.length ≤ 0xFFFF) ∧
        (remaining = 0 ∨ first.toNat + index + remaining ≤ 2 ^ 64) ∧
        HoldsAt bytes offset (blocksBytes payloads) ∧
        stop = offset + (blocksBytes payloads).length ∧
        messages = before ++ numberFrom first index payloads := by
  induction remaining generalizing index offset before with
  | zero =>
      simp only [decodeMessageBlocks, Except.ok.injEq, Prod.mk.injEq,
        List.length_eq_zero_iff, existsAndEq, List.not_mem_nil, false_imp_iff, implies_true,
        true_or, true_and, blocksBytes_nil, List.length_nil, numberFrom, holdsAt_nil,
        Nat.add_zero, List.append_nil]
      tauto
  | succ remaining ih =>
      simp only [decodeMessageBlocks, Result.bind_eq_ok_iff, Result.ensure_eq_ok_iff,
        exists_const, Bool.not_eq_true', readU16Be_eq_ok_iff, hasRange_iff,
        sizeMessageLength,
        sequenceNumberWouldWrap_eq_false_iff (show index < 2 ^ 64 by omega),
        ih (show index + 1 + remaining ≤ 2 ^ 64 by omega)]
      constructor
      · intro h
        rcases h with ⟨hwrap, messageLength, hlength, hfit, rest, hcount, hfits, hwraps,
          hrest, hstop, hmessages⟩
        obtain ⟨hsize, hblock⟩ := block_iff.mp ⟨hlength, hfit, rfl⟩
        generalize (bytes.drop (offset + 2)).take messageLength.toNat = payload
          at hsize hblock hmessages
        refine ⟨payload :: rest, by simp [hcount], ?_, by omega, ?_, ?_, ?_⟩
        · have hlt := messageLength.toNat_lt
          rw [List.forall_mem_cons]
          exact ⟨by omega, hfits⟩
        · rw [blocksBytes_cons, holdsAt_append, blockBytes_length, hsize, ← Nat.add_assoc]
          exact ⟨hblock, hrest⟩
        · rw [hstop, blocksBytes_cons, List.length_append, blockBytes_length, hsize]
          omega
        · rw [hmessages, numberFrom, List.append_assoc, List.singleton_append]
      · intro h
        rcases h with ⟨payloads, hcount, hfits, hwraps, hholds, hstop, hmessages⟩
        cases payloads with
        | nil => simp at hcount
        | cons payload rest =>
            rw [List.length_cons, Nat.add_right_cancel_iff] at hcount
            rw [List.forall_mem_cons] at hfits
            rw [blocksBytes_cons, holdsAt_append, blockBytes_length] at hholds
            obtain ⟨messageLength, hsize⟩ : ∃ messageLength : MessageLength,
                payload.length = messageLength.toNat :=
              ⟨_, (UInt16.toNat_ofNat_of_lt' (Nat.lt_succ_of_le hfits.1)).symm⟩
            obtain ⟨hlength, hfit, hpayload⟩ := block_iff.mpr ⟨hsize, hholds.1⟩
            refine ⟨by omega, messageLength, hlength, hfit, rest, hcount, hfits.2, by omega,
              ?_, ?_, ?_⟩
            · rw [← hsize, Nat.add_assoc]
              exact hholds.2
            · rw [hstop, blocksBytes_cons, List.length_append, blockBytes_length, hsize]
              omega
            · rw [hmessages, hpayload, numberFrom, List.append_assoc, List.singleton_append]

/-- A special count has no blocks; any other count is that of a data packet. -/
theorem packetKindFromMessageCount_eq_data_iff {messageCount : MessageCount} :
    packetKindFromMessageCount messageCount = .data ↔
      isSpecialMessageCount messageCount = false := by
  unfold packetKindFromMessageCount isSpecialMessageCount
  by_cases hheartbeat : messageCount = heartbeatMessageCount
  · simp [hheartbeat]
  · by_cases hend : messageCount = endOfSessionMessageCount
    · subst hend
      decide
    · simp [hheartbeat, hend]

theorem isSpecialMessageCount_eq_false_iff {messageCount : MessageCount} :
    isSpecialMessageCount messageCount = false ↔
      1 ≤ messageCount.toNat ∧ messageCount.toNat ≤ 0xFFFE := by
  have hlt := messageCount.toNat_lt
  have hzero : messageCount = 0 ↔ messageCount.toNat = 0 := by
    rw [← UInt16.toNat_inj]
    rfl
  have hmax : messageCount = 0xFFFF ↔ messageCount.toNat = 0xFFFF := by
    rw [← UInt16.toNat_inj]
    rfl
  simp only [isSpecialMessageCount, Bool.or_eq_false_iff, beq_eq_false_iff_ne, ne_eq, hzero,
    hmax]
  omega

/-- What encodable and representable packets look like, by message count. -/
theorem encodable_and_representable_iff {packet : DownstreamPacket} :
    isEncodable packet = true ∧ IsRepresentable packet ↔
      packet.kind = packetKindFromMessageCount packet.messageCount ∧
        if isSpecialMessageCount packet.messageCount then packet.messages = []
        else packet.messages.length = packet.messageCount.toNat ∧
          packet.firstSequenceNumber.toNat + packet.messageCount.toNat ≤ 2 ^ 64 ∧
            blocksEncodable packet.firstSequenceNumber 0 packet.messages = true := by
  rcases packet with ⟨session, first, messageCount, kind, messages⟩
  have hspecial := @isSpecialMessageCount_eq_false_iff messageCount
  have hdistinct : endOfSessionMessageCount ≠ heartbeatMessageCount := by decide
  by_cases hcount : isSpecialMessageCount messageCount = true
  · have hnot : ¬(1 ≤ messageCount.toNat ∧ messageCount.toNat ≤ 0xFFFE) := by
      rw [← hspecial, hcount]
      decide
    have hkinds : messageCount = heartbeatMessageCount ∨
        messageCount = endOfSessionMessageCount := by
      simpa [isSpecialMessageCount] using hcount
    simp only [hcount, if_true]
    rcases hkinds with rfl | rfl
    · cases kind with
      | data => simp only [isEncodable, IsRepresentable, packetKindFromMessageCount]; tauto
      | heartbeat => simp [isEncodable, IsRepresentable, packetKindFromMessageCount]
      | endOfSession =>
          simp [isEncodable, IsRepresentable, packetKindFromMessageCount, hdistinct.symm]
    · cases kind with
      | data =>
          simp only [isEncodable, IsRepresentable, packetKindFromMessageCount, beq_iff_eq,
            hdistinct, if_false, if_true, reduceCtorEq]
          tauto
      | heartbeat => simp [isEncodable, IsRepresentable, packetKindFromMessageCount, hdistinct]
      | endOfSession =>
          simp [isEncodable, IsRepresentable, packetKindFromMessageCount, hdistinct]
  · rw [Bool.not_eq_true] at hcount
    have hdata := packetKindFromMessageCount_eq_data_iff.mpr hcount
    have hrange := hspecial.mp hcount
    simp only [isSpecialMessageCount, Bool.or_eq_false_iff, beq_eq_false_iff_ne] at hcount
    cases kind with
    | data =>
        simp only [isEncodable, IsRepresentable, hdata, hcount, isSpecialMessageCount,
          beq_iff_eq, Bool.and_eq_true, true_and, forall_const, Bool.or_eq_true, or_self,
          if_false]
        have harith : first.toNat + messageCount.toNat - 1 < 2 ^ 64 ↔
            first.toNat + messageCount.toNat ≤ 2 ^ 64 := by omega
        tauto
    | heartbeat => simp [isEncodable, hdata, hcount]
    | endOfSession => simp [isEncodable, hdata, hcount]

theorem holdsAt_headerBytes {bytes : Bytes} {session : Session} {first : SequenceNumber}
    {messageCount : MessageCount} :
    HoldsAt bytes 0 (headerBytes session first messageCount) ↔
      HoldsAt bytes offsetSession session.toList ∧
        HoldsAt bytes offsetSequenceNumber (u64Bytes first) ∧
          HoldsAt bytes offsetMessageCount (u16Bytes messageCount) := by
  simp only [headerBytes, holdsAt_append, List.Vector.toList_length, u64Bytes_length,
    lengthSession, Nat.reduceAdd]

/-- The decoder reads a header and, unless the count is special, runs the loop to
the last byte. -/
theorem decodeDownstreamPacket_eq_ok_iff_header {bytes : Bytes} {packet : DownstreamPacket} :
    decodeDownstreamPacket bytes = .ok packet ↔
      HoldsAt bytes 0 (headerBytes packet.session packet.firstSequenceNumber
          packet.messageCount) ∧
        packet.kind = packetKindFromMessageCount packet.messageCount ∧
          if isSpecialMessageCount packet.messageCount then
            bytes.length = lengthDownstreamHeader ∧ packet.messages = []
          else
            decodeMessageBlocks bytes packet.firstSequenceNumber packet.messageCount.toNat 0
              lengthDownstreamHeader [] = .ok (bytes.length, packet.messages) := by
  rcases packet with ⟨session, first, messageCount, kind, messages⟩
  have hfit : HoldsAt bytes offsetMessageCount (u16Bytes messageCount) →
      hasRange bytes 0 lengthDownstreamHeader = true := by
    intro h
    have hlen := h.length_le (by rw [← List.length_pos_iff, u16Bytes_length]; decide)
    rw [u16Bytes_length] at hlen
    exact hasRange_iff.mpr (by omega)
  rw [holdsAt_headerBytes]
  simp only [decodeDownstreamPacket, Result.bind_eq_ok_iff, Result.ensure_eq_ok_iff,
    exists_const, readSession_eq_ok_iff, readU64Be_eq_ok_iff, readU16Be_eq_ok_iff]
  constructor
  · intro h
    rcases h with ⟨-, session', hsession, first', hfirst, count', hcount, h⟩
    by_cases hspecial : isSpecialMessageCount count' = true
    · simp only [hspecial, if_true, Result.bind_eq_ok_iff, Result.ensure_eq_ok_iff,
        exists_const, Result.pure_eq_ok_iff, beq_iff_eq, DownstreamPacket.mk.injEq] at h
      rcases h with ⟨hlength, rfl, rfl, rfl, rfl, rfl⟩
      exact ⟨⟨hsession, hfirst, hcount⟩, rfl, by rw [if_pos hspecial]; exact ⟨hlength, rfl⟩⟩
    · rw [if_neg hspecial] at h
      simp only [Result.bind_eq_ok_iff, Result.ensure_eq_ok_iff, exists_const,
        Result.pure_eq_ok_iff, beq_iff_eq, DownstreamPacket.mk.injEq, Prod.exists] at h
      rcases h with ⟨stop, messages', hloop, rfl, rfl, rfl, rfl, rfl, rfl⟩
      exact ⟨⟨hsession, hfirst, hcount⟩, rfl, by rw [if_neg hspecial]; exact hloop⟩
  · intro h
    rcases h with ⟨⟨hsession, hfirst, hcount⟩, rfl, h⟩
    refine ⟨hfit hcount, session, hsession, first, hfirst, messageCount, hcount, ?_⟩
    by_cases hspecial : isSpecialMessageCount messageCount = true
    · simp only [hspecial, if_true] at h
      rcases h with ⟨hlength, rfl⟩
      simp [hspecial, hlength, ensure]
    · rw [if_neg hspecial] at h
      rw [if_neg hspecial]
      refine Result.bind_eq_ok_iff.mpr ⟨_, h, Result.bind_eq_ok_iff.mpr ⟨(), ?_, rfl⟩⟩
      exact Result.ensure_eq_ok_iff.mpr (beq_self_eq_true _)

/-- A byte string decodes to a packet exactly when the packet is encodable and
representable and the string is its wire form. -/
theorem decodeDownstreamPacket_eq_ok_iff {bytes : Bytes} {packet : DownstreamPacket} :
    decodeDownstreamPacket bytes = .ok packet ↔
      (isEncodable packet = true ∧ IsRepresentable packet) ∧ bytes = wireBytes packet := by
  rw [decodeDownstreamPacket_eq_ok_iff_header, encodable_and_representable_iff,
    @eq_iff_length_and_holdsAt _ bytes, wireBytes_length, wireBytes, holdsAt_append,
    headerBytes_length]
  by_cases hspecial : isSpecialMessageCount packet.messageCount = true
  · simp only [hspecial, if_true]
    constructor
    · intro h
      rcases h with ⟨hheader, hkind, hlength, hmessages⟩
      simp [hheader, hkind, hlength, hmessages, holdsAt_nil]
    · intro h
      rcases h with ⟨⟨hkind, hmessages⟩, hlength, hheader, -⟩
      rw [hmessages] at hlength
      exact ⟨hheader, hkind, hlength, hmessages⟩
  · have hcount := isSpecialMessageCount_eq_false_iff.mp (Bool.not_eq_true _ ▸ hspecial)
    rw [if_neg hspecial, if_neg hspecial]
    rw [decodeMessageBlocks_eq_ok_iff (by omega), blocksEncodable_iff]
    constructor
    · intro h
      rcases h with ⟨hheader, hkind, payloads, hpayloads, hfits, hwrap, hholds, hstop,
        hmessages⟩
      rw [List.nil_append] at hmessages
      rw [hmessages, numberFrom_payloads, numberFrom_length, hpayloads]
      refine ⟨⟨hkind, rfl, by omega, rfl, ?_⟩, hstop, hheader, by simpa using hholds⟩
      intro message hmem
      have hpayload : message.payload ∈ payloads := by
        rw [← numberFrom_payloads packet.firstSequenceNumber 0 payloads]
        exact List.mem_map.mpr ⟨message, hmem, rfl⟩
      exact hfits _ hpayload
    · intro h
      rcases h with ⟨⟨hkind, hlength, hwrap, hnumbered, hfits⟩, hstop, hheader, hholds⟩
      refine ⟨hheader, hkind, packet.messages.map (·.payload), by simpa using hlength, ?_,
        by omega, by simpa using hholds, hstop, by simpa using hnumbered⟩
      intro payload hmem
      rcases List.mem_map.mp hmem with ⟨message, hmessage, rfl⟩
      exact hfits message hmessage

/-- A decoded data packet carries at least one block, and its blocks are numbered
consecutively. -/
theorem decodeDownstreamPacket_data {bytes : Bytes} {packet : DownstreamPacket}
    (hdecode : decodeDownstreamPacket bytes = .ok packet) (hdata : packet.kind = .data) :
    packet.messages ≠ [] ∧ packet.messages.map (·.sequenceNumber.toNat) =
      List.range' packet.firstSequenceNumber.toNat packet.messages.length := by
  have hencodable := (decodeDownstreamPacket_eq_ok_iff.mp hdecode).1
  obtain ⟨hkind, hshape⟩ := encodable_and_representable_iff.mp hencodable
  have hplain : isSpecialMessageCount packet.messageCount = false :=
    packetKindFromMessageCount_eq_data_iff.mp (hkind.symm.trans hdata)
  have hcount := isSpecialMessageCount_eq_false_iff.mp hplain
  rw [hplain, if_neg Bool.false_ne_true] at hshape
  obtain ⟨hlength, hwrap, hblocks⟩ := hshape
  refine ⟨List.ne_nil_of_length_pos (by omega), ?_⟩
  have hnumbers := @numberFrom_sequenceNumbers packet.firstSequenceNumber 0
    (packet.messages.map (·.payload)) (by rw [List.length_map]; omega)
  rw [← (blocksEncodable_iff.mp hblocks).1, List.length_map] at hnumbers
  exact hnumbers

end Fgep.Moldudp64
