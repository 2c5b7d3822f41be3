import GatedExecution.Moldudp64.Decode
import GatedExecution.Moldudp64.Encode

/-!
# MoldUDP64 framing: grammar and round trip

The message count is overloaded on the wire: 0 and 0xFFFF are control values.
The in-memory packet has a kind of its own, and the encoder compares the two
only for packets without messages.

Main results:

- Theorem {lit}`decodeDownstreamPacket_grammar`: the decoder accepts exactly the
  downstream grammar, and re-encoding an accepted packet reproduces its bytes.
- Theorem {lit}`encode_decode_roundtrip_iff`: decoding undoes an accepted
  encoding exactly for packets whose kind and sequence numbers the wire format
  can represent.
- Theorem {lit}`encode_decode_roundtrip_empty_data`: an accepted packet that
  decodes to another one.
-/

namespace Fgep.Moldudp64

open BigEndian Wire Buffer

/-! ## Round trip -/

/-- What encoding followed by decoding should give: the packet back, from every
span of the packet's length. -/
def RoundTrips (packet : DownstreamPacket) : Prop :=
  ∀ buffer bytes : Bytes, buffer.length = downstreamPacketEncodedLength packet →
    runEncode (encodeDownstreamPacket packet) buffer = (.ok, bytes) →
      decodeDownstreamPacket bytes = .ok packet

/-- Decoding undoes an accepted encoding exactly when an accepted data packet has
between 1 and 0xFFFE messages and its sequence numbers stay below
{lit}`2 ^ 64`. -/
theorem encode_decode_roundtrip_iff (packet : DownstreamPacket) :
    RoundTrips packet ↔
      (isEncodable packet = true → packet.kind = .data →
        1 ≤ packet.messageCount.toNat ∧ packet.messageCount.toNat ≤ 0xFFFE ∧
          packet.firstSequenceNumber.toNat + packet.messageCount.toNat - 1 < 2 ^ 64) := by
  constructor
  · intro hround hencodable
    have hbuffer : (List.replicate (downstreamPacketEncodedLength packet) (0 : UInt8)).length =
        downstreamPacketEncodedLength packet := List.length_replicate
    have hencode := (runEncode_encodeDownstreamPacket_eq_ok_iff hbuffer).mpr
      ⟨hencodable, rfl⟩
    exact (decodeDownstreamPacket_eq_ok_iff.mp (hround _ _ hbuffer hencode)).1.2
  · intro hrepresentable buffer bytes hbuffer hencode
    rcases (runEncode_encodeDownstreamPacket_eq_ok_iff hbuffer).mp hencode with
      ⟨hencodable, hbytes⟩
    exact decodeDownstreamPacket_eq_ok_iff.mpr
      ⟨⟨hencodable, hrepresentable hencodable⟩, hbytes⟩

/-- A data packet without messages: the encoder accepts it and the decoder reads
a heartbeat. -/
theorem encode_decode_roundtrip_empty_data :
    let packet : DownstreamPacket :=
      ⟨List.Vector.replicate 10 0x20, 1, 0, .data, []⟩
    let buffer : Bytes := List.replicate 20 0
    buffer.length = downstreamPacketEncodedLength packet ∧
      runEncode (encodeDownstreamPacket packet) buffer = (.ok, wireBytes packet) ∧
        decodeDownstreamPacket (wireBytes packet) = .ok { packet with kind := .heartbeat } ∧
          ¬RoundTrips packet := by
  refine ⟨by decide, by decide, by decide, ?_⟩
  intro hround
  have hdecode := hround (List.replicate 20 0)
    (wireBytes ⟨List.Vector.replicate 10 0x20, 1, 0, .data, []⟩) (by decide) (by decide)
  exact absurd hdecode (by decide)

/-! ## Grammar -/

/-- Big-endian number in bytes 10 to 17. -/
def sequenceField (bytes : Bytes) : Nat :=
  beNat ((bytes.drop 10).take 8)

/-- Big-endian number in bytes 18 and 19. -/
def countField (bytes : Bytes) : Nat :=
  beNat ((bytes.drop 18).take 2)

/-- The downstream grammar: a 20-byte header, and unless the count is a control
value, exactly that many length-prefixed blocks to the end. -/
def DownstreamGrammar (bytes : Bytes) (payloads : List Bytes) : Prop :=
  20 ≤ bytes.length ∧
    ((countField bytes = 0 ∨ countField bytes = 0xFFFF) ∧ bytes.length = 20 ∧
        payloads = [] ∨
      1 ≤ countField bytes ∧ countField bytes ≤ 0xFFFE ∧
        sequenceField bytes + countField bytes - 1 < 2 ^ 64 ∧
        payloads.length = countField bytes ∧
        (∀ payload ∈ payloads, payload.length ≤ 0xFFFF) ∧
        bytes.drop 20 = blocksBytes payloads)

/-- The header's three fields are what the byte positions say. -/
theorem fields_of_holdsAt_header {bytes : Bytes} {session : Session}
    {first : SequenceNumber} {messageCount : MessageCount}
    (hheader : HoldsAt bytes 0 (headerBytes session first messageCount)) :
    session.toList = bytes.take 10 ∧ first.toNat = sequenceField bytes ∧
      messageCount.toNat = countField bytes := by
  rcases holdsAt_headerBytes.mp hheader with ⟨hsession, hfirst, hcount⟩
  rw [HoldsAt, List.Vector.toList_length, List.drop_zero] at hsession
  rw [HoldsAt, u64Bytes_length] at hfirst
  rw [HoldsAt, u16Bytes_length] at hcount
  refine ⟨hsession.symm, ?_, ?_⟩
  · rw [sequenceField, hfirst, u64Bytes, beNat_beBytes_of_lt first.toNat_lt]
  · rw [countField, hcount, u16Bytes, beNat_beBytes_of_lt messageCount.toNat_lt]

/-- Every string of at least twenty bytes starts with a header. -/
theorem exists_holdsAt_header {bytes : Bytes} (hlength : 20 ≤ bytes.length) :
    ∃ session first messageCount,
      HoldsAt bytes 0 (headerBytes session first messageCount) := by
  have hsession : readSession bytes offsetSession =
      .ok ⟨(bytes.drop 0).take lengthSession, by
        rw [List.length_take, List.length_drop, lengthSession]
        omega⟩ := by
    rw [readSession, dif_pos (hasRange_iff.mpr (show 0 + 10 ≤ bytes.length by omega))]
  have hfirst : readU64Be bytes offsetSequenceNumber =
      .ok (UInt64.ofNat (sequenceField bytes)) := by
    rw [readU64Be, readBe, hasRange_iff.mpr (show 10 + 8 ≤ bytes.length by omega)]
    rfl
  have hcount : readU16Be bytes offsetMessageCount =
      .ok (UInt16.ofNat (countField bytes)) := by
    rw [readU16Be, readBe, hasRange_iff.mpr (show 18 + 2 ≤ bytes.length by omega)]
    rfl
  exact ⟨_, _, _, holdsAt_headerBytes.mpr ⟨readSession_eq_ok_iff.mp hsession,
    readU64Be_eq_ok_iff.mp hfirst, readU16Be_eq_ok_iff.mp hcount⟩⟩

/-- A byte string with a header is that header and the rest. -/
theorem eq_wireBytes_iff {bytes : Bytes} {packet : DownstreamPacket}
    (hheader : HoldsAt bytes 0 (headerBytes packet.session packet.firstSequenceNumber
      packet.messageCount)) :
    bytes = wireBytes packet ↔
      bytes.drop 20 = blocksBytes (packet.messages.map (·.payload)) := by
  rw [HoldsAt, headerBytes_length, List.drop_zero] at hheader
  have hsplit := List.take_append_drop 20 bytes
  rw [hheader] at hsplit
  constructor
  · intro h
    rw [wireBytes, ← hsplit] at h
    exact List.append_cancel_left h
  · intro h
    rw [wireBytes, ← h, hsplit]

/-- Every string of the grammar decodes, to its header and numbered blocks. -/
theorem decodeDownstreamPacket_of_grammar {bytes : Bytes} {payloads : List Bytes}
    {session : Session} {first : SequenceNumber} {messageCount : MessageCount}
    (hheader : HoldsAt bytes 0 (headerBytes session first messageCount))
    (hgrammar : DownstreamGrammar bytes payloads) :
    decodeDownstreamPacket bytes =
      .ok ⟨session, first, messageCount, packetKindFromMessageCount messageCount,
        numberFrom first 0 payloads⟩ := by
  rcases fields_of_holdsAt_header hheader with ⟨-, hfirst, hcount⟩
  have hspecial := @isSpecialMessageCount_eq_false_iff messageCount
  rcases hgrammar with ⟨hlength, hgrammar⟩
  rw [decodeDownstreamPacket_eq_ok_iff, encodable_and_representable_iff,
    eq_wireBytes_iff hheader, numberFrom_payloads]
  rw [← hfirst, ← hcount] at hgrammar
  rcases hgrammar with ⟨hcontrol, hexact, rfl⟩ | ⟨hlow, hhigh, hwrap, hblocks, hfits, hrest⟩
  · have htrue : isSpecialMessageCount messageCount = true := by
      rw [← Bool.not_eq_false, hspecial]
      omega
    refine ⟨⟨rfl, ?_⟩, ?_⟩
    · rw [if_pos htrue]
      rfl
    · rw [List.drop_eq_nil_of_le (by omega), blocksBytes_nil]
  · have hfalse := hspecial.mpr ⟨hlow, hhigh⟩
    refine ⟨⟨rfl, ?_⟩, hrest⟩
    rw [if_neg (by rw [hfalse]; decide)]
    refine ⟨by rw [numberFrom_length, hblocks], ?_, ?_⟩
    · change first.toNat + messageCount.toNat ≤ 2 ^ 64
      omega
    rw [blocksEncodable_iff, numberFrom_payloads]
    refine ⟨rfl, ?_⟩
    intro message hmem
    have hpayload : message.payload ∈ payloads := by
      rw [← numberFrom_payloads first 0 payloads]
      exact List.mem_map.mpr ⟨message, hmem, rfl⟩
    exact hfits _ hpayload

/-- Every accepted string is in the grammar, and the packet's blocks are numbered
from its first sequence number. -/
theorem grammar_of_decodeDownstreamPacket {bytes : Bytes} {packet : DownstreamPacket}
    (hdecode : decodeDownstreamPacket bytes = .ok packet) :
    HoldsAt bytes 0 (headerBytes packet.session packet.firstSequenceNumber
        packet.messageCount) ∧
      DownstreamGrammar bytes (packet.messages.map (·.payload)) ∧
        packet.kind = packetKindFromMessageCount packet.messageCount := by
  have hheader := (decodeDownstreamPacket_eq_ok_iff_header.mp hdecode).1
  rcases fields_of_holdsAt_header hheader with ⟨-, hfirst, hcount⟩
  have hspecial := @isSpecialMessageCount_eq_false_iff packet.messageCount
  rw [decodeDownstreamPacket_eq_ok_iff, encodable_and_representable_iff] at hdecode
  rcases hdecode with ⟨⟨hkind, hpacket⟩, hbytes⟩
  have hlength : bytes.length =
      20 + (blocksBytes (packet.messages.map (·.payload))).length := by
    rw [hbytes, wireBytes_length]
  refine ⟨hheader, ⟨by omega, ?_⟩, hkind⟩
  rw [← hfirst, ← hcount]
  by_cases hcontrol : isSpecialMessageCount packet.messageCount = true
  · rw [if_pos hcontrol] at hpacket
    have hnot : ¬(1 ≤ packet.messageCount.toNat ∧ packet.messageCount.toNat ≤ 0xFFFE) := by
      rw [← hspecial, hcontrol]
      decide
    have hlt := packet.messageCount.toNat_lt
    rw [hpacket] at hlength
    exact Or.inl ⟨by omega, hlength, by rw [hpacket]; rfl⟩
  · rw [if_neg hcontrol] at hpacket
    rcases hpacket with ⟨hmessages, hwrap, hblocks⟩
    have hrange := hspecial.mp (Bool.eq_false_iff.mpr hcontrol)
    refine Or.inr ⟨hrange.1, hrange.2, by omega, by rw [List.length_map, hmessages], ?_,
      (eq_wireBytes_iff hheader).mp hbytes⟩
    intro payload hmem
    rcases List.mem_map.mp hmem with ⟨message, hmessage, rfl⟩
    exact (blocksEncodable_iff.mp hblocks).2 message hmessage

/-- The decoder accepts exactly the downstream grammar.  What it returns is read
off the byte positions, with the kind given by the count and the blocks in order and
numbered consecutively, and encoding it again reproduces the bytes. -/
theorem decodeDownstreamPacket_grammar (bytes : Bytes) :
    ((∃ packet, decodeDownstreamPacket bytes = .ok packet) ↔
        ∃ payloads, DownstreamGrammar bytes payloads) ∧
      ∀ packet, decodeDownstreamPacket bytes = .ok packet →
        (packet.session.toList = bytes.take 10 ∧
          packet.firstSequenceNumber.toNat = sequenceField bytes ∧
          packet.messageCount.toNat = countField bytes ∧
          packet.kind = if countField bytes = 0 then .heartbeat
            else if countField bytes = 0xFFFF then .endOfSession else .data) ∧
        (∀ payloads, DownstreamGrammar bytes payloads ↔
          payloads = packet.messages.map (·.payload)) ∧
        packet.messages.map (·.sequenceNumber.toNat) =
          List.range' (sequenceField bytes) packet.messages.length ∧
        ∀ buffer : Bytes, buffer.length = bytes.length →
          runEncode (encodeDownstreamPacket packet) buffer = (.ok, bytes) := by
  constructor
  · constructor
    · intro h
      rcases h with ⟨packet, hdecode⟩
      exact ⟨_, (grammar_of_decodeDownstreamPacket hdecode).2.1⟩
    · intro h
      rcases h with ⟨payloads, hgrammar⟩
      rcases exists_holdsAt_header hgrammar.1 with ⟨session, first, messageCount, hheader⟩
      exact ⟨_, decodeDownstreamPacket_of_grammar hheader hgrammar⟩
  · intro packet hdecode
    rcases grammar_of_decodeDownstreamPacket hdecode with ⟨hheader, hgrammar, hkind⟩
    rcases fields_of_holdsAt_header hheader with ⟨hsession, hfirst, hcount⟩
    have hdecoded := decodeDownstreamPacket_of_grammar hheader hgrammar
    rw [hdecode, Except.ok.injEq] at hdecoded
    have hnumbered : packet.messages =
        numberFrom packet.firstSequenceNumber 0 (packet.messages.map (·.payload)) :=
      congrArg DownstreamPacket.messages hdecoded
    refine ⟨⟨hsession, hfirst, hcount, ?_⟩, ?_, ?_, ?_⟩
    · rw [hkind, packetKindFromMessageCount_eq, hcount]
    · intro payloads
      constructor
      · intro hother
        have hagain := decodeDownstreamPacket_of_grammar hheader hother
        rw [hdecode, Except.ok.injEq] at hagain
        have hmessages := congrArg DownstreamPacket.messages hagain
        rw [hmessages, numberFrom_payloads]
      · intro h
        rw [h]
        exact hgrammar
    · have hwrap : packet.firstSequenceNumber.toNat + 0 +
          (packet.messages.map (·.payload)).length ≤ 2 ^ 64 := by
        rw [hfirst]
        rcases hgrammar.2 with ⟨-, -, hnil⟩ | ⟨hlow, -, hwrap, hblocks, -⟩
        · have hlt := packet.firstSequenceNumber.toNat_lt
          rw [hnil, ← hfirst]
          exact Nat.le_of_lt hlt
        · rw [hblocks]
          omega
      have hnumbers := numberFrom_sequenceNumbers hwrap
      rw [← hnumbered, List.length_map, hfirst] at hnumbers
      exact hnumbers
    · intro buffer hbuffer
      rcases decodeDownstreamPacket_eq_ok_iff.mp hdecode with ⟨⟨hencodable, -⟩, hbytes⟩
      refine (runEncode_encodeDownstreamPacket_eq_ok_iff ?_).mpr ⟨hencodable, hbytes⟩
      rw [hbuffer, hbytes, downstreamPacketEncodedLength_eq]
      intro hdata
      rw [isEncodable_of_ne_data hdata, Bool.and_eq_true] at hencodable
      exact List.isEmpty_iff.mp hencodable.1

end Fgep.Moldudp64
