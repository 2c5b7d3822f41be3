import GatedExecution.Moldudp64.Codec

/-!
# MoldUDP64 request packets

{lit}`encode_request_packet` and {lit}`decode_request_packet` of {lit}`moldudp64`.  A
request has the layout of a downstream header, and the two decoders are told apart by the
caller only.

Main results:

- Theorem {lit}`decodeRequestPacket_eq_ok_iff`: a request decodes from its wire form only.
- Theorem {lit}`request_codec`: the codec is a bijection with the strings of twenty bytes,
  and a request is a downstream packet exactly when it asks for a special count.
-/

namespace Fgep.Moldudp64

open Wire Buffer

/-! ## The codec -/

abbrev RequestedMessageCount := UInt16

abbrev lengthRequestPacket : Nat := 20
abbrev offsetRequestSession : Nat := 0
abbrev offsetRequestSequenceNumber : Nat := 10
abbrev offsetRequestedMessageCount : Nat := 18

structure RequestPacket where
  session : Session
  sequenceNumber : SequenceNumber
  requestedMessageCount : RequestedMessageCount
deriving DecidableEq

def encodeRequestPacket (packet : RequestPacket) : EncodeM Unit := do
  let bytes ← get
  ensure (bytes.length == lengthRequestPacket) .parseError
  writeSession offsetRequestSession packet.session
  writeU64Be offsetRequestSequenceNumber packet.sequenceNumber
  writeU16Be offsetRequestedMessageCount packet.requestedMessageCount

def decodeRequestPacket (bytes : Bytes) : Result RequestPacket := do
  ensure (bytes.length == lengthRequestPacket) .parseError
  let session ← readSession bytes offsetRequestSession
  let sequenceNumber ← readU64Be bytes offsetRequestSequenceNumber
  let requestedMessageCount ← readU16Be bytes offsetRequestedMessageCount
  return { session, sequenceNumber, requestedMessageCount }

/-- Wire form of a request. -/
def requestBytes (packet : RequestPacket) : Bytes :=
  headerBytes packet.session packet.sequenceNumber packet.requestedMessageCount

/-! ## Specifications -/

theorem requestBytes_length (packet : RequestPacket) :
    (requestBytes packet).length = lengthRequestPacket :=
  headerBytes_length _ _ _

theorem runEncode_encodeRequestPacket (packet : RequestPacket) (buffer : Bytes) :
    runEncode (encodeRequestPacket packet) buffer =
      if buffer.length = lengthRequestPacket then (.ok, requestBytes packet)
      else (.parseError, buffer) := by
  rw [runEncode, encodeRequestPacket, runOn_bind_ok (runOn_get buffer), runOn_ensure_bind]
  by_cases hlength : buffer.length = lengthRequestPacket
  · have hemits : EmitsAt (do
        writeSession offsetRequestSession packet.session
        writeU64Be offsetRequestSequenceNumber packet.sequenceNumber
        writeU16Be offsetRequestedMessageCount packet.requestedMessageCount)
        0 (requestBytes packet) :=
      encodeDownstreamHeader_emitsAt
        ⟨packet.session, packet.sequenceNumber, packet.requestedMessageCount, .data, []⟩
    rw [if_pos (beq_iff_eq.mpr hlength), if_pos hlength,
      hemits.run_full (hlength.trans (requestBytes_length packet).symm)]
  · rw [if_neg (fun h => hlength (beq_iff_eq.mp h)), if_neg hlength]

theorem decodeRequestPacket_eq_ok_iff {bytes : Bytes} {packet : RequestPacket} :
    decodeRequestPacket bytes = .ok packet ↔ bytes = requestBytes packet := by
  rcases packet with ⟨session, sequenceNumber, count⟩
  rw [@eq_iff_length_and_holdsAt _ bytes, requestBytes_length, requestBytes, holdsAt_headerBytes]
  simp only [decodeRequestPacket, Result.bind_eq_ok_iff, Result.ensure_eq_ok_iff, exists_const,
    beq_iff_eq, readSession_eq_ok_iff, readU64Be_eq_ok_iff, readU16Be_eq_ok_iff,
    Result.pure_eq_ok_iff, RequestPacket.mk.injEq]
  constructor
  · rintro ⟨hlength, session', hsession, first', hfirst, count', hcount, rfl, rfl, rfl⟩
    exact ⟨hlength, hsession, hfirst, hcount⟩
  · rintro ⟨hlength, hsession, hfirst, hcount⟩
    exact ⟨hlength, session, hsession, sequenceNumber, hfirst, count, hcount, rfl, rfl, rfl⟩

theorem exists_decodeRequestPacket {bytes : Bytes} (hlength : bytes.length = lengthRequestPacket) :
    ∃ packet, decodeRequestPacket bytes = .ok packet := by
  rcases exists_holdsAt_header (Nat.le_of_eq hlength.symm) with ⟨session, first, count, hheader⟩
  refine ⟨⟨session, first, count⟩, decodeRequestPacket_eq_ok_iff.mpr ?_⟩
  exact eq_iff_length_and_holdsAt.mpr ⟨hlength.trans (requestBytes_length _).symm, hheader⟩

/-- What a request is to the decoder of the other direction. -/
theorem decodeDownstreamPacket_requestBytes {packet : RequestPacket}
    {downstream : DownstreamPacket} :
    decodeDownstreamPacket (requestBytes packet) = .ok downstream ↔
      isSpecialMessageCount packet.requestedMessageCount = true ∧
        downstream = ⟨packet.session, packet.sequenceNumber, packet.requestedMessageCount,
          packetKindFromMessageCount packet.requestedMessageCount, []⟩ := by
  have hheader : HoldsAt (requestBytes packet) 0 (headerBytes packet.session
      packet.sequenceNumber packet.requestedMessageCount) :=
    (eq_iff_length_and_holdsAt.mp rfl).2
  rw [decodeDownstreamPacket_eq_ok_iff_header]
  constructor
  · rintro ⟨hother, hkind, hrest⟩
    -- Both headers stand at the start of the same bytes.
    have hsame : decodeRequestPacket (requestBytes packet) =
        .ok ⟨downstream.session, downstream.firstSequenceNumber, downstream.messageCount⟩ :=
      decodeRequestPacket_eq_ok_iff.mpr (eq_iff_length_and_holdsAt.mpr
        ⟨(requestBytes_length packet).trans (requestBytes_length _).symm, hother⟩)
    rw [decodeRequestPacket_eq_ok_iff.mpr rfl] at hsame
    cases hsame
    split at hrest
    · rename_i hspecial
      rcases downstream with ⟨session, first, count, kind, messages⟩
      dsimp only at hkind hrest hspecial ⊢
      rw [hkind, hrest.2]
      exact ⟨hspecial, rfl⟩
    · rename_i hspecial
      have hpos := isSpecialMessageCount_eq_false_iff.mp (Bool.not_eq_true _ ▸ hspecial)
      -- No block is left after the header, and at least one is announced.
      obtain ⟨remaining, hremaining⟩ : ∃ n, downstream.messageCount.toNat = n + 1 :=
        ⟨downstream.messageCount.toNat - 1, by omega⟩
      rw [hremaining] at hrest
      rw [decodeMessageBlocks] at hrest
      simp only [Result.bind_eq_ok_iff, readU16Be_eq_ok_iff] at hrest
      rcases hrest with ⟨-, -, messageLength, hlength, -⟩
      have hfit := hlength.length_le (by rw [← List.length_pos_iff, u16Bytes_length]; decide)
      rw [u16Bytes_length, requestBytes_length] at hfit
      exact absurd hfit (by decide)
  · rintro ⟨hspecial, rfl⟩
    refine ⟨hheader, rfl, ?_⟩
    rw [if_pos hspecial]
    exact ⟨requestBytes_length packet, rfl⟩

/-- Requests and strings of twenty bytes are in bijection through the codec; a span of another
length is refused and left alone; and the bytes of a request decode as a downstream packet
exactly when it asks for none or for 65535 messages, as a heartbeat or an end of session. -/
theorem request_codec :
    (∀ (packet : RequestPacket) (buffer : Bytes), runEncode (encodeRequestPacket packet) buffer =
      if buffer.length = lengthRequestPacket then (.ok, requestBytes packet)
      else (.parseError, buffer)) ∧
    (∀ (bytes : Bytes) (packet : RequestPacket),
      decodeRequestPacket bytes = .ok packet ↔ bytes = requestBytes packet) ∧
    (∀ bytes : Bytes, (∃ packet, decodeRequestPacket bytes = .ok packet) ↔
      bytes.length = lengthRequestPacket) ∧
    (∀ (packet : RequestPacket) (downstream : DownstreamPacket),
      decodeDownstreamPacket (requestBytes packet) = .ok downstream ↔
        isSpecialMessageCount packet.requestedMessageCount = true ∧
          downstream = ⟨packet.session, packet.sequenceNumber, packet.requestedMessageCount,
            packetKindFromMessageCount packet.requestedMessageCount, []⟩) := by
  refine ⟨runEncode_encodeRequestPacket, fun _ _ => decodeRequestPacket_eq_ok_iff, ?_,
    fun _ _ => decodeDownstreamPacket_requestBytes⟩
  intro bytes
  constructor
  · rintro ⟨packet, hdecode⟩
    rw [decodeRequestPacket_eq_ok_iff.mp hdecode]
    exact requestBytes_length packet
  · exact exists_decodeRequestPacket

end Fgep.Moldudp64
