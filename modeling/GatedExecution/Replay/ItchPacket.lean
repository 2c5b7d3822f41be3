import GatedExecution.Itch.Decode
import GatedExecution.Moldudp64.Decode

/-!
# Replay packets

{lit}`decode_moldudp64_itch_packet` of {lit}`replay/moldudp64_itch_replay.cpp`:
a MoldUDP64 packet whose payloads are decoded as ITCH messages.

Main results:

- Theorem {lit}`decodeItchMessages_numberFrom`: payloads that are wire forms of
  encodable messages decode to those messages, with their sequence numbers.
- Theorem {lit}`decodeMoldudp64ItchPacket_data`: the decoded form of a data
  packet that carries encodable messages.
-/

namespace Fgep.Replay

open Wire

inductive ReplayPacketKind where
  | data
  | heartbeat
  | endOfSession
deriving DecidableEq, Repr

structure DecodedItchMessage where
  sequenceNumber : Moldudp64.SequenceNumber
  message : Itch.Message
deriving DecidableEq

structure MoldUdp64ItchReplayPacket where
  session : Moldudp64.Session
  firstSequenceNumber : Moldudp64.SequenceNumber
  messageCount : Moldudp64.MessageCount
  kind : ReplayPacketKind
  messages : List DecodedItchMessage
deriving DecidableEq

def toReplayPacketKind : Moldudp64.PacketKind → ReplayPacketKind
  | .data => .data
  | .heartbeat => .heartbeat
  | .endOfSession => .endOfSession

/-- The loop over the packet's payloads; the first payload that is not an ITCH
message ends it with that payload's error. -/
def decodeItchMessages :
    List Moldudp64.MessageBlock → List DecodedItchMessage → Result (List DecodedItchMessage)
  | [], messages => .ok messages
  | moldMessage :: rest, messages => do
      let message ← Itch.decodeMessage moldMessage.payload
      decodeItchMessages rest (messages ++ [⟨moldMessage.sequenceNumber, message⟩])

def decodeMoldudp64ItchPacket (bytes : Bytes) : Result MoldUdp64ItchReplayPacket := do
  let moldPacket ← Moldudp64.decodeDownstreamPacket bytes
  if moldPacket.kind ≠ .data then
    return {
      session := moldPacket.session
      firstSequenceNumber := moldPacket.firstSequenceNumber
      messageCount := moldPacket.messageCount
      kind := toReplayPacketKind moldPacket.kind
      messages := [] }
  else
    let messages ← decodeItchMessages moldPacket.messages []
    return {
      session := moldPacket.session
      firstSequenceNumber := moldPacket.firstSequenceNumber
      messageCount := moldPacket.messageCount
      kind := toReplayPacketKind moldPacket.kind
      messages }

/-! ## Specifications -/

/-- Messages with the sequence numbers {lit}`first + index`, {lit}`first + index + 1`
and so on. -/
def numberMessages (first : Moldudp64.SequenceNumber) :
    Nat → List Itch.Message → List DecodedItchMessage
  | _, [] => []
  | index, message :: rest =>
      ⟨first + UInt64.ofNat index, message⟩ :: numberMessages first (index + 1) rest

@[simp] theorem numberMessages_messages (first : Moldudp64.SequenceNumber) (index : Nat)
    (messages : List Itch.Message) :
    (numberMessages first index messages).map (·.message) = messages := by
  induction messages generalizing index with
  | nil => rfl
  | cons message rest ih => simp [numberMessages, ih]

/-- Messages are numbered exactly as their blocks are. -/
theorem numberMessages_sequenceNumbers (first : Moldudp64.SequenceNumber) (index : Nat)
    (messages : List Itch.Message) :
    (numberMessages first index messages).map (·.sequenceNumber.toNat) =
      (Moldudp64.numberFrom first index (messages.map Itch.wireBytes)).map
        (·.sequenceNumber.toNat) := by
  induction messages generalizing index with
  | nil => rfl
  | cons message rest ih => simp [numberMessages, Moldudp64.numberFrom, ih]

/-- Wire forms of encodable messages decode to the messages they came from. -/
theorem decodeItchMessages_numberFrom {first : Moldudp64.SequenceNumber} {index : Nat}
    {messages : List Itch.Message} {before : List DecodedItchMessage}
    (hmessages : ∀ message ∈ messages, Itch.isEncodable message = true) :
    decodeItchMessages (Moldudp64.numberFrom first index (messages.map Itch.wireBytes))
      before = .ok (before ++ numberMessages first index messages) := by
  induction messages generalizing index before with
  | nil => simp [Moldudp64.numberFrom, decodeItchMessages, numberMessages]
  | cons message rest ih =>
      rw [List.forall_mem_cons] at hmessages
      have hdecode : Itch.decodeMessage (Itch.wireBytes message) = .ok message :=
        Itch.decodeMessage_eq_ok_iff.mpr ⟨hmessages.1, rfl⟩
      rw [List.map_cons, Moldudp64.numberFrom, decodeItchMessages, hdecode]
      refine (ih hmessages.2).trans ?_
      rw [numberMessages, List.append_assoc, List.singleton_append]

/-- A data packet that carries the wire forms of encodable messages decodes to
those messages under the packet's own numbering. -/
theorem decodeMoldudp64ItchPacket_data {bytes : Bytes} {session : Moldudp64.Session}
    {first : Moldudp64.SequenceNumber} {messageCount : Moldudp64.MessageCount}
    {messages : List Itch.Message}
    (hdecode : Moldudp64.decodeDownstreamPacket bytes =
      .ok ⟨session, first, messageCount, .data,
        Moldudp64.numberFrom first 0 (messages.map Itch.wireBytes)⟩)
    (hmessages : ∀ message ∈ messages, Itch.isEncodable message = true) :
    decodeMoldudp64ItchPacket bytes =
      .ok ⟨session, first, messageCount, .data, numberMessages first 0 messages⟩ := by
  rw [decodeMoldudp64ItchPacket, hdecode]
  refine Result.bind_eq_ok_iff.mpr ⟨_, rfl, ?_⟩
  rw [if_neg (not_not_intro rfl)]
  exact Result.bind_eq_ok_iff.mpr
    ⟨_, (decodeItchMessages_numberFrom hmessages).trans (by rw [List.nil_append]), rfl⟩

end Fgep.Replay
