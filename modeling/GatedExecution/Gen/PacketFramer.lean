import GatedExecution.Itch.Codec
import GatedExecution.Moldudp64.Codec
import GatedExecution.Replay.ItchPacket

/-!
# The MoldUDP64 packet framer

{lit}`gen/moldudp64_packet_framer.cpp`: a running sequence number, data packets
that carry a batch of ITCH messages and heartbeats that carry none.  A session
is a list of calls on one framer.

Main results:

- Theorem {lit}`frameDataPacket_eq`: a call either frames the whole batch and
  advances by its size or does nothing.
- Theorem {lit}`frameDataPacket_decodes`: a framed batch decodes to its own
  messages.
- Theorem {lit}`framer_session`: over a whole session the framed packets tile the
  sequence space.
-/

namespace Fgep.Gen

open Wire Buffer

/-! ## The framer -/

structure MoldUdp64PacketFramerConfig where
  session : Moldudp64.Session
  firstSequenceNumber : Moldudp64.SequenceNumber
deriving DecidableEq

structure MoldUdp64PacketFramer where
  config : MoldUdp64PacketFramerConfig
  nextSequenceNumber : Moldudp64.SequenceNumber
deriving DecidableEq

/-- The constructor: a configured first number of zero becomes one. -/
def MoldUdp64PacketFramer.create (config : MoldUdp64PacketFramerConfig) :
    MoldUdp64PacketFramer :=
  let config :=
    if config.firstSequenceNumber == 0 then { config with firstSequenceNumber := 1 }
    else config
  { config, nextSequenceNumber := config.firstSequenceNumber }

/-- The first loop: encode every message into a fresh buffer, or give up. -/
def encodeMessages : List Itch.Message → Option (List Bytes)
  | [] => some []
  | message :: rest =>
      match runEncode (Itch.encodeMessage message)
        (List.replicate (Itch.wireLength message) 0) with
      | (.ok, encoded) => (encodeMessages rest).map (encoded :: ·)
      | _ => none

def dataPacket (framer : MoldUdp64PacketFramer) (encodedMessages : List Bytes) :
    Moldudp64.DownstreamPacket where
  session := framer.config.session
  firstSequenceNumber := framer.nextSequenceNumber
  messageCount := UInt16.ofNat encodedMessages.length
  kind := .data
  messages := Moldudp64.numberFrom framer.nextSequenceNumber 0 encodedMessages

def heartbeatPacket (framer : MoldUdp64PacketFramer) : Moldudp64.DownstreamPacket where
  session := framer.config.session
  firstSequenceNumber := framer.nextSequenceNumber
  messageCount := Moldudp64.heartbeatMessageCount
  kind := .heartbeat
  messages := []

def frameDataPacket (framer : MoldUdp64PacketFramer) (messages : List Itch.Message) :
    Bytes × MoldUdp64PacketFramer :=
  if messages.isEmpty then ([], framer)
  else if 0xFFFF < messages.length then ([], framer)
  else
    match encodeMessages messages with
    | none => ([], framer)
    | some encodedMessages =>
        let packet := dataPacket framer encodedMessages
        match runEncode (Moldudp64.encodeDownstreamPacket packet)
          (List.replicate (Moldudp64.downstreamPacketEncodedLength packet) 0) with
        | (.ok, framed) =>
            (framed, { framer with
              nextSequenceNumber :=
                framer.nextSequenceNumber + UInt64.ofNat messages.length })
        | _ => ([], framer)

def frameHeartbeat (framer : MoldUdp64PacketFramer) : Bytes :=
  match runEncode (Moldudp64.encodeDownstreamPacket (heartbeatPacket framer))
    (List.replicate Moldudp64.lengthDownstreamHeader 0) with
  | (.ok, framed) => framed
  | _ => []

/-! ## Sessions -/

/-- A call on the framer. -/
inductive FramerCall where
  | dataPacket (messages : List Itch.Message)
  | heartbeat
deriving DecidableEq

/-- A call with the framer before and after it and the buffer it returned. -/
structure FramerRecord where
  before : MoldUdp64PacketFramer
  call : FramerCall
  output : Bytes
  after : MoldUdp64PacketFramer
deriving DecidableEq

def callFramer (framer : MoldUdp64PacketFramer) (call : FramerCall) : FramerRecord :=
  match call with
  | .dataPacket messages =>
      let (output, after) := frameDataPacket framer messages
      { before := framer, call, output, after }
  | .heartbeat =>
      { before := framer, call, output := frameHeartbeat framer, after := framer }

/-- The records of a session, in call order. -/
def framerRun : MoldUdp64PacketFramer → List FramerCall → List FramerRecord
  | _, [] => []
  | framer, call :: rest =>
      let record := callFramer framer call
      record :: framerRun record.after rest

/-- The messages a receiver decodes from one returned buffer. -/
def receivedMessages (output : Bytes) : List Replay.DecodedItchMessage :=
  match Replay.decodeMoldudp64ItchPacket output with
  | .ok packet => packet.messages
  | .error _ => []

/-- Whether the ITCH encoder accepts a message into a buffer of its length. -/
def encoderAccepts (message : Itch.Message) : Bool :=
  (runEncode (Itch.encodeMessage message)
    (List.replicate (Itch.wireLength message) 0)).1 == .ok

/-- The batch of a call, if the call is to be framed: a non-empty batch of
messages that all encode. -/
def acceptedBatch : FramerCall → List Itch.Message
  | .dataPacket messages => if messages.all encoderAccepts then messages else []
  | .heartbeat => []

/-! ## One call -/

theorem runEncode_encodeMessage_replicate {message : Itch.Message} {bytes : Bytes} :
    runEncode (Itch.encodeMessage message) (List.replicate (Itch.wireLength message) 0) =
        (.ok, bytes) ↔ Itch.isEncodable message = true ∧ bytes = Itch.wireBytes message :=
  Itch.runEncode_encodeMessage_eq_ok_iff List.length_replicate

theorem encoderAccepts_eq (message : Itch.Message) :
    encoderAccepts message = Itch.isEncodable message := by
  rw [Bool.eq_iff_iff, encoderAccepts, beq_iff_eq]
  constructor
  · intro h
    exact (runEncode_encodeMessage_replicate.mp (Prod.ext h rfl)).1
  · intro h
    rw [runEncode_encodeMessage_replicate.mpr ⟨h, rfl⟩]

/-- The encoding loop gives the wire forms, or gives up on the first message the
encoder rejects. -/
theorem encodeMessages_eq (messages : List Itch.Message) :
    encodeMessages messages =
      if messages.all encoderAccepts then some (messages.map Itch.wireBytes) else none := by
  induction messages with
  | nil => rfl
  | cons message rest ih =>
      rw [encodeMessages, List.all_cons, encoderAccepts_eq]
      by_cases hmessage : Itch.isEncodable message = true
      · rw [runEncode_encodeMessage_replicate.mpr ⟨hmessage, rfl⟩, ih, hmessage,
          Bool.true_and]
        dsimp only
        by_cases hrest : rest.all encoderAccepts = true
        · rw [if_pos hrest, if_pos hrest, Option.map_some, List.map_cons]
        · rw [if_neg hrest, if_neg hrest, Option.map_none]
      · rw [Bool.eq_false_iff.mpr hmessage, Bool.false_and]
        split
        · rename_i encoded hrun
          exact absurd (runEncode_encodeMessage_replicate.mp hrun).1 hmessage
        · rfl

/-- Every ITCH message fits a block's length field. -/
theorem wireBytes_length_le (message : Itch.Message) :
    (Itch.wireBytes message).length ≤ 0xFFFF := by
  rw [Itch.wireBytes_length]
  cases message <;> rw [Itch.wireLength] <;> decide

theorem isEncodable_dataPacket {framer : MoldUdp64PacketFramer}
    {messages : List Itch.Message} (hlength : messages.length ≤ 0xFFFF) :
    Moldudp64.isEncodable (dataPacket framer (messages.map Itch.wireBytes)) = true := by
  have hcount : (UInt16.ofNat messages.length).toNat = messages.length :=
    UInt16.toNat_ofNat_of_lt' (by change _ < 65536; omega)
  simp only [Moldudp64.isEncodable, dataPacket, Bool.and_eq_true, beq_iff_eq,
    Moldudp64.numberFrom_length, List.length_map, hcount, true_and,
    Moldudp64.blocksEncodable_iff, Moldudp64.numberFrom_payloads]
  intro block hmem
  have hpayload : block.payload ∈ messages.map Itch.wireBytes := by
    rw [← Moldudp64.numberFrom_payloads framer.nextSequenceNumber 0
      (messages.map Itch.wireBytes)]
    exact List.mem_map.mpr ⟨block, hmem, rfl⟩
  rcases List.mem_map.mp hpayload with ⟨message, -, hmessage⟩
  rw [← hmessage]
  exact wireBytes_length_le message

/-- A call either frames the whole batch and advances by its size, or returns the
empty buffer and changes nothing. -/
theorem frameDataPacket_eq (framer : MoldUdp64PacketFramer) {messages : List Itch.Message}
    (hlength : messages.length ≤ 0xFFFF) :
    frameDataPacket framer messages =
      if messages ≠ [] ∧ messages.all encoderAccepts = true then
        (Moldudp64.wireBytes (dataPacket framer (messages.map Itch.wireBytes)),
          { framer with
            nextSequenceNumber := framer.nextSequenceNumber + UInt64.ofNat messages.length })
      else ([], framer) := by
  unfold frameDataPacket
  by_cases hempty : messages = []
  · rw [if_pos (List.isEmpty_iff.mpr hempty), if_neg (fun h => h.1 hempty)]
  · rw [if_neg (fun h => hempty (List.isEmpty_iff.mp h)), if_neg (by omega),
      encodeMessages_eq]
    by_cases haccepted : messages.all encoderAccepts = true
    · have hencode := (Moldudp64.runEncode_encodeDownstreamPacket_eq_ok_iff
        (@List.length_replicate _ (Moldudp64.downstreamPacketEncodedLength
          (dataPacket framer (messages.map Itch.wireBytes))) (0 : UInt8))).mpr
        ⟨isEncodable_dataPacket hlength, rfl⟩
      rw [if_pos haccepted, if_pos ⟨hempty, haccepted⟩]
      dsimp only
      rw [hencode]
    · rw [if_neg haccepted, if_neg (fun h => haccepted h.2)]

/-- A framed batch decodes to its own messages, numbered from the framer's
position. -/
theorem frameDataPacket_decodes {framer : MoldUdp64PacketFramer}
    {messages : List Itch.Message} (hempty : messages ≠ [])
    (hlength : messages.length ≤ 0xFFFE)
    (hwrap : framer.nextSequenceNumber.toNat + messages.length ≤ 2 ^ 64)
    (haccepted : messages.all encoderAccepts = true) :
    Replay.decodeMoldudp64ItchPacket
        (Moldudp64.wireBytes (dataPacket framer (messages.map Itch.wireBytes))) =
      .ok ⟨framer.config.session, framer.nextSequenceNumber,
        UInt16.ofNat messages.length, .data,
        Replay.numberMessages framer.nextSequenceNumber 0 messages⟩ := by
  have hpos : 0 < messages.length := List.length_pos_iff.mpr hempty
  have hcount : (UInt16.ofNat messages.length).toNat = messages.length :=
    UInt16.toNat_ofNat_of_lt' (by change _ < 65536; omega)
  have hdecode := Moldudp64.decodeDownstreamPacket_eq_ok_iff.mpr
    ⟨⟨@isEncodable_dataPacket framer messages (by omega), by
      intro _
      change 1 ≤ (UInt16.ofNat (messages.map Itch.wireBytes).length).toNat ∧
        (UInt16.ofNat (messages.map Itch.wireBytes).length).toNat ≤ 0xFFFE ∧
        framer.nextSequenceNumber.toNat +
          (UInt16.ofNat (messages.map Itch.wireBytes).length).toNat - 1 < 2 ^ 64
      rw [List.length_map, hcount]
      omega⟩, rfl⟩
  rw [dataPacket, List.length_map] at hdecode
  rw [dataPacket, List.length_map]
  apply Replay.decodeMoldudp64ItchPacket_data hdecode
  intro message hmem
  rw [← encoderAccepts_eq]
  exact List.all_eq_true.mp haccepted message hmem

theorem receivedMessages_nil : receivedMessages [] = [] := by
  decide

/-- Heartbeats decode to packets without messages. -/
theorem receivedMessages_frameHeartbeat (framer : MoldUdp64PacketFramer) :
    receivedMessages (frameHeartbeat framer) = [] := by
  have hencodable : Moldudp64.isEncodable (heartbeatPacket framer) = true := rfl
  have hencode := (@Moldudp64.runEncode_encodeDownstreamPacket_eq_ok_iff
    (heartbeatPacket framer) (List.replicate 20 0) _ rfl).mpr ⟨hencodable, rfl⟩
  have hdecode := Moldudp64.decodeDownstreamPacket_eq_ok_iff.mpr
    ⟨⟨hencodable, fun h => by cases h⟩, rfl⟩
  rw [frameHeartbeat, hencode]
  dsimp only
  rw [receivedMessages, Replay.decodeMoldudp64ItchPacket, hdecode]
  rfl

/-! ## Whole sessions -/

/-- What one call of a session guarantees. -/
def RecordCorrect (record : FramerRecord) : Prop :=
  match record.call with
  | .heartbeat => record.after.nextSequenceNumber = record.before.nextSequenceNumber
  | .dataPacket messages =>
      (record.output = [] ↔
        messages = [] ∨ ∃ message ∈ messages, encoderAccepts message = false) ∧
      (record.output = [] →
        record.after.nextSequenceNumber = record.before.nextSequenceNumber) ∧
      (record.output ≠ [] →
        ∃ packet, Replay.decodeMoldudp64ItchPacket record.output = .ok packet ∧
          packet.messages.map (·.message) = messages ∧
          packet.messages.map (·.sequenceNumber.toNat) =
            List.range' record.before.nextSequenceNumber.toNat messages.length)

theorem wireBytes_ne_nil (packet : Moldudp64.DownstreamPacket) :
    Moldudp64.wireBytes packet ≠ [] := by
  rw [← List.length_pos_iff, Moldudp64.wireBytes_length]
  exact Nat.add_pos_left (by decide) _

theorem not_all_encoderAccepts_iff {messages : List Itch.Message} :
    ¬messages.all encoderAccepts = true ↔
      ∃ message ∈ messages, encoderAccepts message = false := by
  simp

/-- One call at position {lit}`n`: it is correct, it moves the position past the
accepted batch, and a receiver gets that batch under the next free numbers. -/
theorem callFramer_correct {framer : MoldUdp64PacketFramer} {call : FramerCall} {n : Nat}
    (hnext : framer.nextSequenceNumber = UInt64.ofNat n)
    (hbatch : ∀ messages, call = .dataPacket messages → messages.length ≤ 0xFFFE)
    (hnumbers : n + (acceptedBatch call).length ≤ 2 ^ 64) :
    RecordCorrect (callFramer framer call) ∧
      (callFramer framer call).after.nextSequenceNumber =
        UInt64.ofNat (n + (acceptedBatch call).length) ∧
      (receivedMessages (callFramer framer call).output).map (·.sequenceNumber.toNat) =
        List.range' n (acceptedBatch call).length ∧
      (receivedMessages (callFramer framer call).output).map (·.message) =
        acceptedBatch call := by
  cases call with
  | heartbeat =>
      refine ⟨rfl, hnext, ?_, ?_⟩
      · rw [callFramer, receivedMessages_frameHeartbeat]
        rfl
      · rw [callFramer, receivedMessages_frameHeartbeat]
        rfl
  | dataPacket messages =>
      have hlength := hbatch messages rfl
      have hcall := frameDataPacket_eq framer (show messages.length ≤ 0xFFFF by omega)
      rw [acceptedBatch] at hnumbers ⊢
      by_cases haccepted : messages.all encoderAccepts = true
      · rw [if_pos haccepted] at hnumbers ⊢
        by_cases hempty : messages = []
        · -- An empty batch is rejected, and contributes nothing.
          subst hempty
          rw [if_neg (fun h => h.1 rfl)] at hcall
          simp only [callFramer, hcall, RecordCorrect]
          simp [hnext, receivedMessages_nil]
        · rw [if_pos ⟨hempty, haccepted⟩] at hcall
          have hpos : 0 < messages.length := List.length_pos_iff.mpr hempty
          have hposition : framer.nextSequenceNumber.toNat = n := by
            rw [hnext, UInt64.toNat_ofNat', Nat.mod_eq_of_lt (by omega)]
          have hdecode := frameDataPacket_decodes hempty hlength
            (show framer.nextSequenceNumber.toNat + messages.length ≤ 2 ^ 64 by omega)
            haccepted
          have hsequence : (Replay.numberMessages framer.nextSequenceNumber 0 messages).map
              (·.sequenceNumber.toNat) = List.range' n messages.length := by
            rw [Replay.numberMessages_sequenceNumbers, Moldudp64.numberFrom_sequenceNumbers
              (by rw [List.length_map]; omega), List.length_map, hposition, Nat.add_zero]
          have hnone : ¬∃ message ∈ messages, encoderAccepts message = false :=
            fun h => not_all_encoderAccepts_iff.mpr h haccepted
          simp only [callFramer, hcall, RecordCorrect, receivedMessages, hdecode]
          refine ⟨⟨?_, ?_, ?_⟩, ?_, hsequence, Replay.numberMessages_messages _ _ _⟩
          · exact iff_of_false (wireBytes_ne_nil _) (not_or.mpr ⟨hempty, hnone⟩)
          · exact fun h => absurd h (wireBytes_ne_nil _)
          · intro _
            exact ⟨_, rfl, Replay.numberMessages_messages _ _ _, by
              rw [hsequence, hposition]⟩
          · rw [hnext, UInt64.ofNat_add]
      · rw [if_neg haccepted] at hnumbers ⊢
        rw [if_neg (fun h => haccepted h.2)] at hcall
        have hsome := not_all_encoderAccepts_iff.mp haccepted
        simp only [callFramer, hcall, RecordCorrect, receivedMessages_nil]
        refine ⟨⟨?_, fun _ => trivial, fun h => absurd rfl h⟩, hnext, rfl, rfl⟩
        exact iff_of_true trivial (Or.inr hsome)

/-- From any position, every call of a session is correct, and what a receiver
decodes are the accepted batches under consecutive numbers. -/
theorem framerRun_correct {framer : MoldUdp64PacketFramer} {calls : List FramerCall}
    {n : Nat} (hnext : framer.nextSequenceNumber = UInt64.ofNat n)
    (hbatches : ∀ messages, .dataPacket messages ∈ calls → messages.length ≤ 0xFFFE)
    (hnumbers : n + (calls.flatMap acceptedBatch).length ≤ 2 ^ 64) :
    (∀ record ∈ framerRun framer calls, RecordCorrect record) ∧
      ((framerRun framer calls).flatMap (receivedMessages ·.output)).map
          (·.sequenceNumber.toNat) =
        List.range' n (calls.flatMap acceptedBatch).length ∧
      ((framerRun framer calls).flatMap (receivedMessages ·.output)).map (·.message) =
        calls.flatMap acceptedBatch := by
  induction calls generalizing framer n with
  | nil => simp [framerRun]
  | cons call rest ih =>
      rw [List.flatMap_cons, List.length_append] at hnumbers
      have hcall := callFramer_correct hnext
        (fun messages h => hbatches messages (h ▸ List.mem_cons_self))
        (show n + (acceptedBatch call).length ≤ 2 ^ 64 by omega)
      rcases hcall with ⟨hcorrect, hafter, hsequence, hmessages⟩
      have hrest := ih hafter
        (fun messages h => hbatches messages (List.mem_cons_of_mem _ h)) (by omega)
      rcases hrest with ⟨hcorrects, hsequences, hmessagess⟩
      rw [framerRun]
      refine ⟨List.forall_mem_cons.mpr ⟨hcorrect, hcorrects⟩, ?_, ?_⟩
      · rw [List.flatMap_cons, List.map_append, hsequence, hsequences, List.flatMap_cons,
          List.length_append]
        exact List.range'_append_1
      · rw [List.flatMap_cons, List.map_append, hmessages, hmessagess, List.flatMap_cons]

/-- The position a framer starts from. -/
def startNumber (config : MoldUdp64PacketFramerConfig) : Nat :=
  if config.firstSequenceNumber = 0 then 1 else config.firstSequenceNumber.toNat

theorem create_nextSequenceNumber (config : MoldUdp64PacketFramerConfig) :
    (MoldUdp64PacketFramer.create config).nextSequenceNumber =
      UInt64.ofNat (startNumber config) := by
  unfold MoldUdp64PacketFramer.create startNumber
  by_cases hzero : config.firstSequenceNumber = 0
  · simp [hzero]
  · simp [hzero]

theorem framerRun_calls (framer : MoldUdp64PacketFramer) (calls : List FramerCall) :
    (framerRun framer calls).map (·.call) = calls := by
  induction calls generalizing framer with
  | nil => rfl
  | cons call rest ih =>
      rw [framerRun, List.map_cons, ih]
      cases call <;> rfl

/-- A whole session: every call keeps its contract, and the packets of the session
tile the sequence space from the configured first number on, with the accepted
batches in order. -/
theorem framer_session (config : MoldUdp64PacketFramerConfig) (calls : List FramerCall)
    (hbatches : ∀ messages, .dataPacket messages ∈ calls → messages.length ≤ 0xFFFE)
    (hnumbers : startNumber config + (calls.flatMap acceptedBatch).length ≤ 2 ^ 64) :
    let records := framerRun (MoldUdp64PacketFramer.create config) calls
    records.map (·.call) = calls ∧
      (∀ record ∈ records, RecordCorrect record) ∧
      (records.flatMap (receivedMessages ·.output)).map (·.sequenceNumber.toNat) =
        List.range' (startNumber config) (calls.flatMap acceptedBatch).length ∧
      (records.flatMap (receivedMessages ·.output)).map (·.message) =
        calls.flatMap acceptedBatch :=
  ⟨framerRun_calls _ calls,
    framerRun_correct (create_nextSequenceNumber config) hbatches hnumbers⟩

/-- A session configured from zero: two deletes, a heartbeat, an empty batch and a
third delete are numbered 1, 2 and 3. -/
theorem framer_session_deletes :
    let delete (reference : UInt64) : Itch.Message := .orderDelete ⟨⟨1, 0, 0⟩, reference⟩
    let config : MoldUdp64PacketFramerConfig := ⟨List.Vector.replicate 10 0x20, 0⟩
    let calls : List FramerCall :=
      [.dataPacket [delete 7, delete 8], .heartbeat, .dataPacket [], .dataPacket [delete 9]]
    (∀ messages, .dataPacket messages ∈ calls → messages.length ≤ 0xFFFE) ∧
      startNumber config + (calls.flatMap acceptedBatch).length ≤ 2 ^ 64 ∧
      ((framerRun (MoldUdp64PacketFramer.create config) calls).flatMap
        (receivedMessages ·.output)).map (·.sequenceNumber.toNat) = [1, 2, 3] := by
  intro delete config calls
  have hbatches : ∀ messages, .dataPacket messages ∈ calls → messages.length ≤ 0xFFFE := by
    intro messages h
    simp only [calls, List.mem_cons, FramerCall.dataPacket.injEq, reduceCtorEq,
      List.not_mem_nil, or_false, false_or] at h
    rcases h with rfl | rfl | rfl <;> decide
  have hstart : startNumber config = 1 := rfl
  have haccepted : (calls.flatMap acceptedBatch).length = 3 := by decide +kernel
  have hnumbers : startNumber config + (calls.flatMap acceptedBatch).length ≤ 2 ^ 64 := by
    rw [hstart, haccepted]
    decide
  have hsequence := (framer_session config calls hbatches hnumbers).2.2.1
  rw [hstart, haccepted] at hsequence
  exact ⟨hbatches, hnumbers, hsequence⟩

end Fgep.Gen
