import GatedExecution.Wire.ByteIo

/-!
# MoldUDP64 downstream packets

The packet types of {lit}`moldudp64/moldudp64_types.hpp` and
{lit}`moldudp64_packet.hpp`, and the wire form of a packet: session, sequence
number, message count, then one length-prefixed block per message.

Main results:

- Theorem {lit}`blocksEncodable_iff`: the encoder's per-block checks say that
  the blocks are numbered consecutively and fit their length field.
- Theorem {lit}`numberFrom_sequenceNumbers`: without a wrap, numbered blocks
  carry consecutive natural numbers.
-/

namespace Fgep.Moldudp64

open Wire Buffer

/-! ## Types -/

abbrev lengthSession : Nat := 10

abbrev Session := List.Vector UInt8 lengthSession
abbrev SequenceNumber := UInt64
abbrev MessageCount := UInt16
abbrev MessageLength := UInt16

abbrev lengthDownstreamHeader : Nat := 20
abbrev offsetSession : Nat := 0
abbrev offsetSequenceNumber : Nat := 10
abbrev offsetMessageCount : Nat := 18

abbrev heartbeatMessageCount : MessageCount := 0
abbrev endOfSessionMessageCount : MessageCount := 0xFFFF

/-- Size of the length field before each block. -/
abbrev sizeMessageLength : Nat := 2

inductive PacketKind where
  | data
  | heartbeat
  | endOfSession
deriving DecidableEq, Repr

structure MessageBlock where
  sequenceNumber : SequenceNumber
  payload : Bytes
deriving DecidableEq

structure DownstreamPacket where
  session : Session
  firstSequenceNumber : SequenceNumber
  messageCount : MessageCount
  kind : PacketKind
  messages : List MessageBlock
deriving DecidableEq

def isSpecialMessageCount (messageCount : MessageCount) : Bool :=
  messageCount == heartbeatMessageCount || messageCount == endOfSessionMessageCount

def packetKindFromMessageCount (messageCount : MessageCount) : PacketKind :=
  if messageCount == heartbeatMessageCount then .heartbeat
  else if messageCount == endOfSessionMessageCount then .endOfSession
  else .data

theorem packetKindFromMessageCount_eq (messageCount : MessageCount) :
    packetKindFromMessageCount messageCount =
      if messageCount.toNat = 0 then .heartbeat
      else if messageCount.toNat = 0xFFFF then .endOfSession
      else .data := by
  have hheartbeat : messageCount.toNat = 0 ↔ (messageCount == heartbeatMessageCount) = true :=
    (@UInt16.toNat_inj messageCount heartbeatMessageCount).trans beq_iff_eq.symm
  have hend : messageCount.toNat = 0xFFFF ↔ (messageCount == endOfSessionMessageCount) = true :=
    (@UInt16.toNat_inj messageCount endOfSessionMessageCount).trans beq_iff_eq.symm
  simp only [packetKindFromMessageCount, hheartbeat, hend]

/-! ## Numbered blocks -/

/-- Payloads with the sequence numbers {lit}`first + index`, {lit}`first + index + 1`
and so on, counted modulo {lit}`2 ^ 64`. -/
def numberFrom (first : SequenceNumber) : Nat → List Bytes → List MessageBlock
  | _, [] => []
  | index, payload :: rest =>
      ⟨first + UInt64.ofNat index, payload⟩ :: numberFrom first (index + 1) rest

@[simp] theorem numberFrom_length (first : SequenceNumber) (index : Nat)
    (payloads : List Bytes) : (numberFrom first index payloads).length = payloads.length := by
  induction payloads generalizing index with
  | nil => rfl
  | cons payload rest ih => simp [numberFrom, ih]

@[simp] theorem numberFrom_payloads (first : SequenceNumber) (index : Nat)
    (payloads : List Bytes) : (numberFrom first index payloads).map (·.payload) = payloads := by
  induction payloads generalizing index with
  | nil => rfl
  | cons payload rest ih => simp [numberFrom, ih]

/-- As long as no number wraps, the blocks carry consecutive natural numbers. -/
theorem numberFrom_sequenceNumbers {first : SequenceNumber} {index : Nat}
    {payloads : List Bytes} (hwrap : first.toNat + index + payloads.length ≤ 2 ^ 64) :
    (numberFrom first index payloads).map (·.sequenceNumber.toNat) =
      List.range' (first.toNat + index) payloads.length := by
  induction payloads generalizing index with
  | nil => rfl
  | cons payload rest ih =>
      rw [List.length_cons] at hwrap
      have hhead : (first + UInt64.ofNat index).toNat = first.toNat + index := by
        rw [UInt64.toNat_add, UInt64.toNat_ofNat', Nat.add_mod_mod,
          Nat.mod_eq_of_lt (by omega)]
      rw [numberFrom, List.map_cons, hhead, ih (by omega), List.length_cons,
        List.range'_succ]
      rfl

/-- The checks the encoder makes on each block as its loop reaches it. -/
def blocksEncodable (first : SequenceNumber) : Nat → List MessageBlock → Bool
  | _, [] => true
  | index, message :: rest =>
      message.sequenceNumber == first + UInt64.ofNat index
        && message.payload.length ≤ 0xFFFF
        && blocksEncodable first (index + 1) rest

/-- Blocks pass the checks exactly when they are numbered consecutively and every
payload fits its length field. -/
theorem blocksEncodable_iff {first : SequenceNumber} {index : Nat}
    {messages : List MessageBlock} :
    blocksEncodable first index messages = true ↔
      messages = numberFrom first index (messages.map (·.payload)) ∧
        ∀ message ∈ messages, message.payload.length ≤ 0xFFFF := by
  induction messages generalizing index with
  | nil => simp [blocksEncodable, numberFrom]
  | cons message rest ih =>
      rcases message with ⟨sequenceNumber, payload⟩
      simp only [blocksEncodable, Bool.and_eq_true, beq_iff_eq, decide_eq_true_eq, ih,
        List.map_cons, numberFrom, List.cons.injEq, MessageBlock.mk.injEq, and_true,
        List.forall_mem_cons]
      tauto

/-! ## Wire forms -/

/-- Wire form of one block: its length and its payload. -/
def blockBytes (payload : Bytes) : Bytes :=
  u16Bytes (UInt16.ofNat payload.length) ++ payload

@[simp] theorem blockBytes_length (payload : Bytes) :
    (blockBytes payload).length = 2 + payload.length := by
  simp [blockBytes]

/-- Wire form of a sequence of blocks. -/
def blocksBytes (payloads : List Bytes) : Bytes :=
  payloads.flatMap blockBytes

@[simp] theorem blocksBytes_nil : blocksBytes [] = [] := rfl

@[simp] theorem blocksBytes_cons (payload : Bytes) (rest : List Bytes) :
    blocksBytes (payload :: rest) = blockBytes payload ++ blocksBytes rest := rfl

/-- Wire form of the downstream header. -/
def headerBytes (session : Session) (firstSequenceNumber : SequenceNumber)
    (messageCount : MessageCount) : Bytes :=
  session.toList ++ (u64Bytes firstSequenceNumber ++ u16Bytes messageCount)

@[simp] theorem headerBytes_length (session : Session)
    (firstSequenceNumber : SequenceNumber) (messageCount : MessageCount) :
    (headerBytes session firstSequenceNumber messageCount).length =
      lengthDownstreamHeader := by
  simp [headerBytes]

/-- Wire form of a packet. -/
def wireBytes (packet : DownstreamPacket) : Bytes :=
  headerBytes packet.session packet.firstSequenceNumber packet.messageCount ++
    blocksBytes (packet.messages.map (·.payload))

@[simp] theorem wireBytes_length (packet : DownstreamPacket) :
    (wireBytes packet).length =
      lengthDownstreamHeader + (blocksBytes (packet.messages.map (·.payload))).length := by
  rw [wireBytes, List.length_append, headerBytes_length]

/-! ## What the two sides accept -/

/-- Packets the encoder accepts. -/
def isEncodable (packet : DownstreamPacket) : Bool :=
  match packet.kind with
  | .data =>
      packet.messages.length == packet.messageCount.toNat
        && blocksEncodable packet.firstSequenceNumber 0 packet.messages
  | .heartbeat => packet.messages.isEmpty && packet.messageCount == heartbeatMessageCount
  | .endOfSession =>
      packet.messages.isEmpty && packet.messageCount == endOfSessionMessageCount

/-- Packets whose kind can be read back from the message count and whose sequence
numbers do not wrap. -/
def IsRepresentable (packet : DownstreamPacket) : Prop :=
  packet.kind = .data →
    1 ≤ packet.messageCount.toNat ∧ packet.messageCount.toNat ≤ 0xFFFE ∧
      packet.firstSequenceNumber.toNat + packet.messageCount.toNat - 1 < 2 ^ 64

end Fgep.Moldudp64
