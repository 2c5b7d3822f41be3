import GatedExecution.Moldudp64.Packet

/-!
# MoldUDP64 encoding

{lit}`encode_downstream_packet` of {lit}`moldudp64/moldudp64_encode.cpp`.  The
loop checks each block as it reaches it, so a rejected packet can leave earlier
blocks in the span.

Main results:

- Theorem {lit}`encodeMessageBlocks_emitsAt`: blocks that pass their checks are
  written one after the other.
- Theorem {lit}`runOn_encodeMessageBlocks_error`: the first block that fails
  stops the loop with {lit}`invalid_argument`.
- Theorem {lit}`runEncode_encodeDownstreamPacket_eq_ok_iff`: on a span of the
  packet's length, encoding succeeds exactly for encodable packets and leaves
  the wire form.
-/

namespace Fgep.Moldudp64

open Wire Buffer

/-! ## The encoder -/

def writeSession (offset : Nat) (session : Session) : EncodeM Unit := do
  let bytes ← get
  ensure (hasRange bytes offset lengthSession) .parseError
  set (splice bytes offset session.toList)

def downstreamPacketEncodedLength (packet : DownstreamPacket) : Nat :=
  if packet.kind ≠ .data then lengthDownstreamHeader
  else packet.messages.foldl
    (fun total message => total + (sizeMessageLength + message.payload.length))
    lengthDownstreamHeader

def encodeDownstreamHeader (packet : DownstreamPacket) : EncodeM Unit := do
  writeSession offsetSession packet.session
  writeU64Be offsetSequenceNumber packet.firstSequenceNumber
  writeU16Be offsetMessageCount packet.messageCount

/-- The loop over message blocks: current index and running offset. -/
def encodeMessageBlocks (firstSequenceNumber : SequenceNumber) :
    Nat → Nat → List MessageBlock → EncodeM Unit
  | _, _, [] => pure ()
  | index, offset, message :: rest => do
      ensure (message.sequenceNumber == firstSequenceNumber + UInt64.ofNat index)
        .invalidArgument
      ensure (message.payload.length ≤ 0xFFFF) .invalidArgument
      writeU16Be offset (UInt16.ofNat message.payload.length)
      modify fun bytes => splice bytes (offset + sizeMessageLength) message.payload
      encodeMessageBlocks firstSequenceNumber (index + 1)
        (offset + sizeMessageLength + message.payload.length) rest

def encodeDownstreamPacket (packet : DownstreamPacket) : EncodeM Unit := do
  let bytes ← get
  ensure (bytes.length == downstreamPacketEncodedLength packet) .parseError
  if packet.kind ≠ .data then
    ensure packet.messages.isEmpty .invalidArgument
    ensure (!(packet.kind == .heartbeat && packet.messageCount != heartbeatMessageCount))
      .invalidArgument
    ensure (!(packet.kind == .endOfSession &&
      packet.messageCount != endOfSessionMessageCount)) .invalidArgument
    encodeDownstreamHeader packet
  else
    ensure (packet.messages.length == packet.messageCount.toNat) .invalidArgument
    encodeDownstreamHeader packet
    encodeMessageBlocks packet.firstSequenceNumber 0 lengthDownstreamHeader packet.messages

/-! ## Lengths -/

/-- The length loop adds up the blocks' wire forms. -/
theorem foldl_blockLength (messages : List MessageBlock) (start : Nat) :
    messages.foldl (fun total message => total + (sizeMessageLength + message.payload.length))
        start = start + (blocksBytes (messages.map (·.payload))).length := by
  induction messages generalizing start with
  | nil => rfl
  | cons message rest ih =>
      rw [List.foldl_cons, ih, List.map_cons, blocksBytes_cons, List.length_append,
        blockBytes_length, Nat.add_assoc]

/-- For every packet the encoder accepts, the announced length is that of the
wire form. -/
theorem downstreamPacketEncodedLength_eq {packet : DownstreamPacket}
    (hmessages : packet.kind ≠ .data → packet.messages = []) :
    downstreamPacketEncodedLength packet = (wireBytes packet).length := by
  unfold downstreamPacketEncodedLength
  split
  · rename_i hkind
    rw [wireBytes_length, hmessages hkind]
    rfl
  · rw [foldl_blockLength, wireBytes_length]

/-! ## Specifications -/

theorem writeSession_emitsAt (offset : Nat) (session : Session) :
    EmitsAt (writeSession offset session) offset session.toList := by
  intro bytes hfit
  rw [List.Vector.toList_length] at hfit
  rw [writeSession, runOn_bind_ok (runOn_get bytes), runOn_ensure_bind,
    if_pos (hasRange_iff.mpr hfit), runOn_set]

theorem encodeDownstreamHeader_emitsAt (packet : DownstreamPacket) :
    EmitsAt (encodeDownstreamHeader packet) 0
      (headerBytes packet.session packet.firstSequenceNumber packet.messageCount) := by
  refine (writeSession_emitsAt _ _).bind (List.Vector.toList_length _) ?_
  refine (writeU64Be_emitsAt _ _).bind (u64Bytes_length _) ?_
  exact writeU16Be_emitsAt _ _

theorem modify_splice_emitsAt (offset : Nat) (payload : Bytes) :
    EmitsAt (modify fun bytes => splice bytes offset payload : EncodeM Unit) offset payload := by
  intro bytes _
  rfl

/-- Blocks that pass their checks are written one after the other. -/
theorem encodeMessageBlocks_emitsAt {first : SequenceNumber} {index offset : Nat}
    {messages : List MessageBlock} (hblocks : blocksEncodable first index messages = true) :
    EmitsAt (encodeMessageBlocks first index offset messages) offset
      (blocksBytes (messages.map (·.payload))) := by
  induction messages generalizing index offset with
  | nil =>
      intro bytes _
      simp [encodeMessageBlocks, splice]
  | cons message rest ih =>
      simp only [blocksEncodable, Bool.and_eq_true] at hblocks
      rcases hblocks with ⟨⟨hnumber, hfits⟩, hrest⟩
      have hwrites : EmitsAt (do
          writeU16Be offset (UInt16.ofNat message.payload.length)
          modify fun bytes => splice bytes (offset + sizeMessageLength) message.payload
          encodeMessageBlocks first (index + 1)
            (offset + sizeMessageLength + message.payload.length) rest) offset
          (blocksBytes ((message :: rest).map (·.payload))) := by
        rw [List.map_cons, blocksBytes_cons, blockBytes, List.append_assoc]
        refine (writeU16Be_emitsAt _ _).bind (u16Bytes_length _) ?_
        refine (modify_splice_emitsAt _ _).bind rfl ?_
        exact ih hrest
      intro bytes hroom
      rw [encodeMessageBlocks, runOn_ensure_bind, if_pos hnumber, runOn_ensure_bind,
        if_pos hfits]
      exact hwrites bytes hroom

/-- The first block that fails its checks stops the loop; what was written before
stays. -/
theorem runOn_encodeMessageBlocks_error {first : SequenceNumber} {index offset : Nat}
    {messages : List MessageBlock} (hblocks : blocksEncodable first index messages = false)
    {bytes : Bytes}
    (hroom : offset + (blocksBytes (messages.map (·.payload))).length ≤ bytes.length) :
    ∃ left, runOn (encodeMessageBlocks first index offset messages) bytes =
      (.error .invalidArgument, left) := by
  induction messages generalizing index offset bytes with
  | nil => simp [blocksEncodable] at hblocks
  | cons message rest ih =>
      rw [List.map_cons, blocksBytes_cons, List.length_append, blockBytes_length] at hroom
      rw [encodeMessageBlocks, runOn_ensure_bind]
      by_cases hnumber : (message.sequenceNumber == first + UInt64.ofNat index) = true
      · rw [if_pos hnumber, runOn_ensure_bind]
        by_cases hfits : decide (message.payload.length ≤ 0xFFFF) = true
        · rw [if_pos hfits]
          have hrest : blocksEncodable first (index + 1) rest = false := by
            rw [blocksEncodable, hnumber, hfits] at hblocks
            simpa using hblocks
          have hlength : (splice bytes offset
              (u16Bytes (UInt16.ofNat message.payload.length))).length = bytes.length :=
            splice_length (by rw [u16Bytes_length]; omega)
          rw [runOn_bind_ok (writeU16Be_emitsAt _ _ bytes (by rw [u16Bytes_length]; omega)),
            runOn_bind_ok (modify_splice_emitsAt (offset + 2) message.payload _ (by omega))]
          apply ih hrest
          rw [splice_length (by omega), hlength]
          change offset + 2 + message.payload.length + _ ≤ _
          omega
        · rw [if_neg hfits]
          exact ⟨bytes, rfl⟩
      · rw [if_neg hnumber]
        exact ⟨bytes, rfl⟩

/-- The branch for packets without messages: three checks, then the header. -/
theorem runOn_encodeHeaderOnly {packet : DownstreamPacket} {first second : Bool}
    {bytes : Bytes} (hbytes : bytes.length = lengthDownstreamHeader) :
    if packet.messages.isEmpty && (first && second) then
      runOn (do
        ensure packet.messages.isEmpty .invalidArgument
        ensure first .invalidArgument
        ensure second .invalidArgument
        encodeDownstreamHeader packet) bytes = (.ok (), wireBytes packet)
    else
      ∃ left, runOn (do
        ensure packet.messages.isEmpty .invalidArgument
        ensure first .invalidArgument
        ensure second .invalidArgument
        encodeDownstreamHeader packet) bytes = (.error .invalidArgument, left) := by
  simp only [runOn_ensure_bind]
  by_cases hempty : packet.messages.isEmpty = true
  · have hwire : wireBytes packet =
        headerBytes packet.session packet.firstSequenceNumber packet.messageCount := by
      rw [wireBytes, List.isEmpty_iff.mp hempty]
      exact List.append_nil _
    rw [hempty, hwire]
    cases first with
    | false => exact ⟨bytes, rfl⟩
    | true =>
        cases second with
        | false => exact ⟨bytes, rfl⟩
        | true =>
            exact (encodeDownstreamHeader_emitsAt packet).run_full
              (hbytes.trans (headerBytes_length _ _ _).symm)
  · rw [Bool.eq_false_iff.mpr hempty]
    exact ⟨bytes, rfl⟩

/-- The encoder's checks on packets without messages, as it writes them. -/
theorem isEncodable_of_ne_data {packet : DownstreamPacket} (hkind : packet.kind ≠ .data) :
    isEncodable packet = (packet.messages.isEmpty &&
      (!(packet.kind == .heartbeat && packet.messageCount != heartbeatMessageCount) &&
        !(packet.kind == .endOfSession &&
          packet.messageCount != endOfSessionMessageCount))) := by
  rcases packet with ⟨session, first, messageCount, kind, messages⟩
  cases kind with
  | data => exact absurd rfl hkind
  | heartbeat =>
      have hother : (PacketKind.heartbeat == .endOfSession) = false := rfl
      simp [isEncodable, bne, hother]
  | endOfSession =>
      have hother : (PacketKind.endOfSession == .heartbeat) = false := rfl
      simp [isEncodable, bne, hother]

/-- Encoding on a span of the announced length: encodable packets leave their wire
form, all others fail with {lit}`invalid_argument`. -/
theorem runOn_encodeDownstreamPacket {packet : DownstreamPacket} {bytes : Bytes}
    (hbytes : bytes.length = downstreamPacketEncodedLength packet) :
    if isEncodable packet then
      runOn (encodeDownstreamPacket packet) bytes = (.ok (), wireBytes packet)
    else
      ∃ left, runOn (encodeDownstreamPacket packet) bytes =
        (.error .invalidArgument, left) := by
  rw [encodeDownstreamPacket, runOn_bind_ok (runOn_get bytes), runOn_ensure_bind,
    if_pos (beq_iff_eq.mpr hbytes)]
  by_cases hkind : packet.kind = .data
  · have hlength := hbytes.trans (downstreamPacketEncodedLength_eq (fun h => absurd hkind h))
    rw [wireBytes_length] at hlength
    simp only [isEncodable, hkind, ne_eq, not_true_eq_false, if_false, runOn_ensure_bind]
    by_cases hcount : (packet.messages.length == packet.messageCount.toNat) = true
    · have hheader := encodeDownstreamHeader_emitsAt packet
      simp only [hcount, Bool.true_and, if_true]
      by_cases hblocks : blocksEncodable packet.firstSequenceNumber 0 packet.messages = true
      · rw [if_pos hblocks]
        refine EmitsAt.run_full ?_ (hlength.trans (wireBytes_length _).symm)
        exact hheader.bind (headerBytes_length _ _ _) (encodeMessageBlocks_emitsAt hblocks)
      · rw [if_neg hblocks, runOn_bind_ok (hheader bytes (by rw [headerBytes_length]; omega))]
        apply runOn_encodeMessageBlocks_error (Bool.eq_false_iff.mpr hblocks)
        rw [splice_length (by rw [headerBytes_length]; omega), hlength]
    · simp only [hcount, Bool.false_and]
      exact ⟨bytes, rfl⟩
  · have hlength : bytes.length = lengthDownstreamHeader := by
      rw [hbytes, downstreamPacketEncodedLength, if_pos hkind]
    rw [isEncodable_of_ne_data hkind]
    simp only [if_pos (show packet.kind ≠ .data from hkind)]
    exact runOn_encodeHeaderOnly hlength

/-- On a span of the packet's length, encoding succeeds exactly for encodable
packets and leaves their wire form. -/
theorem runEncode_encodeDownstreamPacket_eq_ok_iff {packet : DownstreamPacket}
    {buffer bytes : Bytes}
    (hbuffer : buffer.length = downstreamPacketEncodedLength packet) :
    runEncode (encodeDownstreamPacket packet) buffer = (.ok, bytes) ↔
      isEncodable packet = true ∧ bytes = wireBytes packet := by
  have hrun := runOn_encodeDownstreamPacket hbuffer
  by_cases hencodable : isEncodable packet = true
  · rw [if_pos hencodable] at hrun
    rw [runEncode, hrun]
    simp [hencodable, eq_comm]
  · rw [if_neg hencodable] at hrun
    rcases hrun with ⟨left, hrun⟩
    rw [runEncode, hrun]
    simp [hencodable]

end Fgep.Moldudp64
