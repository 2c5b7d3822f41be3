import GatedExecution.Moldudp64.Requests
import GatedExecution.Net.Sockets
import GatedExecution.Replay.ItchPacket

/-!
# Datagrams that do not fit the buffer

{lit}`UdpReceiver::receive` hands out what fits its buffer and does not say that something
was cut.  The length fields of a MoldUDP64 packet say it: no packet is the start of another
one, so what is left of a packet that was cut does not decode.

Main results:

- Theorem {lit}`blocksBytes_inj_of_leads`: as many blocks, one string the start of the other.
- Theorem {lit}`decodeDownstreamPacket_take`: a packet that was cut does not decode.
- Theorem {lit}`receive_decodes`: what a receiver makes of a datagram.
-/

namespace Fgep.Net

open Wire Buffer Moldudp64 Replay

/-! ## No packet starts another -/

theorem append_leads {α : Type} {first second rest rest' : List α}
    (hlength : first.length = second.length) (hleads : first ++ rest <+: second ++ rest') :
    first = second ∧ rest <+: rest' := by
  rcases hleads with ⟨after, hafter⟩
  rw [List.append_assoc] at hafter
  rcases List.append_inj hafter hlength with ⟨hfirst, hrest⟩
  exact ⟨hfirst, after, hrest⟩

theorem u16Bytes_inj {first second : UInt16} (hbytes : u16Bytes first = u16Bytes second) :
    first = second := by
  have hread : ∀ value, u16Bytes first = u16Bytes value →
      readU16Be (u16Bytes first) 0 = .ok value := by
    intro value hvalue
    rw [readU16Be_eq_ok_iff]
    exact (eq_iff_length_and_holdsAt.mp hvalue).2
  have hsame := (hread first rfl).symm.trans (hread second hbytes)
  cases hsame
  rfl

/-- The length in front of a block tells where it ends. -/
theorem blockBytes_leads {first second rest rest' : Bytes} (hfirst : first.length ≤ 0xFFFF)
    (hsecond : second.length ≤ 0xFFFF)
    (hleads : blockBytes first ++ rest <+: blockBytes second ++ rest') :
    first = second ∧ rest <+: rest' := by
  rw [blockBytes, blockBytes, List.append_assoc, List.append_assoc] at hleads
  rcases append_leads (by rw [u16Bytes_length, u16Bytes_length]) hleads with ⟨hsize, hleads⟩
  have hlength : first.length = second.length := by
    have hnat := congrArg UInt16.toNat (u16Bytes_inj hsize)
    rwa [UInt16.toNat_ofNat_of_lt' (show _ < 65536 by omega),
      UInt16.toNat_ofNat_of_lt' (show _ < 65536 by omega)] at hnat
  exact append_leads hlength hleads

theorem blocksBytes_inj_of_leads {first second : List Bytes} (hcount : first.length = second.length)
    (hfirst : ∀ payload ∈ first, payload.length ≤ 0xFFFF)
    (hsecond : ∀ payload ∈ second, payload.length ≤ 0xFFFF)
    (hleads : blocksBytes first <+: blocksBytes second) : first = second := by
  induction first generalizing second with
  | nil => exact (List.length_eq_zero_iff.mp hcount.symm).symm
  | cons payload rest ih =>
      cases second with
      | nil => cases hcount
      | cons payload' rest' =>
          rw [List.forall_mem_cons] at hfirst hsecond
          rw [blocksBytes_cons, blocksBytes_cons] at hleads
          rcases blockBytes_leads hfirst.1 hsecond.1 hleads with ⟨hpayload, hleads⟩
          rw [hpayload, ih (Nat.succ.inj hcount) hfirst.2 hsecond.2 hleads]

/-- The blocks of a decoded packet fit their length fields, and the message count says how
many there are. -/
theorem payloads_of_decode {bytes : Bytes} {packet : DownstreamPacket}
    (hdecode : decodeDownstreamPacket bytes = .ok packet) :
    (packet.messages.map (·.payload)).length =
        (if isSpecialMessageCount packet.messageCount then 0 else packet.messageCount.toNat) ∧
      ∀ payload ∈ packet.messages.map (·.payload), payload.length ≤ 0xFFFF := by
  have hshape := (encodable_and_representable_iff.mp
    (decodeDownstreamPacket_eq_ok_iff.mp hdecode).1).2
  rw [List.length_map]
  by_cases hspecial : isSpecialMessageCount packet.messageCount = true
  · rw [if_pos hspecial] at hshape ⊢
    rw [hshape]
    exact ⟨rfl, fun _ hmem => by cases hmem⟩
  · rw [if_neg hspecial] at hshape ⊢
    refine ⟨hshape.1, ?_⟩
    intro payload hmem
    rcases List.mem_map.mp hmem with ⟨message, hmessage, rfl⟩
    exact (blocksEncodable_iff.mp hshape.2.2).2 message hmessage

theorem decodeDownstreamPacket_take {bytes : Bytes} {packet cut : DownstreamPacket} {size : Nat}
    (hdecode : decodeDownstreamPacket bytes = .ok packet)
    (hcut : decodeDownstreamPacket (bytes.take size) = .ok cut) : bytes.length ≤ size := by
  rcases payloads_of_decode hdecode with ⟨hcount, hfits⟩
  rcases payloads_of_decode hcut with ⟨hcutCount, hcutFits⟩
  have hbytes := (decodeDownstreamPacket_eq_ok_iff.mp hdecode).2
  have hcutBytes := (decodeDownstreamPacket_eq_ok_iff.mp hcut).2
  have hleads : wireBytes cut <+: wireBytes packet := by
    rw [← hcutBytes, ← hbytes]
    exact List.take_prefix _ _
  rw [wireBytes, wireBytes] at hleads
  rcases append_leads (by rw [headerBytes_length, headerBytes_length]) hleads with
    ⟨hheader, hblocks⟩
  -- The headers are the same requests, so the counts agree.
  have hrequest : decodeRequestPacket (headerBytes cut.session cut.firstSequenceNumber
      cut.messageCount) = .ok ⟨packet.session, packet.firstSequenceNumber, packet.messageCount⟩ :=
    decodeRequestPacket_eq_ok_iff.mpr hheader
  have hown : decodeRequestPacket (headerBytes cut.session cut.firstSequenceNumber
      cut.messageCount) = .ok ⟨cut.session, cut.firstSequenceNumber, cut.messageCount⟩ :=
    decodeRequestPacket_eq_ok_iff.mpr rfl
  have hsame : cut.messageCount = packet.messageCount := by
    rw [hown] at hrequest
    injection hrequest with hfields
    exact congrArg RequestPacket.requestedMessageCount hfields
  rw [hsame] at hcutCount
  have hpayloads := blocksBytes_inj_of_leads (hcutCount.trans hcount.symm) hcutFits hfits hblocks
  have hlength := congrArg List.length hcutBytes
  rw [wireBytes_length, hpayloads, ← wireBytes_length, ← hbytes, List.length_take] at hlength
  omega

/-! ## What a receiver makes of a datagram -/

/-- A packet that does not decode as MoldUDP64 does not decode at all. -/
theorem decodeDownstreamPacket_of_itch {bytes : Bytes} {packet : MoldUdp64ItchReplayPacket}
    (hdecode : decodeMoldudp64ItchPacket bytes = .ok packet) :
    ∃ moldPacket, decodeDownstreamPacket bytes = .ok moldPacket := by
  rw [decodeMoldudp64ItchPacket, Result.bind_eq_ok_iff] at hdecode
  rcases hdecode with ⟨moldPacket, hmold, -⟩
  exact ⟨moldPacket, hmold⟩

theorem readTimestamps_received (control : List ControlMessage) (result : UdpReceiveResult) :
    (UdpReceiver.readTimestamps control result).received = result.received ∧
      (UdpReceiver.readTimestamps control result).bytesReceived = result.bytesReceived := by
  rw [UdpReceiver.readTimestamps]
  split
  · exact ⟨rfl, rfl⟩
  · dsimp only
    split <;> split <;> exact ⟨rfl, rfl⟩

/-- What is received of a datagram: as much as fits the buffer. -/
theorem receive_stored {receiver : UdpReceiver} {kernel : Kernel} {bufferSize : Nat}
    {now : UInt64} {arrival : Arrival} {received : (UdpReceiveResult × Bytes) × Kernel}
    (hreceive : receiver.receive kernel bufferSize now (some arrival) = received)
    (hreceived : received.1.1.received = true) :
    received.1.2 = arrival.datagram.take bufferSize ∧
      received.1.1.bytesReceived = (arrival.datagram.take bufferSize).length := by
  subst hreceive
  unfold UdpReceiver.receive at hreceived ⊢
  by_cases hclosed : (bufferSize == 0 || receiver.manuallyClosed) = true
  · rw [if_pos hclosed] at hreceived
    cases hreceived
  rw [if_neg hclosed] at hreceived ⊢
  cases hfd : receiver.socketFd with
  | none =>
      rw [hfd] at hreceived
      cases hreceived
  | some fd =>
      dsimp only
      split
      · exact ⟨rfl, (readTimestamps_received _ _).2⟩
      · exact ⟨rfl, rfl⟩

/-- A receiver that takes in a datagram with a packet hands out bytes that decode to that
packet, or the buffer was too small, it is full, and its bytes do not decode to anything. -/
theorem receive_decodes (receiver : UdpReceiver) (kernel : Kernel) (bufferSize : Nat)
    (now : UInt64) (arrival : Arrival) (packet : MoldUdp64ItchReplayPacket)
    (hpacket : decodeMoldudp64ItchPacket arrival.datagram = .ok packet)
    (hreceived : (receiver.receive kernel bufferSize now (some arrival)).1.1.received = true) :
    let received := (receiver.receive kernel bufferSize now (some arrival)).1
    (arrival.datagram.length ≤ bufferSize ∧
        received.1.bytesReceived = arrival.datagram.length ∧
        decodeMoldudp64ItchPacket received.2 = .ok packet) ∨
      (bufferSize < arrival.datagram.length ∧ received.1.bytesReceived = bufferSize ∧
        ∀ other, decodeMoldudp64ItchPacket received.2 ≠ .ok other) := by
  intro received
  rcases receive_stored rfl hreceived with ⟨hstored, hsize⟩
  change received.2 = _ at hstored
  change received.1.bytesReceived = _ at hsize
  rcases Nat.lt_or_ge bufferSize arrival.datagram.length with hsmall | hfits
  · right
    refine ⟨hsmall, ?_, ?_⟩
    · rw [hsize, List.length_take]
      omega
    · intro other hother
      rw [hstored] at hother
      rcases decodeDownstreamPacket_of_itch hpacket with ⟨mold, hmold⟩
      rcases decodeDownstreamPacket_of_itch hother with ⟨cut, hcut⟩
      have hwhole := decodeDownstreamPacket_take hmold hcut
      omega
  · left
    rw [List.take_of_length_le hfits] at hstored hsize
    exact ⟨hfits, hsize, hstored ▸ hpacket⟩

/-- A packet with the deletion of an order, of which eight of nineteen bytes fit the buffer. -/
theorem receive_decodes_cut :
    let receiver : UdpReceiver := ⟨{}, some 3, 30001, false, false⟩
    let deletion : Bytes := [68, 0, 7, 0, 0, 0, 0, 0, 0, 0, 1, 0, 0, 0, 0, 0, 0, 0, 5]
    let arrival : Arrival :=
      ⟨List.replicate 10 0 ++ [0, 0, 0, 0, 0, 0, 0, 9] ++ [0, 1] ++ [0, 19] ++ deletion, []⟩
    let received := (receiver.receive ⟨{3}, 0⟩ 30 0 (some arrival)).1
    decodeMoldudp64ItchPacket arrival.datagram =
        .ok ⟨List.Vector.replicate 10 0, 9, 1, .data, [⟨9, .orderDelete ⟨⟨7, 0, 1⟩, 5⟩⟩]⟩ ∧
      received.1.received = true ∧ received.1.bytesReceived = 30 ∧
      ∀ other, decodeMoldudp64ItchPacket received.2 ≠ .ok other := by
  intro receiver deletion arrival received
  have hreceived : received.1.received = true := by decide +kernel
  have hpacket : decodeMoldudp64ItchPacket arrival.datagram =
      .ok ⟨List.Vector.replicate 10 0, 9, 1, .data, [⟨9, .orderDelete ⟨⟨7, 0, 1⟩, 5⟩⟩]⟩ := by
    decide +kernel
  rcases receive_decodes receiver _ 30 0 arrival _ hpacket hreceived with
    ⟨hfits, -, -⟩ | ⟨-, hsize, hnone⟩
  · exact absurd hfits (by decide)
  · exact ⟨hpacket, hreceived, hsize, hnone⟩

end Fgep.Net
