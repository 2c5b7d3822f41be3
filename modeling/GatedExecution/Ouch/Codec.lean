import GatedExecution.Ouch.Decode
import GatedExecution.Ouch.Encode

/-!
# The OUCH codec is a bijection

The inbound order messages end in an appendage of variable length.  Decoder and
encoder agree on where it starts, how long it is and how long it may be.

Main results:

- Theorem {lit}`runEncode_encodeMessage_fst_eq_ok_iff`: which messages encode,
  into which spans.
- Theorem {lit}`decodeMessage_iff_encodeMessage_order`: a byte string decodes to
  a message exactly when encoding the message leaves that byte string.
-/

namespace Fgep.Ouch

open Wire Buffer

theorem runEncode_encodeMessage_eq_ok_iff {message : Message} {buffer bytes : Bytes}
    (hbuffer : buffer.length = encodedLength message) :
    runEncode (encodeMessage message) buffer = (.ok, bytes) ↔
      isValidMessage message = true ∧ bytes = wireBytes message :=
  runEncode_eq_ok_iff_of_allOrNothing (runOn_encodeMessage message buffer) hbuffer

/-- Encoding succeeds exactly for valid messages and spans of their length. -/
theorem runEncode_encodeMessage_fst_eq_ok_iff {message : Message} {buffer : Bytes} :
    (runEncode (encodeMessage message) buffer).1 = .ok ↔
      buffer.length = encodedLength message ∧ isValidMessage message = true := by
  rw [runEncode, runOn_encodeMessage, allOrNothing]
  by_cases hlength : buffer.length = encodedLength message
  · by_cases hvalid : isValidMessage message = true
    · simp [hlength, hvalid]
    · simp [hlength, hvalid]
  · simp [hlength]

/-- The part of a wire form after its base is the appendage and nothing else. -/
theorem wireBytes_drop_baseLength (message : Message) :
    (wireBytes message).drop (baseLength (messageType message)) =
      message.optionalAppendage := by
  have hself : HoldsAt (wireBytes message) 0 (wireBytes message) :=
    (eq_iff_length_and_holdsAt.mp rfl).2
  have happendage := (holdsAt_wireBytes.mp hself).2.2.2
  have hrest : ((wireBytes message).drop (baseLength (messageType message))).length =
      message.optionalAppendage.length := by
    rw [List.length_drop, wireBytes_length, encodedLength_eq]
    omega
  rw [HoldsAt, ← hrest, List.take_length] at happendage
  exact happendage

/-- The codec is a bijection: decoding inverts encoding in both directions,
whatever the span held before.  An accepted byte string consists of its base and
its appendage, and an appendage too long for the length field is never encoded,
into no span. -/
theorem decodeMessage_iff_encodeMessage_order (bytes buffer : Bytes) (message : Message)
    (hbuffer : buffer.length = encodedLength message) :
    (decodeMessage bytes = .ok message ↔
        runEncode (encodeMessage message) buffer = (.ok, bytes)) ∧
      (decodeMessage bytes = .ok message →
        bytes.length =
            baseLength (messageType message) + message.optionalAppendage.length ∧
          bytes.drop (baseLength (messageType message)) = message.optionalAppendage) ∧
      (0xFFFF < message.optionalAppendage.length →
        ∀ other : Bytes, (runEncode (encodeMessage message) other).1 ≠ .ok) := by
  refine ⟨?_, ?_, ?_⟩
  · rw [decodeMessage_eq_ok_iff, runEncode_encodeMessage_eq_ok_iff hbuffer]
  · intro hdecode
    rcases decodeMessage_eq_ok_iff.mp hdecode with ⟨-, rfl⟩
    exact ⟨by rw [wireBytes_length, encodedLength_eq], wireBytes_drop_baseLength message⟩
  · intro hlong other hok
    have hvalid := (runEncode_encodeMessage_fst_eq_ok_iff.mp hok).2
    have hfits := appendageLengthFits_of_isValidMessage hvalid
    omega

/-- A cancel of order 7 with a one-byte appendage, encoded over a dirty span. -/
theorem decodeMessage_iff_encodeMessage_order_cancel :
    (List.replicate 12 (0xFF : UInt8)).length = encodedLength (.cancelOrder ⟨7, 5, [9]⟩) ∧
      decodeMessage [0x58, 0, 0, 0, 7, 0, 0, 0, 5, 0, 1, 9] =
        .ok (.cancelOrder ⟨7, 5, [9]⟩) :=
  ⟨rfl, ((decodeMessage_iff_encodeMessage_order _ (List.replicate 12 0xFF) _ rfl).1).mpr
    (by decide)⟩

end Fgep.Ouch
