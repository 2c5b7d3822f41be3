import GatedExecution.Itch.Decode
import GatedExecution.Itch.Encode

/-!
# The ITCH codec is a bijection

Decoder and encoder are written field by field on separate sides, with separate
validity checks.  Both meet at the wire form of {lit}`Itch.Layout`: the decoder
accepts exactly the wire forms of encodable messages, and the encoder produces
exactly them.

Main results:

- Theorem {lit}`runEncode_encodeMessage_eq_ok_iff`: what a successful encoding
  leaves in the span.
- Theorem {lit}`decodeMessage_iff_encodeMessage`: a byte string decodes to a
  message exactly when encoding the message leaves that byte string.
-/

namespace Fgep.Itch

open Wire Buffer

/-- On a span of the right length, encoding succeeds with {lit}`bytes` exactly
when the message is encodable and {lit}`bytes` is its wire form. -/
theorem runEncode_encodeMessage_eq_ok_iff {message : Message} {buffer bytes : Bytes}
    (hbuffer : buffer.length = wireLength message) :
    runEncode (encodeMessage message) buffer = (.ok, bytes) ↔
      isEncodable message = true ∧ bytes = wireBytes message :=
  runEncode_eq_ok_iff_of_allOrNothing (runOn_encodeMessage message buffer) hbuffer

/-- The codec is a bijection between accepted byte strings and encodable
messages: decoding inverts encoding in both directions, whatever the span held
before; the two sides accept the same messages; and no message has two accepted
byte strings. -/
theorem decodeMessage_iff_encodeMessage (bytes buffer : Bytes) (message : Message)
    (hbuffer : buffer.length = wireLength message) :
    (decodeMessage bytes = .ok message ↔
        runEncode (encodeMessage message) buffer = (.ok, bytes)) ∧
      ((∃ accepted, decodeMessage accepted = .ok message) ↔
        (runEncode (encodeMessage message) buffer).1 = .ok) ∧
      (∀ other, decodeMessage bytes = .ok message → decodeMessage other = .ok message →
        other = bytes) := by
  refine ⟨?_, ?_, ?_⟩
  · rw [decodeMessage_eq_ok_iff, runEncode_encodeMessage_eq_ok_iff hbuffer]
  · constructor
    · intro h
      rcases h with ⟨accepted, haccepted⟩
      have hencode := (runEncode_encodeMessage_eq_ok_iff hbuffer).mpr
        (decodeMessage_eq_ok_iff.mp haccepted)
      rw [hencode]
    · intro h
      -- The span an encoder leaves on success is itself an accepted byte string.
      refine ⟨(runEncode (encodeMessage message) buffer).2, ?_⟩
      rw [decodeMessage_eq_ok_iff, ← runEncode_encodeMessage_eq_ok_iff hbuffer]
      exact Prod.ext h rfl
  · intro other hbytes hother
    rw [(decodeMessage_eq_ok_iff.mp hbytes).2, (decodeMessage_eq_ok_iff.mp hother).2]

/-- An Order Delete for order 7 of stock locate 1, encoded over a dirty span. -/
theorem decodeMessage_iff_encodeMessage_orderDelete :
    (List.replicate 19 (0xFF : UInt8)).length =
        wireLength (.orderDelete ⟨⟨1, 0, 0⟩, 7⟩) ∧
      decodeMessage [0x44, 0, 1, 0, 0, 0, 0, 0, 0, 0, 0, 0, 0, 0, 0, 0, 0, 0, 7] =
        .ok (.orderDelete ⟨⟨1, 0, 0⟩, 7⟩) :=
  ⟨rfl, ((decodeMessage_iff_encodeMessage _ (List.replicate 19 0xFF) _ rfl).1).mpr
    (by decide)⟩

end Fgep.Itch
