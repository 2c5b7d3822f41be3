import GatedExecution.Itch.Encode
import GatedExecution.Ouch.Encode

/-!
# Encoders leave a whole message or nothing

The encoders of both protocols write field by field and may return an error after every
write.  All their checks come before the first write, so the caller's buffer never holds
part of a message.

A System Event is the one kind whose encoder asks more than its validity predicate:
{lit}`is_valid_system_event_message` allows any stock locate, and the encoder only zero.

Main results:

- Theorem {lit}`allOrNothing_of_runOn`: what the outcome of such an encoder means to its
  caller.
- Theorem {lit}`encoders_are_all_or_nothing`: every message of both protocols.
-/

namespace Fgep.Codec

open Wire Buffer

/-- The caller's view of an encoder: when it succeeds, that what it leaves then does not
depend on what the buffer held, and that it otherwise leaves the buffer alone. -/
structure AllOrNothing (program : EncodeM Unit) (length : Nat) (Valid : Prop) : Prop where
  ok_iff : ∀ buffer, (runEncode program buffer).1 = .ok ↔ buffer.length = length ∧ Valid
  bytes_eq : ∀ buffer other, (runEncode program buffer).1 = .ok →
    (runEncode program other).1 = .ok →
    (runEncode program buffer).2 = (runEncode program other).2
  unchanged : ∀ buffer, (runEncode program buffer).1 ≠ .ok →
    (runEncode program buffer).2 = buffer

section Outcome

variable {program : EncodeM Unit} {length : Nat} {valid : Bool} {wire : Bytes}

theorem runEncode_of_runOn
    (hrun : ∀ buffer, runOn program buffer = allOrNothing length valid wire buffer)
    (buffer : Bytes) :
    runEncode program buffer =
      if buffer.length ≠ length then (.parseError, buffer)
      else if valid then (.ok, wire)
      else (.invalidArgument, buffer) := by
  rw [runEncode, hrun, allOrNothing]
  by_cases hlength : buffer.length = length
  · cases valid <;> simp [hlength]
  · simp [hlength]

theorem allOrNothing_of_runOn
    (hrun : ∀ buffer, runOn program buffer = allOrNothing length valid wire buffer) :
    AllOrNothing program length (valid = true) := by
  have hok : ∀ buffer, (runEncode program buffer).1 = .ok ↔
      buffer.length = length ∧ valid = true := by
    intro buffer
    rw [runEncode_of_runOn hrun]
    by_cases hlength : buffer.length = length
    · cases valid <;> simp [hlength]
    · simp [hlength]
  have hwire : ∀ buffer, (runEncode program buffer).1 = .ok →
      (runEncode program buffer).2 = wire := by
    intro buffer hbuffer
    rcases (hok buffer).mp hbuffer with ⟨hlength, hvalid⟩
    rw [runEncode_of_runOn hrun]
    simp [hlength, hvalid]
  refine ⟨hok, ?_, ?_⟩
  · intro buffer other hbuffer hother
    exact (hwire buffer hbuffer).trans (hwire other hother).symm
  · intro buffer herror
    rw [Ne, hok] at herror
    rw [runEncode_of_runOn hrun]
    by_cases hlength : buffer.length = length
    · have hinvalid : valid = false := by
        cases hvalid : valid with
        | false => rfl
        | true => exact absurd ⟨hlength, hvalid⟩ herror
      simp [hlength, hinvalid]
    · simp [hlength]

end Outcome

/-- What the ITCH encoders ask of a message. -/
theorem isEncodable_iff (message : Itch.Message) :
    Itch.isEncodable message = true ↔
      Itch.isValidMessage message = true ∧
        ∀ event, message = .systemEvent event → event.header.stockLocate = 0 := by
  cases message with
  | systemEvent event =>
      simp [Itch.isEncodable, Itch.isValidMessage, Itch.isValidSystemEventMessage,
        Itch.isValidHeaderAllowingZeroStockLocate, Itch.isValidOrZeroStockLocate, and_comm]
  | _ => simp [Itch.isEncodable]

/-- An encoder writes a whole message, or leaves the buffer as it was; a System Event needs stock
locate zero to be written. -/
theorem encoders_are_all_or_nothing :
    (∀ message : Itch.Message,
      AllOrNothing (Itch.encodeMessage message) (Itch.wireLength message)
        (Itch.isValidMessage message = true ∧
          ∀ event, message = .systemEvent event → event.header.stockLocate = 0)) ∧
    (∀ message : Ouch.Message,
      AllOrNothing (Ouch.encodeMessage message) (Ouch.encodedLength message)
        (Ouch.isValidMessage message = true)) := by
  constructor
  · intro message
    have hencoder := allOrNothing_of_runOn (Itch.runOn_encodeMessage message)
    rw [isEncodable_iff] at hencoder
    exact hencoder
  · intro message
    exact allOrNothing_of_runOn (Ouch.runOn_encodeMessage message)

/-- A System Event with a stock locate is valid, and refused on a buffer of its length. -/
theorem system_event_with_stock_locate_refused :
    let message : Itch.Message := .systemEvent ⟨⟨1, 0, 0⟩, .startOfMessages⟩
    let buffer : Bytes := List.replicate 12 0
    Itch.isValidMessage message = true ∧ buffer.length = Itch.wireLength message ∧
      runEncode (Itch.encodeMessage message) buffer = (.invalidArgument, buffer) := by
  decide

end Fgep.Codec
