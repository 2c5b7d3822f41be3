import GatedExecution.Ouch.Messages

/-!
# OUCH decoding

The decoders of {lit}`ouch/ouch_decode.cpp`.  The three kinds share
{lit}`decodeOrderMessage`: type, minimum length, the kind's fixed fields, the
announced appendage length compared with what is left of the datagram, and the
kind's validity predicate.

Main results:

- Theorem {lit}`decodeOrderMessage_eq_ok_iff`: the shared body accepts exactly
  the wire forms of its kind's valid messages.
- Theorem {lit}`decodeMessage_eq_ok_iff`: a byte string decodes to a message
  exactly when the message is valid and the string is its wire form.
-/

namespace Fgep.Ouch

open Wire Buffer

/-! ## Decode helpers -/

def requireMinimumLength (bytes : Bytes) (minimumLength : Nat) : Result Unit :=
  ensure (minimumLength ≤ bytes.length) .parseError

def requireAppendageExactLength (bytes : Bytes) (baseLength : Nat)
    (appendageLength : AppendageLength) : Result Unit :=
  ensure (bytes.length == baseLength + appendageLength.toNat) .parseError

def decodeMessageType (bytes : Bytes) : Result MessageType := do
  let type ← readChar bytes 0
  messageTypeFromChar type

def requireExactMessageType (bytes : Bytes) (expectedMessageType : MessageType) :
    Result Unit := do
  let decodedMessageType ← decodeMessageType bytes
  ensure (decodedMessageType == expectedMessageType) .parseError

/-- Shared body of the three decoders.  The fixed fields are read before the
appendage is known, so reading them yields the message up to its appendage. -/
def decodeOrderMessage {μ : Type} (messageType : MessageType)
    (baseLength appendageLengthOffset appendageOffset : Nat) (isValid : μ → Bool)
    (bytes : Bytes) (readFields : Result (Bytes → μ)) : Result μ := do
  requireExactMessageType bytes messageType
  requireMinimumLength bytes baseLength
  let withAppendage ← readFields
  let appendageLength ← readU16Be bytes appendageLengthOffset
  requireAppendageExactLength bytes baseLength appendageLength
  let message := withAppendage (bytes.drop appendageOffset)
  ensure (isValid message) .parseError
  return message

/-! ## Message decoders -/

def decodeEnterOrderMessage (bytes : Bytes) : Result EnterOrderMessage :=
  decodeOrderMessage .enterOrder lengthEnterOrderBase enterOrderOffsetAppendageLength
    enterOrderOffsetOptionalAppendage isValidEnterOrderMessage bytes do
      let userRefNum ← readU32Be bytes enterOrderOffsetUserRefNum
      let side ← readChar bytes enterOrderOffsetSide
      let parsedSide ← sideFromChar side
      let quantity ← readU32Be bytes enterOrderOffsetQuantity
      let symbol ← readFixedAscii 8 bytes enterOrderOffsetSymbol
      let price ← readU64Be bytes enterOrderOffsetPrice
      let timeInForce ← readChar bytes enterOrderOffsetTimeInForce
      let parsedTimeInForce ← timeInForceFromChar timeInForce
      let display ← readChar bytes enterOrderOffsetDisplay
      let parsedDisplay ← displayFromChar display
      let capacity ← readChar bytes enterOrderOffsetCapacity
      let parsedCapacity ← capacityFromChar capacity
      let intermarketSweepEligibility ←
        readChar bytes enterOrderOffsetIntermarketSweepEligibility
      let parsedIntermarketSweepEligibility ←
        intermarketSweepEligibilityFromChar intermarketSweepEligibility
      let crossType ← readChar bytes enterOrderOffsetCrossType
      let parsedCrossType ← crossTypeFromChar crossType
      let clOrdId ← readFixedAscii 14 bytes enterOrderOffsetClOrdId
      return fun optionalAppendage => {
        userRefNum, side := parsedSide, quantity, symbol, price,
        timeInForce := parsedTimeInForce, display := parsedDisplay,
        capacity := parsedCapacity,
        intermarketSweepEligibility := parsedIntermarketSweepEligibility,
        crossType := parsedCrossType, clOrdId, optionalAppendage }

def decodeReplaceOrderMessage (bytes : Bytes) : Result ReplaceOrderMessage :=
  decodeOrderMessage .replaceOrder lengthReplaceOrderBase replaceOrderOffsetAppendageLength
    replaceOrderOffsetOptionalAppendage isValidReplaceOrderMessage bytes do
      let origUserRefNum ← readU32Be bytes replaceOrderOffsetOrigUserRefNum
      let userRefNum ← readU32Be bytes replaceOrderOffsetUserRefNum
      let quantity ← readU32Be bytes replaceOrderOffsetQuantity
      let price ← readU64Be bytes replaceOrderOffsetPrice
      let timeInForce ← readChar bytes replaceOrderOffsetTimeInForce
      let parsedTimeInForce ← timeInForceFromChar timeInForce
      let display ← readChar bytes replaceOrderOffsetDisplay
      let parsedDisplay ← displayFromChar display
      let intermarketSweepEligibility ←
        readChar bytes replaceOrderOffsetIntermarketSweepEligibility
      let parsedIntermarketSweepEligibility ←
        intermarketSweepEligibilityFromChar intermarketSweepEligibility
      let clOrdId ← readFixedAscii 14 bytes replaceOrderOffsetClOrdId
      return fun optionalAppendage => {
        origUserRefNum, userRefNum, quantity, price,
        timeInForce := parsedTimeInForce, display := parsedDisplay,
        intermarketSweepEligibility := parsedIntermarketSweepEligibility,
        clOrdId, optionalAppendage }

def decodeCancelOrderMessage (bytes : Bytes) : Result CancelOrderMessage :=
  decodeOrderMessage .cancelOrder lengthCancelOrderBase cancelOrderOffsetAppendageLength
    cancelOrderOffsetOptionalAppendage isValidCancelOrderMessage bytes do
      let userRefNum ← readU32Be bytes cancelOrderOffsetUserRefNum
      let quantity ← readU32Be bytes cancelOrderOffsetQuantity
      return fun optionalAppendage => { userRefNum, quantity, optionalAppendage }

def decodeMessage (bytes : Bytes) : Result Message := do
  let decodedMessageType ← decodeMessageType bytes
  match decodedMessageType with
  | .enterOrder => (decodeEnterOrderMessage bytes).map .enterOrder
  | .replaceOrder => (decodeReplaceOrderMessage bytes).map .replaceOrder
  | .cancelOrder => (decodeCancelOrderMessage bytes).map .cancelOrder

/-! ## Specifications -/

theorem decodeMessageType_eq_ok_iff {bytes : Bytes} {type : MessageType} :
    decodeMessageType bytes = .ok type ↔ HoldsAt bytes 0 (u8Bytes type.toChar) := by
  simp only [decodeMessageType, Result.bind_eq_ok_iff, readChar_eq_ok_iff,
    messageTypeFromChar_eq_ok_iff, existsAndEq, and_true]

theorem requireExactMessageType_eq_ok_iff {bytes : Bytes} {type : MessageType} {u : Unit} :
    requireExactMessageType bytes type = .ok u ↔
      HoldsAt bytes 0 (u8Bytes type.toChar) := by
  simp only [requireExactMessageType, Result.bind_eq_ok_iff, decodeMessageType_eq_ok_iff,
    Result.ensure_eq_ok_iff, beq_iff_eq, existsAndEq, and_true]

/-- The announced length and the remaining bytes agree with an appendage exactly
when the appendage is what follows the base and its length fits. -/
theorem appendage_iff {bytes appendage : Bytes} {base : Nat} (hbase : base ≤ bytes.length) :
    (∃ announced : AppendageLength, HoldsAt bytes (base - 2) (u16Bytes announced) ∧
        bytes.length = base + announced.toNat ∧ bytes.drop base = appendage) ↔
      appendage.length ≤ 0xFFFF ∧ bytes.length = base + appendage.length ∧
        HoldsAt bytes (base - 2) (u16Bytes (UInt16.ofNat appendage.length)) ∧
          HoldsAt bytes base appendage := by
  constructor
  · intro h
    rcases h with ⟨announced, hannounced, hlength, rfl⟩
    have hdrop : (bytes.drop base).length = announced.toNat := by
      rw [List.length_drop]
      omega
    have hlt := announced.toNat_lt
    rw [hdrop, UInt16.ofNat_toNat]
    exact ⟨by omega, hlength, hannounced, holdsAt_drop⟩
  · intro h
    rcases h with ⟨hfits, hlength, hannounced, hholds⟩
    refine ⟨UInt16.ofNat appendage.length, hannounced, ?_, ?_⟩
    · rw [UInt16.toNat_ofNat_of_lt' (by change _ < 65536; omega)]
      exact hlength
    · have hrest : (bytes.drop base).length = appendage.length := by
        rw [List.length_drop]
        omega
      rw [HoldsAt, ← hrest, List.take_length] at hholds
      exact hholds

/-- The shared body accepts exactly the wire forms of its kind's valid
messages. -/
theorem decodeOrderMessage_eq_ok_iff {μ : Type} (inject : μ → Message) (type : MessageType)
    (isValid : μ → Bool) (htype : ∀ message, messageType (inject message) = type)
    (hvalid : ∀ message, isValid message = isValidMessage (inject message))
    {bytes : Bytes} {readFields : Result (Bytes → μ)}
    (hfields : ∀ appendage message, isValid message = true →
      ((∃ withAppendage, readFields = .ok withAppendage ∧ withAppendage appendage = message) ↔
        appendage = (inject message).optionalAppendage ∧
          HoldsAt bytes 1 (fieldBytes (inject message))))
    {message : μ} :
    decodeOrderMessage type (baseLength type) (baseLength type - 2) (baseLength type)
        isValid bytes readFields = .ok message ↔
      isValid message = true ∧ bytes = wireBytes (inject message) := by
  simp only [decodeOrderMessage, requireMinimumLength, requireAppendageExactLength,
    Result.bind_eq_ok_iff, Result.ensure_eq_ok_iff, Result.pure_eq_ok_iff, exists_const,
    requireExactMessageType_eq_ok_iff, readU16Be_eq_ok_iff, decide_eq_true_eq, beq_iff_eq]
  rw [eq_iff_length_and_holdsAt, wireBytes_length, encodedLength_eq, holdsAt_wireBytes, htype]
  constructor
  · intro h
    rcases h with ⟨htypeByte, hbase, withAppendage, hread, announced, hannounced, hlength,
      hok, rfl⟩
    rcases (hfields _ _ hok).mp ⟨withAppendage, hread, rfl⟩ with ⟨happendage, hholds⟩
    rcases (appendage_iff hbase).mp ⟨announced, hannounced, hlength, happendage⟩ with
      ⟨-, hlength', hannounced', happendage'⟩
    exact ⟨hok, hlength', htypeByte, hholds, hannounced', happendage'⟩
  · intro h
    rcases h with ⟨hok, hlength, htypeByte, hholds, hannounced, happendage⟩
    have hfits := appendageLengthFits_of_isValidMessage ((hvalid message).symm.trans hok)
    have hbase : baseLength type ≤ bytes.length := by omega
    rcases (appendage_iff hbase).mpr ⟨hfits, hlength, hannounced, happendage⟩ with
      ⟨announced, hannounced', hlength', hdrop⟩
    rcases (hfields _ _ hok).mpr ⟨hdrop, hholds⟩ with ⟨withAppendage, hread, hmessage⟩
    exact ⟨htypeByte, hbase, withAppendage, hread, announced, hannounced', hlength',
      by rw [hmessage]; exact hok, hmessage⟩

theorem decodeEnterOrderMessage_eq_ok_iff {bytes : Bytes} {message : EnterOrderMessage} :
    decodeEnterOrderMessage bytes = .ok message ↔
      isValidEnterOrderMessage message = true ∧ bytes = wireBytes (.enterOrder message) := by
  refine decodeOrderMessage_eq_ok_iff .enterOrder .enterOrder isValidEnterOrderMessage
    (fun _ => rfl) (fun _ => rfl) ?_
  intro appendage message hvalid
  rcases message with ⟨_, _, _, _, _, _, _, _, _, _, _, _⟩
  simp only [isValidEnterOrderMessage, Bool.and_eq_true] at hvalid
  simp only [Result.bind_eq_ok_iff, Result.pure_eq_ok_iff, readU64Be_eq_ok_iff,
    readU32Be_eq_ok_iff, readChar_eq_ok_iff, readFixedAscii_eq_ok_iff,
    sideFromChar_eq_ok_iff, timeInForceFromChar_eq_ok_iff, displayFromChar_eq_ok_iff,
    capacityFromChar_eq_ok_iff, intermarketSweepEligibilityFromChar_eq_ok_iff,
    crossTypeFromChar_eq_ok_iff, EnterOrderMessage.mk.injEq, Message.optionalAppendage,
    fieldBytes, holdsAt_append, u64Bytes_length, u8Bytes_length, u32Bytes_length,
    List.Vector.toList_length, Nat.reduceAdd, existsAndEq]
  tauto

theorem decodeReplaceOrderMessage_eq_ok_iff {bytes : Bytes}
    {message : ReplaceOrderMessage} :
    decodeReplaceOrderMessage bytes = .ok message ↔
      isValidReplaceOrderMessage message = true ∧
        bytes = wireBytes (.replaceOrder message) := by
  refine decodeOrderMessage_eq_ok_iff .replaceOrder .replaceOrder isValidReplaceOrderMessage
    (fun _ => rfl) (fun _ => rfl) ?_
  intro appendage message hvalid
  rcases message with ⟨_, _, _, _, _, _, _, _, _⟩
  simp only [isValidReplaceOrderMessage, Bool.and_eq_true] at hvalid
  simp only [Result.bind_eq_ok_iff, Result.pure_eq_ok_iff, readU64Be_eq_ok_iff,
    readU32Be_eq_ok_iff, readChar_eq_ok_iff, readFixedAscii_eq_ok_iff,
    timeInForceFromChar_eq_ok_iff, displayFromChar_eq_ok_iff,
    intermarketSweepEligibilityFromChar_eq_ok_iff, ReplaceOrderMessage.mk.injEq,
    Message.optionalAppendage, fieldBytes, holdsAt_append, u64Bytes_length, u8Bytes_length,
    u32Bytes_length, Nat.reduceAdd, existsAndEq]
  tauto

theorem decodeCancelOrderMessage_eq_ok_iff {bytes : Bytes} {message : CancelOrderMessage} :
    decodeCancelOrderMessage bytes = .ok message ↔
      isValidCancelOrderMessage message = true ∧
        bytes = wireBytes (.cancelOrder message) := by
  refine decodeOrderMessage_eq_ok_iff .cancelOrder .cancelOrder isValidCancelOrderMessage
    (fun _ => rfl) (fun _ => rfl) ?_
  intro appendage message hvalid
  rcases message with ⟨_, _, _⟩
  simp only [Result.bind_eq_ok_iff, Result.pure_eq_ok_iff, readU32Be_eq_ok_iff,
    CancelOrderMessage.mk.injEq, Message.optionalAppendage, fieldBytes, holdsAt_append,
    u32Bytes_length, Nat.reduceAdd, existsAndEq]
  tauto

/-- The type byte of a wire form announces the message's kind. -/
theorem decodeMessageType_wireBytes (message : Message) :
    decodeMessageType (wireBytes message) = .ok (messageType message) := by
  rw [decodeMessageType_eq_ok_iff]
  have hself : HoldsAt (wireBytes message) 0 (wireBytes message) :=
    (eq_iff_length_and_holdsAt.mp rfl).2
  exact (holdsAt_wireBytes.mp hself).1

/-- A byte string decodes to a message exactly when the message is valid and the
string is its wire form. -/
theorem decodeMessage_eq_ok_iff {bytes : Bytes} {message : Message} :
    decodeMessage bytes = .ok message ↔
      isValidMessage message = true ∧ bytes = wireBytes message := by
  constructor
  · intro h
    simp only [decodeMessage, Result.bind_eq_ok_iff] at h
    rcases h with ⟨type, -, h⟩
    cases type <;> simp only [Result.map_eq_ok_iff, decodeEnterOrderMessage_eq_ok_iff,
      decodeReplaceOrderMessage_eq_ok_iff, decodeCancelOrderMessage_eq_ok_iff] at h
    all_goals
      rcases h with ⟨decoded, h, rfl⟩
      exact h
  · intro h
    rcases h with ⟨hvalid, rfl⟩
    rw [decodeMessage, decodeMessageType_wireBytes]
    cases message with
    | enterOrder message =>
        exact Result.map_eq_ok_iff.mpr
          ⟨_, decodeEnterOrderMessage_eq_ok_iff.mpr ⟨hvalid, rfl⟩, rfl⟩
    | replaceOrder message =>
        exact Result.map_eq_ok_iff.mpr
          ⟨_, decodeReplaceOrderMessage_eq_ok_iff.mpr ⟨hvalid, rfl⟩, rfl⟩
    | cancelOrder message =>
        exact Result.map_eq_ok_iff.mpr
          ⟨_, decodeCancelOrderMessage_eq_ok_iff.mpr ⟨hvalid, rfl⟩, rfl⟩

end Fgep.Ouch
