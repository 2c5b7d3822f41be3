import GatedExecution.Ouch.Messages

/-!
# OUCH encoding

The encoders of {lit}`ouch/ouch_encode.cpp` as programs over the caller's span.
The appendage is copied byte by byte by the loop of {lit}`write_appendage`.

Main results:

- Theorem {lit}`copyAppendage_emitsAt`: the copy loop fills exactly the range of
  the appendage.
- Theorem {lit}`runOn_encodeMessage`: every encoder is all or nothing.
-/

namespace Fgep.Ouch

open Wire Buffer

/-! ## Encode helpers -/

def requireExactEncodeLength (expectedLength : Nat) : EncodeM Unit := do
  let bytes ← get
  ensure (bytes.length == expectedLength) .parseError

/-- The loop of {lit}`write_appendage`, one byte a round. -/
def copyAppendage (offset : Nat) : Bytes → EncodeM Unit
  | [] => pure ()
  | byte :: rest => do
      modify fun bytes => bytes.set offset byte
      copyAppendage (offset + 1) rest

def writeAppendage (appendageLengthOffset appendageOffset : Nat)
    (optionalAppendage : Bytes) : EncodeM Unit := do
  ensure (appendageLengthFits optionalAppendage) .invalidArgument
  writeU16Be appendageLengthOffset (UInt16.ofNat optionalAppendage.length)
  let bytes ← get
  ensure (hasRange bytes appendageOffset optionalAppendage.length) .parseError
  copyAppendage appendageOffset optionalAppendage

def encodeMessageType (messageType : MessageType) : EncodeM Unit :=
  writeChar 0 messageType.toChar

/-- Shared body of the three encoders. -/
def encodeOrderMessage (messageType : MessageType) (encodedLength : Nat) (isValid : Bool)
    (writeFields : EncodeM Unit) (appendageLengthOffset appendageOffset : Nat)
    (optionalAppendage : Bytes) : EncodeM Unit := do
  requireExactEncodeLength encodedLength
  ensure isValid .invalidArgument
  encodeMessageType messageType
  writeFields
  writeAppendage appendageLengthOffset appendageOffset optionalAppendage

/-! ## Message encoders -/

def encodeEnterOrderMessage (message : EnterOrderMessage) : EncodeM Unit :=
  encodeOrderMessage .enterOrder (encodedLength (.enterOrder message))
    (isValidEnterOrderMessage message)
    (do
      writeU32Be enterOrderOffsetUserRefNum message.userRefNum
      writeChar enterOrderOffsetSide message.side.toChar
      writeU32Be enterOrderOffsetQuantity message.quantity
      writeFixedAscii enterOrderOffsetSymbol message.symbol
      writeU64Be enterOrderOffsetPrice message.price
      writeChar enterOrderOffsetTimeInForce message.timeInForce.toChar
      writeChar enterOrderOffsetDisplay message.display.toChar
      writeChar enterOrderOffsetCapacity message.capacity.toChar
      writeChar enterOrderOffsetIntermarketSweepEligibility
        message.intermarketSweepEligibility.toChar
      writeChar enterOrderOffsetCrossType message.crossType.toChar
      writeFixedAscii enterOrderOffsetClOrdId message.clOrdId)
    enterOrderOffsetAppendageLength enterOrderOffsetOptionalAppendage
    message.optionalAppendage

def encodeReplaceOrderMessage (message : ReplaceOrderMessage) : EncodeM Unit :=
  encodeOrderMessage .replaceOrder (encodedLength (.replaceOrder message))
    (isValidReplaceOrderMessage message)
    (do
      writeU32Be replaceOrderOffsetOrigUserRefNum message.origUserRefNum
      writeU32Be replaceOrderOffsetUserRefNum message.userRefNum
      writeU32Be replaceOrderOffsetQuantity message.quantity
      writeU64Be replaceOrderOffsetPrice message.price
      writeChar replaceOrderOffsetTimeInForce message.timeInForce.toChar
      writeChar replaceOrderOffsetDisplay message.display.toChar
      writeChar replaceOrderOffsetIntermarketSweepEligibility
        message.intermarketSweepEligibility.toChar
      writeFixedAscii replaceOrderOffsetClOrdId message.clOrdId)
    replaceOrderOffsetAppendageLength replaceOrderOffsetOptionalAppendage
    message.optionalAppendage

def encodeCancelOrderMessage (message : CancelOrderMessage) : EncodeM Unit :=
  encodeOrderMessage .cancelOrder (encodedLength (.cancelOrder message))
    (isValidCancelOrderMessage message)
    (do
      writeU32Be cancelOrderOffsetUserRefNum message.userRefNum
      writeU32Be cancelOrderOffsetQuantity message.quantity)
    cancelOrderOffsetAppendageLength cancelOrderOffsetOptionalAppendage
    message.optionalAppendage

def encodeMessage : Message → EncodeM Unit
  | .enterOrder message => encodeEnterOrderMessage message
  | .replaceOrder message => encodeReplaceOrderMessage message
  | .cancelOrder message => encodeCancelOrderMessage message

/-! ## Specifications -/

/-- The copy loop fills exactly the range of what it copies. -/
theorem copyAppendage_emitsAt (offset : Nat) (appendage : Bytes) :
    EmitsAt (copyAppendage offset appendage) offset appendage := by
  induction appendage generalizing offset with
  | nil =>
      intro bytes _
      simp [copyAppendage, splice]
  | cons byte rest ih =>
      have hset : EmitsAt (modify fun bytes => bytes.set offset byte : EncodeM Unit) offset
          [byte] := by
        intro bytes hfit
        have hlt : offset < bytes.length := by simpa using hfit
        change (Except.ok (), bytes.set offset byte) = _
        rw [splice, List.set_eq_take_append_cons_drop, if_pos hlt]
        simp
      exact hset.bind rfl (ih (offset + 1))

theorem writeAppendage_emitsAt {offset : Nat} {appendage : Bytes}
    (hfits : appendage.length ≤ 0xFFFF) :
    EmitsAt (writeAppendage offset (offset + 2) appendage) offset
      (appendageBytes appendage) := by
  intro bytes hroom
  have hlength : (appendageBytes appendage).length = 2 + appendage.length := by
    simp [appendageBytes]
  rw [hlength] at hroom
  have hchecked : appendageLengthFits appendage = true := decide_eq_true hfits
  rw [writeAppendage, runOn_ensure_bind, if_pos hchecked,
    runOn_bind_ok (writeU16Be_emitsAt _ _ bytes (by rw [u16Bytes_length]; omega)),
    runOn_bind_ok (runOn_get _), runOn_ensure_bind]
  have hspliced : (splice bytes offset
      (u16Bytes (UInt16.ofNat appendage.length))).length = bytes.length :=
    splice_length (by rw [u16Bytes_length]; omega)
  rw [if_pos (hasRange_iff.mpr (by omega)), copyAppendage_emitsAt _ _ _ (by omega)]
  have hjoin := @splice_splice _ bytes (u16Bytes (UInt16.ofNat appendage.length)) appendage
    offset (by rw [u16Bytes_length]; omega)
  rw [u16Bytes_length] at hjoin
  rw [hjoin, appendageBytes]

/-- The shared body is all or nothing. -/
theorem runOn_encodeOrderMessage {message : Message} {writeFields : EncodeM Unit}
    (hfields : isValidMessage message = true →
      EmitsAt writeFields 1 (fieldBytes message)) (bytes : Bytes) :
    runOn (encodeOrderMessage (messageType message) (encodedLength message)
        (isValidMessage message) writeFields (baseLength (messageType message) - 2)
        (baseLength (messageType message)) message.optionalAppendage) bytes =
      allOrNothing (encodedLength message) (isValidMessage message) (wireBytes message)
        bytes := by
  have hbase := fieldBytes_length message
  unfold encodeOrderMessage requireExactEncodeLength allOrNothing
  rw [runOn_bind, runOn_bind_ok (runOn_get bytes), runOn_ensure]
  by_cases hlength : bytes.length = encodedLength message
  · rw [if_neg (not_not_intro hlength), hlength, beq_self_eq_true, if_pos rfl]
    dsimp only
    rw [runOn_ensure_bind]
    by_cases hvalid : isValidMessage message = true
    · rw [if_pos hvalid, if_pos hvalid]
      have happendage := @writeAppendage_emitsAt (baseLength (messageType message) - 2) _
        (appendageLengthFits_of_isValidMessage hvalid)
      rw [show baseLength (messageType message) - 2 + 2 = baseLength (messageType message)
        by omega] at happendage
      have hemits : EmitsAt (do
          encodeMessageType (messageType message)
          writeFields
          writeAppendage (baseLength (messageType message) - 2)
            (baseLength (messageType message)) message.optionalAppendage) 0
          (wireBytes message) := by
        refine (writeChar_emitsAt _ _).bind (u8Bytes_length _) ?_
        refine (hfields hvalid).bind rfl ?_
        rw [show 1 + (fieldBytes message).length = baseLength (messageType message) - 2
          by omega]
        exact happendage
      exact hemits.run_full (by rw [hlength, wireBytes_length])
    · rw [if_neg hvalid, if_neg hvalid]
  · rw [if_pos hlength, beq_eq_false_iff_ne.mpr hlength]
    rfl

/-- Every encoder is all or nothing. -/
theorem runOn_encodeMessage (message : Message) (bytes : Bytes) :
    runOn (encodeMessage message) bytes =
      allOrNothing (encodedLength message) (isValidMessage message) (wireBytes message)
        bytes := by
  cases message with
  | enterOrder message =>
      refine @runOn_encodeOrderMessage (.enterOrder message) _ ?_ bytes
      intro hvalid
      simp only [isValidMessage, isValidEnterOrderMessage, Bool.and_eq_true] at hvalid
      refine (writeU32Be_emitsAt _ _).bind (u32Bytes_length _) ?_
      refine (writeChar_emitsAt _ _).bind (u8Bytes_length _) ?_
      refine (writeU32Be_emitsAt _ _).bind (u32Bytes_length _) ?_
      refine (writeFixedAscii_emitsAt hvalid.1.1.2 _).bind (List.Vector.toList_length _) ?_
      refine (writeU64Be_emitsAt _ _).bind (u64Bytes_length _) ?_
      refine (writeChar_emitsAt _ _).bind (u8Bytes_length _) ?_
      refine (writeChar_emitsAt _ _).bind (u8Bytes_length _) ?_
      refine (writeChar_emitsAt _ _).bind (u8Bytes_length _) ?_
      refine (writeChar_emitsAt _ _).bind (u8Bytes_length _) ?_
      refine (writeChar_emitsAt _ _).bind (u8Bytes_length _) ?_
      exact writeFixedAscii_emitsAt hvalid.1.2 _
  | replaceOrder message =>
      refine @runOn_encodeOrderMessage (.replaceOrder message) _ ?_ bytes
      intro hvalid
      simp only [isValidMessage, isValidReplaceOrderMessage, Bool.and_eq_true] at hvalid
      refine (writeU32Be_emitsAt _ _).bind (u32Bytes_length _) ?_
      refine (writeU32Be_emitsAt _ _).bind (u32Bytes_length _) ?_
      refine (writeU32Be_emitsAt _ _).bind (u32Bytes_length _) ?_
      refine (writeU64Be_emitsAt _ _).bind (u64Bytes_length _) ?_
      refine (writeChar_emitsAt _ _).bind (u8Bytes_length _) ?_
      refine (writeChar_emitsAt _ _).bind (u8Bytes_length _) ?_
      refine (writeChar_emitsAt _ _).bind (u8Bytes_length _) ?_
      exact writeFixedAscii_emitsAt hvalid.1.2 _
  | cancelOrder message =>
      refine @runOn_encodeOrderMessage (.cancelOrder message) _ ?_ bytes
      intro _
      refine (writeU32Be_emitsAt _ _).bind (u32Bytes_length _) ?_
      exact writeU32Be_emitsAt _ _

end Fgep.Ouch
