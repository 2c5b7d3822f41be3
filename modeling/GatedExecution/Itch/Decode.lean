import GatedExecution.Itch.Layout

/-!
# ITCH decoding

The decoders of {lit}`itch/itch_decode.cpp`.  Twelve of the thirteen kinds run
the same checks around their own fields; {lit}`decodeStockMessage` is that
shared body, and each decoder is it applied to the kind's type, field readers
and validity predicate.  System Event has a header rule of its own and keeps
its own body.

Main results:

- Theorem {lit}`decodeStockMessage_eq_ok_iff`: the shared body accepts exactly
  the wire forms of its kind's valid messages.
- Theorem {lit}`decodeMessage_eq_ok_iff`: a byte string decodes to a message
  exactly when the message is encodable and the string is its wire form.
-/

namespace Fgep.Itch

open Wire Buffer

/-! ## Generic decode helpers -/

def decodeMessageType (bytes : Bytes) : Result MessageType := do
  let type ← readChar bytes 0
  messageTypeFromChar type

def decodeHeader (bytes : Bytes) : Result Header := do
  ensure (hasRange bytes 0 sizeCommonHeader) .parseError
  let stockLocate ← readU16Be bytes offsetStockLocate
  let trackingNumber ← readU16Be bytes offsetTrackingNumber
  let timestampNs ← readU48Be bytes offsetTimestamp
  ensure (isValidTimestampNs timestampNs) .parseError
  return { stockLocate, trackingNumber, timestampNs }

def requireValidHeaderForStockMessage (header : Header) : Result Unit :=
  ensure (isValidHeaderForStockMessage header) .parseError

/-- System Event messages are not stock-specific: the stock locate is always 0. -/
def requireValidSystemEventHeader (header : Header) : Result Unit := do
  ensure (header.stockLocate == 0) .parseError
  ensure (isValidTimestampNs header.timestampNs) .parseError

def requireExactMessageTypeAndLength (bytes : Bytes) (expected : MessageType) :
    Result Unit := do
  let decoded ← decodeMessageType bytes
  ensure (decoded == expected) .parseError
  let expectedLength ← messageLength expected
  ensure (bytes.length == expectedLength) .parseError

/-- Shared body of the decoders of stock-specific messages: exact type and
length, a valid header, the fields of the kind, and its validity predicate. -/
def decodeStockMessage {μ : Type} (messageType : MessageType) (isValid : μ → Bool)
    (bytes : Bytes) (readFields : Header → Result μ) : Result μ := do
  requireExactMessageTypeAndLength bytes messageType
  let header ← decodeHeader bytes
  requireValidHeaderForStockMessage header
  let message ← readFields header
  ensure (isValid message) .parseError
  return message

/-! ## Message-specific decoders -/

def decodeSystemEventMessage (bytes : Bytes) : Result SystemEventMessage := do
  requireExactMessageTypeAndLength bytes .systemEvent
  let header ← decodeHeader bytes
  requireValidSystemEventHeader header
  let eventCode ← readChar bytes systemEventOffsetEventCode
  let eventCode ← systemEventCodeFromChar eventCode
  return { header, eventCode }

def decodeStockDirectoryMessage (bytes : Bytes) : Result StockDirectoryMessage :=
  decodeStockMessage .stockDirectory isValidStockDirectoryMessage bytes fun header => do
    let stock ← readFixedAscii 8 bytes stockDirectoryOffsetStock
    let marketCategory ← readChar bytes stockDirectoryOffsetMarketCategory
    let financialStatusIndicator ←
      readChar bytes stockDirectoryOffsetFinancialStatusIndicator
    let roundLotSize ← readU32Be bytes stockDirectoryOffsetRoundLotSize
    let roundLotsOnly ← readChar bytes stockDirectoryOffsetRoundLotsOnly
    let issueClassification ← readChar bytes stockDirectoryOffsetIssueClassification
    let issueSubType ← readFixedAscii 2 bytes stockDirectoryOffsetIssueSubType
    let authenticity ← readChar bytes stockDirectoryOffsetAuthenticity
    let shortSaleThresholdIndicator ←
      readChar bytes stockDirectoryOffsetShortSaleThresholdIndicator
    let ipoFlag ← readChar bytes stockDirectoryOffsetIpoFlag
    let luldReferencePriceTier ← readChar bytes stockDirectoryOffsetLuldReferencePriceTier
    let etpFlag ← readChar bytes stockDirectoryOffsetEtpFlag
    let etpLeverageFactor ← readU32Be bytes stockDirectoryOffsetEtpLeverageFactor
    let inverseIndicator ← readChar bytes stockDirectoryOffsetInverseIndicator
    return {
      header, stock, marketCategory, financialStatusIndicator, roundLotSize, roundLotsOnly,
      issueClassification, issueSubType, authenticity, shortSaleThresholdIndicator, ipoFlag,
      luldReferencePriceTier, etpFlag, etpLeverageFactor, inverseIndicator }

def decodeStockTradingActionMessage (bytes : Bytes) : Result StockTradingActionMessage :=
  decodeStockMessage .stockTradingAction isValidStockTradingActionMessage bytes
    fun header => do
      let stock ← readFixedAscii 8 bytes stockTradingActionOffsetStock
      let tradingState ← readChar bytes stockTradingActionOffsetTradingState
      let tradingState ← tradingStateFromChar tradingState
      let reserved ← readChar bytes stockTradingActionOffsetReserved
      let reason ← readFixedAscii 4 bytes stockTradingActionOffsetReason
      return { header, stock, tradingState, reserved, reason }

def decodeAddOrderNoMpidMessage (bytes : Bytes) : Result AddOrderNoMpidMessage :=
  decodeStockMessage .addOrderNoMpid isValidAddOrderNoMpidMessage bytes fun header => do
    let orderReferenceNumber ← readU64Be bytes addOrderOffsetOrderReferenceNumber
    let side ← readChar bytes addOrderOffsetSide
    let side ← sideFromChar side
    let shares ← readU32Be bytes addOrderOffsetShares
    let stock ← readFixedAscii 8 bytes addOrderOffsetStock
    let price ← readU32Be bytes addOrderOffsetPrice
    return { header, orderReferenceNumber, side, shares, stock, price }

def decodeAddOrderWithMpidMessage (bytes : Bytes) : Result AddOrderWithMpidMessage :=
  decodeStockMessage .addOrderWithMpid isValidAddOrderWithMpidMessage bytes
    fun header => do
      let orderReferenceNumber ← readU64Be bytes addOrderWithMpidOffsetOrderReferenceNumber
      let side ← readChar bytes addOrderWithMpidOffsetSide
      let side ← sideFromChar side
      let shares ← readU32Be bytes addOrderWithMpidOffsetShares
      let stock ← readFixedAscii 8 bytes addOrderWithMpidOffsetStock
      let price ← readU32Be bytes addOrderWithMpidOffsetPrice
      let attribution ← readFixedAscii 4 bytes addOrderWithMpidOffsetAttribution
      return { header, orderReferenceNumber, side, shares, stock, price, attribution }

def decodeOrderExecutedMessage (bytes : Bytes) : Result OrderExecutedMessage :=
  decodeStockMessage .orderExecuted isValidOrderExecutedMessage bytes fun header => do
    let orderReferenceNumber ← readU64Be bytes orderExecutedOffsetOrderReferenceNumber
    let executedShares ← readU32Be bytes orderExecutedOffsetExecutedShares
    let matchNumber ← readU64Be bytes orderExecutedOffsetMatchNumber
    return { header, orderReferenceNumber, executedShares, matchNumber }

def decodeOrderExecutedWithPriceMessage (bytes : Bytes) :
    Result OrderExecutedWithPriceMessage :=
  decodeStockMessage .orderExecutedWithPrice isValidOrderExecutedWithPriceMessage bytes
    fun header => do
      let orderReferenceNumber ←
        readU64Be bytes orderExecutedWithPriceOffsetOrderReferenceNumber
      let executedShares ← readU32Be bytes orderExecutedWithPriceOffsetExecutedShares
      let matchNumber ← readU64Be bytes orderExecutedWithPriceOffsetMatchNumber
      let printableChar ← readChar bytes orderExecutedWithPriceOffsetPrintable
      let parsedPrintable ← printableFromChar printableChar
      let executionPrice ← readU32Be bytes orderExecutedWithPriceOffsetExecutionPrice
      return {
        header, orderReferenceNumber, executedShares, matchNumber,
        printable := parsedPrintable, executionPrice }

def decodeOrderCancelMessage (bytes : Bytes) : Result OrderCancelMessage :=
  decodeStockMessage .orderCancel isValidOrderCancelMessage bytes fun header => do
    let orderReferenceNumber ← readU64Be bytes orderCancelOffsetOrderReferenceNumber
    let cancelledShares ← readU32Be bytes orderCancelOffsetCancelledShares
    return { header, orderReferenceNumber, cancelledShares }

def decodeOrderDeleteMessage (bytes : Bytes) : Result OrderDeleteMessage :=
  decodeStockMessage .orderDelete isValidOrderDeleteMessage bytes fun header => do
    let orderReferenceNumber ← readU64Be bytes orderDeleteOffsetOrderReferenceNumber
    return { header, orderReferenceNumber }

def decodeOrderReplaceMessage (bytes : Bytes) : Result OrderReplaceMessage :=
  decodeStockMessage .orderReplace isValidOrderReplaceMessage bytes fun header => do
    let originalOrderReferenceNumber ←
      readU64Be bytes orderReplaceOffsetOriginalOrderReferenceNumber
    let newOrderReferenceNumber ← readU64Be bytes orderReplaceOffsetNewOrderReferenceNumber
    let shares ← readU32Be bytes orderReplaceOffsetShares
    let price ← readU32Be bytes orderReplaceOffsetPrice
    return {
      header, originalOrderReferenceNumber, newOrderReferenceNumber, shares, price }

def decodeTradeNonCrossMessage (bytes : Bytes) : Result TradeNonCrossMessage :=
  decodeStockMessage .tradeNonCross isValidTradeNonCrossMessage bytes fun header => do
    let orderReferenceNumber ← readU64Be bytes tradeNonCrossOffsetOrderReferenceNumber
    let side ← readChar bytes tradeNonCrossOffsetSide
    let side ← sideFromChar side
    let shares ← readU32Be bytes tradeNonCrossOffsetShares
    let stock ← readFixedAscii 8 bytes tradeNonCrossOffsetStock
    let price ← readU32Be bytes tradeNonCrossOffsetPrice
    let matchNumber ← readU64Be bytes tradeNonCrossOffsetMatchNumber
    return { header, orderReferenceNumber, side, shares, stock, price, matchNumber }

def decodeCrossTradeMessage (bytes : Bytes) : Result CrossTradeMessage :=
  decodeStockMessage .crossTrade isValidCrossTradeMessage bytes fun header => do
    let shares ← readU64Be bytes crossTradeOffsetShares
    let stock ← readFixedAscii 8 bytes crossTradeOffsetStock
    let crossPrice ← readU32Be bytes crossTradeOffsetCrossPrice
    let matchNumber ← readU64Be bytes crossTradeOffsetMatchNumber
    let crossType ← readChar bytes crossTradeOffsetCrossType
    let crossType ← crossTypeFromChar crossType
    return { header, shares, stock, crossPrice, matchNumber, crossType }

def decodeBrokenTradeMessage (bytes : Bytes) : Result BrokenTradeMessage :=
  decodeStockMessage .brokenTrade isValidBrokenTradeMessage bytes fun header => do
    let matchNumber ← readU64Be bytes brokenTradeOffsetMatchNumber
    return { header, matchNumber }

/-- Dispatch on the type byte; types outside the implemented set are
unsupported. -/
def decodeMessage (bytes : Bytes) : Result Message := do
  let decodedMessageType ← decodeMessageType bytes
  match decodedMessageType with
  | .systemEvent => (decodeSystemEventMessage bytes).map .systemEvent
  | .stockDirectory => (decodeStockDirectoryMessage bytes).map .stockDirectory
  | .stockTradingAction => (decodeStockTradingActionMessage bytes).map .stockTradingAction
  | .addOrderNoMpid => (decodeAddOrderNoMpidMessage bytes).map .addOrderNoMpid
  | .addOrderWithMpid => (decodeAddOrderWithMpidMessage bytes).map .addOrderWithMpid
  | .orderExecuted => (decodeOrderExecutedMessage bytes).map .orderExecuted
  | .orderExecutedWithPrice =>
      (decodeOrderExecutedWithPriceMessage bytes).map .orderExecutedWithPrice
  | .orderCancel => (decodeOrderCancelMessage bytes).map .orderCancel
  | .orderDelete => (decodeOrderDeleteMessage bytes).map .orderDelete
  | .orderReplace => (decodeOrderReplaceMessage bytes).map .orderReplace
  | .tradeNonCross => (decodeTradeNonCrossMessage bytes).map .tradeNonCross
  | .crossTrade => (decodeCrossTradeMessage bytes).map .crossTrade
  | .brokenTrade => (decodeBrokenTradeMessage bytes).map .brokenTrade
  | .regShoRestriction
  | .marketParticipantPosition
  | .mwcbDeclineLevel
  | .mwcbStatus
  | .ipoQuotingPeriodUpdate
  | .luldAuctionCollar
  | .operationalHalt
  | .noii
  | .retailPriceImprovementIndicator
  | .directListingWithCapitalRaise => .error .unsupported

/-! ## Specifications of the helpers -/

@[simp] theorem decodeMessageType_eq_ok_iff {bytes : Bytes} {type : MessageType} :
    decodeMessageType bytes = .ok type ↔
      HoldsAt bytes offsetMessageType (u8Bytes type.toChar) := by
  simp only [decodeMessageType, Result.bind_eq_ok_iff, readChar_eq_ok_iff,
    messageTypeFromChar_eq_ok_iff, existsAndEq, and_true]

/-- A header is read exactly where its wire form sits, if its timestamp is a
nanosecond of the day. -/
theorem decodeHeader_eq_ok_iff {bytes : Bytes} {header : Header} :
    decodeHeader bytes = .ok header ↔
      HoldsAt bytes offsetStockLocate (headerBytes header) ∧
        isValidTimestampNs header.timestampNs = true := by
  rcases header with ⟨stockLocate, trackingNumber, timestampNs⟩
  have hfit : HoldsAt bytes offsetTimestamp (u48Bytes timestampNs) →
      hasRange bytes 0 sizeCommonHeader = true := by
    intro h
    have hlen := h.length_le (by rw [← List.length_pos_iff, u48Bytes_length]; decide)
    rw [u48Bytes_length] at hlen
    exact hasRange_iff.mpr (by omega)
  simp only [decodeHeader, Result.bind_eq_ok_iff, Result.ensure_eq_ok_iff, exists_const,
    readU16Be_eq_ok_iff, readU48Be_eq_ok_iff, Result.pure_eq_ok_iff, Header.mk.injEq,
    existsAndEq, headerBytes, holdsAt_append, List.length_append, u16Bytes_length,
    Nat.reduceAdd]
  constructor
  · intro h
    rcases h with ⟨-, hlocate, htracking, ⟨-, htimestamp⟩, hvalid⟩
    refine ⟨⟨⟨hlocate, htracking⟩, htimestamp⟩, by tauto⟩
  · intro h
    rcases h with ⟨⟨⟨hlocate, htracking⟩, htimestamp⟩, hvalid⟩
    have hbound := le_u48_of_isValidTimestampNs hvalid
    have hrange := hfit htimestamp
    tauto

theorem requireExactMessageTypeAndLength_eq_ok_iff {bytes : Bytes} {type : MessageType}
    {length : Nat} (hlength : messageLength type = .ok length) :
    requireExactMessageTypeAndLength bytes type = .ok () ↔
      HoldsAt bytes offsetMessageType (u8Bytes type.toChar) ∧ bytes.length = length := by
  simp only [requireExactMessageTypeAndLength, Result.bind_eq_ok_iff,
    decodeMessageType_eq_ok_iff, Result.ensure_eq_ok_iff, beq_iff_eq, exists_const, hlength,
    Except.ok.injEq, existsAndEq, true_and]

/-- The shared body accepts exactly the wire forms of its kind's valid
messages.  The field readers only need to be right on valid messages, since the
validity predicate runs after them. -/
theorem decodeStockMessage_eq_ok_iff {μ : Type} (inject : μ → Message) (type : MessageType)
    (length : Nat) (hlength : messageLength type = .ok length)
    (htype : ∀ message, messageType (inject message) = type)
    (hwire : ∀ message, wireLength (inject message) = length)
    (hstock : type ≠ .systemEvent)
    {bytes : Bytes} {readFields : Header → Result μ}
    (hfields : ∀ header message, isEncodable (inject message) = true →
      (readFields header = .ok message ↔
        header = (inject message).header ∧
          HoldsAt bytes offsetMessageBody (bodyBytes (inject message))))
    {message : μ} :
    decodeStockMessage type (fun message => isEncodable (inject message)) bytes readFields =
        .ok message ↔
      isEncodable (inject message) = true ∧ bytes = wireBytes (inject message) := by
  have hholds : ∀ message, HoldsAt bytes 0 (wireBytes (inject message)) ↔
      HoldsAt bytes offsetMessageType (u8Bytes type.toChar) ∧
        HoldsAt bytes offsetStockLocate (headerBytes (inject message).header) ∧
          HoldsAt bytes offsetMessageBody (bodyBytes (inject message)) := by
    intro message
    rw [wireBytes, holdsAt_framed, htype]
  simp only [decodeStockMessage, requireValidHeaderForStockMessage, Result.bind_eq_ok_iff,
    Result.ensure_eq_ok_iff, Result.pure_eq_ok_iff, exists_const, decodeHeader_eq_ok_iff,
    requireExactMessageTypeAndLength_eq_ok_iff hlength, eq_iff_length_and_holdsAt,
    wireBytes_length, hwire, hholds]
  constructor
  · intro h
    rcases h with ⟨⟨htypeByte, hlen⟩, header, ⟨hheaderHolds, -⟩, -, found, hread, hvalid, rfl⟩
    rcases (hfields header found hvalid).mp hread with ⟨rfl, hbody⟩
    exact ⟨hvalid, hlen, htypeByte, hheaderHolds, hbody⟩
  · intro h
    rcases h with ⟨hvalid, hlen, htypeByte, hheaderHolds, hbody⟩
    have hvalidHeader := isValidHeaderForStockMessage_of_isEncodable (htype message ▸ hstock) hvalid
    have htimestamp : isValidTimestampNs (inject message).header.timestampNs = true := by
      rw [isValidHeaderForStockMessage, Bool.and_eq_true] at hvalidHeader
      exact hvalidHeader.2
    exact ⟨⟨htypeByte, hlen⟩, (inject message).header, ⟨hheaderHolds, htimestamp⟩,
      hvalidHeader, message, (hfields _ _ hvalid).mpr ⟨rfl, hbody⟩, hvalid, rfl⟩

/-! ## Specifications of the decoders -/

theorem decodeSystemEventMessage_eq_ok_iff {bytes : Bytes} {message : SystemEventMessage} :
    decodeSystemEventMessage bytes = .ok message ↔
      isEncodable (.systemEvent message) = true ∧
        bytes = wireBytes (.systemEvent message) := by
  rcases message with ⟨header, eventCode⟩
  rw [eq_iff_length_and_holdsAt, wireBytes_length]
  simp only [decodeSystemEventMessage, requireValidSystemEventHeader, Result.bind_eq_ok_iff,
    Result.ensure_eq_ok_iff, Result.pure_eq_ok_iff, exists_const, decodeHeader_eq_ok_iff,
    @requireExactMessageTypeAndLength_eq_ok_iff _ .systemEvent lengthSystemEvent rfl,
    readChar_eq_ok_iff, systemEventCodeFromChar_eq_ok_iff, SystemEventMessage.mk.injEq,
    existsAndEq, isEncodable, wireLength, wireBytes, holdsAt_framed, messageType,
    Message.header, bodyBytes, SystemEventMessage.bodyBytes, Bool.and_eq_true]
  tauto

theorem decodeStockDirectoryMessage_eq_ok_iff {bytes : Bytes}
    {message : StockDirectoryMessage} :
    decodeStockDirectoryMessage bytes = .ok message ↔
      isValidStockDirectoryMessage message = true ∧
        bytes = wireBytes (.stockDirectory message) := by
  refine decodeStockMessage_eq_ok_iff .stockDirectory .stockDirectory lengthStockDirectory
    rfl (fun _ => rfl) (fun _ => rfl) (by decide) ?_
  intro header message hvalid
  rcases message with ⟨_, _, _, _, _, _, _, _, _, _, _, _, _, _, _⟩
  simp only [isEncodable, isValidMessage, isValidStockDirectoryMessage, Bool.and_eq_true] at hvalid
  simp only [Result.bind_eq_ok_iff, Result.pure_eq_ok_iff, readU32Be_eq_ok_iff, readChar_eq_ok_iff,
    readFixedAscii_eq_ok_iff, StockDirectoryMessage.mk.injEq, Message.header, bodyBytes,
    StockDirectoryMessage.bodyBytes, holdsAt_append, u8Bytes_length, u32Bytes_length,
    List.Vector.toList_length, Nat.reduceAdd, offsetMessageBody, existsAndEq]
  tauto

theorem decodeStockTradingActionMessage_eq_ok_iff {bytes : Bytes}
    {message : StockTradingActionMessage} :
    decodeStockTradingActionMessage bytes = .ok message ↔
      isValidStockTradingActionMessage message = true ∧
        bytes = wireBytes (.stockTradingAction message) := by
  refine decodeStockMessage_eq_ok_iff .stockTradingAction .stockTradingAction
    lengthStockTradingAction rfl (fun _ => rfl) (fun _ => rfl) (by decide) ?_
  intro header message hvalid
  rcases message with ⟨_, _, _, _, _⟩
  simp only [isEncodable, isValidMessage, isValidStockTradingActionMessage, Bool.and_eq_true]
    at hvalid
  simp only [Result.bind_eq_ok_iff, Result.pure_eq_ok_iff, readChar_eq_ok_iff,
    readFixedAscii_eq_ok_iff,
    tradingStateFromChar_eq_ok_iff, StockTradingActionMessage.mk.injEq, Message.header,
    bodyBytes, StockTradingActionMessage.bodyBytes, holdsAt_append, u8Bytes_length,
    List.Vector.toList_length, Nat.reduceAdd, offsetMessageBody, existsAndEq]
  tauto

theorem decodeAddOrderNoMpidMessage_eq_ok_iff {bytes : Bytes}
    {message : AddOrderNoMpidMessage} :
    decodeAddOrderNoMpidMessage bytes = .ok message ↔
      isValidAddOrderNoMpidMessage message = true ∧
        bytes = wireBytes (.addOrderNoMpid message) := by
  refine decodeStockMessage_eq_ok_iff .addOrderNoMpid .addOrderNoMpid lengthAddOrderNoMpid
    rfl (fun _ => rfl) (fun _ => rfl) (by decide) ?_
  intro header message hvalid
  rcases message with ⟨_, _, _, _, _, _⟩
  simp only [isEncodable, isValidMessage, isValidAddOrderNoMpidMessage, Bool.and_eq_true] at hvalid
  simp only [Result.bind_eq_ok_iff, Result.pure_eq_ok_iff, readU64Be_eq_ok_iff, readU32Be_eq_ok_iff,
    readChar_eq_ok_iff, readFixedAscii_eq_ok_iff, sideFromChar_eq_ok_iff,
    AddOrderNoMpidMessage.mk.injEq, Message.header, bodyBytes,
    AddOrderNoMpidMessage.bodyBytes, holdsAt_append, u64Bytes_length, u8Bytes_length,
    u32Bytes_length, List.Vector.toList_length, Nat.reduceAdd, offsetMessageBody, existsAndEq]
  tauto

theorem decodeAddOrderWithMpidMessage_eq_ok_iff {bytes : Bytes}
    {message : AddOrderWithMpidMessage} :
    decodeAddOrderWithMpidMessage bytes = .ok message ↔
      isValidAddOrderWithMpidMessage message = true ∧
        bytes = wireBytes (.addOrderWithMpid message) := by
  refine decodeStockMessage_eq_ok_iff .addOrderWithMpid .addOrderWithMpid lengthAddOrderWithMpid
    rfl (fun _ => rfl) (fun _ => rfl) (by decide) ?_
  intro header message hvalid
  rcases message with ⟨_, _, _, _, _, _, _⟩
  simp only [isEncodable, isValidMessage, isValidAddOrderWithMpidMessage, Bool.and_eq_true]
    at hvalid
  simp only [Result.bind_eq_ok_iff, Result.pure_eq_ok_iff, readU64Be_eq_ok_iff, readU32Be_eq_ok_iff,
    readChar_eq_ok_iff, readFixedAscii_eq_ok_iff, sideFromChar_eq_ok_iff,
    AddOrderWithMpidMessage.mk.injEq, Message.header, bodyBytes,
    AddOrderWithMpidMessage.bodyBytes, holdsAt_append, u64Bytes_length, u8Bytes_length,
    u32Bytes_length, List.Vector.toList_length, Nat.reduceAdd, offsetMessageBody, existsAndEq]
  tauto

theorem decodeOrderExecutedMessage_eq_ok_iff {bytes : Bytes}
    {message : OrderExecutedMessage} :
    decodeOrderExecutedMessage bytes = .ok message ↔
      isValidOrderExecutedMessage message = true ∧
        bytes = wireBytes (.orderExecuted message) := by
  refine decodeStockMessage_eq_ok_iff .orderExecuted .orderExecuted lengthOrderExecuted
    rfl (fun _ => rfl) (fun _ => rfl) (by decide) ?_
  intro header message hvalid
  rcases message with ⟨_, _, _, _⟩
  simp only [isEncodable, isValidMessage, isValidOrderExecutedMessage, Bool.and_eq_true] at hvalid
  simp only [Result.bind_eq_ok_iff, Result.pure_eq_ok_iff, readU64Be_eq_ok_iff, readU32Be_eq_ok_iff,
    OrderExecutedMessage.mk.injEq, Message.header, bodyBytes,
    OrderExecutedMessage.bodyBytes, holdsAt_append, u64Bytes_length, u32Bytes_length,
    Nat.reduceAdd, offsetMessageBody, existsAndEq]
  tauto

theorem decodeOrderExecutedWithPriceMessage_eq_ok_iff {bytes : Bytes}
    {message : OrderExecutedWithPriceMessage} :
    decodeOrderExecutedWithPriceMessage bytes = .ok message ↔
      isValidOrderExecutedWithPriceMessage message = true ∧
        bytes = wireBytes (.orderExecutedWithPrice message) := by
  refine decodeStockMessage_eq_ok_iff .orderExecutedWithPrice .orderExecutedWithPrice
    lengthOrderExecutedWithPrice rfl (fun _ => rfl) (fun _ => rfl) (by decide) ?_
  intro header message hvalid
  rcases message with ⟨_, _, _, _, _, _⟩
  simp only [isEncodable, isValidMessage, isValidOrderExecutedWithPriceMessage, Bool.and_eq_true]
    at hvalid
  simp only [Result.bind_eq_ok_iff, Result.pure_eq_ok_iff, readU64Be_eq_ok_iff, readU32Be_eq_ok_iff,
    readChar_eq_ok_iff, printableFromChar_eq_ok_iff,
    OrderExecutedWithPriceMessage.mk.injEq, Message.header, bodyBytes,
    OrderExecutedWithPriceMessage.bodyBytes, holdsAt_append, u64Bytes_length,
    u8Bytes_length, u32Bytes_length, Nat.reduceAdd, offsetMessageBody, existsAndEq]
  tauto

theorem decodeOrderCancelMessage_eq_ok_iff {bytes : Bytes}
    {message : OrderCancelMessage} :
    decodeOrderCancelMessage bytes = .ok message ↔
      isValidOrderCancelMessage message = true ∧
        bytes = wireBytes (.orderCancel message) := by
  refine decodeStockMessage_eq_ok_iff .orderCancel .orderCancel lengthOrderCancel
    rfl (fun _ => rfl) (fun _ => rfl) (by decide) ?_
  intro header message hvalid
  rcases message with ⟨_, _, _⟩
  simp only [isEncodable, isValidMessage, isValidOrderCancelMessage, Bool.and_eq_true] at hvalid
  simp only [Result.bind_eq_ok_iff, Result.pure_eq_ok_iff, readU64Be_eq_ok_iff, readU32Be_eq_ok_iff,
    OrderCancelMessage.mk.injEq, Message.header, bodyBytes, OrderCancelMessage.bodyBytes,
    holdsAt_append, u64Bytes_length, Nat.reduceAdd, offsetMessageBody, existsAndEq]
  tauto

theorem decodeOrderDeleteMessage_eq_ok_iff {bytes : Bytes}
    {message : OrderDeleteMessage} :
    decodeOrderDeleteMessage bytes = .ok message ↔
      isValidOrderDeleteMessage message = true ∧
        bytes = wireBytes (.orderDelete message) := by
  refine decodeStockMessage_eq_ok_iff .orderDelete .orderDelete lengthOrderDelete
    rfl (fun _ => rfl) (fun _ => rfl) (by decide) ?_
  intro header message hvalid
  rcases message with ⟨_, _⟩
  simp only [isEncodable, isValidMessage, isValidOrderDeleteMessage, Bool.and_eq_true] at hvalid
  simp only [Result.bind_eq_ok_iff, Result.pure_eq_ok_iff, readU64Be_eq_ok_iff,
    OrderDeleteMessage.mk.injEq, Message.header, bodyBytes, OrderDeleteMessage.bodyBytes,
    existsAndEq]
  tauto

theorem decodeOrderReplaceMessage_eq_ok_iff {bytes : Bytes}
    {message : OrderReplaceMessage} :
    decodeOrderReplaceMessage bytes = .ok message ↔
      isValidOrderReplaceMessage message = true ∧
        bytes = wireBytes (.orderReplace message) := by
  refine decodeStockMessage_eq_ok_iff .orderReplace .orderReplace lengthOrderReplace
    rfl (fun _ => rfl) (fun _ => rfl) (by decide) ?_
  intro header message hvalid
  rcases message with ⟨_, _, _, _, _⟩
  simp only [isEncodable, isValidMessage, isValidOrderReplaceMessage, Bool.and_eq_true] at hvalid
  simp only [Result.bind_eq_ok_iff, Result.pure_eq_ok_iff, readU64Be_eq_ok_iff, readU32Be_eq_ok_iff,
    OrderReplaceMessage.mk.injEq, Message.header, bodyBytes,
    OrderReplaceMessage.bodyBytes, holdsAt_append, u64Bytes_length, u32Bytes_length,
    Nat.reduceAdd, offsetMessageBody, existsAndEq]
  tauto

theorem decodeTradeNonCrossMessage_eq_ok_iff {bytes : Bytes}
    {message : TradeNonCrossMessage} :
    decodeTradeNonCrossMessage bytes = .ok message ↔
      isValidTradeNonCrossMessage message = true ∧
        bytes = wireBytes (.tradeNonCross message) := by
  refine decodeStockMessage_eq_ok_iff .tradeNonCross .tradeNonCross lengthTradeNonCross
    rfl (fun _ => rfl) (fun _ => rfl) (by decide) ?_
  intro header message hvalid
  rcases message with ⟨_, _, _, _, _, _, _⟩
  simp only [isEncodable, isValidMessage, isValidTradeNonCrossMessage, Bool.and_eq_true] at hvalid
  simp only [Result.bind_eq_ok_iff, Result.pure_eq_ok_iff, readU64Be_eq_ok_iff, readU32Be_eq_ok_iff,
    readChar_eq_ok_iff, readFixedAscii_eq_ok_iff, sideFromChar_eq_ok_iff,
    TradeNonCrossMessage.mk.injEq, Message.header, bodyBytes,
    TradeNonCrossMessage.bodyBytes, holdsAt_append, u64Bytes_length, u8Bytes_length,
    u32Bytes_length, List.Vector.toList_length, Nat.reduceAdd, offsetMessageBody, existsAndEq]
  tauto

theorem decodeCrossTradeMessage_eq_ok_iff {bytes : Bytes}
    {message : CrossTradeMessage} :
    decodeCrossTradeMessage bytes = .ok message ↔
      isValidCrossTradeMessage message = true ∧
        bytes = wireBytes (.crossTrade message) := by
  refine decodeStockMessage_eq_ok_iff .crossTrade .crossTrade lengthCrossTrade
    rfl (fun _ => rfl) (fun _ => rfl) (by decide) ?_
  intro header message hvalid
  rcases message with ⟨_, _, _, _, _, _⟩
  simp only [isEncodable, isValidMessage, isValidCrossTradeMessage, Bool.and_eq_true] at hvalid
  simp only [Result.bind_eq_ok_iff, Result.pure_eq_ok_iff, readU64Be_eq_ok_iff, readU32Be_eq_ok_iff,
    readChar_eq_ok_iff, readFixedAscii_eq_ok_iff, crossTypeFromChar_eq_ok_iff,
    CrossTradeMessage.mk.injEq, Message.header, bodyBytes, CrossTradeMessage.bodyBytes,
    holdsAt_append, u64Bytes_length, u32Bytes_length,
    List.Vector.toList_length, Nat.reduceAdd, offsetMessageBody, existsAndEq]
  tauto

theorem decodeBrokenTradeMessage_eq_ok_iff {bytes : Bytes}
    {message : BrokenTradeMessage} :
    decodeBrokenTradeMessage bytes = .ok message ↔
      isValidBrokenTradeMessage message = true ∧
        bytes = wireBytes (.brokenTrade message) := by
  refine decodeStockMessage_eq_ok_iff .brokenTrade .brokenTrade lengthBrokenTrade
    rfl (fun _ => rfl) (fun _ => rfl) (by decide) ?_
  intro header message hvalid
  rcases message with ⟨_, _⟩
  simp only [isEncodable, isValidMessage, isValidBrokenTradeMessage, Bool.and_eq_true] at hvalid
  simp only [Result.bind_eq_ok_iff, Result.pure_eq_ok_iff, readU64Be_eq_ok_iff,
    BrokenTradeMessage.mk.injEq, Message.header, bodyBytes, BrokenTradeMessage.bodyBytes,
    existsAndEq]
  tauto

/-- The type byte of a wire form announces the message's kind. -/
theorem decodeMessageType_wireBytes (message : Message) :
    decodeMessageType (wireBytes message) = .ok (messageType message) := by
  rw [decodeMessageType_eq_ok_iff]
  have hself : HoldsAt (wireBytes message) 0 (wireBytes message) :=
    (eq_iff_length_and_holdsAt.mp rfl).2
  exact (holdsAt_framed.mp hself).1

/-- A byte string decodes to a message exactly when the message is encodable and
the string is its wire form. -/
theorem decodeMessage_eq_ok_iff {bytes : Bytes} {message : Message} :
    decodeMessage bytes = .ok message ↔
      isEncodable message = true ∧ bytes = wireBytes message := by
  constructor
  · intro h
    simp only [decodeMessage, Result.bind_eq_ok_iff] at h
    rcases h with ⟨type, -, h⟩
    cases type <;> simp only [Result.map_eq_ok_iff, reduceCtorEq,
      decodeSystemEventMessage_eq_ok_iff, decodeStockDirectoryMessage_eq_ok_iff,
      decodeStockTradingActionMessage_eq_ok_iff, decodeAddOrderNoMpidMessage_eq_ok_iff,
      decodeAddOrderWithMpidMessage_eq_ok_iff, decodeOrderExecutedMessage_eq_ok_iff,
      decodeOrderExecutedWithPriceMessage_eq_ok_iff, decodeOrderCancelMessage_eq_ok_iff,
      decodeOrderDeleteMessage_eq_ok_iff, decodeOrderReplaceMessage_eq_ok_iff,
      decodeTradeNonCrossMessage_eq_ok_iff, decodeCrossTradeMessage_eq_ok_iff,
      decodeBrokenTradeMessage_eq_ok_iff] at h
    all_goals
      rcases h with ⟨decoded, h, rfl⟩
      exact h
  · intro h
    rcases h with ⟨hvalid, rfl⟩
    rw [decodeMessage, decodeMessageType_wireBytes]
    cases message <;> simp only [isEncodable, isValidMessage, Bool.and_eq_true] at hvalid
    all_goals refine Result.map_eq_ok_iff.mpr ⟨_, ?_, rfl⟩
    · exact decodeSystemEventMessage_eq_ok_iff.mpr ⟨by simpa [isEncodable] using hvalid, rfl⟩
    · exact decodeStockDirectoryMessage_eq_ok_iff.mpr ⟨hvalid, rfl⟩
    · exact decodeStockTradingActionMessage_eq_ok_iff.mpr ⟨hvalid, rfl⟩
    · exact decodeAddOrderNoMpidMessage_eq_ok_iff.mpr ⟨hvalid, rfl⟩
    · exact decodeAddOrderWithMpidMessage_eq_ok_iff.mpr ⟨hvalid, rfl⟩
    · exact decodeOrderExecutedMessage_eq_ok_iff.mpr ⟨hvalid, rfl⟩
    · exact decodeOrderExecutedWithPriceMessage_eq_ok_iff.mpr ⟨hvalid, rfl⟩
    · exact decodeOrderCancelMessage_eq_ok_iff.mpr ⟨hvalid, rfl⟩
    · exact decodeOrderDeleteMessage_eq_ok_iff.mpr ⟨hvalid, rfl⟩
    · exact decodeOrderReplaceMessage_eq_ok_iff.mpr ⟨hvalid, rfl⟩
    · exact decodeTradeNonCrossMessage_eq_ok_iff.mpr ⟨hvalid, rfl⟩
    · exact decodeCrossTradeMessage_eq_ok_iff.mpr ⟨hvalid, rfl⟩
    · exact decodeBrokenTradeMessage_eq_ok_iff.mpr ⟨hvalid, rfl⟩

end Fgep.Itch
