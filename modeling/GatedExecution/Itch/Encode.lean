import GatedExecution.Itch.Layout

/-!
# ITCH encoding

The encoders of {lit}`itch/itch_encode.cpp` as programs over the caller's span.
As on the decoding side, the stock-specific kinds share one body,
{lit}`encodeStockMessage`, and System Event keeps its own.

Main results:

- Theorem {lit}`encodeHeader_emitsAt`: a header with a valid timestamp fills the
  ten bytes after the type.
- Theorem {lit}`runOn_encodeStockMessage`: the shared body is all or nothing.
- Theorem {lit}`runOn_encodeMessage`: so is every encoder, with the wire form of
  the message as its only successful result.
-/

namespace Fgep.Itch

open Wire Buffer

/-! ## Generic encode helpers -/

def isEncodeSupported : MessageType → Bool
  | .systemEvent
  | .stockDirectory
  | .stockTradingAction
  | .addOrderNoMpid
  | .addOrderWithMpid
  | .orderExecuted
  | .orderExecutedWithPrice
  | .orderCancel
  | .orderDelete
  | .orderReplace
  | .tradeNonCross
  | .crossTrade
  | .brokenTrade => true
  | .regShoRestriction
  | .marketParticipantPosition
  | .mwcbDeclineLevel
  | .mwcbStatus
  | .ipoQuotingPeriodUpdate
  | .luldAuctionCollar
  | .operationalHalt
  | .noii
  | .retailPriceImprovementIndicator
  | .directListingWithCapitalRaise => false

def requireValidSystemEventForEncode (message : SystemEventMessage) : EncodeM Unit := do
  ensure (message.header.stockLocate == 0) .invalidArgument
  ensure (isValidTimestampNs message.header.timestampNs) .invalidArgument

def requireValidStockHeaderForEncode (header : Header) : EncodeM Unit :=
  ensure (isValidHeaderForStockMessage header) .invalidArgument

def encodeMessageType (messageType : MessageType) : EncodeM Unit :=
  writeChar offsetMessageType messageType.toChar

def encodeHeader (header : Header) : EncodeM Unit := do
  let bytes ← get
  ensure (hasRange bytes 0 sizeCommonHeader) .parseError
  ensure (isValidTimestampNs header.timestampNs) .invalidArgument
  writeU16Be offsetStockLocate header.stockLocate
  writeU16Be offsetTrackingNumber header.trackingNumber
  writeU48Be offsetTimestamp header.timestampNs

def requireExactEncodeLength (messageType : MessageType) : EncodeM Unit := do
  ensure (isEncodeSupported messageType) .unsupported
  match messageLength messageType with
  | .error error => throw error
  | .ok expectedLength =>
      let bytes ← get
      ensure (bytes.length == expectedLength) .parseError

/-- Shared body of the encoders of stock-specific messages: exact length, the
kind's validity predicate, a valid header, then type, header and fields. -/
def encodeStockMessage (messageType : MessageType) (isValid : Bool) (header : Header)
    (writeFields : EncodeM Unit) : EncodeM Unit := do
  requireExactEncodeLength messageType
  ensure isValid .invalidArgument
  requireValidStockHeaderForEncode header
  encodeMessageType messageType
  encodeHeader header
  writeFields

/-! ## Message-specific encoders -/

def encodeSystemEventMessage (message : SystemEventMessage) : EncodeM Unit := do
  requireExactEncodeLength .systemEvent
  requireValidSystemEventForEncode message
  encodeMessageType .systemEvent
  encodeHeader message.header
  writeChar systemEventOffsetEventCode message.eventCode.toChar

def encodeStockDirectoryMessage (message : StockDirectoryMessage) : EncodeM Unit :=
  encodeStockMessage .stockDirectory (isValidStockDirectoryMessage message) message.header do
    writeFixedAscii stockDirectoryOffsetStock message.stock
    writeChar stockDirectoryOffsetMarketCategory message.marketCategory
    writeChar stockDirectoryOffsetFinancialStatusIndicator message.financialStatusIndicator
    writeU32Be stockDirectoryOffsetRoundLotSize message.roundLotSize
    writeChar stockDirectoryOffsetRoundLotsOnly message.roundLotsOnly
    writeChar stockDirectoryOffsetIssueClassification message.issueClassification
    writeFixedAscii stockDirectoryOffsetIssueSubType message.issueSubType
    writeChar stockDirectoryOffsetAuthenticity message.authenticity
    writeChar stockDirectoryOffsetShortSaleThresholdIndicator
      message.shortSaleThresholdIndicator
    writeChar stockDirectoryOffsetIpoFlag message.ipoFlag
    writeChar stockDirectoryOffsetLuldReferencePriceTier message.luldReferencePriceTier
    writeChar stockDirectoryOffsetEtpFlag message.etpFlag
    writeU32Be stockDirectoryOffsetEtpLeverageFactor message.etpLeverageFactor
    writeChar stockDirectoryOffsetInverseIndicator message.inverseIndicator

def encodeStockTradingActionMessage (message : StockTradingActionMessage) : EncodeM Unit :=
  encodeStockMessage .stockTradingAction (isValidStockTradingActionMessage message)
    message.header do
      writeFixedAscii stockTradingActionOffsetStock message.stock
      writeChar stockTradingActionOffsetTradingState message.tradingState.toChar
      writeChar stockTradingActionOffsetReserved message.reserved
      writeFixedAscii stockTradingActionOffsetReason message.reason

def encodeAddOrderNoMpidMessage (message : AddOrderNoMpidMessage) : EncodeM Unit :=
  encodeStockMessage .addOrderNoMpid (isValidAddOrderNoMpidMessage message) message.header do
    writeU64Be addOrderOffsetOrderReferenceNumber message.orderReferenceNumber
    writeChar addOrderOffsetSide message.side.toChar
    writeU32Be addOrderOffsetShares message.shares
    writeFixedAscii addOrderOffsetStock message.stock
    writeU32Be addOrderOffsetPrice message.price

def encodeAddOrderWithMpidMessage (message : AddOrderWithMpidMessage) : EncodeM Unit :=
  encodeStockMessage .addOrderWithMpid (isValidAddOrderWithMpidMessage message)
    message.header do
      writeU64Be addOrderWithMpidOffsetOrderReferenceNumber message.orderReferenceNumber
      writeChar addOrderWithMpidOffsetSide message.side.toChar
      writeU32Be addOrderWithMpidOffsetShares message.shares
      writeFixedAscii addOrderWithMpidOffsetStock message.stock
      writeU32Be addOrderWithMpidOffsetPrice message.price
      writeFixedAscii addOrderWithMpidOffsetAttribution message.attribution

def encodeOrderExecutedMessage (message : OrderExecutedMessage) : EncodeM Unit :=
  encodeStockMessage .orderExecuted (isValidOrderExecutedMessage message) message.header do
    writeU64Be orderExecutedOffsetOrderReferenceNumber message.orderReferenceNumber
    writeU32Be orderExecutedOffsetExecutedShares message.executedShares
    writeU64Be orderExecutedOffsetMatchNumber message.matchNumber

def encodeOrderExecutedWithPriceMessage (message : OrderExecutedWithPriceMessage) :
    EncodeM Unit :=
  encodeStockMessage .orderExecutedWithPrice (isValidOrderExecutedWithPriceMessage message)
    message.header do
      writeU64Be orderExecutedWithPriceOffsetOrderReferenceNumber
        message.orderReferenceNumber
      writeU32Be orderExecutedWithPriceOffsetExecutedShares message.executedShares
      writeU64Be orderExecutedWithPriceOffsetMatchNumber message.matchNumber
      writeChar orderExecutedWithPriceOffsetPrintable message.printable.toChar
      writeU32Be orderExecutedWithPriceOffsetExecutionPrice message.executionPrice

def encodeOrderCancelMessage (message : OrderCancelMessage) : EncodeM Unit :=
  encodeStockMessage .orderCancel (isValidOrderCancelMessage message) message.header do
    writeU64Be orderCancelOffsetOrderReferenceNumber message.orderReferenceNumber
    writeU32Be orderCancelOffsetCancelledShares message.cancelledShares

def encodeOrderDeleteMessage (message : OrderDeleteMessage) : EncodeM Unit :=
  encodeStockMessage .orderDelete (isValidOrderDeleteMessage message) message.header do
    writeU64Be orderDeleteOffsetOrderReferenceNumber message.orderReferenceNumber

def encodeOrderReplaceMessage (message : OrderReplaceMessage) : EncodeM Unit :=
  encodeStockMessage .orderReplace (isValidOrderReplaceMessage message) message.header do
    writeU64Be orderReplaceOffsetOriginalOrderReferenceNumber
      message.originalOrderReferenceNumber
    writeU64Be orderReplaceOffsetNewOrderReferenceNumber message.newOrderReferenceNumber
    writeU32Be orderReplaceOffsetShares message.shares
    writeU32Be orderReplaceOffsetPrice message.price

def encodeTradeNonCrossMessage (message : TradeNonCrossMessage) : EncodeM Unit :=
  encodeStockMessage .tradeNonCross (isValidTradeNonCrossMessage message) message.header do
    writeU64Be tradeNonCrossOffsetOrderReferenceNumber message.orderReferenceNumber
    writeChar tradeNonCrossOffsetSide message.side.toChar
    writeU32Be tradeNonCrossOffsetShares message.shares
    writeFixedAscii tradeNonCrossOffsetStock message.stock
    writeU32Be tradeNonCrossOffsetPrice message.price
    writeU64Be tradeNonCrossOffsetMatchNumber message.matchNumber

def encodeCrossTradeMessage (message : CrossTradeMessage) : EncodeM Unit :=
  encodeStockMessage .crossTrade (isValidCrossTradeMessage message) message.header do
    writeU64Be crossTradeOffsetShares message.shares
    writeFixedAscii crossTradeOffsetStock message.stock
    writeU32Be crossTradeOffsetCrossPrice message.crossPrice
    writeU64Be crossTradeOffsetMatchNumber message.matchNumber
    writeChar crossTradeOffsetCrossType message.crossType.toChar

def encodeBrokenTradeMessage (message : BrokenTradeMessage) : EncodeM Unit :=
  encodeStockMessage .brokenTrade (isValidBrokenTradeMessage message) message.header do
    writeU64Be brokenTradeOffsetMatchNumber message.matchNumber

def encodeMessage : Message → EncodeM Unit
  | .systemEvent message => encodeSystemEventMessage message
  | .stockDirectory message => encodeStockDirectoryMessage message
  | .stockTradingAction message => encodeStockTradingActionMessage message
  | .addOrderNoMpid message => encodeAddOrderNoMpidMessage message
  | .addOrderWithMpid message => encodeAddOrderWithMpidMessage message
  | .orderExecuted message => encodeOrderExecutedMessage message
  | .orderExecutedWithPrice message => encodeOrderExecutedWithPriceMessage message
  | .orderCancel message => encodeOrderCancelMessage message
  | .orderDelete message => encodeOrderDeleteMessage message
  | .orderReplace message => encodeOrderReplaceMessage message
  | .tradeNonCross message => encodeTradeNonCrossMessage message
  | .crossTrade message => encodeCrossTradeMessage message
  | .brokenTrade message => encodeBrokenTradeMessage message

/-! ## Specifications of the helpers -/

theorem isEncodeSupported_messageType (message : Message) :
    isEncodeSupported (messageType message) = true := by
  cases message <;> rfl

theorem messageLength_messageType (message : Message) :
    messageLength (messageType message) = .ok (wireLength message) := by
  cases message <;> rfl

/-- The length check passes exactly on spans of the message's wire length. -/
theorem runOn_requireExactEncodeLength (message : Message) (bytes : Bytes) :
    runOn (requireExactEncodeLength (messageType message)) bytes =
      (if bytes.length = wireLength message then .ok () else .error .parseError, bytes) := by
  rw [requireExactEncodeLength, runOn_ensure_bind, isEncodeSupported_messageType, if_pos rfl,
    messageLength_messageType]
  dsimp only
  rw [runOn_bind_ok (runOn_get bytes), runOn_ensure]
  by_cases hlength : bytes.length = wireLength message
  · simp [hlength]
  · simp [hlength]

theorem encodeHeader_emitsAt {header : Header}
    (hvalid : isValidTimestampNs header.timestampNs = true) :
    EmitsAt (encodeHeader header) offsetStockLocate (headerBytes header) := by
  have hwrites : EmitsAt (do
      writeU16Be offsetStockLocate header.stockLocate
      writeU16Be offsetTrackingNumber header.trackingNumber
      writeU48Be offsetTimestamp header.timestampNs) offsetStockLocate
        (headerBytes header) := by
    rw [headerBytes, List.append_assoc]
    refine (writeU16Be_emitsAt _ _).bind (u16Bytes_length _) ?_
    refine (writeU16Be_emitsAt _ _).bind (u16Bytes_length _) ?_
    exact writeU48Be_emitsAt (le_u48_of_isValidTimestampNs hvalid) _
  intro bytes hfit
  have hrange : hasRange bytes 0 sizeCommonHeader = true := by
    rw [headerBytes_length] at hfit
    exact hasRange_iff.mpr (by omega)
  rw [encodeHeader, runOn_bind_ok (runOn_get bytes), runOn_ensure_bind, if_pos hrange,
    runOn_ensure_bind, if_pos hvalid]
  exact hwrites bytes hfit

/-- Type, header and fields written one after the other are the wire form. -/
theorem emitsAt_wireBytes {message : Message} {writeFields : EncodeM Unit}
    (htimestamp : isValidTimestampNs message.header.timestampNs = true)
    (hfields : EmitsAt writeFields offsetMessageBody (bodyBytes message)) :
    EmitsAt (do
      encodeMessageType (messageType message)
      encodeHeader message.header
      writeFields) 0 (wireBytes message) := by
  refine (writeChar_emitsAt _ _).bind (u8Bytes_length _) ?_
  refine (encodeHeader_emitsAt htimestamp).bind (headerBytes_length _) ?_
  exact hfields

/-- The shared body is all or nothing: every check precedes the first write, and
after the checks no write can fail. -/
theorem runOn_encodeStockMessage {message : Message} {writeFields : EncodeM Unit}
    (hstock : messageType message ≠ .systemEvent)
    (hfields : isEncodable message = true →
      EmitsAt writeFields offsetMessageBody (bodyBytes message)) (bytes : Bytes) :
    runOn (encodeStockMessage (messageType message) (isEncodable message) message.header
      writeFields) bytes =
        allOrNothing (wireLength message) (isEncodable message) (wireBytes message) bytes := by
  unfold encodeStockMessage allOrNothing
  rw [runOn_bind, runOn_requireExactEncodeLength]
  by_cases hlength : bytes.length = wireLength message
  · rw [if_pos hlength, if_neg (not_not_intro hlength)]
    dsimp only
    rw [runOn_ensure_bind]
    by_cases hvalid : isEncodable message = true
    · have hvalidHeader := isValidHeaderForStockMessage_of_isEncodable hstock hvalid
      have htimestamp : isValidTimestampNs message.header.timestampNs = true := by
        rw [isValidHeaderForStockMessage, Bool.and_eq_true] at hvalidHeader
        exact hvalidHeader.2
      rw [if_pos hvalid, if_pos hvalid, requireValidStockHeaderForEncode,
        runOn_ensure_bind, if_pos hvalidHeader]
      refine (emitsAt_wireBytes htimestamp (hfields hvalid)).run_full ?_
      rw [hlength, wireBytes_length]
    · rw [if_neg hvalid, if_neg hvalid]
  · rw [if_neg hlength, if_pos hlength]

/-! ## Specifications of the encoders -/

theorem runOn_encodeSystemEventMessage (message : SystemEventMessage) (bytes : Bytes) :
    runOn (encodeSystemEventMessage message) bytes =
      allOrNothing (wireLength (.systemEvent message)) (isEncodable (.systemEvent message))
        (wireBytes (.systemEvent message)) bytes := by
  unfold encodeSystemEventMessage allOrNothing
  rw [runOn_bind, show MessageType.systemEvent = messageType (.systemEvent message) from rfl,
    runOn_requireExactEncodeLength]
  by_cases hlength : bytes.length = wireLength (.systemEvent message)
  · rw [if_pos hlength, if_neg (not_not_intro hlength)]
    dsimp only
    rw [requireValidSystemEventForEncode, runOn_bind, runOn_ensure_bind, runOn_ensure,
      isEncodable]
    by_cases hlocate : (message.header.stockLocate == 0) = true
    · by_cases htimestamp : isValidTimestampNs message.header.timestampNs = true
      · simp only [hlocate, htimestamp, if_true, Bool.and_self]
        refine (@emitsAt_wireBytes (.systemEvent message) _ htimestamp
          (writeChar_emitsAt _ _)).run_full ?_
        rw [hlength, wireBytes_length]
      · simp [hlocate, htimestamp]
    · simp [hlocate]
  · rw [if_neg hlength, if_pos hlength]

theorem runOn_encodeStockDirectoryMessage (message : StockDirectoryMessage)
    (bytes : Bytes) :
    runOn (encodeStockDirectoryMessage message) bytes =
      allOrNothing (wireLength (.stockDirectory message))
        (isEncodable (.stockDirectory message)) (wireBytes (.stockDirectory message)) bytes := by
  refine @runOn_encodeStockMessage (.stockDirectory message) _ (fun h => by cases h) ?_ bytes
  intro hvalid
  simp only [isEncodable, isValidMessage, isValidStockDirectoryMessage, Bool.and_eq_true] at hvalid
  refine (writeFixedAscii_emitsAt hvalid.1.1.1.1.1.1.1.1.1.1.1.2 _).bind
    (List.Vector.toList_length _) ?_
  refine (writeChar_emitsAt _ _).bind (u8Bytes_length _) ?_
  refine (writeChar_emitsAt _ _).bind (u8Bytes_length _) ?_
  refine (writeU32Be_emitsAt _ _).bind (u32Bytes_length _) ?_
  refine (writeChar_emitsAt _ _).bind (u8Bytes_length _) ?_
  refine (writeChar_emitsAt _ _).bind (u8Bytes_length _) ?_
  refine (writeFixedAscii_emitsAt hvalid.1.1.1.1.1.1.2 _).bind (List.Vector.toList_length _) ?_
  refine (writeChar_emitsAt _ _).bind (u8Bytes_length _) ?_
  refine (writeChar_emitsAt _ _).bind (u8Bytes_length _) ?_
  refine (writeChar_emitsAt _ _).bind (u8Bytes_length _) ?_
  refine (writeChar_emitsAt _ _).bind (u8Bytes_length _) ?_
  refine (writeChar_emitsAt _ _).bind (u8Bytes_length _) ?_
  refine (writeU32Be_emitsAt _ _).bind (u32Bytes_length _) ?_
  exact writeChar_emitsAt _ _

theorem runOn_encodeStockTradingActionMessage (message : StockTradingActionMessage)
    (bytes : Bytes) :
    runOn (encodeStockTradingActionMessage message) bytes =
      allOrNothing (wireLength (.stockTradingAction message))
        (isEncodable (.stockTradingAction message))
        (wireBytes (.stockTradingAction message)) bytes := by
  refine @runOn_encodeStockMessage (.stockTradingAction message) _ (fun h => by cases h) ?_ bytes
  intro hvalid
  simp only [isEncodable, isValidMessage, isValidStockTradingActionMessage, Bool.and_eq_true]
    at hvalid
  refine (writeFixedAscii_emitsAt hvalid.1.1.2 _).bind (List.Vector.toList_length _) ?_
  refine (writeChar_emitsAt _ _).bind (u8Bytes_length _) ?_
  refine (writeChar_emitsAt _ _).bind (u8Bytes_length _) ?_
  exact writeFixedAscii_emitsAt hvalid.2 _

theorem runOn_encodeAddOrderNoMpidMessage (message : AddOrderNoMpidMessage)
    (bytes : Bytes) :
    runOn (encodeAddOrderNoMpidMessage message) bytes =
      allOrNothing (wireLength (.addOrderNoMpid message))
        (isEncodable (.addOrderNoMpid message)) (wireBytes (.addOrderNoMpid message)) bytes := by
  refine @runOn_encodeStockMessage (.addOrderNoMpid message) _ (fun h => by cases h) ?_ bytes
  intro hvalid
  simp only [isEncodable, isValidMessage, isValidAddOrderNoMpidMessage, Bool.and_eq_true] at hvalid
  refine (writeU64Be_emitsAt _ _).bind (u64Bytes_length _) ?_
  refine (writeChar_emitsAt _ _).bind (u8Bytes_length _) ?_
  refine (writeU32Be_emitsAt _ _).bind (u32Bytes_length _) ?_
  refine (writeFixedAscii_emitsAt hvalid.2 _).bind (List.Vector.toList_length _) ?_
  exact writeU32Be_emitsAt _ _

theorem runOn_encodeAddOrderWithMpidMessage (message : AddOrderWithMpidMessage)
    (bytes : Bytes) :
    runOn (encodeAddOrderWithMpidMessage message) bytes =
      allOrNothing (wireLength (.addOrderWithMpid message))
        (isEncodable (.addOrderWithMpid message))
        (wireBytes (.addOrderWithMpid message)) bytes := by
  refine @runOn_encodeStockMessage (.addOrderWithMpid message) _ (fun h => by cases h) ?_ bytes
  intro hvalid
  simp only [isEncodable, isValidMessage, isValidAddOrderWithMpidMessage, Bool.and_eq_true]
    at hvalid
  refine (writeU64Be_emitsAt _ _).bind (u64Bytes_length _) ?_
  refine (writeChar_emitsAt _ _).bind (u8Bytes_length _) ?_
  refine (writeU32Be_emitsAt _ _).bind (u32Bytes_length _) ?_
  refine (writeFixedAscii_emitsAt hvalid.1.2 _).bind (List.Vector.toList_length _) ?_
  refine (writeU32Be_emitsAt _ _).bind (u32Bytes_length _) ?_
  exact writeFixedAscii_emitsAt hvalid.2 _

theorem runOn_encodeOrderExecutedMessage (message : OrderExecutedMessage)
    (bytes : Bytes) :
    runOn (encodeOrderExecutedMessage message) bytes =
      allOrNothing (wireLength (.orderExecuted message))
        (isEncodable (.orderExecuted message)) (wireBytes (.orderExecuted message)) bytes := by
  refine @runOn_encodeStockMessage (.orderExecuted message) _ (fun h => by cases h) ?_ bytes
  intro _
  refine (writeU64Be_emitsAt _ _).bind (u64Bytes_length _) ?_
  refine (writeU32Be_emitsAt _ _).bind (u32Bytes_length _) ?_
  exact writeU64Be_emitsAt _ _

theorem runOn_encodeOrderExecutedWithPriceMessage (message : OrderExecutedWithPriceMessage)
    (bytes : Bytes) :
    runOn (encodeOrderExecutedWithPriceMessage message) bytes =
      allOrNothing (wireLength (.orderExecutedWithPrice message))
        (isEncodable (.orderExecutedWithPrice message))
        (wireBytes (.orderExecutedWithPrice message)) bytes := by
  refine @runOn_encodeStockMessage (.orderExecutedWithPrice message) _ (fun h => by cases h) ?_
    bytes
  intro _
  refine (writeU64Be_emitsAt _ _).bind (u64Bytes_length _) ?_
  refine (writeU32Be_emitsAt _ _).bind (u32Bytes_length _) ?_
  refine (writeU64Be_emitsAt _ _).bind (u64Bytes_length _) ?_
  refine (writeChar_emitsAt _ _).bind (u8Bytes_length _) ?_
  exact writeU32Be_emitsAt _ _

theorem runOn_encodeOrderCancelMessage (message : OrderCancelMessage)
    (bytes : Bytes) :
    runOn (encodeOrderCancelMessage message) bytes =
      allOrNothing (wireLength (.orderCancel message))
        (isEncodable (.orderCancel message)) (wireBytes (.orderCancel message)) bytes := by
  refine @runOn_encodeStockMessage (.orderCancel message) _ (fun h => by cases h) ?_ bytes
  intro _
  refine (writeU64Be_emitsAt _ _).bind (u64Bytes_length _) ?_
  exact writeU32Be_emitsAt _ _

theorem runOn_encodeOrderDeleteMessage (message : OrderDeleteMessage)
    (bytes : Bytes) :
    runOn (encodeOrderDeleteMessage message) bytes =
      allOrNothing (wireLength (.orderDelete message))
        (isEncodable (.orderDelete message)) (wireBytes (.orderDelete message)) bytes := by
  refine @runOn_encodeStockMessage (.orderDelete message) _ (fun h => by cases h) ?_ bytes
  intro _
  exact writeU64Be_emitsAt _ _

theorem runOn_encodeOrderReplaceMessage (message : OrderReplaceMessage)
    (bytes : Bytes) :
    runOn (encodeOrderReplaceMessage message) bytes =
      allOrNothing (wireLength (.orderReplace message))
        (isEncodable (.orderReplace message)) (wireBytes (.orderReplace message)) bytes := by
  refine @runOn_encodeStockMessage (.orderReplace message) _ (fun h => by cases h) ?_ bytes
  intro _
  refine (writeU64Be_emitsAt _ _).bind (u64Bytes_length _) ?_
  refine (writeU64Be_emitsAt _ _).bind (u64Bytes_length _) ?_
  refine (writeU32Be_emitsAt _ _).bind (u32Bytes_length _) ?_
  exact writeU32Be_emitsAt _ _

theorem runOn_encodeTradeNonCrossMessage (message : TradeNonCrossMessage)
    (bytes : Bytes) :
    runOn (encodeTradeNonCrossMessage message) bytes =
      allOrNothing (wireLength (.tradeNonCross message))
        (isEncodable (.tradeNonCross message)) (wireBytes (.tradeNonCross message)) bytes := by
  refine @runOn_encodeStockMessage (.tradeNonCross message) _ (fun h => by cases h) ?_ bytes
  intro hvalid
  simp only [isEncodable, isValidMessage, isValidTradeNonCrossMessage, Bool.and_eq_true] at hvalid
  refine (writeU64Be_emitsAt _ _).bind (u64Bytes_length _) ?_
  refine (writeChar_emitsAt _ _).bind (u8Bytes_length _) ?_
  refine (writeU32Be_emitsAt _ _).bind (u32Bytes_length _) ?_
  refine (writeFixedAscii_emitsAt hvalid.2 _).bind (List.Vector.toList_length _) ?_
  refine (writeU32Be_emitsAt _ _).bind (u32Bytes_length _) ?_
  exact writeU64Be_emitsAt _ _

theorem runOn_encodeCrossTradeMessage (message : CrossTradeMessage)
    (bytes : Bytes) :
    runOn (encodeCrossTradeMessage message) bytes =
      allOrNothing (wireLength (.crossTrade message))
        (isEncodable (.crossTrade message)) (wireBytes (.crossTrade message)) bytes := by
  refine @runOn_encodeStockMessage (.crossTrade message) _ (fun h => by cases h) ?_ bytes
  intro hvalid
  simp only [isEncodable, isValidMessage, isValidCrossTradeMessage, Bool.and_eq_true] at hvalid
  refine (writeU64Be_emitsAt _ _).bind (u64Bytes_length _) ?_
  refine (writeFixedAscii_emitsAt hvalid.2 _).bind (List.Vector.toList_length _) ?_
  refine (writeU32Be_emitsAt _ _).bind (u32Bytes_length _) ?_
  refine (writeU64Be_emitsAt _ _).bind (u64Bytes_length _) ?_
  exact writeChar_emitsAt _ _

theorem runOn_encodeBrokenTradeMessage (message : BrokenTradeMessage)
    (bytes : Bytes) :
    runOn (encodeBrokenTradeMessage message) bytes =
      allOrNothing (wireLength (.brokenTrade message))
        (isEncodable (.brokenTrade message)) (wireBytes (.brokenTrade message)) bytes := by
  refine @runOn_encodeStockMessage (.brokenTrade message) _ (fun h => by cases h) ?_ bytes
  intro _
  exact writeU64Be_emitsAt _ _

/-- Every encoder is all or nothing. -/
theorem runOn_encodeMessage (message : Message) (bytes : Bytes) :
    runOn (encodeMessage message) bytes =
      allOrNothing (wireLength message) (isEncodable message) (wireBytes message) bytes := by
  cases message with
  | systemEvent message => exact runOn_encodeSystemEventMessage message bytes
  | stockDirectory message => exact runOn_encodeStockDirectoryMessage message bytes
  | stockTradingAction message => exact runOn_encodeStockTradingActionMessage message bytes
  | addOrderNoMpid message => exact runOn_encodeAddOrderNoMpidMessage message bytes
  | addOrderWithMpid message => exact runOn_encodeAddOrderWithMpidMessage message bytes
  | orderExecuted message => exact runOn_encodeOrderExecutedMessage message bytes
  | orderExecutedWithPrice message => exact runOn_encodeOrderExecutedWithPriceMessage message bytes
  | orderCancel message => exact runOn_encodeOrderCancelMessage message bytes
  | orderDelete message => exact runOn_encodeOrderDeleteMessage message bytes
  | orderReplace message => exact runOn_encodeOrderReplaceMessage message bytes
  | tradeNonCross message => exact runOn_encodeTradeNonCrossMessage message bytes
  | crossTrade message => exact runOn_encodeCrossTradeMessage message bytes
  | brokenTrade message => exact runOn_encodeBrokenTradeMessage message bytes

end Fgep.Itch
