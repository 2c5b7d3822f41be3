import GatedExecution.Itch.Messages

/-!
# ITCH message layouts

The field offsets of {lit}`itch/itch_wire_messages.hpp`, and beside them the
wire form of a message as one byte string: type byte, common header, and the
fields of its kind in order.  The offsets belong to the code and are what the
decoder and the encoder use; the byte strings are the specification both are
compared with.
-/

namespace Fgep.Itch

open Wire Buffer

/-! ## Exact field offsets -/

abbrev systemEventOffsetEventCode : Nat := 11

abbrev addOrderOffsetOrderReferenceNumber : Nat := 11
abbrev addOrderOffsetSide : Nat := 19
abbrev addOrderOffsetShares : Nat := 20
abbrev addOrderOffsetStock : Nat := 24
abbrev addOrderOffsetPrice : Nat := 32

abbrev addOrderWithMpidOffsetOrderReferenceNumber : Nat := addOrderOffsetOrderReferenceNumber
abbrev addOrderWithMpidOffsetSide : Nat := addOrderOffsetSide
abbrev addOrderWithMpidOffsetShares : Nat := addOrderOffsetShares
abbrev addOrderWithMpidOffsetStock : Nat := addOrderOffsetStock
abbrev addOrderWithMpidOffsetPrice : Nat := addOrderOffsetPrice
abbrev addOrderWithMpidOffsetAttribution : Nat := 36

abbrev orderExecutedOffsetOrderReferenceNumber : Nat := 11
abbrev orderExecutedOffsetExecutedShares : Nat := 19
abbrev orderExecutedOffsetMatchNumber : Nat := 23

abbrev orderExecutedWithPriceOffsetOrderReferenceNumber : Nat := 11
abbrev orderExecutedWithPriceOffsetExecutedShares : Nat := 19
abbrev orderExecutedWithPriceOffsetMatchNumber : Nat := 23
abbrev orderExecutedWithPriceOffsetPrintable : Nat := 31
abbrev orderExecutedWithPriceOffsetExecutionPrice : Nat := 32

abbrev orderCancelOffsetOrderReferenceNumber : Nat := 11
abbrev orderCancelOffsetCancelledShares : Nat := 19

abbrev orderDeleteOffsetOrderReferenceNumber : Nat := 11

abbrev orderReplaceOffsetOriginalOrderReferenceNumber : Nat := 11
abbrev orderReplaceOffsetNewOrderReferenceNumber : Nat := 19
abbrev orderReplaceOffsetShares : Nat := 27
abbrev orderReplaceOffsetPrice : Nat := 31

abbrev tradeNonCrossOffsetOrderReferenceNumber : Nat := 11
abbrev tradeNonCrossOffsetSide : Nat := 19
abbrev tradeNonCrossOffsetShares : Nat := 20
abbrev tradeNonCrossOffsetStock : Nat := 24
abbrev tradeNonCrossOffsetPrice : Nat := 32
abbrev tradeNonCrossOffsetMatchNumber : Nat := 36

abbrev crossTradeOffsetShares : Nat := 11
abbrev crossTradeOffsetStock : Nat := 19
abbrev crossTradeOffsetCrossPrice : Nat := 27
abbrev crossTradeOffsetMatchNumber : Nat := 31
abbrev crossTradeOffsetCrossType : Nat := 39

abbrev brokenTradeOffsetMatchNumber : Nat := 11

abbrev stockDirectoryOffsetStock : Nat := 11
abbrev stockDirectoryOffsetMarketCategory : Nat := 19
abbrev stockDirectoryOffsetFinancialStatusIndicator : Nat := 20
abbrev stockDirectoryOffsetRoundLotSize : Nat := 21
abbrev stockDirectoryOffsetRoundLotsOnly : Nat := 25
abbrev stockDirectoryOffsetIssueClassification : Nat := 26
abbrev stockDirectoryOffsetIssueSubType : Nat := 27
abbrev stockDirectoryOffsetAuthenticity : Nat := 29
abbrev stockDirectoryOffsetShortSaleThresholdIndicator : Nat := 30
abbrev stockDirectoryOffsetIpoFlag : Nat := 31
abbrev stockDirectoryOffsetLuldReferencePriceTier : Nat := 32
abbrev stockDirectoryOffsetEtpFlag : Nat := 33
abbrev stockDirectoryOffsetEtpLeverageFactor : Nat := 34
abbrev stockDirectoryOffsetInverseIndicator : Nat := 38

abbrev stockTradingActionOffsetStock : Nat := 11
abbrev stockTradingActionOffsetTradingState : Nat := 19
abbrev stockTradingActionOffsetReserved : Nat := 20
abbrev stockTradingActionOffsetReason : Nat := 21

/-! ## Wire forms -/

/-- Wire form of the common header. -/
def headerBytes (header : Header) : Bytes :=
  u16Bytes header.stockLocate ++ u16Bytes header.trackingNumber ++ u48Bytes header.timestampNs

@[simp] theorem headerBytes_length (header : Header) : (headerBytes header).length = 10 := by
  simp [headerBytes]

/-- A message is its type byte, its header and its body. -/
def framed (messageType : MessageType) (header : Header) (body : Bytes) : Bytes :=
  u8Bytes messageType.toChar ++ (headerBytes header ++ body)

@[simp] theorem framed_length (messageType : MessageType) (header : Header) (body : Bytes) :
    (framed messageType header body).length = 11 + body.length := by
  simp only [framed, List.length_append, u8Bytes_length, headerBytes_length]
  omega

theorem holdsAt_framed {bytes body : Bytes} {messageType : MessageType} {header : Header} :
    HoldsAt bytes 0 (framed messageType header body) ↔
      HoldsAt bytes offsetMessageType (u8Bytes messageType.toChar) ∧
        HoldsAt bytes offsetStockLocate (headerBytes header) ∧
          HoldsAt bytes offsetMessageBody body := by
  simp only [framed, holdsAt_append, u8Bytes_length, headerBytes_length, Nat.reduceAdd]

namespace SystemEventMessage

def bodyBytes (message : SystemEventMessage) : Bytes :=
  u8Bytes message.eventCode.toChar

end SystemEventMessage

namespace StockDirectoryMessage

def bodyBytes (message : StockDirectoryMessage) : Bytes :=
  message.stock.toList ++ (u8Bytes message.marketCategory ++
    (u8Bytes message.financialStatusIndicator ++ (u32Bytes message.roundLotSize ++
    (u8Bytes message.roundLotsOnly ++ (u8Bytes message.issueClassification ++
    (message.issueSubType.toList ++ (u8Bytes message.authenticity ++
    (u8Bytes message.shortSaleThresholdIndicator ++ (u8Bytes message.ipoFlag ++
    (u8Bytes message.luldReferencePriceTier ++ (u8Bytes message.etpFlag ++
    (u32Bytes message.etpLeverageFactor ++ u8Bytes message.inverseIndicator))))))))))))

end StockDirectoryMessage

namespace StockTradingActionMessage

def bodyBytes (message : StockTradingActionMessage) : Bytes :=
  message.stock.toList ++ (u8Bytes message.tradingState.toChar ++
    (u8Bytes message.reserved ++ message.reason.toList))

end StockTradingActionMessage

namespace AddOrderNoMpidMessage

def bodyBytes (message : AddOrderNoMpidMessage) : Bytes :=
  u64Bytes message.orderReferenceNumber ++ (u8Bytes message.side.toChar ++
    (u32Bytes message.shares ++ (message.stock.toList ++ u32Bytes message.price)))

end AddOrderNoMpidMessage

namespace AddOrderWithMpidMessage

def bodyBytes (message : AddOrderWithMpidMessage) : Bytes :=
  u64Bytes message.orderReferenceNumber ++ (u8Bytes message.side.toChar ++
    (u32Bytes message.shares ++ (message.stock.toList ++ (u32Bytes message.price ++
    message.attribution.toList))))

end AddOrderWithMpidMessage

namespace OrderExecutedMessage

def bodyBytes (message : OrderExecutedMessage) : Bytes :=
  u64Bytes message.orderReferenceNumber ++ (u32Bytes message.executedShares ++
    u64Bytes message.matchNumber)

end OrderExecutedMessage

namespace OrderExecutedWithPriceMessage

def bodyBytes (message : OrderExecutedWithPriceMessage) : Bytes :=
  u64Bytes message.orderReferenceNumber ++ (u32Bytes message.executedShares ++
    (u64Bytes message.matchNumber ++ (u8Bytes message.printable.toChar ++
    u32Bytes message.executionPrice)))

end OrderExecutedWithPriceMessage

namespace OrderCancelMessage

def bodyBytes (message : OrderCancelMessage) : Bytes :=
  u64Bytes message.orderReferenceNumber ++ u32Bytes message.cancelledShares

end OrderCancelMessage

namespace OrderDeleteMessage

def bodyBytes (message : OrderDeleteMessage) : Bytes :=
  u64Bytes message.orderReferenceNumber

end OrderDeleteMessage

namespace OrderReplaceMessage

def bodyBytes (message : OrderReplaceMessage) : Bytes :=
  u64Bytes message.originalOrderReferenceNumber ++
    (u64Bytes message.newOrderReferenceNumber ++ (u32Bytes message.shares ++
    u32Bytes message.price))

end OrderReplaceMessage

namespace TradeNonCrossMessage

def bodyBytes (message : TradeNonCrossMessage) : Bytes :=
  u64Bytes message.orderReferenceNumber ++ (u8Bytes message.side.toChar ++
    (u32Bytes message.shares ++ (message.stock.toList ++ (u32Bytes message.price ++
    u64Bytes message.matchNumber))))

end TradeNonCrossMessage

namespace CrossTradeMessage

def bodyBytes (message : CrossTradeMessage) : Bytes :=
  u64Bytes message.shares ++ (message.stock.toList ++ (u32Bytes message.crossPrice ++
    (u64Bytes message.matchNumber ++ u8Bytes message.crossType.toChar)))

end CrossTradeMessage

namespace BrokenTradeMessage

def bodyBytes (message : BrokenTradeMessage) : Bytes :=
  u64Bytes message.matchNumber

end BrokenTradeMessage

/-- The message type that announces a message on the wire. -/
def messageType : Message → MessageType
  | .systemEvent _ => .systemEvent
  | .stockDirectory _ => .stockDirectory
  | .stockTradingAction _ => .stockTradingAction
  | .addOrderNoMpid _ => .addOrderNoMpid
  | .addOrderWithMpid _ => .addOrderWithMpid
  | .orderExecuted _ => .orderExecuted
  | .orderExecutedWithPrice _ => .orderExecutedWithPrice
  | .orderCancel _ => .orderCancel
  | .orderDelete _ => .orderDelete
  | .orderReplace _ => .orderReplace
  | .tradeNonCross _ => .tradeNonCross
  | .crossTrade _ => .crossTrade
  | .brokenTrade _ => .brokenTrade

/-- Wire form of the fields after the header. -/
def bodyBytes : Message → Bytes
  | .systemEvent message => message.bodyBytes
  | .stockDirectory message => message.bodyBytes
  | .stockTradingAction message => message.bodyBytes
  | .addOrderNoMpid message => message.bodyBytes
  | .addOrderWithMpid message => message.bodyBytes
  | .orderExecuted message => message.bodyBytes
  | .orderExecutedWithPrice message => message.bodyBytes
  | .orderCancel message => message.bodyBytes
  | .orderDelete message => message.bodyBytes
  | .orderReplace message => message.bodyBytes
  | .tradeNonCross message => message.bodyBytes
  | .crossTrade message => message.bodyBytes
  | .brokenTrade message => message.bodyBytes

/-- Wire form of a message. -/
def wireBytes (message : Message) : Bytes :=
  framed (messageType message) message.header (bodyBytes message)

/-- The fields of every kind cover its whole wire length. -/
theorem wireBytes_length (message : Message) :
    (wireBytes message).length = wireLength message := by
  cases message <;>
    simp [wireBytes, bodyBytes, wireLength, SystemEventMessage.bodyBytes,
      StockDirectoryMessage.bodyBytes, StockTradingActionMessage.bodyBytes,
      AddOrderNoMpidMessage.bodyBytes, AddOrderWithMpidMessage.bodyBytes,
      OrderExecutedMessage.bodyBytes, OrderExecutedWithPriceMessage.bodyBytes,
      OrderCancelMessage.bodyBytes, OrderDeleteMessage.bodyBytes,
      OrderReplaceMessage.bodyBytes, TradeNonCrossMessage.bodyBytes,
      CrossTradeMessage.bodyBytes, BrokenTradeMessage.bodyBytes]

/-- Messages the codec carries: a System Event needs a zero stock locate, every
other kind its own validity predicate. -/
def isEncodable : Message → Bool
  | .systemEvent message =>
      message.header.stockLocate == 0 && isValidTimestampNs message.header.timestampNs
  | message => isValidMessage message

/-- Every kind but the System Event checks its header as that of a stock message. -/
theorem isValidHeaderForStockMessage_of_isEncodable {message : Message}
    (hstock : messageType message ≠ .systemEvent) (hvalid : isEncodable message = true) :
    isValidHeaderForStockMessage message.header = true := by
  cases message with
  | systemEvent message => exact absurd rfl hstock
  | _ message =>
      simp only [isEncodable, isValidMessage, isValidStockDirectoryMessage,
        isValidStockTradingActionMessage, isValidAddOrderNoMpidMessage,
        isValidAddOrderWithMpidMessage, isValidOrderExecutedMessage,
        isValidOrderExecutedWithPriceMessage, isValidOrderCancelMessage,
        isValidOrderDeleteMessage, isValidOrderReplaceMessage, isValidTradeNonCrossMessage,
        isValidCrossTradeMessage, isValidBrokenTradeMessage, Bool.and_eq_true, and_assoc]
        at hvalid
      exact hvalid.1

end Fgep.Itch
