import GatedExecution.Itch.Types

/-!
# Decoded ITCH messages

The thirteen message structs of {lit}`itch/itch_wire_messages.hpp`, the
character-coded enumerations they use, and the validity predicate of each.  An
enumeration is its list of enumerators; the conversions from a character keep
the case table of the source beside the enumerator values, so that the two can
be compared.
-/

namespace Fgep.Itch

open Wire

/-! ## Protocol field enumerations -/

inductive SystemEventCode where
  | startOfMessages
  | startOfSystemHours
  | startOfMarketHours
  | endOfMarketHours
  | endOfSystemHours
  | endOfMessages
deriving DecidableEq, Repr

inductive Side where
  | buy
  | sell
deriving DecidableEq, Repr

inductive Printable where
  | nonPrintable
  | printable
deriving DecidableEq, Repr

inductive CrossType where
  | openingCross
  | closingCross
  | ipoOrHalted
deriving DecidableEq, Repr

inductive TradingState where
  | halted
  | paused
  | quotationOnly
  | trading
deriving DecidableEq, Repr

def SystemEventCode.toChar : SystemEventCode → UInt8
  | .startOfMessages => asciiByte 'O'
  | .startOfSystemHours => asciiByte 'S'
  | .startOfMarketHours => asciiByte 'Q'
  | .endOfMarketHours => asciiByte 'M'
  | .endOfSystemHours => asciiByte 'E'
  | .endOfMessages => asciiByte 'C'

def Side.toChar : Side → UInt8
  | .buy => asciiByte 'B'
  | .sell => asciiByte 'S'

def Printable.toChar : Printable → UInt8
  | .nonPrintable => asciiByte 'N'
  | .printable => asciiByte 'Y'

def CrossType.toChar : CrossType → UInt8
  | .openingCross => asciiByte 'O'
  | .closingCross => asciiByte 'C'
  | .ipoOrHalted => asciiByte 'H'

def TradingState.toChar : TradingState → UInt8
  | .halted => asciiByte 'H'
  | .paused => asciiByte 'P'
  | .quotationOnly => asciiByte 'Q'
  | .trading => asciiByte 'T'

def systemEventCodeFromChar (value : UInt8) : Result SystemEventCode :=
  fromChar
    [(asciiByte 'O', .startOfMessages),
     (asciiByte 'S', .startOfSystemHours),
     (asciiByte 'Q', .startOfMarketHours),
     (asciiByte 'M', .endOfMarketHours),
     (asciiByte 'E', .endOfSystemHours),
     (asciiByte 'C', .endOfMessages)] value

def sideFromChar (value : UInt8) : Result Side :=
  fromChar [(asciiByte 'B', .buy), (asciiByte 'S', .sell)] value

def printableFromChar (value : UInt8) : Result Printable :=
  fromChar [(asciiByte 'N', .nonPrintable), (asciiByte 'Y', .printable)] value

def crossTypeFromChar (value : UInt8) : Result CrossType :=
  fromChar
    [(asciiByte 'O', .openingCross),
     (asciiByte 'C', .closingCross),
     (asciiByte 'H', .ipoOrHalted)] value

def tradingStateFromChar (value : UInt8) : Result TradingState :=
  fromChar
    [(asciiByte 'H', .halted),
     (asciiByte 'P', .paused),
     (asciiByte 'Q', .quotationOnly),
     (asciiByte 'T', .trading)] value

@[simp] theorem systemEventCodeFromChar_eq_ok_iff {value : UInt8} {code : SystemEventCode} :
    systemEventCodeFromChar value = .ok code ↔ value = code.toChar := by
  apply fromChar_eq_ok_iff
  · intro code
    cases code <;> decide
  · decide

@[simp] theorem sideFromChar_eq_ok_iff {value : UInt8} {side : Side} :
    sideFromChar value = .ok side ↔ value = side.toChar := by
  apply fromChar_eq_ok_iff
  · intro side
    cases side <;> decide
  · decide

@[simp] theorem printableFromChar_eq_ok_iff {value : UInt8} {flag : Printable} :
    printableFromChar value = .ok flag ↔ value = flag.toChar := by
  apply fromChar_eq_ok_iff
  · intro flag
    cases flag <;> decide
  · decide

@[simp] theorem crossTypeFromChar_eq_ok_iff {value : UInt8} {crossType : CrossType} :
    crossTypeFromChar value = .ok crossType ↔ value = crossType.toChar := by
  apply fromChar_eq_ok_iff
  · intro crossType
    cases crossType <;> decide
  · decide

@[simp] theorem tradingStateFromChar_eq_ok_iff {value : UInt8} {state : TradingState} :
    tradingStateFromChar value = .ok state ↔ value = state.toChar := by
  apply fromChar_eq_ok_iff
  · intro state
    cases state <;> decide
  · decide

/-! ## Message structs -/

structure SystemEventMessage where
  header : Header
  eventCode : SystemEventCode
deriving DecidableEq

structure StockDirectoryMessage where
  header : Header
  stock : StockSymbol
  marketCategory : UInt8
  financialStatusIndicator : UInt8
  roundLotSize : RoundLotSize
  roundLotsOnly : UInt8
  issueClassification : UInt8
  issueSubType : IssueSubType
  authenticity : UInt8
  shortSaleThresholdIndicator : UInt8
  ipoFlag : UInt8
  luldReferencePriceTier : UInt8
  etpFlag : UInt8
  etpLeverageFactor : EtpLeverageFactor
  inverseIndicator : UInt8
deriving DecidableEq

structure StockTradingActionMessage where
  header : Header
  stock : StockSymbol
  tradingState : TradingState
  reserved : UInt8
  reason : ReasonCode4
deriving DecidableEq

structure AddOrderNoMpidMessage where
  header : Header
  orderReferenceNumber : OrderReferenceNumber
  side : Side
  shares : Shares
  stock : StockSymbol
  price : Price4
deriving DecidableEq

structure AddOrderWithMpidMessage where
  header : Header
  orderReferenceNumber : OrderReferenceNumber
  side : Side
  shares : Shares
  stock : StockSymbol
  price : Price4
  attribution : Mpid
deriving DecidableEq

structure OrderExecutedMessage where
  header : Header
  orderReferenceNumber : OrderReferenceNumber
  executedShares : Shares
  matchNumber : MatchNumber
deriving DecidableEq

structure OrderExecutedWithPriceMessage where
  header : Header
  orderReferenceNumber : OrderReferenceNumber
  executedShares : Shares
  matchNumber : MatchNumber
  printable : Printable
  executionPrice : Price4
deriving DecidableEq

structure OrderCancelMessage where
  header : Header
  orderReferenceNumber : OrderReferenceNumber
  cancelledShares : Shares
deriving DecidableEq

structure OrderDeleteMessage where
  header : Header
  orderReferenceNumber : OrderReferenceNumber
deriving DecidableEq

structure OrderReplaceMessage where
  header : Header
  originalOrderReferenceNumber : OrderReferenceNumber
  newOrderReferenceNumber : OrderReferenceNumber
  shares : Shares
  price : Price4
deriving DecidableEq

structure TradeNonCrossMessage where
  header : Header
  orderReferenceNumber : OrderReferenceNumber
  side : Side
  shares : Shares
  stock : StockSymbol
  price : Price4
  matchNumber : MatchNumber
deriving DecidableEq

structure CrossTradeMessage where
  header : Header
  shares : CrossShares
  stock : StockSymbol
  crossPrice : Price4
  matchNumber : MatchNumber
  crossType : CrossType
deriving DecidableEq

structure BrokenTradeMessage where
  header : Header
  matchNumber : MatchNumber
deriving DecidableEq

/-- The message variant. -/
inductive Message where
  | systemEvent (message : SystemEventMessage)
  | stockDirectory (message : StockDirectoryMessage)
  | stockTradingAction (message : StockTradingActionMessage)
  | addOrderNoMpid (message : AddOrderNoMpidMessage)
  | addOrderWithMpid (message : AddOrderWithMpidMessage)
  | orderExecuted (message : OrderExecutedMessage)
  | orderExecutedWithPrice (message : OrderExecutedWithPriceMessage)
  | orderCancel (message : OrderCancelMessage)
  | orderDelete (message : OrderDeleteMessage)
  | orderReplace (message : OrderReplaceMessage)
  | tradeNonCross (message : TradeNonCrossMessage)
  | crossTrade (message : CrossTradeMessage)
  | brokenTrade (message : BrokenTradeMessage)
deriving DecidableEq

/-- Header of any message. -/
def Message.header : Message → Header
  | .systemEvent message => message.header
  | .stockDirectory message => message.header
  | .stockTradingAction message => message.header
  | .addOrderNoMpid message => message.header
  | .addOrderWithMpid message => message.header
  | .orderExecuted message => message.header
  | .orderExecutedWithPrice message => message.header
  | .orderCancel message => message.header
  | .orderDelete message => message.header
  | .orderReplace message => message.header
  | .tradeNonCross message => message.header
  | .crossTrade message => message.header
  | .brokenTrade message => message.header

/-- Exact encoded length of a message. -/
def wireLength : Message → Nat
  | .systemEvent _ => lengthSystemEvent
  | .stockDirectory _ => lengthStockDirectory
  | .stockTradingAction _ => lengthStockTradingAction
  | .addOrderNoMpid _ => lengthAddOrderNoMpid
  | .addOrderWithMpid _ => lengthAddOrderWithMpid
  | .orderExecuted _ => lengthOrderExecuted
  | .orderExecutedWithPrice _ => lengthOrderExecutedWithPrice
  | .orderCancel _ => lengthOrderCancel
  | .orderDelete _ => lengthOrderDelete
  | .orderReplace _ => lengthOrderReplace
  | .tradeNonCross _ => lengthTradeNonCross
  | .crossTrade _ => lengthCrossTrade
  | .brokenTrade _ => lengthBrokenTrade

/-! ## Validity -/

def isValidProtocolCharOrSpace (value : UInt8) : Bool :=
  isPrintableAsciiOrSpace value

def isValidSystemEventMessage (message : SystemEventMessage) : Bool :=
  isValidHeaderAllowingZeroStockLocate message.header

def isValidAddOrderNoMpidMessage (message : AddOrderNoMpidMessage) : Bool :=
  isValidHeaderForStockMessage message.header
    && isValidOrderReferenceNumber message.orderReferenceNumber
    && isValidShares message.shares
    && isValidPrice4 message.price
    && isValidFixedAscii message.stock

def isValidAddOrderWithMpidMessage (message : AddOrderWithMpidMessage) : Bool :=
  isValidHeaderForStockMessage message.header
    && isValidOrderReferenceNumber message.orderReferenceNumber
    && isValidShares message.shares
    && isValidPrice4 message.price
    && isValidFixedAscii message.stock
    && isValidFixedAscii message.attribution

def isValidOrderExecutedMessage (message : OrderExecutedMessage) : Bool :=
  isValidHeaderForStockMessage message.header
    && isValidOrderReferenceNumber message.orderReferenceNumber
    && isValidShares message.executedShares
    && isValidMatchNumber message.matchNumber

def isValidOrderExecutedWithPriceMessage (message : OrderExecutedWithPriceMessage) : Bool :=
  isValidHeaderForStockMessage message.header
    && isValidOrderReferenceNumber message.orderReferenceNumber
    && isValidShares message.executedShares
    && isValidMatchNumber message.matchNumber
    && isValidPrice4 message.executionPrice

def isValidOrderCancelMessage (message : OrderCancelMessage) : Bool :=
  isValidHeaderForStockMessage message.header
    && isValidOrderReferenceNumber message.orderReferenceNumber
    && isValidShares message.cancelledShares

def isValidOrderDeleteMessage (message : OrderDeleteMessage) : Bool :=
  isValidHeaderForStockMessage message.header
    && isValidOrderReferenceNumber message.orderReferenceNumber

def isValidOrderReplaceMessage (message : OrderReplaceMessage) : Bool :=
  isValidHeaderForStockMessage message.header
    && isValidOrderReferenceNumber message.originalOrderReferenceNumber
    && isValidOrderReferenceNumber message.newOrderReferenceNumber
    && message.originalOrderReferenceNumber != message.newOrderReferenceNumber
    && isValidShares message.shares
    && isValidPrice4 message.price

/-- The order reference number of a trade is not checked. -/
def isValidTradeNonCrossMessage (message : TradeNonCrossMessage) : Bool :=
  isValidHeaderForStockMessage message.header
    && isValidShares message.shares
    && isValidPrice4 message.price
    && isValidMatchNumber message.matchNumber
    && isValidFixedAscii message.stock

def isValidCrossTradeMessage (message : CrossTradeMessage) : Bool :=
  isValidHeaderForStockMessage message.header
    && isValidCrossShares message.shares
    && isValidPrice4 message.crossPrice
    && isValidMatchNumber message.matchNumber
    && isValidFixedAscii message.stock

def isValidBrokenTradeMessage (message : BrokenTradeMessage) : Bool :=
  isValidHeaderForStockMessage message.header
    && isValidMatchNumber message.matchNumber

def isValidStockDirectoryMessage (message : StockDirectoryMessage) : Bool :=
  isValidHeaderForStockMessage message.header
    && isValidFixedAscii message.stock
    && isValidProtocolCharOrSpace message.marketCategory
    && isValidProtocolCharOrSpace message.financialStatusIndicator
    && isValidProtocolCharOrSpace message.roundLotsOnly
    && isValidProtocolCharOrSpace message.issueClassification
    && isValidFixedAscii message.issueSubType
    && isValidProtocolCharOrSpace message.authenticity
    && isValidProtocolCharOrSpace message.shortSaleThresholdIndicator
    && isValidProtocolCharOrSpace message.ipoFlag
    && isValidProtocolCharOrSpace message.luldReferencePriceTier
    && isValidProtocolCharOrSpace message.etpFlag
    && isValidProtocolCharOrSpace message.inverseIndicator

def isValidStockTradingActionMessage (message : StockTradingActionMessage) : Bool :=
  isValidHeaderForStockMessage message.header
    && isValidFixedAscii message.stock
    && isValidProtocolCharOrSpace message.reserved
    && isValidFixedAscii message.reason

/-- The validity predicate of the message's own kind. -/
def isValidMessage : Message → Bool
  | .systemEvent message => isValidSystemEventMessage message
  | .stockDirectory message => isValidStockDirectoryMessage message
  | .stockTradingAction message => isValidStockTradingActionMessage message
  | .addOrderNoMpid message => isValidAddOrderNoMpidMessage message
  | .addOrderWithMpid message => isValidAddOrderWithMpidMessage message
  | .orderExecuted message => isValidOrderExecutedMessage message
  | .orderExecutedWithPrice message => isValidOrderExecutedWithPriceMessage message
  | .orderCancel message => isValidOrderCancelMessage message
  | .orderDelete message => isValidOrderDeleteMessage message
  | .orderReplace message => isValidOrderReplaceMessage message
  | .tradeNonCross message => isValidTradeNonCrossMessage message
  | .crossTrade message => isValidCrossTradeMessage message
  | .brokenTrade message => isValidBrokenTradeMessage message

end Fgep.Itch
