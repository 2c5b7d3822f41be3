import GatedExecution.Wire.FixedAscii

/-!
# ITCH wire-domain types

The protocol-level types of {lit}`itch/itch_types.hpp` and the message types of
{lit}`itch/itch_message_type.hpp`: scalar widths, the common header, the
timestamp limit, the exact lengths of the supported messages, and the one-byte
message types.  The category helpers and the printable names of a message type
are used by no codec and are left out.
-/

namespace Fgep.Itch

open Wire

/-! ## Scalars and the common header -/

abbrev StockLocate := UInt16
abbrev TrackingNumber := UInt16
abbrev TimestampNs := UInt64
abbrev OrderReferenceNumber := UInt64
abbrev MatchNumber := UInt64
abbrev Shares := UInt32
abbrev CrossShares := UInt64
abbrev Price4 := UInt32
abbrev RoundLotSize := UInt32
abbrev EtpLeverageFactor := UInt32

abbrev StockSymbol := FixedAscii 8
abbrev Mpid := FixedAscii 4
abbrev ReasonCode4 := FixedAscii 4
abbrev IssueSubType := FixedAscii 2

/-- Nanoseconds in one day. -/
def nanosecondsPerDay : TimestampNs := 86400 * 1000000000

/-- Last representable nanosecond since midnight. -/
def maxTimestampNsSinceMidnight : TimestampNs := nanosecondsPerDay - 1

/-- Fields every ITCH message starts with, after its type byte. -/
structure Header where
  stockLocate : StockLocate := 0
  trackingNumber : TrackingNumber := 0
  timestampNs : TimestampNs := 0
deriving DecidableEq

abbrev offsetMessageType : Nat := 0
abbrev offsetStockLocate : Nat := 1
abbrev offsetTrackingNumber : Nat := 3
abbrev offsetTimestamp : Nat := 5
abbrev offsetMessageBody : Nat := 11
abbrev sizeCommonHeader : Nat := 11

/-! ## Validation helpers -/

def isValidStockLocate (stockLocate : StockLocate) : Bool :=
  stockLocate > 0

def isValidTimestampNs (timestampNs : TimestampNs) : Bool :=
  timestampNs ≤ maxTimestampNsSinceMidnight

def isValidHeaderForStockMessage (header : Header) : Bool :=
  isValidStockLocate header.stockLocate && isValidTimestampNs header.timestampNs

def isValidOrZeroStockLocate (_ : StockLocate) : Bool :=
  true

def isValidHeaderAllowingZeroStockLocate (header : Header) : Bool :=
  isValidOrZeroStockLocate header.stockLocate && isValidTimestampNs header.timestampNs

def isValidOrderReferenceNumber (orderReferenceNumber : OrderReferenceNumber) : Bool :=
  orderReferenceNumber > 0

def isValidMatchNumber (matchNumber : MatchNumber) : Bool :=
  matchNumber > 0

def isValidShares (shares : Shares) : Bool :=
  shares > 0

def isValidCrossShares (shares : CrossShares) : Bool :=
  shares > 0

def isValidPrice4 (price : Price4) : Bool :=
  price > 0

/-- Every valid timestamp fits the six bytes it has on the wire. -/
theorem le_u48_of_isValidTimestampNs {timestampNs : TimestampNs}
    (h : isValidTimestampNs timestampNs = true) : timestampNs ≤ 0x0000FFFFFFFFFFFF := by
  rw [isValidTimestampNs, decide_eq_true_eq] at h
  exact UInt64.le_trans h (by decide)

/-! ## Message types -/

/-- One-byte message types of the protocol. -/
inductive MessageType where
  | systemEvent
  | stockDirectory
  | stockTradingAction
  | regShoRestriction
  | marketParticipantPosition
  | mwcbDeclineLevel
  | mwcbStatus
  | ipoQuotingPeriodUpdate
  | luldAuctionCollar
  | operationalHalt
  | addOrderNoMpid
  | addOrderWithMpid
  | orderExecuted
  | orderExecutedWithPrice
  | orderCancel
  | orderDelete
  | orderReplace
  | tradeNonCross
  | crossTrade
  | brokenTrade
  | noii
  | retailPriceImprovementIndicator
  | directListingWithCapitalRaise
deriving DecidableEq, Repr

def MessageType.toChar : MessageType → UInt8
  | .systemEvent => asciiByte 'S'
  | .stockDirectory => asciiByte 'R'
  | .stockTradingAction => asciiByte 'H'
  | .regShoRestriction => asciiByte 'Y'
  | .marketParticipantPosition => asciiByte 'L'
  | .mwcbDeclineLevel => asciiByte 'V'
  | .mwcbStatus => asciiByte 'W'
  | .ipoQuotingPeriodUpdate => asciiByte 'K'
  | .luldAuctionCollar => asciiByte 'J'
  | .operationalHalt => asciiByte 'h'
  | .addOrderNoMpid => asciiByte 'A'
  | .addOrderWithMpid => asciiByte 'F'
  | .orderExecuted => asciiByte 'E'
  | .orderExecutedWithPrice => asciiByte 'C'
  | .orderCancel => asciiByte 'X'
  | .orderDelete => asciiByte 'D'
  | .orderReplace => asciiByte 'U'
  | .tradeNonCross => asciiByte 'P'
  | .crossTrade => asciiByte 'Q'
  | .brokenTrade => asciiByte 'B'
  | .noii => asciiByte 'I'
  | .retailPriceImprovementIndicator => asciiByte 'N'
  | .directListingWithCapitalRaise => asciiByte 'O'

/-- The cases of {lit}`message_type_from_char`, in source order. -/
def messageTypeTable : List (UInt8 × MessageType) :=
  [(asciiByte 'S', .systemEvent),
   (asciiByte 'R', .stockDirectory),
   (asciiByte 'H', .stockTradingAction),
   (asciiByte 'Y', .regShoRestriction),
   (asciiByte 'L', .marketParticipantPosition),
   (asciiByte 'V', .mwcbDeclineLevel),
   (asciiByte 'W', .mwcbStatus),
   (asciiByte 'K', .ipoQuotingPeriodUpdate),
   (asciiByte 'J', .luldAuctionCollar),
   (asciiByte 'h', .operationalHalt),
   (asciiByte 'A', .addOrderNoMpid),
   (asciiByte 'F', .addOrderWithMpid),
   (asciiByte 'E', .orderExecuted),
   (asciiByte 'C', .orderExecutedWithPrice),
   (asciiByte 'X', .orderCancel),
   (asciiByte 'D', .orderDelete),
   (asciiByte 'U', .orderReplace),
   (asciiByte 'P', .tradeNonCross),
   (asciiByte 'Q', .crossTrade),
   (asciiByte 'B', .brokenTrade),
   (asciiByte 'I', .noii),
   (asciiByte 'N', .retailPriceImprovementIndicator),
   (asciiByte 'O', .directListingWithCapitalRaise)]

def messageTypeFromChar (value : UInt8) : Result MessageType :=
  fromChar messageTypeTable value

@[simp] theorem messageTypeFromChar_eq_ok_iff {value : UInt8} {messageType : MessageType} :
    messageTypeFromChar value = .ok messageType ↔ value = messageType.toChar := by
  apply fromChar_eq_ok_iff
  · intro messageType
    cases messageType <;> decide
  · decide

/-! ## Exact message lengths -/

abbrev lengthSystemEvent : Nat := 12
abbrev lengthStockDirectory : Nat := 39
abbrev lengthStockTradingAction : Nat := 25
abbrev lengthAddOrderNoMpid : Nat := 36
abbrev lengthAddOrderWithMpid : Nat := 40
abbrev lengthOrderExecuted : Nat := 31
abbrev lengthOrderExecutedWithPrice : Nat := 36
abbrev lengthOrderCancel : Nat := 23
abbrev lengthOrderDelete : Nat := 19
abbrev lengthOrderReplace : Nat := 35
abbrev lengthTradeNonCross : Nat := 44
abbrev lengthCrossTrade : Nat := 40
abbrev lengthBrokenTrade : Nat := 19

/-- Payload length of a message type; types outside the implemented set have
none. -/
def messageLength : MessageType → Result Nat
  | .systemEvent => .ok lengthSystemEvent
  | .addOrderNoMpid => .ok lengthAddOrderNoMpid
  | .addOrderWithMpid => .ok lengthAddOrderWithMpid
  | .orderExecuted => .ok lengthOrderExecuted
  | .orderExecutedWithPrice => .ok lengthOrderExecutedWithPrice
  | .orderCancel => .ok lengthOrderCancel
  | .orderDelete => .ok lengthOrderDelete
  | .orderReplace => .ok lengthOrderReplace
  | .tradeNonCross => .ok lengthTradeNonCross
  | .crossTrade => .ok lengthCrossTrade
  | .brokenTrade => .ok lengthBrokenTrade
  | .stockDirectory => .ok lengthStockDirectory
  | .stockTradingAction => .ok lengthStockTradingAction
  | .regShoRestriction
  | .marketParticipantPosition
  | .mwcbDeclineLevel
  | .mwcbStatus
  | .ipoQuotingPeriodUpdate
  | .luldAuctionCollar
  | .operationalHalt
  | .noii
  | .retailPriceImprovementIndicator
  | .directListingWithCapitalRaise => .error .unsupported

end Fgep.Itch
