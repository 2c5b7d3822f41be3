import GatedExecution.Wire.FixedAscii

/-!
# OUCH messages and their layouts

The three inbound order messages of {lit}`ouch/ouch_wire_messages.hpp` with the
enumerations they use, the field offsets of {lit}`ouch/ouch_types.hpp`, and the
wire form of a message: type byte, fixed fields, a two-byte appendage length and
the appendage itself.

Main results:

- Theorem {lit}`wireBytes_length`: the wire form is as long as
  {lit}`encodedLength` says.
- Theorem {lit}`holdsAt_wireBytes`: where the four parts of a wire form sit.
-/

namespace Fgep.Ouch

open Wire Buffer

/-! ## Scalar types and limits -/

abbrev UserRefNum := UInt32
abbrev Quantity := UInt32
abbrev Price4 := UInt64
abbrev AppendageLength := UInt16
abbrev Symbol := FixedAscii 8
abbrev ClOrdId := FixedAscii 14

def isValidUserRefNum (value : UserRefNum) : Bool :=
  0 < value

def isValidEnterOrReplaceQuantity (value : Quantity) : Bool :=
  0 < value && value < 1000000

/-- A cancel may ask for quantity zero. -/
def isValidCancelQuantity (value : Quantity) : Bool :=
  value < 1000000

def isValidPrice4 (value : Price4) : Bool :=
  0 < value

/-! ## Field offsets -/

abbrev lengthEnterOrderBase : Nat := 47
abbrev enterOrderOffsetUserRefNum : Nat := 1
abbrev enterOrderOffsetSide : Nat := 5
abbrev enterOrderOffsetQuantity : Nat := 6
abbrev enterOrderOffsetSymbol : Nat := 10
abbrev enterOrderOffsetPrice : Nat := 18
abbrev enterOrderOffsetTimeInForce : Nat := 26
abbrev enterOrderOffsetDisplay : Nat := 27
abbrev enterOrderOffsetCapacity : Nat := 28
abbrev enterOrderOffsetIntermarketSweepEligibility : Nat := 29
abbrev enterOrderOffsetCrossType : Nat := 30
abbrev enterOrderOffsetClOrdId : Nat := 31
abbrev enterOrderOffsetAppendageLength : Nat := 45
abbrev enterOrderOffsetOptionalAppendage : Nat := 47

abbrev lengthReplaceOrderBase : Nat := 40
abbrev replaceOrderOffsetOrigUserRefNum : Nat := 1
abbrev replaceOrderOffsetUserRefNum : Nat := 5
abbrev replaceOrderOffsetQuantity : Nat := 9
abbrev replaceOrderOffsetPrice : Nat := 13
abbrev replaceOrderOffsetTimeInForce : Nat := 21
abbrev replaceOrderOffsetDisplay : Nat := 22
abbrev replaceOrderOffsetIntermarketSweepEligibility : Nat := 23
abbrev replaceOrderOffsetClOrdId : Nat := 24
abbrev replaceOrderOffsetAppendageLength : Nat := 38
abbrev replaceOrderOffsetOptionalAppendage : Nat := 40

abbrev lengthCancelOrderBase : Nat := 11
abbrev cancelOrderOffsetUserRefNum : Nat := 1
abbrev cancelOrderOffsetQuantity : Nat := 5
abbrev cancelOrderOffsetAppendageLength : Nat := 9
abbrev cancelOrderOffsetOptionalAppendage : Nat := 11

/-! ## Enumerations -/

inductive MessageType where
  | enterOrder
  | replaceOrder
  | cancelOrder
deriving DecidableEq, Repr

inductive Side where
  | buy
  | sell
  | sellShort
  | sellShortExempt
deriving DecidableEq, Repr

inductive TimeInForce where
  | day
  | ioc
  | gtx
  | gtt
  | afterHours
deriving DecidableEq, Repr

inductive Display where
  | visible
  | hidden
  | attributable
deriving DecidableEq, Repr

inductive Capacity where
  | agency
  | principal
  | riskless
  | other
deriving DecidableEq, Repr

inductive IntermarketSweepEligibility where
  | eligible
  | notEligible
deriving DecidableEq, Repr

inductive CrossType where
  | continuousMarket
  | openingCross
  | closingCross
  | haltOrIpo
  | supplemental
  | retail
  | extendedLife
  | afterHoursClose
deriving DecidableEq, Repr

def MessageType.toChar : MessageType → UInt8
  | .enterOrder => asciiByte 'O'
  | .replaceOrder => asciiByte 'U'
  | .cancelOrder => asciiByte 'X'

def Side.toChar : Side → UInt8
  | .buy => asciiByte 'B'
  | .sell => asciiByte 'S'
  | .sellShort => asciiByte 'T'
  | .sellShortExempt => asciiByte 'E'

def TimeInForce.toChar : TimeInForce → UInt8
  | .day => asciiByte '0'
  | .ioc => asciiByte '3'
  | .gtx => asciiByte '5'
  | .gtt => asciiByte '6'
  | .afterHours => asciiByte 'E'

def Display.toChar : Display → UInt8
  | .visible => asciiByte 'Y'
  | .hidden => asciiByte 'N'
  | .attributable => asciiByte 'A'

def Capacity.toChar : Capacity → UInt8
  | .agency => asciiByte 'A'
  | .principal => asciiByte 'P'
  | .riskless => asciiByte 'R'
  | .other => asciiByte 'O'

def IntermarketSweepEligibility.toChar : IntermarketSweepEligibility → UInt8
  | .eligible => asciiByte 'Y'
  | .notEligible => asciiByte 'N'

def CrossType.toChar : CrossType → UInt8
  | .continuousMarket => asciiByte 'N'
  | .openingCross => asciiByte 'O'
  | .closingCross => asciiByte 'C'
  | .haltOrIpo => asciiByte 'H'
  | .supplemental => asciiByte 'S'
  | .retail => asciiByte 'R'
  | .extendedLife => asciiByte 'E'
  | .afterHoursClose => asciiByte 'A'

def messageTypeFromChar (value : UInt8) : Result MessageType :=
  fromChar
    [(asciiByte 'O', .enterOrder),
     (asciiByte 'U', .replaceOrder),
     (asciiByte 'X', .cancelOrder)] value

def sideFromChar (value : UInt8) : Result Side :=
  fromChar
    [(asciiByte 'B', .buy),
     (asciiByte 'S', .sell),
     (asciiByte 'T', .sellShort),
     (asciiByte 'E', .sellShortExempt)] value

def timeInForceFromChar (value : UInt8) : Result TimeInForce :=
  fromChar
    [(asciiByte '0', .day),
     (asciiByte '3', .ioc),
     (asciiByte '5', .gtx),
     (asciiByte '6', .gtt),
     (asciiByte 'E', .afterHours)] value

def displayFromChar (value : UInt8) : Result Display :=
  fromChar
    [(asciiByte 'Y', .visible),
     (asciiByte 'N', .hidden),
     (asciiByte 'A', .attributable)] value

def capacityFromChar (value : UInt8) : Result Capacity :=
  fromChar
    [(asciiByte 'A', .agency),
     (asciiByte 'P', .principal),
     (asciiByte 'R', .riskless),
     (asciiByte 'O', .other)] value

def intermarketSweepEligibilityFromChar (value : UInt8) :
    Result IntermarketSweepEligibility :=
  fromChar [(asciiByte 'Y', .eligible), (asciiByte 'N', .notEligible)] value

def crossTypeFromChar (value : UInt8) : Result CrossType :=
  fromChar
    [(asciiByte 'N', .continuousMarket),
     (asciiByte 'O', .openingCross),
     (asciiByte 'C', .closingCross),
     (asciiByte 'H', .haltOrIpo),
     (asciiByte 'S', .supplemental),
     (asciiByte 'R', .retail),
     (asciiByte 'E', .extendedLife),
     (asciiByte 'A', .afterHoursClose)] value

@[simp] theorem messageTypeFromChar_eq_ok_iff {value : UInt8}
    {type : MessageType} :
    messageTypeFromChar value = .ok type ↔ value = type.toChar := by
  apply fromChar_eq_ok_iff
  · intro type
    cases type <;> decide
  · decide

@[simp] theorem sideFromChar_eq_ok_iff {value : UInt8}
    {side : Side} :
    sideFromChar value = .ok side ↔ value = side.toChar := by
  apply fromChar_eq_ok_iff
  · intro side
    cases side <;> decide
  · decide

@[simp] theorem timeInForceFromChar_eq_ok_iff {value : UInt8}
    {timeInForce : TimeInForce} :
    timeInForceFromChar value = .ok timeInForce ↔ value = timeInForce.toChar := by
  apply fromChar_eq_ok_iff
  · intro timeInForce
    cases timeInForce <;> decide
  · decide

@[simp] theorem displayFromChar_eq_ok_iff {value : UInt8}
    {display : Display} :
    displayFromChar value = .ok display ↔ value = display.toChar := by
  apply fromChar_eq_ok_iff
  · intro display
    cases display <;> decide
  · decide

@[simp] theorem capacityFromChar_eq_ok_iff {value : UInt8}
    {capacity : Capacity} :
    capacityFromChar value = .ok capacity ↔ value = capacity.toChar := by
  apply fromChar_eq_ok_iff
  · intro capacity
    cases capacity <;> decide
  · decide

@[simp] theorem intermarketSweepEligibilityFromChar_eq_ok_iff {value : UInt8}
    {eligibility : IntermarketSweepEligibility} :
    intermarketSweepEligibilityFromChar value = .ok eligibility ↔ value = eligibility.toChar := by
  apply fromChar_eq_ok_iff
  · intro eligibility
    cases eligibility <;> decide
  · decide

@[simp] theorem crossTypeFromChar_eq_ok_iff {value : UInt8}
    {crossType : CrossType} :
    crossTypeFromChar value = .ok crossType ↔ value = crossType.toChar := by
  apply fromChar_eq_ok_iff
  · intro crossType
    cases crossType <;> decide
  · decide

/-! ## Messages -/

structure EnterOrderMessage where
  userRefNum : UserRefNum
  side : Side
  quantity : Quantity
  symbol : Symbol
  price : Price4
  timeInForce : TimeInForce
  display : Display
  capacity : Capacity
  intermarketSweepEligibility : IntermarketSweepEligibility
  crossType : CrossType
  clOrdId : ClOrdId
  optionalAppendage : Bytes
deriving DecidableEq

structure ReplaceOrderMessage where
  origUserRefNum : UserRefNum
  userRefNum : UserRefNum
  quantity : Quantity
  price : Price4
  timeInForce : TimeInForce
  display : Display
  intermarketSweepEligibility : IntermarketSweepEligibility
  clOrdId : ClOrdId
  optionalAppendage : Bytes
deriving DecidableEq

structure CancelOrderMessage where
  userRefNum : UserRefNum
  quantity : Quantity
  optionalAppendage : Bytes
deriving DecidableEq

inductive Message where
  | enterOrder (message : EnterOrderMessage)
  | replaceOrder (message : ReplaceOrderMessage)
  | cancelOrder (message : CancelOrderMessage)
deriving DecidableEq

def appendageLengthFits (optionalAppendage : Bytes) : Bool :=
  optionalAppendage.length ≤ 0xFFFF

def isValidEnterOrderMessage (message : EnterOrderMessage) : Bool :=
  isValidUserRefNum message.userRefNum
    && isValidEnterOrReplaceQuantity message.quantity
    && isValidPrice4 message.price
    && isValidFixedAscii message.symbol
    && isValidFixedAscii message.clOrdId
    && appendageLengthFits message.optionalAppendage

def isValidReplaceOrderMessage (message : ReplaceOrderMessage) : Bool :=
  isValidUserRefNum message.origUserRefNum
    && isValidUserRefNum message.userRefNum
    && message.origUserRefNum != message.userRefNum
    && isValidEnterOrReplaceQuantity message.quantity
    && isValidPrice4 message.price
    && isValidFixedAscii message.clOrdId
    && appendageLengthFits message.optionalAppendage

def isValidCancelOrderMessage (message : CancelOrderMessage) : Bool :=
  isValidUserRefNum message.userRefNum
    && isValidCancelQuantity message.quantity
    && appendageLengthFits message.optionalAppendage

/-- The validity predicate of the message's own kind. -/
def isValidMessage : Message → Bool
  | .enterOrder message => isValidEnterOrderMessage message
  | .replaceOrder message => isValidReplaceOrderMessage message
  | .cancelOrder message => isValidCancelOrderMessage message

/-- The type byte that announces a message on the wire. -/
def messageType : Message → MessageType
  | .enterOrder _ => .enterOrder
  | .replaceOrder _ => .replaceOrder
  | .cancelOrder _ => .cancelOrder

def Message.optionalAppendage : Message → Bytes
  | .enterOrder message => message.optionalAppendage
  | .replaceOrder message => message.optionalAppendage
  | .cancelOrder message => message.optionalAppendage

/-- Length of everything before the appendage. -/
def baseLength : MessageType → Nat
  | .enterOrder => lengthEnterOrderBase
  | .replaceOrder => lengthReplaceOrderBase
  | .cancelOrder => lengthCancelOrderBase

def encodedLength : Message → Nat
  | .enterOrder message => lengthEnterOrderBase + message.optionalAppendage.length
  | .replaceOrder message => lengthReplaceOrderBase + message.optionalAppendage.length
  | .cancelOrder message => lengthCancelOrderBase + message.optionalAppendage.length

theorem encodedLength_eq (message : Message) :
    encodedLength message =
      baseLength (messageType message) + message.optionalAppendage.length := by
  cases message <;> rfl

/-- Only appendages whose length fits its two-byte field are valid. -/
theorem appendageLengthFits_of_isValidMessage {message : Message}
    (hvalid : isValidMessage message = true) :
    message.optionalAppendage.length ≤ 0xFFFF := by
  have hfits : appendageLengthFits message.optionalAppendage = true := by
    cases message with
    | enterOrder message =>
        simp only [isValidMessage, isValidEnterOrderMessage, Bool.and_eq_true] at hvalid
        exact hvalid.2
    | replaceOrder message =>
        simp only [isValidMessage, isValidReplaceOrderMessage, Bool.and_eq_true] at hvalid
        exact hvalid.2
    | cancelOrder message =>
        simp only [isValidMessage, isValidCancelOrderMessage, Bool.and_eq_true] at hvalid
        exact hvalid.2
  exact of_decide_eq_true hfits

/-! ## Wire forms -/

/-- Wire form of the fixed fields between the type byte and the appendage. -/
def fieldBytes : Message → Bytes
  | .enterOrder message =>
      u32Bytes message.userRefNum ++ (u8Bytes message.side.toChar ++
        (u32Bytes message.quantity ++ (message.symbol.toList ++ (u64Bytes message.price ++
        (u8Bytes message.timeInForce.toChar ++ (u8Bytes message.display.toChar ++
        (u8Bytes message.capacity.toChar ++
        (u8Bytes message.intermarketSweepEligibility.toChar ++
        (u8Bytes message.crossType.toChar ++ message.clOrdId.toList)))))))))
  | .replaceOrder message =>
      u32Bytes message.origUserRefNum ++ (u32Bytes message.userRefNum ++
        (u32Bytes message.quantity ++ (u64Bytes message.price ++
        (u8Bytes message.timeInForce.toChar ++ (u8Bytes message.display.toChar ++
        (u8Bytes message.intermarketSweepEligibility.toChar ++ message.clOrdId.toList))))))
  | .cancelOrder message => u32Bytes message.userRefNum ++ u32Bytes message.quantity

theorem fieldBytes_length (message : Message) :
    1 + (fieldBytes message).length + 2 = baseLength (messageType message) := by
  cases message <;> simp [fieldBytes, messageType, baseLength]

/-- Wire form of an appendage: its length and its bytes. -/
def appendageBytes (optionalAppendage : Bytes) : Bytes :=
  u16Bytes (UInt16.ofNat optionalAppendage.length) ++ optionalAppendage

/-- Wire form of a message. -/
def wireBytes (message : Message) : Bytes :=
  u8Bytes (messageType message).toChar ++
    (fieldBytes message ++ appendageBytes message.optionalAppendage)

theorem wireBytes_length (message : Message) :
    (wireBytes message).length = encodedLength message := by
  have hfields := fieldBytes_length message
  simp only [wireBytes, appendageBytes, List.length_append, u8Bytes_length,
    u16Bytes_length, encodedLength_eq]
  omega

/-- The parts of a wire form, each at its own offset. -/
theorem holdsAt_wireBytes {bytes : Bytes} {message : Message} :
    HoldsAt bytes 0 (wireBytes message) ↔
      HoldsAt bytes 0 (u8Bytes (messageType message).toChar) ∧
        HoldsAt bytes 1 (fieldBytes message) ∧
          HoldsAt bytes (baseLength (messageType message) - 2)
              (u16Bytes (UInt16.ofNat message.optionalAppendage.length)) ∧
            HoldsAt bytes (baseLength (messageType message)) message.optionalAppendage := by
  have hfields := fieldBytes_length message
  have hoffset : 0 + 1 + (fieldBytes message).length =
      baseLength (messageType message) - 2 := by omega
  have hend : baseLength (messageType message) - 2 + 2 =
      baseLength (messageType message) := by omega
  simp only [wireBytes, appendageBytes, holdsAt_append, u8Bytes_length, u16Bytes_length,
    hoffset, hend, Nat.zero_add]

end Fgep.Ouch
