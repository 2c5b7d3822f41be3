import GatedExecution.Lib.WrappingCounter
import GatedExecution.Wire.ByteIo

/-!
# The software reference of the hardware gate

{lit}`hardware/fpga_gate_reference.cpp`: what the hardware gate is to decide about a
packet, computed in software.  A packet passes a cascade of checks; the sequence number
is tracked on the way, and every call adds to the counters.

Main results:

- Theorem {lit}`evaluate_eq`: a call as its verdict, the number tracked and the counters.
- Theorem {lit}`verdict_eq_sequenceGap_iff`: when the verdict is a gap.
- Theorem {lit}`verdict_accept_iff`: when the verdict is to accept.
- Theorems {lit}`FpgaGateCounters.Balanced.recorded` and
  {lit}`FpgaGateCounters.BalancedExactly.recorded`: one call keeps the counters balanced.
-/

namespace Fgep.Hardware

open Fgep.Wire WrappingCounter

/-! ## Requests and results -/

inductive FpgaGateDecision where
  | accept
  | reject
  | drop
  | passToSoftware
  | unavailable
deriving DecidableEq, Repr

inductive FpgaGateReason where
  | none
  | hardwareUnavailable
  | unsupportedPacket
  | malformedPacket
  | configMiss
  | riskReject
  | symbolNotEnabled
  | sequenceGap
  | softwareRequired
deriving DecidableEq, Repr

inductive FpgaTimestampSource where
  | none
  | softwareReference
  | hardwareRx
  | hardwareGate
deriving DecidableEq, Repr

structure FpgaPacketMetadata where
  sequenceNumber : UInt64 := 0
  receiveTimestampNs : UInt64 := 0
  packetLength : UInt32 := 0
  stockLocate : UInt32 := 0
  hasInstrumentKey : Bool := false
  hasOrderFields : Bool := false
  side : UInt8 := 0
  quantity : UInt32 := 0
  price : UInt32 := 0
deriving DecidableEq

structure FpgaGateRequest where
  packet : Bytes
  metadata : FpgaPacketMetadata
deriving DecidableEq

structure FpgaGateCounters where
  packets : UInt64 := 0
  accepted : UInt64 := 0
  rejected : UInt64 := 0
  dropped : UInt64 := 0
  passedToSoftware : UInt64 := 0
  unavailable : UInt64 := 0
  malformed : UInt64 := 0
deriving DecidableEq

structure FpgaGateResult where
  decision : FpgaGateDecision
  reason : FpgaGateReason
  sequenceNumber : UInt64
  receiveTimestampNs : UInt64
  decisionTimestampNs : UInt64
  timestampSource : FpgaTimestampSource
  counters : FpgaGateCounters
deriving DecidableEq

def FpgaGateResult.accepted (result : FpgaGateResult) : Bool :=
  result.decision = .accept

def FpgaGateResult.rejected (result : FpgaGateResult) : Bool :=
  result.decision = .reject

structure FpgaGateReferenceConfig where
  enabled : Bool := true
  requireInstrumentKey : Bool := true
  requireOrderFields : Bool := true
  enforceEnabledStockLocates : Bool := true
  detectSequenceGaps : Bool := true
  minQuantity : UInt32 := 1
  maxQuantity : UInt32 := 1000000
  minPrice : UInt32 := 1
  maxPrice : UInt32 := 1000000000
deriving DecidableEq

def maxStockLocates : Nat := 65536

def validStockLocate (stockLocate : UInt32) : Bool :=
  stockLocate.toNat < maxStockLocates

def packetLengthMatches (request : FpgaGateRequest) : Bool :=
  request.metadata.packetLength.toNat = request.packet.length

def decisionTimestamp (request : FpgaGateRequest) : UInt64 :=
  if request.metadata.receiveTimestampNs = 0 then 0
  else request.metadata.receiveTimestampNs + 1

/-! ## The gate -/

/-- Both constructors enable every stock locate. -/
structure SoftwareReferenceFpgaGate where
  config : FpgaGateReferenceConfig := {}
  counters : FpgaGateCounters := {}
  enabledStockLocates : Fin maxStockLocates → Bool := fun _ => true
  expectedNextSequenceNumber : UInt64 := 0

/-- The counting part of the closure {lit}`make_result`. -/
def FpgaGateCounters.record (counters : FpgaGateCounters) (decision : FpgaGateDecision)
    (reason : FpgaGateReason) : FpgaGateCounters :=
  let counted :=
    match decision with
    | .accept => { counters with accepted := counters.accepted + 1 }
    | .reject => { counters with rejected := counters.rejected + 1 }
    | .drop => { counters with dropped := counters.dropped + 1 }
    | .passToSoftware => { counters with passedToSoftware := counters.passedToSoftware + 1 }
    | .unavailable => { counters with unavailable := counters.unavailable + 1 }
  if reason = .malformedPacket then { counted with malformed := counted.malformed + 1 }
  else counted

namespace SoftwareReferenceFpgaGate

def resetCounters (gate : SoftwareReferenceFpgaGate) : SoftwareReferenceFpgaGate :=
  { gate with counters := {} }

def resetSequenceTracking (gate : SoftwareReferenceFpgaGate) : SoftwareReferenceFpgaGate :=
  { gate with expectedNextSequenceNumber := 0 }

def setConfig (gate : SoftwareReferenceFpgaGate) (config : FpgaGateReferenceConfig) :
    SoftwareReferenceFpgaGate :=
  { gate with config := config }

def setAllStockLocatesEnabled (gate : SoftwareReferenceFpgaGate) (enabled : Bool) :
    SoftwareReferenceFpgaGate :=
  { gate with enabledStockLocates := fun _ => enabled }

/-- A stock locate outside the table is ignored. -/
def setStockLocateEnabled (gate : SoftwareReferenceFpgaGate) (stockLocate : UInt32)
    (enabled : Bool) : SoftwareReferenceFpgaGate :=
  if hvalid : validStockLocate stockLocate = true then
    { gate with
      enabledStockLocates :=
        Function.update gate.enabledStockLocates ⟨stockLocate.toNat, of_decide_eq_true hvalid⟩
          enabled }
  else gate

def stockLocateEnabled (gate : SoftwareReferenceFpgaGate) (stockLocate : UInt32) : Bool :=
  if hvalid : validStockLocate stockLocate = true then
    gate.enabledStockLocates ⟨stockLocate.toNat, of_decide_eq_true hvalid⟩
  else false

section SetStockLocate

variable (gate : SoftwareReferenceFpgaGate) (changed : UInt32) (enabled : Bool)

@[simp]
theorem setStockLocateEnabled_config :
    (gate.setStockLocateEnabled changed enabled).config = gate.config := by
  unfold setStockLocateEnabled
  split <;> rfl

@[simp]
theorem setStockLocateEnabled_counters :
    (gate.setStockLocateEnabled changed enabled).counters = gate.counters := by
  unfold setStockLocateEnabled
  split <;> rfl

@[simp]
theorem setStockLocateEnabled_expected :
    (gate.setStockLocateEnabled changed enabled).expectedNextSequenceNumber =
      gate.expectedNextSequenceNumber := by
  unfold setStockLocateEnabled
  split <;> rfl

theorem stockLocateEnabled_setStockLocateEnabled (stockLocate : UInt32) :
    (gate.setStockLocateEnabled changed enabled).stockLocateEnabled stockLocate =
      if changed = stockLocate then validStockLocate stockLocate && enabled
      else gate.stockLocateEnabled stockLocate := by
  by_cases hchanged : changed = stockLocate
  · subst hchanged
    by_cases hvalid : validStockLocate changed = true
    · simp [setStockLocateEnabled, stockLocateEnabled, hvalid]
    · simp [stockLocateEnabled, hvalid]
  · rw [if_neg hchanged]
    by_cases hvalid : validStockLocate changed = true
    · have hindex : stockLocate.toNat ≠ changed.toNat := by
        intro hsame
        exact hchanged (UInt32.toNat_inj.mp hsame).symm
      simp [setStockLocateEnabled, stockLocateEnabled, hvalid, Function.update, hindex]
    · simp [setStockLocateEnabled, hvalid]

theorem stockLocateEnabled_setAllStockLocatesEnabled (stockLocate : UInt32) :
    (gate.setAllStockLocatesEnabled enabled).stockLocateEnabled stockLocate =
      (validStockLocate stockLocate && enabled) := by
  by_cases hvalid : validStockLocate stockLocate = true
  · simp [setAllStockLocatesEnabled, stockLocateEnabled, hvalid]
  · simp [stockLocateEnabled, hvalid]

end SetStockLocate

/-- The closure {lit}`make_result`. -/
def makeResult (gate : SoftwareReferenceFpgaGate) (request : FpgaGateRequest)
    (decision : FpgaGateDecision) (reason : FpgaGateReason) :
    FpgaGateResult × SoftwareReferenceFpgaGate :=
  let counters := gate.counters.record decision reason
  ({ decision := decision
     reason := reason
     sequenceNumber := request.metadata.sequenceNumber
     receiveTimestampNs := request.metadata.receiveTimestampNs
     decisionTimestampNs := decisionTimestamp request
     timestampSource := .softwareReference
     counters := counters },
    { gate with counters := counters })

def quantityOk (config : FpgaGateReferenceConfig) (metadata : FpgaPacketMetadata) : Bool :=
  metadata.quantity ≥ config.minQuantity && metadata.quantity ≤ config.maxQuantity

def priceOk (config : FpgaGateReferenceConfig) (metadata : FpgaPacketMetadata) : Bool :=
  metadata.price ≥ config.minPrice && metadata.price ≤ config.maxPrice

/-- The part of {lit}`evaluate` after the sequence number. -/
def evaluateRequirements (gate : SoftwareReferenceFpgaGate) (request : FpgaGateRequest) :
    FpgaGateResult × SoftwareReferenceFpgaGate :=
  if gate.config.requireInstrumentKey && !request.metadata.hasInstrumentKey then
    gate.makeResult request .passToSoftware .configMiss
  else if gate.config.enforceEnabledStockLocates &&
      !gate.stockLocateEnabled request.metadata.stockLocate then
    gate.makeResult request .reject .symbolNotEnabled
  else if gate.config.requireOrderFields && !request.metadata.hasOrderFields then
    gate.makeResult request .passToSoftware .softwareRequired
  else if request.metadata.hasOrderFields &&
      (!quantityOk gate.config request.metadata || !priceOk gate.config request.metadata) then
    gate.makeResult request .reject .riskReject
  else gate.makeResult request .accept .none

def evaluate (gate : SoftwareReferenceFpgaGate) (request : FpgaGateRequest) :
    FpgaGateResult × SoftwareReferenceFpgaGate :=
  let number := request.metadata.sequenceNumber
  let counted : SoftwareReferenceFpgaGate :=
    { gate with counters := { gate.counters with packets := gate.counters.packets + 1 } }
  if !gate.config.enabled then counted.makeResult request .passToSoftware .softwareRequired
  else if request.packet.isEmpty || !packetLengthMatches request then
    counted.makeResult request .drop .malformedPacket
  else if gate.config.detectSequenceGaps && number ≠ 0 then
    let tracking := { counted with expectedNextSequenceNumber := number + 1 }
    if gate.expectedNextSequenceNumber ≠ 0 && number ≠ gate.expectedNextSequenceNumber then
      tracking.makeResult request .reject .sequenceGap
    else tracking.evaluateRequirements request
  else counted.evaluateRequirements request

/-! ## Verdict, tracked number and counters -/

/-- A packet that has bytes, as many as its metadata say. -/
def wellFormed (request : FpgaGateRequest) : Bool :=
  request.packet ≠ [] && request.metadata.packetLength.toNat = request.packet.length

/-- Whether a call tracks the number of its request. -/
def tracks (config : FpgaGateReferenceConfig) (request : FpgaGateRequest) : Bool :=
  config.enabled && wellFormed request && config.detectSequenceGaps &&
    request.metadata.sequenceNumber ≠ 0

/-- A tracked number that is not the one expected. -/
def unexpected (expected : UInt64) (request : FpgaGateRequest) : Bool :=
  expected ≠ 0 && request.metadata.sequenceNumber ≠ expected

/-- Decision and reason once the sequence number has passed. -/
def requirementsVerdict (config : FpgaGateReferenceConfig) (locateEnabled : Bool)
    (metadata : FpgaPacketMetadata) : FpgaGateDecision × FpgaGateReason :=
  if config.requireInstrumentKey && !metadata.hasInstrumentKey then (.passToSoftware, .configMiss)
  else if config.enforceEnabledStockLocates && !locateEnabled then (.reject, .symbolNotEnabled)
  else if config.requireOrderFields && !metadata.hasOrderFields then
    (.passToSoftware, .softwareRequired)
  else if metadata.hasOrderFields && (!quantityOk config metadata || !priceOk config metadata) then
    (.reject, .riskReject)
  else (.accept, .none)

/-- Decision and reason of a call. -/
def verdict (gate : SoftwareReferenceFpgaGate) (request : FpgaGateRequest) :
    FpgaGateDecision × FpgaGateReason :=
  if !gate.config.enabled then (.passToSoftware, .softwareRequired)
  else if !wellFormed request then (.drop, .malformedPacket)
  else if tracks gate.config request && unexpected gate.expectedNextSequenceNumber request then
    (.reject, .sequenceGap)
  else requirementsVerdict gate.config (gate.stockLocateEnabled request.metadata.stockLocate)
    request.metadata

/-- The number expected after a call. -/
def nextExpected (gate : SoftwareReferenceFpgaGate) (request : FpgaGateRequest) : UInt64 :=
  if tracks gate.config request then request.metadata.sequenceNumber + 1
  else gate.expectedNextSequenceNumber

/-- The gate with one more packet counted and the number of the request tracked. -/
def advanced (gate : SoftwareReferenceFpgaGate) (request : FpgaGateRequest) :
    SoftwareReferenceFpgaGate :=
  { gate with
    counters := { gate.counters with packets := gate.counters.packets + 1 }
    expectedNextSequenceNumber := gate.nextExpected request }

section Evaluate

variable (gate : SoftwareReferenceFpgaGate) (request : FpgaGateRequest)

theorem evaluateRequirements_eq :
    gate.evaluateRequirements request =
      let passed := requirementsVerdict gate.config
        (gate.stockLocateEnabled request.metadata.stockLocate) request.metadata
      gate.makeResult request passed.1 passed.2 := by
  unfold evaluateRequirements requirementsVerdict
  split_ifs <;> rfl

theorem evaluate_eq :
    gate.evaluate request =
      (gate.advanced request).makeResult request (gate.verdict request).1
        (gate.verdict request).2 := by
  have hmalformed : (request.packet.isEmpty || !packetLengthMatches request) =
      !wellFormed request := by
    rw [wellFormed, packetLengthMatches]
    cases request.packet <;> simp
  unfold evaluate
  rw [hmalformed]
  by_cases henabled : gate.config.enabled = true
  · by_cases hwell : wellFormed request = true
    · by_cases htracks : (gate.config.detectSequenceGaps &&
          decide (request.metadata.sequenceNumber ≠ 0)) = true
      · have htracked : tracks gate.config request = true := by
          simpa [tracks, henabled, hwell] using htracks
        by_cases hgap : unexpected gate.expectedNextSequenceNumber request = true
        · have hgap' := hgap
          unfold unexpected at hgap'
          simp only [henabled, hwell, htracks, hgap', verdict, advanced, nextExpected, htracked,
            hgap, Bool.not_true, Bool.false_eq_true, Bool.and_self, if_false, if_true]
        · have hgap' := hgap
          unfold unexpected at hgap'
          simp only [henabled, hwell, htracks, hgap', verdict, advanced, nextExpected, htracked,
            hgap, Bool.not_true, Bool.false_eq_true, Bool.and_false, if_false, if_true,
            evaluateRequirements_eq]
          rfl
      · have htracked : tracks gate.config request = false := by
          simpa [tracks, henabled, hwell] using htracks
        simp only [henabled, hwell, htracks, verdict, advanced, nextExpected, htracked,
          Bool.not_true, Bool.false_eq_true, Bool.false_and, if_false, evaluateRequirements_eq]
        rfl
    · simp [henabled, hwell, verdict, advanced, nextExpected, tracks]
  · simp [henabled, verdict, advanced, nextExpected, tracks]

@[simp]
theorem evaluate_decision : (gate.evaluate request).1.decision = (gate.verdict request).1 := by
  rw [evaluate_eq]
  rfl

@[simp]
theorem evaluate_reason : (gate.evaluate request).1.reason = (gate.verdict request).2 := by
  rw [evaluate_eq]
  rfl

@[simp]
theorem evaluate_config : (gate.evaluate request).2.config = gate.config := by
  rw [evaluate_eq]
  rfl

@[simp]
theorem evaluate_enabledStockLocates :
    (gate.evaluate request).2.enabledStockLocates = gate.enabledStockLocates := by
  rw [evaluate_eq]
  rfl

@[simp]
theorem evaluate_expected :
    (gate.evaluate request).2.expectedNextSequenceNumber = gate.nextExpected request := by
  rw [evaluate_eq]
  rfl

theorem evaluate_counters :
    (gate.evaluate request).2.counters =
      ({ gate.counters with packets := gate.counters.packets + 1 } : FpgaGateCounters).record
        (gate.verdict request).1 (gate.verdict request).2 := by
  rw [evaluate_eq]
  rfl

/-- A result shows the counters as the call leaves them. -/
theorem evaluate_result_counters :
    (gate.evaluate request).1.counters = (gate.evaluate request).2.counters := by
  rw [evaluate_eq]
  rfl

end Evaluate

/-! ## When the verdict is a gap and when it is to accept -/

/-- What the configuration asks of a request besides its sequence number. -/
structure MeetsRequirements (config : FpgaGateReferenceConfig) (locateEnabled : Bool)
    (metadata : FpgaPacketMetadata) : Prop where
  instrument_key : config.requireInstrumentKey = true → metadata.hasInstrumentKey = true
  stock_locate : config.enforceEnabledStockLocates = true → locateEnabled = true
  order_fields : config.requireOrderFields = true → metadata.hasOrderFields = true
  quantity_range : metadata.hasOrderFields = true →
    config.minQuantity ≤ metadata.quantity ∧ metadata.quantity ≤ config.maxQuantity
  price_range : metadata.hasOrderFields = true →
    config.minPrice ≤ metadata.price ∧ metadata.price ≤ config.maxPrice

theorem requirementsVerdict_ne_sequenceGap (config : FpgaGateReferenceConfig)
    (locateEnabled : Bool) (metadata : FpgaPacketMetadata) :
    requirementsVerdict config locateEnabled metadata ≠ (.reject, .sequenceGap) := by
  unfold requirementsVerdict
  split_ifs <;> simp

theorem accept_ite_iff {condition : Prop} [Decidable condition]
    {failed passed : FpgaGateDecision × FpgaGateReason} (hfailed : failed.1 ≠ .accept) :
    (if condition then failed else passed).1 = .accept ↔ ¬condition ∧ passed.1 = .accept := by
  by_cases hcondition : condition <;> simp [hcondition, hfailed]

theorem requirementsVerdict_accept_iff {config : FpgaGateReferenceConfig} {locateEnabled : Bool}
    {metadata : FpgaPacketMetadata} :
    (requirementsVerdict config locateEnabled metadata).1 = .accept ↔
      MeetsRequirements config locateEnabled metadata := by
  unfold requirementsVerdict
  rw [accept_ite_iff (by simp), accept_ite_iff (by simp), accept_ite_iff (by simp),
    accept_ite_iff (by simp)]
  constructor
  · rintro ⟨hkey, hlocate, hfields, hranges, -⟩
    simp only [Bool.and_eq_true, Bool.or_eq_true, Bool.not_eq_true', not_and, not_or,
      Bool.not_eq_false] at hkey hlocate hfields hranges
    refine ⟨hkey, hlocate, hfields, ?_, ?_⟩
    · intro hhas
      simpa [quantityOk] using (hranges hhas).1
    · intro hhas
      simpa [priceOk] using (hranges hhas).2
  · intro hmeets
    simp only [Bool.and_eq_true, Bool.or_eq_true, Bool.not_eq_true', not_and, not_or,
      Bool.not_eq_false]
    refine ⟨hmeets.instrument_key, hmeets.stock_locate, hmeets.order_fields, ?_, trivial⟩
    intro hhas
    constructor
    · simpa [quantityOk] using hmeets.quantity_range hhas
    · simpa [priceOk] using hmeets.price_range hhas

section Verdict

variable {gate : SoftwareReferenceFpgaGate} {request : FpgaGateRequest}

theorem verdict_eq_sequenceGap_iff :
    gate.verdict request = (.reject, .sequenceGap) ↔
      tracks gate.config request = true ∧
        unexpected gate.expectedNextSequenceNumber request = true := by
  have hrequirements := requirementsVerdict_ne_sequenceGap gate.config
    (gate.stockLocateEnabled request.metadata.stockLocate) request.metadata
  unfold verdict
  by_cases henabled : gate.config.enabled = true
  · by_cases hwell : wellFormed request = true
    · rw [← Bool.and_eq_true]
      by_cases hgap : (tracks gate.config request &&
          unexpected gate.expectedNextSequenceNumber request) = true
      · simp [henabled, hwell, hgap]
      · simp [henabled, hwell, hgap, hrequirements]
    · simp [henabled, hwell, tracks]
  · simp [henabled, tracks]

theorem verdict_accept_iff :
    (gate.verdict request).1 = .accept ↔
      gate.config.enabled = true ∧ wellFormed request = true ∧
        gate.verdict request ≠ (.reject, .sequenceGap) ∧
        MeetsRequirements gate.config (gate.stockLocateEnabled request.metadata.stockLocate)
          request.metadata := by
  rw [Ne, verdict_eq_sequenceGap_iff, ← requirementsVerdict_accept_iff]
  unfold verdict
  rw [accept_ite_iff (by simp), accept_ite_iff (by simp), accept_ite_iff (by simp)]
  simp

end Verdict

end SoftwareReferenceFpgaGate

/-! ## The counters -/

namespace FpgaGateCounters

/-- The counters as 64-bit numbers, in which sums wrap as the counters do. -/
def Balanced (counters : FpgaGateCounters) : Prop :=
  counters.packets = counters.accepted + counters.rejected + counters.dropped +
    counters.passedToSoftware + counters.unavailable

/-- The same equation between natural numbers. -/
def BalancedExactly (counters : FpgaGateCounters) : Prop :=
  counters.packets.toNat = counters.accepted.toNat + counters.rejected.toNat +
    counters.dropped.toNat + counters.passedToSoftware.toNat + counters.unavailable.toNat

variable {counters : FpgaGateCounters}

theorem record_packets (decision : FpgaGateDecision) (reason : FpgaGateReason) :
    (counters.record decision reason).packets = counters.packets := by
  unfold record
  cases decision <;> split_ifs <;> rfl

theorem Balanced.recorded (hbalanced : counters.Balanced) (decision : FpgaGateDecision)
    (reason : FpgaGateReason) :
    (({ counters with packets := counters.packets + 1 } : FpgaGateCounters).record decision
      reason).Balanced := by
  unfold Balanced at hbalanced ⊢
  cases decision <;> by_cases hreason : reason = .malformedPacket <;>
    simp only [record, hreason, if_true, if_false] <;> rw [hbalanced] <;> grind

theorem BalancedExactly.recorded (hbalanced : counters.BalancedExactly)
    (hlt : counters.packets.toNat + 1 < 2 ^ 64) (decision : FpgaGateDecision)
    (reason : FpgaGateReason) :
    (({ counters with packets := counters.packets + 1 } : FpgaGateCounters).record decision
      reason).BalancedExactly := by
  unfold BalancedExactly at hbalanced ⊢
  have hpackets := toNat_add_one hlt
  cases decision <;> by_cases hreason : reason = .malformedPacket <;>
    simp only [record, hreason, if_true, if_false] <;>
    rw [hpackets, toNat_add_one (by omega)] <;> omega

end FpgaGateCounters

end Fgep.Hardware
