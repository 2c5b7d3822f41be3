import GatedExecution.Hardware.ReferenceGate
import GatedExecution.Lib.Histories

/-!
# Runs of the reference gate

The gate keeps one number, the one it expects next, which is zero while nothing has been
tracked.  Over a history of calls that number is the successor of the last one tracked
since tracking was reset, unless a tracked number was the largest there is; what the
gate decides can then be read off the history.

Main results:

- Theorem {lit}`apply_follows`: one call keeps the gate what the history says it is.
- Theorem {lit}`reached_follows`: the gate after any history.
- Theorem {lit}`reference_gate_run`: gaps, acceptance and counters over whole runs.
- Theorem {lit}`successor_after_late_packets`: what late and repeated packets do to the
  packet that is next in order.
-/

namespace Fgep.Hardware

open Fgep.Wire Histories SoftwareReferenceFpgaGate

/-! ## Histories -/

inductive GateOp where
  | evaluate (request : FpgaGateRequest)
  | resetCounters
  | resetSequenceTracking
  | setConfig (config : FpgaGateReferenceConfig)
  | setAllStockLocatesEnabled (enabled : Bool)
  | setStockLocateEnabled (stockLocate : UInt32) (enabled : Bool)

def applyOp (gate : SoftwareReferenceFpgaGate) : GateOp → SoftwareReferenceFpgaGate
  | .evaluate request => (gate.evaluate request).2
  | .resetCounters => gate.resetCounters
  | .resetSequenceTracking => gate.resetSequenceTracking
  | .setConfig config => gate.setConfig config
  | .setAllStockLocatesEnabled enabled => gate.setAllStockLocatesEnabled enabled
  | .setStockLocateEnabled stockLocate enabled => gate.setStockLocateEnabled stockLocate enabled

/-- A gate constructed with a configuration, after a history of calls. -/
def reached (config : FpgaGateReferenceConfig) (history : List GateOp) :
    SoftwareReferenceFpgaGate :=
  history.foldl applyOp { config := config }

/-- A configuration that keeps the gate enabled and detects gaps. -/
def detects (config : FpgaGateReferenceConfig) : Bool :=
  config.enabled && config.detectSequenceGaps

/-- A call that leaves gap detection on and does not use the largest number. -/
def GateOp.Watched : GateOp → Prop
  | .evaluate request => request.metadata.sequenceNumber.toNat ≠ 2 ^ 64 - 1
  | .setConfig config => detects config = true
  | _ => True

instance : DecidablePred GateOp.Watched
  | .evaluate _ => inferInstanceAs (Decidable (_ ≠ _))
  | .setConfig _ => inferInstanceAs (Decidable (_ = _))
  | .resetCounters | .resetSequenceTracking | .setAllStockLocatesEnabled _
  | .setStockLocateEnabled _ _ => inferInstanceAs (Decidable True)

/-! ## What a history says -/

def endsTracking : GateOp → Bool
  | .resetSequenceTracking => true
  | _ => false

def trackedNumber : GateOp → Option UInt64
  | .evaluate request =>
      if wellFormed request && request.metadata.sequenceNumber ≠ 0 then
        some request.metadata.sequenceNumber
      else none
  | _ => none

/-- The number of the last well-formed request with a non-zero one, since tracking was
last reset. -/
def lastTracked (history : List GateOp) : Option UInt64 :=
  latestSince endsTracking trackedNumber history

def newConfig : GateOp → Option FpgaGateReferenceConfig
  | .setConfig config => some config
  | _ => none

def currentConfig (config : FpgaGateReferenceConfig) (history : List GateOp) :
    FpgaGateReferenceConfig :=
  (latest newConfig history).getD config

def locateChange (stockLocate : UInt32) : GateOp → Option Bool
  | .setAllStockLocatesEnabled enabled => some enabled
  | .setStockLocateEnabled changed enabled => if changed = stockLocate then some enabled else none
  | _ => none

/-- Whether a stock locate is in the table and was enabled by the last change to it. -/
def locateEnabled (history : List GateOp) (stockLocate : UInt32) : Bool :=
  validStockLocate stockLocate && (latest (locateChange stockLocate) history).getD true

/-- A well-formed request whose number does not follow the last one tracked. -/
structure SequenceGap (history : List GateOp) (request : FpgaGateRequest) : Prop where
  well_formed : wellFormed request = true
  numbered : request.metadata.sequenceNumber ≠ 0
  not_next : ∃ last, lastTracked history = some last ∧
    request.metadata.sequenceNumber.toNat ≠ last.toNat + 1

def evaluations (history : List GateOp) : Nat :=
  history.countP (fun op => match op with
    | .evaluate _ => true
    | _ => false)

/-! ## The gate follows its history -/

/-- The number expected after the last one tracked. -/
def expectedAfter : Option UInt64 → UInt64
  | none => 0
  | some last => last + 1

structure Follows (config : FpgaGateReferenceConfig) (history : List GateOp)
    (gate : SoftwareReferenceFpgaGate) : Prop where
  config_eq : gate.config = currentConfig config history
  detecting : detects gate.config = true
  expected_eq : gate.expectedNextSequenceNumber = expectedAfter (lastTracked history)
  locates_eq : ∀ stockLocate, gate.stockLocateEnabled stockLocate =
    locateEnabled history stockLocate
  balanced : gate.counters.Balanced

section Concat

variable (config : FpgaGateReferenceConfig) (history : List GateOp) (op : GateOp)

theorem currentConfig_concat :
    currentConfig config (history ++ [op]) = (newConfig op).getD (currentConfig config history) := by
  rw [currentConfig, latest_concat]
  cases newConfig op <;> rfl

theorem lastTracked_concat :
    lastTracked (history ++ [op]) =
      if endsTracking op then none else (trackedNumber op).or (lastTracked history) :=
  latestSince_concat _ _ history op

theorem locateEnabled_concat (stockLocate : UInt32) :
    locateEnabled (history ++ [op]) stockLocate =
      (validStockLocate stockLocate &&
        (locateChange stockLocate op).getD
          ((latest (locateChange stockLocate) history).getD true)) := by
  rw [locateEnabled, latest_concat]
  cases locateChange stockLocate op <;> rfl

end Concat

theorem tracks_eq {config : FpgaGateReferenceConfig} (hdetects : detects config = true)
    (request : FpgaGateRequest) :
    tracks config request =
      (wellFormed request && decide (request.metadata.sequenceNumber ≠ 0)) := by
  rw [detects, Bool.and_eq_true] at hdetects
  simp [tracks, hdetects.1, hdetects.2]

/-- One call later: what the gate has to do to follow the longer history. -/
theorem Follows.concat {config : FpgaGateReferenceConfig} {history : List GateOp}
    {gate after : SoftwareReferenceFpgaGate} (hgate : Follows config history gate) {op : GateOp}
    (hconfig : after.config = (newConfig op).getD gate.config)
    (hdetects : detects after.config = true)
    (hexpected : after.expectedNextSequenceNumber =
      if endsTracking op then 0
      else ((trackedNumber op).map (· + 1)).getD gate.expectedNextSequenceNumber)
    (hlocates : ∀ stockLocate, after.stockLocateEnabled stockLocate =
      ((locateChange stockLocate op).map (validStockLocate stockLocate && ·)).getD
        (gate.stockLocateEnabled stockLocate))
    (hbalanced : after.counters.Balanced) : Follows config (history ++ [op]) after where
  config_eq := by
    rw [hconfig, currentConfig_concat, hgate.config_eq]
  detecting := hdetects
  expected_eq := by
    rw [hexpected, lastTracked_concat, hgate.expected_eq]
    cases endsTracking op <;> cases trackedNumber op <;> rfl
  locates_eq := by
    intro stockLocate
    rw [hlocates, locateEnabled_concat, hgate.locates_eq]
    cases locateChange stockLocate op <;> rfl
  balanced := hbalanced

theorem evaluate_follows {config : FpgaGateReferenceConfig} {history : List GateOp}
    {gate : SoftwareReferenceFpgaGate} (hgate : Follows config history gate)
    (request : FpgaGateRequest) :
    Follows config (history ++ [.evaluate request]) (gate.evaluate request).2 := by
  apply hgate.concat
  · exact evaluate_config gate request
  · rw [evaluate_config]
    exact hgate.detecting
  · rw [evaluate_expected, nextExpected, tracks_eq hgate.detecting]
    by_cases htracked : (wellFormed request &&
        decide (request.metadata.sequenceNumber ≠ 0)) = true
    · simp only [htracked, endsTracking, trackedNumber, if_true, Bool.false_eq_true, if_false]
      rfl
    · simp only [htracked, endsTracking, trackedNumber, Bool.false_eq_true, if_false]
      rfl
  · intro stockLocate
    simp [stockLocateEnabled, locateChange]
  · rw [evaluate_counters]
    exact hgate.balanced.recorded _ _

theorem setStockLocateEnabled_follows {config : FpgaGateReferenceConfig} {history : List GateOp}
    {gate : SoftwareReferenceFpgaGate} (hgate : Follows config history gate) (changed : UInt32)
    (enabled : Bool) :
    Follows config (history ++ [.setStockLocateEnabled changed enabled])
      (gate.setStockLocateEnabled changed enabled) := by
  apply hgate.concat
  · exact setStockLocateEnabled_config gate changed enabled
  · rw [setStockLocateEnabled_config]
    exact hgate.detecting
  · exact setStockLocateEnabled_expected gate changed enabled
  · intro stockLocate
    rw [stockLocateEnabled_setStockLocateEnabled]
    by_cases hchanged : changed = stockLocate <;> simp [locateChange, hchanged]
  · rw [setStockLocateEnabled_counters]
    exact hgate.balanced

theorem apply_follows {config : FpgaGateReferenceConfig} {history : List GateOp}
    {gate : SoftwareReferenceFpgaGate} (hgate : Follows config history gate) {op : GateOp}
    (hop : op.Watched) : Follows config (history ++ [op]) (applyOp gate op) := by
  cases op with
  | evaluate request => exact evaluate_follows hgate request
  | resetCounters => exact hgate.concat rfl hgate.detecting rfl (fun _ => rfl) rfl
  | resetSequenceTracking =>
      exact hgate.concat rfl hgate.detecting rfl (fun _ => rfl) hgate.balanced
  | setConfig changed => exact hgate.concat rfl hop rfl (fun _ => rfl) hgate.balanced
  | setAllStockLocatesEnabled enabled =>
      exact hgate.concat rfl hgate.detecting rfl
        (stockLocateEnabled_setAllStockLocatesEnabled gate enabled) hgate.balanced
  | setStockLocateEnabled changed enabled =>
      exact setStockLocateEnabled_follows hgate changed enabled

theorem new_follows {config : FpgaGateReferenceConfig} (hdetects : detects config = true) :
    Follows config [] { config := config } where
  config_eq := rfl
  detecting := hdetects
  expected_eq := rfl
  locates_eq := by
    intro stockLocate
    by_cases hvalid : validStockLocate stockLocate = true
    · simp [stockLocateEnabled, locateEnabled, latest, hvalid]
    · simp [stockLocateEnabled, locateEnabled, hvalid]
  balanced := rfl

theorem reached_follows {config : FpgaGateReferenceConfig} (hdetects : detects config = true)
    {history : List GateOp} (hwatched : ∀ op ∈ history, op.Watched) :
    Follows config history (reached config history) := by
  induction history using List.reverseRecOn with
  | nil => exact new_follows hdetects
  | append_singleton earlier op ih =>
      rw [reached, List.foldl_append]
      apply apply_follows
      · exact ih (fun earlierOp hmem => hwatched earlierOp (List.mem_append_left _ hmem))
      · exact hwatched op (List.mem_append_right _ (List.mem_singleton_self op))

/-! ## Gaps over whole runs -/

theorem lastTracked_lt {history : List GateOp} (hwatched : ∀ op ∈ history, op.Watched)
    {last : UInt64} (hlast : lastTracked history = some last) : last.toNat + 1 < 2 ^ 64 := by
  have hbound := last.toNat_lt
  have hne : last.toNat ≠ 2 ^ 64 - 1 := by
    rcases exists_of_latestSince hlast with ⟨op, hmem, hread⟩
    cases op with
    | evaluate request =>
        rw [trackedNumber] at hread
        split at hread
        · cases hread
          exact hwatched _ hmem
        · cases hread
    | resetCounters | resetSequenceTracking | setConfig | setAllStockLocatesEnabled
    | setStockLocateEnabled => cases hread
  omega

/-- The number expected after a tracked one is not the mark for nothing tracked. -/
theorem unexpected_expectedAfter {last : UInt64} (hlast : last.toNat + 1 < 2 ^ 64)
    (request : FpgaGateRequest) :
    unexpected (expectedAfter (some last)) request = true ↔
      request.metadata.sequenceNumber.toNat ≠ last.toNat + 1 := by
  have hnext : (last + 1).toNat = last.toNat + 1 := WrappingCounter.toNat_add_one hlast
  have hne : last + 1 ≠ 0 := by
    intro hzero
    rw [hzero] at hnext
    simp at hnext
  have hsame : request.metadata.sequenceNumber.toNat = (last + 1).toNat ↔
      request.metadata.sequenceNumber = last + 1 := UInt64.toNat_inj
  rw [unexpected, expectedAfter, ← hnext, ne_eq (UInt64.toNat _), hsame]
  simp [hne]

theorem Follows.verdict_eq_sequenceGap_iff {config : FpgaGateReferenceConfig}
    {history : List GateOp} {gate : SoftwareReferenceFpgaGate}
    (hgate : Follows config history gate) (hwatched : ∀ op ∈ history, op.Watched)
    (request : FpgaGateRequest) :
    gate.verdict request = (.reject, .sequenceGap) ↔ SequenceGap history request := by
  rw [SoftwareReferenceFpgaGate.verdict_eq_sequenceGap_iff, tracks_eq hgate.detecting,
    hgate.expected_eq, Bool.and_eq_true, decide_eq_true_eq]
  cases hlast : lastTracked history with
  | none =>
      constructor
      · rintro ⟨-, hunexpected⟩
        simp [unexpected, expectedAfter] at hunexpected
      · intro hgap
        rcases hgap.not_next with ⟨last, hsome, -⟩
        rw [hlast] at hsome
        cases hsome
  | some last =>
      rw [unexpected_expectedAfter (lastTracked_lt hwatched hlast)]
      constructor
      · rintro ⟨⟨hwell, hnumber⟩, hne⟩
        exact ⟨hwell, hnumber, last, hlast, hne⟩
      · intro hgap
        rcases hgap.not_next with ⟨found, hsome, hne⟩
        rw [hlast] at hsome
        cases hsome
        exact ⟨⟨hgap.well_formed, hgap.numbered⟩, hne⟩

/-- Fewer than 2^64 evaluations leave the counters exact. -/
theorem reached_balancedExactly (config : FpgaGateReferenceConfig) {history : List GateOp}
    (hfew : evaluations history < 2 ^ 64) :
    (reached config history).counters.BalancedExactly ∧
      (reached config history).counters.packets.toNat ≤ evaluations history := by
  induction history using List.reverseRecOn with
  | nil => exact ⟨rfl, Nat.le_refl _⟩
  | append_singleton earlier op ih =>
      have hsplit : evaluations (earlier ++ [op]) = evaluations earlier + evaluations [op] :=
        List.countP_append
      rw [hsplit] at hfew ⊢
      have hearlier := ih (by omega)
      rw [reached, List.foldl_append]
      change (applyOp (reached config earlier) op).counters.BalancedExactly ∧
        (applyOp (reached config earlier) op).counters.packets.toNat ≤ _
      cases op with
      | evaluate request =>
          have hone : evaluations [.evaluate request] = 1 := rfl
          have hlt : (reached config earlier).counters.packets.toNat + 1 < 2 ^ 64 := by omega
          rw [applyOp, evaluate_counters, FpgaGateCounters.record_packets,
            WrappingCounter.toNat_add_one hlt]
          exact ⟨hearlier.1.recorded hlt _ _, by omega⟩
      | resetCounters => exact ⟨rfl, Nat.zero_le _⟩
      | resetSequenceTracking | setConfig | setAllStockLocatesEnabled =>
          exact ⟨hearlier.1, Nat.le_add_right_of_le hearlier.2⟩
      | setStockLocateEnabled =>
          rw [applyOp, setStockLocateEnabled_counters]
          exact ⟨hearlier.1, Nat.le_add_right_of_le hearlier.2⟩

theorem rejected_sequenceGap_iff (gate : SoftwareReferenceFpgaGate) (request : FpgaGateRequest) :
    ((gate.evaluate request).1.rejected = true ∧ (gate.evaluate request).1.reason = .sequenceGap) ↔
      gate.verdict request = (.reject, .sequenceGap) := by
  simp [FpgaGateResult.rejected, Prod.ext_iff]

/-- After any history a packet is refused for a gap, or accepted, exactly as the history says,
and the counters balance. -/
theorem reference_gate_run (config : FpgaGateReferenceConfig) (hdetects : detects config = true)
    (history : List GateOp) (hwatched : ∀ op ∈ history, op.Watched)
    (request : FpgaGateRequest) :
    let gate := reached config history
    let result := (gate.evaluate request).1
    let after := (gate.evaluate request).2
    (result.rejected = true ∧ result.reason = .sequenceGap ↔ SequenceGap history request) ∧
    (result.accepted = true ↔ wellFormed request = true ∧ ¬SequenceGap history request ∧
      MeetsRequirements (currentConfig config history)
        (locateEnabled history request.metadata.stockLocate) request.metadata) ∧
    gate.counters.Balanced ∧ after.counters.Balanced ∧
    (evaluations (history ++ [.evaluate request]) < 2 ^ 64 → after.counters.BalancedExactly) ∧
    result.counters = after.counters := by
  intro gate result after
  have hgate : Follows config history gate := reached_follows hdetects hwatched
  have hgap := hgate.verdict_eq_sequenceGap_iff hwatched request
  refine ⟨(rejected_sequenceGap_iff gate request).trans hgap, ?_, hgate.balanced,
    (evaluate_follows hgate request).balanced, ?_, evaluate_result_counters gate request⟩
  · have henabled : gate.config.enabled = true := (Bool.and_eq_true _ _ ▸ hgate.detecting).1
    rw [← hgap, ← hgate.config_eq, ← hgate.locates_eq]
    have haccepted : result.accepted = true ↔ (gate.verdict request).1 = .accept := by
      simp [result, FpgaGateResult.accepted]
    rw [haccepted, verdict_accept_iff]
    simp [henabled]
  · intro hfew
    have hexact := (reached_balancedExactly config hfew).1
    rw [reached, List.foldl_append] at hexact
    exact hexact

/-- A request of one byte that meets the default requirements. -/
def plainRequest (number : UInt64) : FpgaGateRequest where
  packet := [0]
  metadata :=
    { sequenceNumber := number
      packetLength := 1
      hasInstrumentKey := true
      hasOrderFields := true
      quantity := 1
      price := 1 }

/-- After the numbers 1 and 2 the number 4 is a gap and 3 is accepted. -/
theorem reference_gate_run_one_two :
    let history : List GateOp := [.evaluate (plainRequest 1), .evaluate (plainRequest 2)]
    SequenceGap history (plainRequest 4) ∧ ¬SequenceGap history (plainRequest 3) := by
  intro history
  have hwatched : ∀ op ∈ history, op.Watched := by decide
  have hgap := (reference_gate_run {} rfl history hwatched (plainRequest 4)).1
  have hnext := (reference_gate_run {} rfl history hwatched (plainRequest 3)).2.1
  exact ⟨hgap.mp (by decide), (hnext.mp (by decide)).2.1⟩

/-! ## Late and repeated packets -/

/-- The gate after a list of requests. -/
def evaluateAll (gate : SoftwareReferenceFpgaGate) (requests : List FpgaGateRequest) :
    SoftwareReferenceFpgaGate :=
  requests.foldl (fun gate request => (gate.evaluate request).2) gate

theorem evaluateAll_config (gate : SoftwareReferenceFpgaGate) (requests : List FpgaGateRequest) :
    (evaluateAll gate requests).config = gate.config := by
  induction requests using List.reverseRecOn with
  | nil => rfl
  | append_singleton earlier request ih =>
      rw [evaluateAll, List.foldl_append]
      exact (evaluate_config _ request).trans ih

/-- The gate forgets everything but the last tracked number. -/
theorem evaluateAll_concat_expected {gate : SoftwareReferenceFpgaGate}
    (requests : List FpgaGateRequest) {request : FpgaGateRequest}
    (htracks : tracks gate.config request = true) :
    (evaluateAll gate (requests ++ [request])).expectedNextSequenceNumber =
      request.metadata.sequenceNumber + 1 := by
  rw [evaluateAll, List.foldl_append]
  change ((evaluateAll gate requests).evaluate request).2.expectedNextSequenceNumber = _
  rw [evaluate_expected, nextExpected, evaluateAll_config, if_pos htracks]

theorem toNat_pos_iff_ne_zero {number : UInt64} : 0 < number.toNat ↔ number ≠ 0 := by
  rw [Nat.pos_iff_ne_zero, Ne, Ne, ← UInt64.toNat_inj]
  rfl

theorem tracks_of_wellFormed {config : FpgaGateReferenceConfig} {request : FpgaGateRequest}
    (henabled : config.enabled = true) (hdetects : config.detectSequenceGaps = true)
    (hwell : wellFormed request = true) (hpos : 0 < request.metadata.sequenceNumber.toNat) :
    tracks config request = true := by
  simp [tracks, henabled, hwell, hdetects, toNat_pos_iff_ne_zero.mp hpos]

/-- After a number of at most {lit}`n`, the packet {lit}`n + 1` is expected if it was
{lit}`n`. -/
theorem unexpected_successor_iff {first last next : FpgaGateRequest}
    (hle : last.metadata.sequenceNumber.toNat ≤ first.metadata.sequenceNumber.toNat)
    (hnumber : next.metadata.sequenceNumber.toNat = first.metadata.sequenceNumber.toNat + 1) :
    unexpected (last.metadata.sequenceNumber + 1) next = true ↔
      last.metadata.sequenceNumber ≠ first.metadata.sequenceNumber := by
  have hbound := next.metadata.sequenceNumber.toNat_lt
  refine (unexpected_expectedAfter (by omega) next).trans ?_
  rw [hnumber, Ne, Ne, ← UInt64.toNat_inj]
  omega

/-- The packet next in order is refused for a gap exactly when an older one came last. -/
theorem successor_after_late_packets (config : FpgaGateReferenceConfig) (history : List GateOp)
    (hdetects : (reached config history).config.detectSequenceGaps = true)
    (first : FpgaGateRequest) (hfirst : wellFormed first = true)
    (hpos : 0 < first.metadata.sequenceNumber.toNat)
    (late : List FpgaGateRequest)
    (hlate : ∀ request ∈ late, wellFormed request = true ∧
      0 < request.metadata.sequenceNumber.toNat ∧
      request.metadata.sequenceNumber.toNat ≤ first.metadata.sequenceNumber.toNat)
    (next : FpgaGateRequest) (hnext : wellFormed next = true)
    (hnumber : next.metadata.sequenceNumber.toNat = first.metadata.sequenceNumber.toNat + 1) :
    let gate := evaluateAll (reached config history) (first :: late)
    let result := (gate.evaluate next).1
    result.rejected = true ∧ result.reason = .sequenceGap ↔
      gate.config.enabled = true ∧ ∃ last, late.getLast? = some last ∧
        last.metadata.sequenceNumber ≠ first.metadata.sequenceNumber := by
  intro gate result
  have hconfig : gate.config = (reached config history).config := evaluateAll_config _ _
  rw [rejected_sequenceGap_iff, SoftwareReferenceFpgaGate.verdict_eq_sequenceGap_iff]
  by_cases henabled : gate.config.enabled = true
  · have hbefore : (reached config history).config.enabled = true := hconfig ▸ henabled
    have hnextTracks : tracks gate.config next = true := by
      rw [hconfig]
      exact tracks_of_wellFormed hbefore hdetects hnext (by omega)
    rcases List.eq_nil_or_concat late with rfl | ⟨earlier, last, rfl⟩
    · have hlast : gate.expectedNextSequenceNumber = first.metadata.sequenceNumber + 1 :=
        evaluateAll_concat_expected [] (tracks_of_wellFormed hbefore hdetects hfirst hpos)
      simp [henabled, hnextTracks, hlast, unexpected_successor_iff (Nat.le_refl _) hnumber]
    · rcases hlate last (by simp) with ⟨hwell, hlastPos, hle⟩
      have hlast : gate.expectedNextSequenceNumber = last.metadata.sequenceNumber + 1 := by
        have hsplit : first :: earlier.concat last = (first :: earlier) ++ [last] := by simp
        change (evaluateAll _ (first :: earlier.concat last)).expectedNextSequenceNumber = _
        rw [hsplit]
        exact evaluateAll_concat_expected (first :: earlier)
          (tracks_of_wellFormed hbefore hdetects hwell hlastPos)
      simp [henabled, hnextTracks, hlast, unexpected_successor_iff hle hnumber]
  · simp [henabled, tracks]

/-- A repeated 5 does not harm 6. -/
theorem successor_after_late_packets_repeated :
    let gate := evaluateAll (reached {} []) [plainRequest 5, plainRequest 5]
    ¬((gate.evaluate (plainRequest 6)).1.rejected = true ∧
      (gate.evaluate (plainRequest 6)).1.reason = .sequenceGap) := by
  intro gate
  have hiff := successor_after_late_packets {} [] rfl (plainRequest 5) rfl (by decide)
    [plainRequest 5]
    (by
      intro request hmem
      rw [List.mem_singleton.mp hmem]
      decide)
    (plainRequest 6) rfl rfl
  intro hrefused
  rcases hiff.mp hrefused with ⟨-, last, hlast, hne⟩
  cases hlast
  exact hne rfl

/-- A late 3 between 5 and 6: 5 is accepted and 6 is refused for a gap. -/
theorem late_packet_refuses_successor :
    let first := (reached {} []).evaluate (plainRequest 5)
    let late := first.2.evaluate (plainRequest 3)
    let next := late.2.evaluate (plainRequest 6)
    first.1.accepted = true ∧ next.1.rejected = true ∧ next.1.reason = .sequenceGap := by
  decide

end Fgep.Hardware
