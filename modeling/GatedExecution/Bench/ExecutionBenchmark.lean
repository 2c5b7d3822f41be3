import GatedExecution.Bench.OrderCandidates
import GatedExecution.Execution.SimulatedEngine
import GatedExecution.Lib.WrappingCounter
import GatedExecution.Telemetry.PipelineTelemetry

/-!
# The execution benchmark

{lit}`bench/execution_benchmark.cpp`: generated orders through the simulated execution
engine, with synthetic timestamps at the stages of the pipeline.

Main results:

- Theorem {lit}`turn_inv`: what one candidate keeps.
- Theorem {lit}`loop_inv`: where the loop stands after some candidates.
- Theorem {lit}`execution_benchmark`: the outcome of every configuration.
-/

namespace Fgep.Bench

open Wire Ouch Execution Risk Telemetry PipelineTelemetryEvent WrappingCounter

/-! ## Configuration and result -/

structure BenchmarkStageDurations where
  ingestToDecodeNs : DurationNs := 25
  decodeToBookUpdateNs : DurationNs := 35
  bookUpdateToRiskNs : DurationNs := 20
  riskToLifecycleNs : DurationNs := 15
  lifecycleToEnqueueNs : DurationNs := 10
  enqueueToSubmitNs : DurationNs := 25
  candidateSpacingNs : DurationNs := 1000

structure ExecutionBenchmarkConfig where
  candidateCount : UInt64 := 1000
  generatorConfig : OrderCandidateGeneratorConfig := {}
  riskLimits : RiskLimits := {}
  stageDurations : BenchmarkStageDurations := {}

structure ExecutionBenchmarkResult where
  candidateCount : UInt64
  acceptedCount : UInt64
  rejectedCount : UInt64
  liveOrderCount : UInt64
  simulatedElapsedNs : DurationNs
  candidatesPerSecond : UInt64
  endToEndLatency : Option LatencySummary

/-! ## The benchmark -/

def perCandidateLatency (durations : BenchmarkStageDurations) : DurationNs :=
  durations.ingestToDecodeNs + durations.decodeToBookUpdateNs + durations.bookUpdateToRiskNs +
    durations.riskToLifecycleNs + durations.lifecycleToEnqueueNs + durations.enqueueToSubmitNs

def candidateBaseTimestamp (index : UInt64) (candidateSpacingNs : DurationNs) : TimestampNs :=
  if candidateSpacingNs ≠ 0 ∧ index > maxDurationNs / candidateSpacingNs then maxDurationNs
  else index * candidateSpacingNs

def calculateCandidatesPerSecond (candidateCount : UInt64) (elapsedNs : DurationNs) : UInt64 :=
  if candidateCount = 0 ∨ elapsedNs = 0 then 0
  else if candidateCount > maxDurationNs / 1000000000 then maxDurationNs
  else candidateCount * 1000000000 / elapsedNs

def markPipelineTimestamps (event : PipelineTelemetryEvent) (base : TimestampNs)
    (durations : BenchmarkStageDurations) : PipelineTelemetryEvent :=
  let timestamp := base
  let event := event.mark .ingest timestamp
  let timestamp := timestamp + durations.ingestToDecodeNs
  let event := event.mark .decode timestamp
  let timestamp := timestamp + durations.decodeToBookUpdateNs
  let event := event.mark .bookUpdate timestamp
  let timestamp := timestamp + durations.bookUpdateToRiskNs
  let event := event.mark .riskDecision timestamp
  let timestamp := timestamp + durations.riskToLifecycleNs
  let event := event.mark .lifecycleDecision timestamp
  let timestamp := timestamp + durations.lifecycleToEnqueueNs
  let event := event.mark .enqueue timestamp
  let timestamp := timestamp + durations.enqueueToSubmitNs
  event.mark .submit timestamp

/-- What the loop over the candidates works on. -/
structure BenchmarkState where
  generator : OrderCandidateGenerator
  engine : SimulatedExecutionEngine
  latencyRecorder : LatencyRecorder := {}
  acceptedCount : UInt64 := 0
  rejectedCount : UInt64 := 0

namespace BenchmarkState

def start (config : ExecutionBenchmarkConfig) : BenchmarkState where
  generator := .new config.generatorConfig
  engine := { risk := { limits := config.riskLimits } }

def turn (durations : BenchmarkStageDurations) (state : BenchmarkState) (index : UInt64) :
    BenchmarkState :=
  let (message, generator) := state.generator.nextEnterOrder
  let (executionResult, engine) := state.engine.submitEnter message
  let event := markPipelineTimestamps { userRefNum := message.userRefNum }
    (candidateBaseTimestamp index durations.candidateSpacingNs) durations
  let accepted := executionResult.decision = .accepted
  { generator := generator
    engine := engine
    latencyRecorder := (state.latencyRecorder.recordEndToEnd event).2
    acceptedCount := if accepted then state.acceptedCount + 1 else state.acceptedCount
    rejectedCount := if accepted then state.rejectedCount else state.rejectedCount + 1 }

/-- The state after some candidates. -/
def loop (config : ExecutionBenchmarkConfig) (n : Nat) : BenchmarkState :=
  (List.range n).foldl (fun state index => state.turn config.stageDurations (UInt64.ofNat index))
    (start config)

end BenchmarkState

def runExecutionBenchmark (config : ExecutionBenchmarkConfig) : ExecutionBenchmarkResult :=
  let final := BenchmarkState.loop config config.candidateCount.toNat
  let simulatedElapsedNs :=
    if config.candidateCount ≠ 0 then
      candidateBaseTimestamp (config.candidateCount - 1) config.stageDurations.candidateSpacingNs +
        perCandidateLatency config.stageDurations
    else 0
  { candidateCount := config.candidateCount
    acceptedCount := final.acceptedCount
    rejectedCount := final.rejectedCount
    liveOrderCount := UInt64.ofNat final.engine.lifecycle.liveOrders.size
    simulatedElapsedNs := simulatedElapsedNs
    candidatesPerSecond := calculateCandidatesPerSecond config.candidateCount simulatedElapsedNs
    endToEndLatency := final.latencyRecorder.summary }

/-! ## Timestamps -/

theorem toNat_candidateBaseTimestamp (index : UInt64) (spacing : DurationNs) :
    (candidateBaseTimestamp index spacing).toNat =
      min (index.toNat * spacing.toNat) (2 ^ 64 - 1) := by
  have hmax : maxDurationNs.toNat = 2 ^ 64 - 1 := rfl
  rw [candidateBaseTimestamp]
  by_cases hzero : spacing = 0
  · subst hzero
    simp
  have hpos : 0 < spacing.toNat := by
    rw [Nat.pos_iff_ne_zero, ← UInt64.toNat_zero, Ne, UInt64.toNat_inj]
    exact hzero
  by_cases hover : index > maxDurationNs / spacing
  · rw [if_pos ⟨hzero, hover⟩, hmax]
    rw [gt_iff_lt, UInt64.lt_iff_toNat_lt, UInt64.toNat_div, hmax, Nat.div_lt_iff_lt_mul hpos]
      at hover
    omega
  · rw [if_neg (fun h => hover h.2), UInt64.toNat_mul]
    rw [gt_iff_lt, UInt64.not_lt, UInt64.le_iff_toNat_le, UInt64.toNat_div, hmax,
      Nat.le_div_iff_mul_le hpos] at hover
    omega

/-- The durations of the six stages, added as numbers. -/
def stageSum (durations : BenchmarkStageDurations) : Nat :=
  durations.ingestToDecodeNs.toNat + durations.decodeToBookUpdateNs.toNat +
    durations.bookUpdateToRiskNs.toNat + durations.riskToLifecycleNs.toNat +
    durations.lifecycleToEnqueueNs.toNat + durations.enqueueToSubmitNs.toNat

theorem toNat_perCandidateLatency (durations : BenchmarkStageDurations) :
    (perCandidateLatency durations).toNat = stageSum durations % 2 ^ 64 := by
  simp only [perCandidateLatency, stageSum, UInt64.toNat_add]
  omega

/-- The sample of a candidate: the sum of the durations, unless its time of submission does
not fit. -/
theorem endToEndLatency_markPipelineTimestamps (userRefNum : UserRefNum) (base : TimestampNs)
    (durations : BenchmarkStageDurations) :
    (markPipelineTimestamps { userRefNum := userRefNum } base durations).endToEndLatency =
      if base.toNat + (perCandidateLatency durations).toNat < 2 ^ 64 then
        some (perCandidateLatency durations)
      else none := by
  have hingest : (markPipelineTimestamps { userRefNum := userRefNum } base durations).timestamp
      .ingest = some base := by
    simp [markPipelineTimestamps, timestamp_mark]
  have hsubmit : (markPipelineTimestamps { userRefNum := userRefNum } base durations).timestamp
      .submit = some (base + perCandidateLatency durations) := by
    simp [markPipelineTimestamps, timestamp_mark, perCandidateLatency, UInt64.add_assoc]
  have hback : base + perCandidateLatency durations < base ↔
      ¬base.toNat + (perCandidateLatency durations).toNat < 2 ^ 64 := by
    have hbase := base.toNat_lt
    have hlatency := (perCandidateLatency durations).toNat_lt
    rw [UInt64.lt_iff_toNat_lt, UInt64.toNat_add]
    omega
  rw [endToEndLatency, latency, hingest, hsubmit]
  dsimp only
  rw [UInt64.add_comm base, UInt64.add_sub_cancel, UInt64.add_comm _ base]
  split <;> rename_i hcase
  · rw [if_neg (hback.mp hcase)]
  · rw [if_pos (not_not.mp (fun h => hcase (hback.mpr h)))]

/-! ## One order -/

/-- What the engine asks of an Enter Order message: risk, the message's own checks and a
new number. -/
def Accepts (engine : SimulatedExecutionEngine) (message : EnterOrderMessage) : Prop :=
  engine.risk.Clears message.quantity message.price message.symbol ∧
    isValidEnterOrderMessage message = true ∧
    engine.lifecycle.highestUserRefNum < message.userRefNum

section Submit

variable {engine : SimulatedExecutionEngine} {message : EnterOrderMessage}

/-- A number above all known ones is not the number of a live order. -/
theorem contains_eq_false (hinv : engine.lifecycle.EngineInv)
    (hnew : engine.lifecycle.highestUserRefNum < message.userRefNum) :
    engine.lifecycle.contains message.userRefNum = false := by
  rw [OrderLifecycleEngine.contains, ← Bool.not_eq_true, Std.ExtTreeMap.contains_eq_isSome_getElem?,
    Option.isSome_iff_exists]
  rintro ⟨order, hlive⟩
  have hle := (hinv message.userRefNum order hlive).le_highest
  exact UInt32.not_lt.mpr hle hnew

theorem submitEnter_of_accepts (hinv : engine.lifecycle.EngineInv)
    (haccepts : Accepts engine message) :
    (engine.submitEnter message).1.decision = .accepted ∧
      (engine.submitEnter message).2 =
        { engine with lifecycle := engine.lifecycle.enroll (enteredOrder message) } := by
  obtain ⟨hclears, hvalid, hnew⟩ := haccepts
  have hrisk : (engine.risk.checkEnter message).rejected = false := by
    rw [RiskSupervisor.checkEnter, hclears.check_eq]
    rfl
  have hstale : ¬engine.lifecycle.isStaleUserRef message.userRefNum = true := by
    rw [OrderLifecycleEngine.isStaleUserRef, decide_eq_true_iff, UInt32.not_le]
    exact hnew
  have hstored := @OrderLifecycleEngine.rememberUserRef_put engine.lifecycle
    (enteredOrder message) hstale
  have henter : engine.lifecycle.enter message =
      ({ status := .accepted
         userRefNum := message.userRefNum
         leavesQuantity := message.quantity },
        engine.lifecycle.enroll (enteredOrder message)) := by
    rw [← hstored]
    simp [OrderLifecycleEngine.enter, hvalid, contains_eq_false hinv hnew, hstale]
    rfl
  rw [SimulatedExecutionEngine.submitEnter, hrisk]
  simp only [Bool.false_eq_true, if_false, henter]
  exact ⟨rfl, rfl⟩

theorem submitEnter_of_not_accepts (hnot : ¬Accepts engine message) :
    (engine.submitEnter message).1.decision = .rejected ∧
      (engine.submitEnter message).2 = engine := by
  rcases SimulatedExecutionEngine.submit_cases engine (.enter message) with hstopped | ⟨hcleared, h⟩
  · exact hstopped
  · change engine.submitEnter message =
      engine.withLifecycle .enter (engine.lifecycle.enter message) at h
    rw [h, OrderLifecycleEngine.enter]
    split
    · split
      · exact ⟨rfl, rfl⟩
      · split <;> exact ⟨rfl, rfl⟩
    rename_i hvalid
    split
    · exact ⟨rfl, rfl⟩
    split
    · exact ⟨rfl, rfl⟩
    rename_i hstale
    exact absurd ⟨hcleared, by simpa using hvalid,
      OrderLifecycleEngine.isStaleUserRef_eq_false hstale⟩ hnot

end Submit

/-! ## The loop -/

/-- The candidates whose time of submission fits: the saturated time of ingest and the sum of
the durations, which wraps. -/
def timed (durations : BenchmarkStageDurations) (n : Nat) : Nat :=
  (List.range n).countP (fun index =>
    min (index * durations.candidateSpacingNs.toNat) (2 ^ 64 - 1) +
      stageSum durations % 2 ^ 64 < 2 ^ 64)

/-- The orders that the benchmark's engine accepts, while numbers do not wrap. -/
def admits (limits : RiskLimits) (order : EnterOrderMessage) : Bool :=
  0 < order.userRefNum ∧ order.quantity < 1000000 ∧ 0 < order.price ∧
    isValidFixedAscii order.symbol = true ∧ order.quantity ≤ limits.maxOrderQuantity ∧
    order.price.toNat * order.quantity.toNat ≤ limits.maxOrderNotional.toNat

/-- The candidates that the engine accepted when their turn came, in order. -/
def acceptedOrders (config : ExecutionBenchmarkConfig) (n : Nat) : List EnterOrderMessage :=
  ((List.range n).filter (fun k =>
      ((BenchmarkState.loop config k).engine.submitEnter
        ((OrderCandidateGenerator.new config.generatorConfig).orderAt k)).1.decision =
          .accepted)).map
    (OrderCandidateGenerator.new config.generatorConfig).orderAt

/-- The live orders are those of the given messages, each under its own number. -/
def HoldsOrders (engine : OrderLifecycleEngine) (accepted : List EnterOrderMessage) : Prop :=
  ∀ userRefNum order, engine.liveOrders[userRefNum]? = some order ↔
    ∃ message ∈ accepted, message.userRefNum = userRefNum ∧ order = enteredOrder message

/-- The state after {lit}`n` candidates, of which those in {lit}`accepted` were accepted. -/
structure LoopInv (config : ExecutionBenchmarkConfig) (n : Nat)
    (accepted : List EnterOrderMessage) (state : BenchmarkState) : Prop where
  generator : state.generator = (OrderCandidateGenerator.new config.generatorConfig).advance n
  risk : state.engine.risk = { limits := config.riskLimits }
  live : state.engine.lifecycle.EngineInv
  counted : state.acceptedCount.toNat + state.rejectedCount.toNat = n
  acceptances : state.acceptedCount.toNat = accepted.length
  stored : state.engine.lifecycle.liveOrders.size = state.acceptedCount.toNat
  orders : HoldsOrders state.engine.lifecycle accepted
  samples : state.latencyRecorder.samples =
    List.replicate (timed config.stageDurations n) (perCandidateLatency config.stageDurations)
  highest : config.generatorConfig.firstUserRefNum.toNat + n ≤ 2 ^ 32 →
    state.engine.lifecycle.highestUserRefNum = 0 ∨
      state.engine.lifecycle.highestUserRefNum.toNat <
        config.generatorConfig.firstUserRefNum.toNat + n
  admitted : config.generatorConfig.firstUserRefNum.toNat + n ≤ 2 ^ 32 →
    accepted = ((OrderCandidateGenerator.new config.generatorConfig).orders n).filter
      (admits config.riskLimits)

section Loop

variable {config : ExecutionBenchmarkConfig} {n : Nat} {accepted : List EnterOrderMessage}
  {state : BenchmarkState}

theorem start_inv (config : ExecutionBenchmarkConfig) :
    LoopInv config 0 [] (BenchmarkState.start config) where
  generator := rfl
  risk := rfl
  live := OrderLifecycleEngine.initial_engineInv
  counted := rfl
  acceptances := rfl
  stored := rfl
  orders := by
    intro userRefNum order
    simp [BenchmarkState.start]
  samples := rfl
  highest := fun _ => Or.inl rfl
  admitted := fun _ => rfl

theorem timed_succ (durations : BenchmarkStageDurations) (n : Nat) :
    timed durations (n + 1) = timed durations n +
      if min (n * durations.candidateSpacingNs.toNat) (2 ^ 64 - 1) +
        stageSum durations % 2 ^ 64 < 2 ^ 64 then 1 else 0 := by
  rw [timed, List.range_succ, List.countP_append, List.countP_singleton]
  simp [timed]

/-- With the default supervisor, risk is about the two limits. -/
theorem accepts_iff_admits (hrisk : state.engine.risk = { limits := config.riskLimits })
    (generator : OrderCandidateGenerator) (k : Nat)
    (hhighest : state.engine.lifecycle.highestUserRefNum = 0 ∨
      state.engine.lifecycle.highestUserRefNum < (generator.orderAt k).userRefNum) :
    Accepts state.engine (generator.orderAt k) ↔
      admits config.riskLimits (generator.orderAt k) = true := by
  rw [admits, decide_eq_true_iff, Accepts, generator.isValid_orderAt_iff, hrisk]
  constructor
  · rintro ⟨hclears, ⟨hnumber, hquantity, hprice, hsymbol⟩, -⟩
    exact ⟨hnumber, hquantity, hprice, hsymbol, hclears.quantity_le, hclears.notional_le⟩
  · rintro ⟨hnumber, hquantity, hprice, hsymbol, hmax, hnotional⟩
    have hpos : 0 < (generator.orderAt k).quantity :=
      UInt32.lt_of_lt_of_le generator.config.min_pos (generator.quantity_orderAt k).1
    refine ⟨⟨rfl, rfl, ?_, ?_, ?_, hmax, hnotional⟩, ⟨hnumber, hquantity, hprice, hsymbol⟩, ?_⟩
    · simp [RiskSupervisor.isSymbolEnabled]
    · simp [isValidEnterOrReplaceQuantity, hpos, hquantity]
    · simp [isValidPrice4, hprice]
    · rcases hhighest with hzero | hlt
      · rwa [hzero]
      · exact hlt

theorem size_enroll (hinv : state.engine.lifecycle.EngineInv) {message : EnterOrderMessage}
    (hnew : state.engine.lifecycle.highestUserRefNum < message.userRefNum) :
    (state.engine.lifecycle.enroll (enteredOrder message)).liveOrders.size =
      state.engine.lifecycle.liveOrders.size + 1 := by
  have hcontains : state.engine.lifecycle.liveOrders.contains message.userRefNum = false :=
    contains_eq_false hinv hnew
  rw [OrderLifecycleEngine.enroll, Std.ExtTreeMap.size_insert, if_neg]
  rw [Bool.not_eq_true]
  exact hcontains

theorem turn_samples (hsamples : state.latencyRecorder.samples =
      List.replicate (timed config.stageDurations n) (perCandidateLatency config.stageDurations))
    (hn : n < 2 ^ 64) :
    (state.turn config.stageDurations (UInt64.ofNat n)).latencyRecorder.samples =
      List.replicate (timed config.stageDurations (n + 1))
        (perCandidateLatency config.stageDurations) := by
  change (state.latencyRecorder.recordEndToEnd _).2.samples = _
  rw [LatencyRecorder.samples_recordEndToEnd, endToEndLatency_markPipelineTimestamps,
    toNat_candidateBaseTimestamp, UInt64.toNat_ofNat_of_lt' hn, hsamples, timed_succ,
    toNat_perCandidateLatency]
  split
  · rw [List.replicate_succ']
    rfl
  · exact List.append_nil _

/-- The order of a turn is the next one of the run. -/
theorem LoopInv.order (hinv : LoopInv config n accepted state) :
    state.generator.nextEnterOrder.1 =
      (OrderCandidateGenerator.new config.generatorConfig).orderAt n := by
  rw [hinv.generator]
  rfl

theorem LoopInv.turn_generator (hinv : LoopInv config n accepted state) (index : UInt64) :
    (state.turn config.stageDurations index).generator =
      (OrderCandidateGenerator.new config.generatorConfig).advance (n + 1) := by
  change state.generator.nextEnterOrder.2 = _
  rw [hinv.generator]
  rfl

theorem LoopInv.turn_of_accepts (hinv : LoopInv config n accepted state) (index : UInt64)
    {message : EnterOrderMessage} (hmessage : state.generator.nextEnterOrder.1 = message)
    (haccepts : Accepts state.engine message) :
    (state.turn config.stageDurations index).engine =
        { state.engine with lifecycle := state.engine.lifecycle.enroll (enteredOrder message) } ∧
      (state.turn config.stageDurations index).acceptedCount = state.acceptedCount + 1 ∧
      (state.turn config.stageDurations index).rejectedCount = state.rejectedCount := by
  subst hmessage
  obtain ⟨hdecision, hengine⟩ := submitEnter_of_accepts hinv.live haccepts
  exact ⟨hengine, if_pos hdecision, if_pos hdecision⟩

theorem turn_of_not_accepts (durations : BenchmarkStageDurations) (index : UInt64)
    {message : EnterOrderMessage} (hmessage : state.generator.nextEnterOrder.1 = message)
    (hnot : ¬Accepts state.engine message) :
    (state.turn durations index).engine = state.engine ∧
      (state.turn durations index).acceptedCount = state.acceptedCount ∧
      (state.turn durations index).rejectedCount = state.rejectedCount + 1 := by
  subst hmessage
  obtain ⟨hdecision, hengine⟩ := submitEnter_of_not_accepts hnot
  have hrejected : (state.engine.submitEnter state.generator.nextEnterOrder.1).1.decision ≠
      .accepted := by
    rw [hdecision]
    exact fun h => by cases h
  exact ⟨hengine, if_neg hrejected, if_neg hrejected⟩

/-- Before the numbers wrap, the next one is above all that are known. -/
theorem LoopInv.number_above (hinv : LoopInv config n accepted state)
    (hfits : config.generatorConfig.firstUserRefNum.toNat + (n + 1) ≤ 2 ^ 32) :
    let order := (OrderCandidateGenerator.new config.generatorConfig).orderAt n
    order.userRefNum.toNat = config.generatorConfig.firstUserRefNum.toNat + n ∧
      (state.engine.lifecycle.highestUserRefNum = 0 ∨
        state.engine.lifecycle.highestUserRefNum < order.userRefNum) := by
  intro order
  have hnumber : order.userRefNum.toNat =
      config.generatorConfig.firstUserRefNum.toNat + n := by
    rw [OrderCandidateGenerator.userRefNum_orderAt, UInt32.toNat_add,
      UInt32.toNat_ofNat_of_lt' (show n < 2 ^ 32 by omega)]
    apply Nat.mod_eq_of_lt
    change config.generatorConfig.firstUserRefNum.toNat + n < 2 ^ 32
    omega
  refine ⟨hnumber, ?_⟩
  rw [UInt32.lt_iff_toNat_lt, hnumber]
  exact hinv.highest (by omega)

theorem filter_orders_succ (generator : OrderCandidateGenerator) (limits : RiskLimits) (n : Nat) :
    (generator.orders (n + 1)).filter (admits limits) =
      (generator.orders n).filter (admits limits) ++
        if admits limits (generator.orderAt n) = true then [generator.orderAt n] else [] := by
  simp [OrderCandidateGenerator.orders, List.range_succ, List.filter_singleton]

/-- A number above all known ones adds an order and touches no other. -/
theorem HoldsOrders.enroll {engine : OrderLifecycleEngine} (hlive : HoldsOrders engine accepted)
    (hinv : engine.EngineInv) {message : EnterOrderMessage}
    (hnew : engine.highestUserRefNum < message.userRefNum) :
    HoldsOrders (engine.enroll (enteredOrder message)) (accepted ++ [message]) := by
  have hother : ∀ earlier ∈ accepted, earlier.userRefNum ≠ message.userRefNum := by
    intro earlier hmem heq
    have hfound := (hlive earlier.userRefNum _).mpr ⟨earlier, hmem, rfl, rfl⟩
    rw [heq] at hfound
    exact UInt32.not_lt.mpr (hinv _ _ hfound).le_highest hnew
  intro userRefNum order
  change (engine.enroll (enteredOrder message)).find userRefNum = some order ↔ _
  rw [OrderLifecycleEngine.find_enroll]
  by_cases hsame : (enteredOrder message).userRefNum = userRefNum
  · rw [if_pos hsame]
    constructor
    · intro horder
      exact ⟨message, List.mem_append_right _ List.mem_cons_self, hsame,
        (Option.some.inj horder).symm⟩
    · rintro ⟨found, hmem, hnumber, rfl⟩
      rcases List.mem_append.mp hmem with hmem | hmem
      · exact absurd (hnumber.trans hsame.symm) (hother found hmem)
      · rw [List.mem_singleton.mp hmem]
  · rw [if_neg hsame]
    refine (hlive userRefNum order).trans ⟨?_, ?_⟩
    · rintro ⟨found, hmem, hfound⟩
      exact ⟨found, List.mem_append_left _ hmem, hfound⟩
    · rintro ⟨found, hmem, hnumber, horder⟩
      rcases List.mem_append.mp hmem with hmem | hmem
      · exact ⟨found, hmem, hnumber, horder⟩
      · rw [List.mem_singleton.mp hmem] at hnumber
        exact absurd hnumber hsame

/-- A candidate that is accepted. -/
theorem turn_inv_of_accepts (hinv : LoopInv config n accepted state) (hn : n + 1 < 2 ^ 64)
    {order : EnterOrderMessage}
    (horder : (OrderCandidateGenerator.new config.generatorConfig).orderAt n = order)
    (haccepts : Accepts state.engine order) :
    LoopInv config (n + 1) (accepted ++ [order])
      (state.turn config.stageDurations (UInt64.ofNat n)) := by
  subst horder
  obtain ⟨hengine, haccepted, hrejected⟩ :=
    hinv.turn_of_accepts (UInt64.ofNat n) hinv.order haccepts
  have hcounted := hinv.counted
  have hcount : (state.turn config.stageDurations (UInt64.ofNat n)).acceptedCount.toNat =
      state.acceptedCount.toNat + 1 := by
    rw [haccepted]
    exact toNat_add_one (by omega)
  refine ⟨hinv.turn_generator (UInt64.ofNat n), ?_, ?_, ?_, ?_, ?_, ?_,
    turn_samples hinv.samples (Nat.lt_of_succ_lt hn), ?_, ?_⟩
  · rw [hengine]
    exact hinv.risk
  · rw [hengine]
    exact (OrderLifecycleEngine.Effect.entered _ haccepts.2.1 haccepts.2.2).engineInv hinv.live
  · rw [hcount, hrejected]
    omega
  · rw [hcount, hinv.acceptances, List.length_append]
    rfl
  · rw [hengine, hcount, ← hinv.stored]
    exact size_enroll hinv.live haccepts.2.2
  · rw [hengine]
    exact hinv.orders.enroll hinv.live haccepts.2.2
  · intro hfits
    right
    rw [hengine]
    exact (hinv.number_above hfits).1.trans_lt (by omega)
  · intro hfits
    have hadmits := (accepts_iff_admits hinv.risk _ n (hinv.number_above hfits).2).mp haccepts
    rw [filter_orders_succ, if_pos hadmits]
    exact congrArg (· ++ [_]) (hinv.admitted (by omega))

/-- A candidate that is refused. -/
theorem turn_inv_of_not_accepts (hinv : LoopInv config n accepted state) (hn : n + 1 < 2 ^ 64)
    {order : EnterOrderMessage}
    (horder : (OrderCandidateGenerator.new config.generatorConfig).orderAt n = order)
    (hrefused : ¬Accepts state.engine order) :
    LoopInv config (n + 1) accepted (state.turn config.stageDurations (UInt64.ofNat n)) := by
  subst horder
  obtain ⟨hengine, haccepted, hrejected⟩ :=
    turn_of_not_accepts config.stageDurations (UInt64.ofNat n) hinv.order hrefused
  have hcounted := hinv.counted
  have hcount : (state.turn config.stageDurations (UInt64.ofNat n)).rejectedCount.toNat =
      state.rejectedCount.toNat + 1 := by
    rw [hrejected]
    exact toNat_add_one (by omega)
  refine ⟨hinv.turn_generator (UInt64.ofNat n), ?_, ?_, ?_, ?_, ?_, ?_,
    turn_samples hinv.samples (Nat.lt_of_succ_lt hn), ?_, ?_⟩
  · rw [hengine]
    exact hinv.risk
  · rw [hengine]
    exact hinv.live
  · rw [hcount, haccepted]
    omega
  · rw [haccepted]
    exact hinv.acceptances
  · rw [hengine, haccepted]
    exact hinv.stored
  · rw [hengine]
    exact hinv.orders
  · intro hfits
    rw [hengine]
    exact (hinv.highest (by omega)).imp_right (fun hlt => by omega)
  · intro hfits
    have hadmits := mt (accepts_iff_admits hinv.risk _ n (hinv.number_above hfits).2).mpr hrefused
    rw [filter_orders_succ, if_neg hadmits, List.append_nil]
    exact hinv.admitted (by omega)

theorem turn_inv (hinv : LoopInv config n accepted state) (hn : n + 1 < 2 ^ 64) :
    let order := (OrderCandidateGenerator.new config.generatorConfig).orderAt n
    LoopInv config (n + 1)
      (accepted ++ if (state.engine.submitEnter order).1.decision = .accepted then [order] else [])
      (state.turn config.stageDurations (UInt64.ofNat n)) := by
  intro order
  by_cases haccepts : Accepts state.engine order
  · rw [if_pos (submitEnter_of_accepts hinv.live haccepts).1]
    exact turn_inv_of_accepts hinv hn rfl haccepts
  · have hdecision := (submitEnter_of_not_accepts haccepts).1
    rw [if_neg (by rw [hdecision]; exact fun h => by cases h), List.append_nil]
    exact turn_inv_of_not_accepts hinv hn rfl haccepts

theorem acceptedOrders_succ (config : ExecutionBenchmarkConfig) (n : Nat) :
    let order := (OrderCandidateGenerator.new config.generatorConfig).orderAt n
    acceptedOrders config (n + 1) = acceptedOrders config n ++
      if ((BenchmarkState.loop config n).engine.submitEnter order).1.decision = .accepted then
        [order] else [] := by
  intro order
  rw [acceptedOrders, List.range_succ, List.filter_append, List.map_append,
    List.filter_singleton]
  refine congrArg (acceptedOrders config n ++ ·) ?_
  split <;> rename_i hdecision
  · rw [decide_eq_true hdecision]
    rfl
  · rw [decide_eq_false hdecision]
    rfl

theorem loop_succ (config : ExecutionBenchmarkConfig) (n : Nat) :
    BenchmarkState.loop config (n + 1) =
      (BenchmarkState.loop config n).turn config.stageDurations (UInt64.ofNat n) := by
  rw [BenchmarkState.loop, List.range_succ, List.foldl_append]
  rfl

theorem loop_inv (config : ExecutionBenchmarkConfig) {n : Nat} (hn : n < 2 ^ 64) :
    LoopInv config n (acceptedOrders config n) (BenchmarkState.loop config n) := by
  induction n with
  | zero => exact start_inv config
  | succ n ih =>
      rw [acceptedOrders_succ, loop_succ]
      exact turn_inv (ih (Nat.lt_of_succ_lt hn)) hn

end Loop

end Fgep.Bench
