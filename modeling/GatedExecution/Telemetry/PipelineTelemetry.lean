import GatedExecution.Ouch.Messages
import GatedExecution.Telemetry.LatencySummary

/-!
# Pipeline telemetry

{lit}`telemetry/pipeline_telemetry.cpp` and the recorder of
{lit}`telemetry/latency_summary.cpp`: the timestamps of one order at the stages of the
pipeline, and the latencies that are kept for a summary.

Main results:

- Theorem {lit}`timestamp_mark`: a mark changes the time of its own stage only.
- Theorem {lit}`timestamp_markAll`: after any marks, a stage has the time of its last one.
- Theorem {lit}`latency_eq_some_iff`: when a latency is reported, and which.
- Theorem {lit}`summarizeLatencies_replicate`: the summary of equal samples.
-/

namespace Fgep.Telemetry

open Ouch

abbrev TimestampNs := UInt64

inductive PipelineStage where
  | ingest
  | decode
  | bookUpdate
  | riskDecision
  | lifecycleDecision
  | enqueue
  | submit
  | count
deriving DecidableEq, Repr

def stageIndex : PipelineStage → Nat
  | .ingest => 0
  | .decode => 1
  | .bookUpdate => 2
  | .riskDecision => 3
  | .lifecycleDecision => 4
  | .enqueue => 5
  | .submit => 6
  | .count => 7

def pipelineStageCount : Nat := stageIndex .count

theorem stageIndex_lt {stage : PipelineStage} (hstage : stage ≠ .count) :
    stageIndex stage < pipelineStageCount := by
  cases stage <;> first | decide | exact absurd rfl hstage

theorem stageIndex_inj {first second : PipelineStage} :
    stageIndex first = stageIndex second ↔ first = second := by
  cases first <;> cases second <;> decide

/-! ## Events -/

structure PipelineTelemetryEvent where
  userRefNum : UserRefNum := 0
  timestamps : Vector TimestampNs pipelineStageCount := Vector.replicate pipelineStageCount 0
  observed : Vector Bool pipelineStageCount := Vector.replicate pipelineStageCount false

namespace PipelineTelemetryEvent

def mark (event : PipelineTelemetryEvent) (stage : PipelineStage) (timestampNs : TimestampNs) :
    PipelineTelemetryEvent :=
  if hstage : stage = .count then event
  else
    { event with
      timestamps := event.timestamps.set (stageIndex stage) timestampNs (stageIndex_lt hstage)
      observed := event.observed.set (stageIndex stage) true (stageIndex_lt hstage) }

def has (event : PipelineTelemetryEvent) (stage : PipelineStage) : Bool :=
  if hstage : stage = .count then false
  else
    have hindex := stageIndex_lt hstage
    event.observed[stageIndex stage]

def timestamp (event : PipelineTelemetryEvent) (stage : PipelineStage) : Option TimestampNs :=
  if hstage : stage = .count then none
  else
    have hindex := stageIndex_lt hstage
    if !event.has stage then none else some event.timestamps[stageIndex stage]

def latency (event : PipelineTelemetryEvent) (start finish : PipelineStage) : Option DurationNs :=
  match event.timestamp start, event.timestamp finish with
  | some startNs, some finishNs => if finishNs < startNs then none else some (finishNs - startNs)
  | _, _ => none

def endToEndLatency (event : PipelineTelemetryEvent) : Option DurationNs :=
  event.latency .ingest .submit

def markAll (event : PipelineTelemetryEvent) (marks : List (PipelineStage × TimestampNs)) :
    PipelineTelemetryEvent :=
  marks.foldl (fun event stamp => event.mark stamp.1 stamp.2) event

theorem timestamp_new (userRefNum : UserRefNum) (stage : PipelineStage) :
    timestamp { userRefNum := userRefNum } stage = none := by
  cases stage <;> rfl

theorem timestamp_mark (event : PipelineTelemetryEvent) {stage : PipelineStage}
    (hstage : stage ≠ .count) (timestampNs : TimestampNs) (other : PipelineStage) :
    (event.mark stage timestampNs).timestamp other =
      if stage = other then some timestampNs else event.timestamp other := by
  by_cases hother : other = .count
  · have hne : stage ≠ other := fun heq => hstage (heq.trans hother)
    simp [timestamp, hother, hstage]
  · by_cases hsame : stage = other
    · subst hsame
      simp [timestamp, has, mark, hstage]
    · have hindex : stageIndex stage ≠ stageIndex other := fun h => hsame (stageIndex_inj.mp h)
      simp [timestamp, has, mark, hstage, hother, hsame, hindex]

theorem timestamp_markAll (event : PipelineTelemetryEvent)
    (marks : List (PipelineStage × TimestampNs)) (hmarks : ∀ stamp ∈ marks, stamp.1 ≠ .count)
    (stage : PipelineStage) :
    (event.markAll marks).timestamp stage =
      ((marks.reverse.find? (fun stamp => stamp.1 = stage)).map Prod.snd).or
        (event.timestamp stage) := by
  induction marks generalizing event with
  | nil => rfl
  | cons stamp marks ih =>
      have hrest := ih (event.mark stamp.1 stamp.2)
        (fun other hother => hmarks other (List.mem_cons_of_mem _ hother))
      rw [timestamp_mark event (hmarks stamp List.mem_cons_self)] at hrest
      rw [markAll, List.foldl_cons]
      refine hrest.trans ?_
      rw [List.reverse_cons, List.find?_append]
      by_cases hsame : stamp.1 = stage
      · cases hlater : marks.reverse.find? (fun stamp => stamp.1 = stage) <;> simp [hsame]
      · simp [hsame]

theorem latency_eq_some_iff {event : PipelineTelemetryEvent} {start finish : PipelineStage}
    {duration : DurationNs} :
    event.latency start finish = some duration ↔
      ∃ startNs finishNs, event.timestamp start = some startNs ∧
        event.timestamp finish = some finishNs ∧ startNs ≤ finishNs ∧
        duration = finishNs - startNs := by
  rw [latency]
  cases hstart : event.timestamp start with
  | none => simp
  | some startNs =>
      cases hfinish : event.timestamp finish with
      | none => simp
      | some finishNs =>
          by_cases hback : finishNs < startNs
          · simp [hback]
          · simp [hback, UInt64.not_lt.mp hback, eq_comm]

end PipelineTelemetryEvent

/-! ## The recorder -/

structure LatencyRecorder where
  samples : List DurationNs := []

namespace LatencyRecorder

def record (recorder : LatencyRecorder) (latencyNs : DurationNs) : LatencyRecorder where
  samples := recorder.samples ++ [latencyNs]

/-- Whether a latency was recorded, and the recorder afterwards. -/
def recordEndToEnd (recorder : LatencyRecorder) (event : PipelineTelemetryEvent) :
    Bool × LatencyRecorder :=
  match event.endToEndLatency with
  | none => (false, recorder)
  | some latency => (true, recorder.record latency)

def summary (recorder : LatencyRecorder) : Option LatencySummary :=
  summarizeLatencies recorder.samples

theorem samples_recordEndToEnd (recorder : LatencyRecorder) (event : PipelineTelemetryEvent) :
    (recorder.recordEndToEnd event).2.samples =
      recorder.samples ++ event.endToEndLatency.toList := by
  rw [recordEndToEnd]
  cases event.endToEndLatency <;> simp [record]

end LatencyRecorder

/-! ## Equal samples -/

section Replicate

variable {count : Nat} {latency : DurationNs}

/-- The clamp on the index keeps it in range, so its value does not matter. -/
theorem percentileNearestRank_replicate (hpos : 0 < count) (hfits : count < 2 ^ 64)
    (numerator : UInt64) {denominator : UInt64} (hdenominator : denominator ≠ 0) :
    percentileNearestRank (List.replicate count latency) numerator denominator = latency := by
  have hempty : (List.replicate count latency).isEmpty = false := by
    cases count with
    | zero => exact absurd hpos (Nat.lt_irrefl 0)
    | succ count => rfl
  have hsize : (size (List.replicate count latency)).toNat = count := by
    rw [toNat_size (by rwa [List.length_replicate]), List.length_replicate]
  rw [percentileNearestRank, if_neg (by simp [hempty, hdenominator])]
  dsimp only
  generalize (if _ = (0 : UInt64) then (0 : UInt64) else _) = rawIndex
  have hindex : (if rawIndex ≥ size (List.replicate count latency) then
      size (List.replicate count latency) - 1 else rawIndex).toNat < count := by
    split
    · have hone : 1 ≤ size (List.replicate count latency) := by
        rw [UInt64.le_iff_toNat_le, hsize]
        exact hpos
      rw [UInt64.toNat_sub_of_le _ _ hone, hsize]
      exact Nat.sub_lt hpos Nat.one_pos
    · rename_i hin
      rwa [ge_iff_le, UInt64.not_le, UInt64.lt_iff_toNat_lt, hsize] at hin
  rw [List.getD_eq_getElem _ _ (by rwa [List.length_replicate]), List.getElem_replicate]

theorem sorted_replicate (count : Nat) (latency : DurationNs) :
    sorted (List.replicate count latency) = List.replicate count latency := by
  apply List.Pairwise.insertionSort_eq
  rw [List.pairwise_replicate]
  exact Or.inr (UInt64.le_refl latency)

theorem exactSum_replicate (count : Nat) (latency : DurationNs) :
    exactSum (List.replicate count latency) = count * latency.toNat := by
  simp [exactSum]

/-- The summary of equal samples: every statistic is the sample, but the mean is lower
once the total saturates. -/
theorem summarizeLatencies_replicate (hpos : 0 < count) (hfits : count < 2 ^ 64) :
    ∃ summary, summarizeLatencies (List.replicate count latency) = some summary ∧
      summary.count.toNat = count ∧ summary.minNs = latency ∧ summary.maxNs = latency ∧
      summary.p50Ns = latency ∧ summary.p90Ns = latency ∧ summary.p99Ns = latency ∧
      summary.p999Ns = latency ∧
      summary.meanNs.toNat = min (count * latency.toNat) (2 ^ 64 - 1) / count := by
  have hlength : (List.replicate count latency).length = count := List.length_replicate
  have hne : List.replicate count latency ≠ [] := by
    rw [← List.length_pos_iff, hlength]
    exact hpos
  have hsize : (size (List.replicate count latency)).toNat = count := by
    rw [toNat_size (by rwa [hlength]), hlength]
  refine ⟨_, summarizeLatencies_of_ne_nil hne, ?_⟩
  simp only [sorted_replicate]
  refine ⟨hsize, ?_, ?_, ?_, ?_, ?_, ?_, ?_⟩
  · obtain ⟨rest, rfl⟩ := Nat.exists_eq_add_of_lt hpos
    simp [List.replicate_succ]
  · rw [List.getLastD_eq_getLast?, List.getLast?_replicate, if_neg (Nat.ne_of_gt hpos)]
    rfl
  · exact percentileNearestRank_replicate hpos hfits 50 (by decide)
  · exact percentileNearestRank_replicate hpos hfits 90 (by decide)
  · exact percentileNearestRank_replicate hpos hfits 99 (by decide)
  · exact percentileNearestRank_replicate hpos hfits 999 (by decide)
  · rw [UInt64.toNat_div, toNat_total, exactSum_replicate, hsize]

end Replicate

end Fgep.Telemetry
