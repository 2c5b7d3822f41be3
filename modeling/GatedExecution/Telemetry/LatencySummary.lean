import GatedExecution.Lib.OrderStatistics

/-!
# Latency summaries

{lit}`telemetry/latency_summary.cpp`: minimum, maximum, mean and nearest-rank percentiles
of a list of samples.  Ranks are computed with the arithmetic of {lit}`std::size_t`, and
the total of the samples saturates.

Main results:

- Theorem {lit}`percentileNearestRank_ranked`: a percentile is the sample of its rank, as
  long as the computation of the rank does not wrap.
- Theorem {lit}`toNat_total`: the total is the sum or the largest 64-bit number.
- Theorem {lit}`summary_percentiles`: the percentiles of every list short enough.
- Theorem {lit}`summary_mean`: the mean of every list.
-/

namespace Fgep.Telemetry

open OrderStatistics

abbrev DurationNs := UInt64

structure LatencySummary where
  count : UInt64
  minNs : DurationNs
  maxNs : DurationNs
  meanNs : DurationNs
  p50Ns : DurationNs
  p90Ns : DurationNs
  p99Ns : DurationNs
  p999Ns : DurationNs
  warmupCount : UInt64
deriving DecidableEq

/-! ## The summary -/

/-- {lit}`std::vector::size`. -/
def size (samples : List DurationNs) : UInt64 :=
  UInt64.ofNat samples.length

def percentileNearestRank (sortedSamples : List DurationNs) (numerator denominator : UInt64) :
    DurationNs :=
  if sortedSamples.isEmpty || denominator = 0 then 0
  else
    let count := size sortedSamples
    let rank := (count * numerator + denominator - 1) / denominator
    let rawIndex := if rank = 0 then 0 else rank - 1
    let index := if rawIndex ≥ count then count - 1 else rawIndex
    sortedSamples.getD index.toNat 0

def maxDurationNs : DurationNs := 0xFFFFFFFFFFFFFFFF

def saturatingAdd (left right : DurationNs) : DurationNs :=
  if right > maxDurationNs - left then maxDurationNs else left + right

/-- {lit}`std::sort`: the one sorted arrangement of the samples. -/
def sorted (samples : List DurationNs) : List DurationNs :=
  samples.insertionSort (· ≤ ·)

def total (samples : List DurationNs) : DurationNs :=
  samples.foldl saturatingAdd 0

def summarizeLatencies (samples : List DurationNs) : Option LatencySummary :=
  if samples.isEmpty then none
  else
    let samples := sorted samples
    some
      { count := size samples
        minNs := samples.headD 0
        maxNs := samples.getLastD 0
        meanNs := total samples / size samples
        p50Ns := percentileNearestRank samples 50 100
        p90Ns := percentileNearestRank samples 90 100
        p99Ns := percentileNearestRank samples 99 100
        p999Ns := percentileNearestRank samples 999 1000
        warmupCount := 0 }

/-! ## Sorted samples -/

section Sorted

variable {samples other : List DurationNs}

theorem sorted_perm (samples : List DurationNs) : (sorted samples).Perm samples :=
  List.perm_insertionSort _ samples

theorem pairwise_sorted (samples : List DurationNs) : (sorted samples).Pairwise (· ≤ ·) :=
  List.pairwise_insertionSort _ samples

theorem sorted_eq_of_perm (hperm : other.Perm samples) : sorted other = sorted samples := by
  apply List.Perm.eq_of_pairwise' (pairwise_sorted other) (pairwise_sorted samples)
  exact (sorted_perm other).trans (hperm.trans (sorted_perm samples).symm)

theorem length_sorted (samples : List DurationNs) : (sorted samples).length = samples.length :=
  (sorted_perm samples).length_eq

theorem sorted_ne_nil (hne : samples ≠ []) : sorted samples ≠ [] := by
  intro hnil
  apply hne
  rw [← List.length_eq_zero_iff, ← length_sorted, hnil]
  rfl

theorem size_sorted (samples : List DurationNs) : size (sorted samples) = size samples := by
  rw [size, size, length_sorted]

end Sorted

theorem toNat_size {samples : List DurationNs} (hfits : samples.length < 2 ^ 64) :
    (size samples).toNat = samples.length :=
  UInt64.toNat_ofNat_of_lt' hfits

/-! ## Percentiles -/

section Percentiles

variable {samples : List DurationNs} {numerator denominator : UInt64}

/-- The rank is the ceiling of the fraction of the count, if its numerator fits. -/
theorem toNat_rank (hlength : samples.length < 2 ^ 64) (hdenominator : 0 < denominator.toNat)
    (hfits : samples.length * numerator.toNat + denominator.toNat - 1 < 2 ^ 64) :
    ((size samples * numerator + denominator - 1) / denominator).toNat =
      samples.length * numerator.toNat ⌈/⌉ denominator.toNat := by
  have hmul : (size samples * numerator).toNat = samples.length * numerator.toNat := by
    rw [UInt64.toNat_mul, toNat_size hlength]
    exact Nat.mod_eq_of_lt (by omega)
  have hsum : (size samples * numerator + denominator - 1).toNat =
      samples.length * numerator.toNat + denominator.toNat - 1 := by
    have hbound := denominator.toNat_lt
    rw [UInt64.toNat_sub, UInt64.toNat_add, hmul, UInt64.toNat_one]
    omega
  rw [UInt64.toNat_div, hsum, Nat.ceilDiv_eq_add_pred_div]

/-- Nearest ranks lie between one and the number of samples. -/
theorem ceil_rank_bounds {count fraction whole : Nat} (hcount : 0 < count)
    (hfraction : 0 < fraction) (hle : fraction ≤ whole) :
    0 < count * fraction ⌈/⌉ whole ∧ count * fraction ⌈/⌉ whole ≤ count := by
  have hwhole : 0 < whole := Nat.lt_of_lt_of_le hfraction hle
  constructor
  · rw [Nat.ceilDiv_eq_add_pred_div]
    apply Nat.div_pos _ hwhole
    have hpos := Nat.mul_pos hcount hfraction
    omega
  · rw [ceilDiv_le_iff_le_mul hwhole, Nat.mul_comm count]
    exact Nat.mul_le_mul_right count hle

/-- A rank between one and the number of samples selects the sample at that place. -/
theorem percentileNearestRank_eq (hlength : samples.length < 2 ^ 64)
    (hdenominator : denominator ≠ 0) {rank : Nat}
    (hrank : ((size samples * numerator + denominator - 1) / denominator).toNat = rank)
    (hpos : 0 < rank) (hbound : rank ≤ samples.length) :
    percentileNearestRank samples numerator denominator = samples.getD (rank - 1) 0 := by
  have hnonzero : (size samples * numerator + denominator - 1) / denominator ≠ 0 := by
    intro hzero
    rw [hzero] at hrank
    exact absurd hrank.symm (Nat.pos_iff_ne_zero.mp hpos)
  have hindex : ((size samples * numerator + denominator - 1) / denominator - 1).toNat =
      rank - 1 := by
    have hone : 1 ≤ (size samples * numerator + denominator - 1) / denominator := by
      rw [UInt64.le_iff_toNat_le, hrank]
      exact hpos
    rw [UInt64.toNat_sub_of_le _ _ hone, hrank]
    rfl
  have hin : ¬(size samples * numerator + denominator - 1) / denominator - 1 ≥ size samples := by
    rw [ge_iff_le, UInt64.le_iff_toNat_le, hindex, toNat_size hlength]
    omega
  have hempty : samples.isEmpty = false := by
    rw [List.isEmpty_eq_false_iff, ← List.length_pos_iff]
    omega
  simp only [percentileNearestRank, hempty, hdenominator, decide_false, Bool.or_self,
    Bool.false_eq_true, if_false, hnonzero, hin, hindex]

theorem percentileNearestRank_ranked (hsorted : samples.Pairwise (· ≤ ·)) (hne : samples ≠ [])
    (hnumerator : 0 < numerator.toNat) (hle : numerator.toNat ≤ denominator.toNat)
    (hfits : samples.length * numerator.toNat + denominator.toNat - 1 < 2 ^ 64) :
    Ranked samples (samples.length * numerator.toNat ⌈/⌉ denominator.toNat)
      (percentileNearestRank samples numerator denominator) := by
  have hcount : 0 < samples.length := List.length_pos_iff.mpr hne
  have hlength : samples.length < 2 ^ 64 := by
    have hmul := Nat.le_mul_of_pos_right samples.length hnumerator
    omega
  have hdenominator : denominator ≠ 0 := by
    intro hzero
    rw [hzero] at hle
    exact absurd hle (Nat.not_le.mpr hnumerator)
  rcases ceil_rank_bounds hcount hnumerator hle with ⟨hpos, hbound⟩
  rw [percentileNearestRank_eq hlength hdenominator (toNat_rank hlength (by omega) hfits) hpos
    hbound]
  generalize samples.length * numerator.toNat ⌈/⌉ denominator.toNat = rank at hpos hbound ⊢
  have hplace : rank - 1 < samples.length := by omega
  have hranked := ranked_of_sorted hsorted hplace
  rw [Nat.sub_add_cancel hpos] at hranked
  rw [List.getD_eq_getElem _ _ hplace]
  exact hranked

end Percentiles

/-! ## The summary of every list -/

theorem summarizeLatencies_perm {samples other : List DurationNs} (hperm : other.Perm samples) :
    summarizeLatencies other = summarizeLatencies samples := by
  have hempty : other.isEmpty = samples.isEmpty := by
    rw [Bool.eq_iff_iff, List.isEmpty_iff, List.isEmpty_iff]
    constructor
    · rintro rfl
      exact hperm.symm.eq_nil
    · rintro rfl
      exact hperm.eq_nil
  rw [summarizeLatencies, summarizeLatencies, hempty, sorted_eq_of_perm hperm]

/-- The two ends of the sorted samples are the first and the last rank. -/
theorem ranked_head_sorted {samples : List DurationNs} (hne : samples ≠ []) :
    Ranked samples 1 ((sorted samples).headD 0) := by
  have hpos : 0 < (sorted samples).length := List.length_pos_iff.mpr (sorted_ne_nil hne)
  have hranked := ranked_of_sorted (pairwise_sorted samples) hpos
  have hhead : (sorted samples).headD 0 = (sorted samples)[0] := by
    rw [List.headD_eq_head?_getD, List.head?_eq_getElem?, List.getElem?_eq_getElem hpos]
    rfl
  rw [hhead]
  exact hranked.perm (sorted_perm samples)

theorem ranked_getLast_sorted {samples : List DurationNs} (hne : samples ≠ []) :
    Ranked samples samples.length ((sorted samples).getLastD 0) := by
  have hpos : 0 < (sorted samples).length := List.length_pos_iff.mpr (sorted_ne_nil hne)
  have hlast : (sorted samples).length - 1 < (sorted samples).length := by omega
  have hranked := ranked_of_sorted (pairwise_sorted samples) hlast
  have hvalue : (sorted samples).getLastD 0 = (sorted samples)[(sorted samples).length - 1] := by
    rw [List.getLastD_eq_getLast?, List.getLast?_eq_getElem?, List.getElem?_eq_getElem hlast]
    rfl
  rw [Nat.sub_add_cancel hpos, ← hvalue, length_sorted] at hranked
  exact hranked.perm (sorted_perm samples)

theorem percentile_sorted_ranked {samples : List DurationNs} (hne : samples ≠ [])
    (numerator denominator : UInt64) (hnumerator : 0 < numerator.toNat)
    (hle : numerator.toNat ≤ denominator.toNat)
    (hfits : samples.length * numerator.toNat + denominator.toNat - 1 < 2 ^ 64) :
    Ranked samples (samples.length * numerator.toNat ⌈/⌉ denominator.toNat)
      (percentileNearestRank (sorted samples) numerator denominator) := by
  have hranked : Ranked (sorted samples) _ _ := percentileNearestRank_ranked
    (pairwise_sorted samples) (sorted_ne_nil hne) hnumerator hle (by rwa [length_sorted])
  rw [length_sorted] at hranked
  exact hranked.perm (sorted_perm samples)

theorem summarizeLatencies_of_ne_nil {samples : List DurationNs} (hne : samples ≠ []) :
    summarizeLatencies samples = some
      { count := size (sorted samples)
        minNs := (sorted samples).headD 0
        maxNs := (sorted samples).getLastD 0
        meanNs := total (sorted samples) / size (sorted samples)
        p50Ns := percentileNearestRank (sorted samples) 50 100
        p90Ns := percentileNearestRank (sorted samples) 90 100
        p99Ns := percentileNearestRank (sorted samples) 99 100
        p999Ns := percentileNearestRank (sorted samples) 999 1000
        warmupCount := 0 } := by
  rw [summarizeLatencies, List.isEmpty_eq_false_iff.mpr hne]
  rfl

/-- A summary has the samples of the stated ranks, between the least and the greatest, whatever
the order of the samples. -/
theorem summary_percentiles (samples : List DurationNs) (hne : samples ≠ [])
    (hfits : samples.length * 999 + 999 < 2 ^ 64) :
    ∃ summary, summarizeLatencies samples = some summary ∧
      Ranked samples (samples.length * 50 ⌈/⌉ 100) summary.p50Ns ∧
      Ranked samples (samples.length * 90 ⌈/⌉ 100) summary.p90Ns ∧
      Ranked samples (samples.length * 99 ⌈/⌉ 100) summary.p99Ns ∧
      Ranked samples (samples.length * 999 ⌈/⌉ 1000) summary.p999Ns ∧
      (summary.minNs ≤ summary.p50Ns ∧ summary.p50Ns ≤ summary.p90Ns ∧
        summary.p90Ns ≤ summary.p99Ns ∧ summary.p99Ns ≤ summary.p999Ns ∧
        summary.p999Ns ≤ summary.maxNs) ∧
      (summary.minNs ∈ samples ∧ ∀ sample ∈ samples, summary.minNs ≤ sample) ∧
      (summary.maxNs ∈ samples ∧ ∀ sample ∈ samples, sample ≤ summary.maxNs) ∧
      ∀ other : List DurationNs, other.Perm samples →
        summarizeLatencies other = some summary := by
  have hcount : 0 < samples.length := List.length_pos_iff.mpr hne
  have hmin := ranked_head_sorted hne
  have hmax := ranked_getLast_sorted hne
  have hp50 : Ranked samples (samples.length * 50 ⌈/⌉ 100) _ :=
    percentile_sorted_ranked hne 50 100 (by decide) (by decide)
      (show samples.length * 50 + 100 - 1 < 2 ^ 64 by omega)
  have hp90 : Ranked samples (samples.length * 90 ⌈/⌉ 100) _ :=
    percentile_sorted_ranked hne 90 100 (by decide) (by decide)
      (show samples.length * 90 + 100 - 1 < 2 ^ 64 by omega)
  have hp99 : Ranked samples (samples.length * 99 ⌈/⌉ 100) _ :=
    percentile_sorted_ranked hne 99 100 (by decide) (by decide)
      (show samples.length * 99 + 100 - 1 < 2 ^ 64 by omega)
  have hp999 : Ranked samples (samples.length * 999 ⌈/⌉ 1000) _ :=
    percentile_sorted_ranked hne 999 1000 (by decide) (by decide)
      (show samples.length * 999 + 1000 - 1 < 2 ^ 64 by omega)
  refine ⟨_, summarizeLatencies_of_ne_nil hne, hp50, hp90, hp99, hp999, ⟨?_, ?_, ?_, ?_, ?_⟩,
    ⟨hmin.mem, hmin.le_of_one⟩, ⟨hmax.mem, hmax.le_of_length⟩, ?_⟩
  · apply hmin.le_of_le hp50
    rw [Nat.ceilDiv_eq_add_pred_div]
    omega
  · apply hp50.le_of_le hp90
    rw [Nat.ceilDiv_eq_add_pred_div, Nat.ceilDiv_eq_add_pred_div]
    omega
  · apply hp90.le_of_le hp99
    rw [Nat.ceilDiv_eq_add_pred_div, Nat.ceilDiv_eq_add_pred_div]
    omega
  · apply hp99.le_of_le hp999
    rw [Nat.ceilDiv_eq_add_pred_div, Nat.ceilDiv_eq_add_pred_div]
    omega
  · apply hp999.le_of_le hmax
    rw [Nat.ceilDiv_eq_add_pred_div]
    omega
  · intro other hperm
    rw [summarizeLatencies_perm hperm]
    exact summarizeLatencies_of_ne_nil hne

/-- Three samples, two of them equal. -/
theorem summary_percentiles_three :
    ∃ summary, summarizeLatencies [7, 3, 7] = some summary ∧ summary.p50Ns = 7 ∧
      Ranked [7, 3, 7] (3 * 50 ⌈/⌉ 100) summary.p50Ns := by
  rcases summary_percentiles [7, 3, 7] (List.cons_ne_nil _ _) (by decide) with
    ⟨summary, hsummary, hp50, -⟩
  refine ⟨summary, hsummary, ?_, hp50⟩
  have hvalue : (summarizeLatencies [7, 3, 7]).map (·.p50Ns) = some 7 := by decide
  rw [hsummary] at hvalue
  exact Option.some.inj hvalue

/-! ## The number of samples at which the rank wraps -/

/-- One sample of zero and then ones. -/
def zeroThenOnes (ones : Nat) : List DurationNs :=
  0 :: List.replicate ones 1

theorem sorted_zeroThenOnes (ones : Nat) : sorted (zeroThenOnes ones) = zeroThenOnes ones := by
  apply List.Pairwise.insertionSort_eq
  rw [zeroThenOnes, List.pairwise_cons]
  refine ⟨?_, ?_⟩
  · intro sample _
    exact UInt64.zero_le
  · rw [List.pairwise_replicate]
    exact Or.inr (UInt64.le_refl 1)

theorem countP_zeroThenOnes (ones : Nat) : (zeroThenOnes ones).countP (· ≤ 0) = 1 := by
  have hone : decide ((1 : DurationNs) ≤ 0) = false := by decide
  rw [zeroThenOnes, List.countP_cons, List.countP_replicate, hone]
  rfl

/-- A rank that comes out as zero selects the first sample. -/
theorem percentileNearestRank_of_rank_zero {samples : List DurationNs} {denominator : UInt64}
    (numerator : UInt64) (hne : samples ≠ []) (hdenominator : denominator ≠ 0)
    (hsize : 0 < size samples)
    (hrank : (size samples * numerator + denominator - 1) / denominator = 0) :
    percentileNearestRank samples numerator denominator = samples.headD 0 := by
  have hempty : samples.isEmpty = false := List.isEmpty_eq_false_iff.mpr hne
  have hin : ¬(0 : UInt64) ≥ size samples := UInt64.not_le.mpr hsize
  simp only [percentileNearestRank, hempty, hdenominator, decide_false, Bool.or_self,
    Bool.false_eq_true, if_false, hrank, if_true, hin]
  cases samples <;> rfl

/-- The one count below the bound of the percentiles at which the last of them is the
minimum: its product with 999 fits, and the sum that rounds it up does not. -/
theorem p999_at_the_bound :
    let samples := zeroThenOnes 18465209282992543
    samples.length * 999 < 2 ^ 64 ∧
      (summarizeLatencies samples).map (·.p999Ns) = some 0 ∧
      samples.countP (· ≤ 0) < samples.length * 999 ⌈/⌉ 1000 := by
  intro samples
  have hlength : samples.length = 18465209282992544 := by
    rw [show samples = zeroThenOnes _ from rfl, zeroThenOnes, List.length_cons,
      List.length_replicate]
  have hne : samples ≠ [] := List.cons_ne_nil _ _
  have hsize : size samples = 18465209282992544 := by
    rw [size, hlength]
    rfl
  have hsorted : sorted samples = samples := sorted_zeroThenOnes _
  refine ⟨?_, ?_, ?_⟩
  · rw [hlength]
    decide
  · rw [summarizeLatencies_of_ne_nil hne, hsorted, Option.map_some,
      percentileNearestRank_of_rank_zero 999 hne (by decide)]
    · rfl
    · rw [hsize]
      decide
    · rw [hsize]
      decide
  · rw [hlength, show samples.countP _ = 1 from countP_zeroThenOnes _]
    decide

/-! ## The mean -/

def exactSum (samples : List DurationNs) : Nat :=
  (samples.map UInt64.toNat).sum

theorem toNat_saturatingAdd (left right : DurationNs) :
    (saturatingAdd left right).toNat = min (left.toNat + right.toNat) (2 ^ 64 - 1) := by
  have hleft := left.toNat_lt
  have hroom : (maxDurationNs - left).toNat = 2 ^ 64 - 1 - left.toNat := by
    apply UInt64.toNat_sub_of_le
    rw [UInt64.le_iff_toNat_le]
    change left.toNat ≤ 2 ^ 64 - 1
    omega
  rw [saturatingAdd]
  by_cases hover : right > maxDurationNs - left
  · rw [if_pos hover]
    rw [gt_iff_lt, UInt64.lt_iff_toNat_lt, hroom] at hover
    change 2 ^ 64 - 1 = _
    omega
  · rw [if_neg hover, UInt64.toNat_add]
    rw [gt_iff_lt, UInt64.lt_iff_toNat_lt, hroom] at hover
    omega

theorem toNat_foldl_saturatingAdd (samples : List DurationNs) (start : DurationNs) :
    (samples.foldl saturatingAdd start).toNat =
      min (start.toNat + exactSum samples) (2 ^ 64 - 1) := by
  induction samples generalizing start with
  | nil =>
      have hstart := start.toNat_lt
      rw [List.foldl_nil, exactSum, List.map_nil, List.sum_nil]
      omega
  | cons sample rest ih =>
      have hsum : exactSum (sample :: rest) = sample.toNat + exactSum rest := rfl
      rw [List.foldl_cons, ih, toNat_saturatingAdd, hsum]
      omega

theorem toNat_total (samples : List DurationNs) :
    (total samples).toNat = min (exactSum samples) (2 ^ 64 - 1) := by
  rw [total, toNat_foldl_saturatingAdd, UInt64.toNat_zero, Nat.zero_add]

theorem exactSum_perm {samples other : List DurationNs} (hperm : other.Perm samples) :
    exactSum other = exactSum samples :=
  (hperm.map UInt64.toNat).sum_eq

/-- The sum lies between the number of samples times any bounds of them. -/
theorem exactSum_bounds {samples : List DurationNs} {least greatest : DurationNs}
    (hleast : ∀ sample ∈ samples, least ≤ sample)
    (hgreatest : ∀ sample ∈ samples, sample ≤ greatest) :
    samples.length * least.toNat ≤ exactSum samples ∧
      exactSum samples ≤ samples.length * greatest.toNat := by
  have hlength : (samples.map UInt64.toNat).length = samples.length := List.length_map _
  constructor
  · have hsum := List.card_nsmul_le_sum (samples.map UInt64.toNat) least.toNat
      (by
        intro value hvalue
        rcases List.mem_map.mp hvalue with ⟨sample, hsample, rfl⟩
        exact hleast sample hsample)
    rwa [hlength, smul_eq_mul] at hsum
  · have hsum := List.sum_le_card_nsmul (samples.map UInt64.toNat) greatest.toNat
      (by
        intro value hvalue
        rcases List.mem_map.mp hvalue with ⟨sample, hsample, rfl⟩
        exact hgreatest sample hsample)
    rwa [hlength, smul_eq_mul] at hsum

/-- The length of a vector is a {lit}`std::size_t`, which is the bound on the samples. -/
theorem summary_mean (samples : List DurationNs) (hne : samples ≠ [])
    (hlength : samples.length < 2 ^ 64) :
    ∃ summary, summarizeLatencies samples = some summary ∧
      summary.meanNs.toNat = min (exactSum samples) (2 ^ 64 - 1) / samples.length ∧
      (exactSum samples < 2 ^ 64 →
        summary.meanNs.toNat = exactSum samples / samples.length) ∧
      summary.meanNs ≤ summary.maxNs ∧
      (summary.minNs ≤ summary.meanNs ↔ samples.length * summary.minNs.toNat < 2 ^ 64) := by
  have hcount : 0 < samples.length := List.length_pos_iff.mpr hne
  have hmean : (total (sorted samples) / size (sorted samples)).toNat =
      min (exactSum samples) (2 ^ 64 - 1) / samples.length := by
    rw [UInt64.toNat_div, toNat_total, exactSum_perm (sorted_perm samples), size_sorted,
      toNat_size hlength]
  have hbounds := exactSum_bounds (ranked_head_sorted hne).le_of_one
    (ranked_getLast_sorted hne).le_of_length
  refine ⟨_, summarizeLatencies_of_ne_nil hne, hmean, ?_, ?_, ?_⟩
  · intro hfits
    rw [hmean, Nat.min_eq_left (by omega)]
  · rw [UInt64.le_iff_toNat_le, hmean]
    calc min (exactSum samples) (2 ^ 64 - 1) / samples.length
        ≤ exactSum samples / samples.length := Nat.div_le_div_right (Nat.min_le_left _ _)
      _ ≤ ((sorted samples).getLastD 0).toNat :=
          Nat.div_le_of_le_mul hbounds.2
  · rw [UInt64.le_iff_toNat_le, hmean, Nat.le_div_iff_mul_le hcount, Nat.mul_comm]
    dsimp only
    omega

theorem summary_mean_three :
    ∃ summary, summarizeLatencies [7, 3, 7] = some summary ∧ summary.meanNs.toNat = 5 := by
  rcases summary_mean [7, 3, 7] (List.cons_ne_nil _ _) (by decide) with
    ⟨summary, hsummary, -, hmean, -⟩
  exact ⟨summary, hsummary, hmean (by decide)⟩

/-- Two samples of the largest duration: the mean is below both. -/
theorem mean_below_minimum :
    (summarizeLatencies [0xFFFFFFFFFFFFFFFF, 0xFFFFFFFFFFFFFFFF]).map
      (fun summary => (summary.minNs, summary.meanNs)) =
        some (0xFFFFFFFFFFFFFFFF, 0x7FFFFFFFFFFFFFFF) := by
  decide

end Fgep.Telemetry
