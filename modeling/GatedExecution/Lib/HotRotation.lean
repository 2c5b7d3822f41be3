import Mathlib.Data.Nat.ChineseRemainder
import Mathlib.Data.Nat.Periodic

/-!
# Rotation over hot and cold places

A counter picks one of {lit}`hot + cold` places.  Its remainder by the number of buckets,
compared with a threshold, says whether the place is hot or cold; its remainder by the
number of hot or cold places says which one.  Both remainders are taken of one counter, so
not every place need be picked at some time.

Main results:

- Theorem {lit}`countP_hot`: how often a hot place is picked in a round of the buckets.
- Theorems {lit}`reached_pick` and {lit}`exists_pick_of_reached`: the places that are ever
  picked, and by when.
-/

namespace HotRotation

/-- The place a counter picks. -/
def pick (buckets threshold hot cold counter : Nat) : Nat :=
  if counter % buckets < threshold ∨ cold = 0 then counter % hot
  else hot + counter % cold

/-- Some bucket of the place's kind agrees with the place modulo what the two divisors
have in common. -/
def Reached (buckets threshold hot cold place : Nat) : Prop :=
  if place < hot then
    cold = 0 ∨ ∃ bucket < threshold, bucket ≡ place [MOD buckets.gcd hot]
  else
    ∃ bucket < buckets, threshold ≤ bucket ∧ bucket ≡ place - hot [MOD buckets.gcd cold]

instance (buckets threshold hot cold place : Nat) :
    Decidable (Reached buckets threshold hot cold place) := by
  unfold Reached
  infer_instance

section Pick

variable {buckets threshold hot cold counter : Nat}

theorem pick_lt (hhot : 0 < hot) : pick buckets threshold hot cold counter < hot + cold := by
  have hplace := Nat.mod_lt counter hhot
  unfold pick
  split
  · omega
  · rename_i hcold
    have hplace' := Nat.mod_lt counter (Nat.pos_of_ne_zero (fun h => hcold (Or.inr h)))
    omega

theorem pick_lt_hot_iff (hhot : 0 < hot) (hcold : 0 < cold) :
    pick buckets threshold hot cold counter < hot ↔ counter % buckets < threshold := by
  have hplace := Nat.mod_lt counter hhot
  by_cases hbucket : counter % buckets < threshold
  · simp [pick, hbucket, hplace]
  · simp [pick, hbucket, Nat.ne_of_gt hcold]

theorem card_filter_Ico (start count : Nat) (p : Nat → Prop) [DecidablePred p] :
    ((Finset.Ico start (start + count)).filter p).card =
      (List.range count).countP (fun turn => p (start + turn)) := by
  have hinterval : ((Finset.Ico start (start + count)).filter p).card =
      (List.range' start (start + count - start)).countP (fun counter => p counter) := by
    rw [List.countP_eq_length_filter]
    rfl
  rw [hinterval, Nat.add_sub_cancel_left, List.range'_eq_map_range, List.countP_map]
  rfl

/-- In every round of the buckets, a hot place is picked as often as the threshold says. -/
theorem countP_hot (hhot : 0 < hot) (hcold : 0 < cold) (hthreshold : threshold ≤ buckets)
    (start : Nat) :
    (List.range buckets).countP
      (fun turn => pick buckets threshold hot cold (start + turn) < hot) = threshold := by
  simp only [pick_lt_hot_iff hhot hcold]
  have hperiodic : Function.Periodic (fun counter => counter % buckets < threshold) buckets := by
    intro counter
    simp
  have hround := Nat.filter_Ico_card_eq_of_periodic start buckets _ hperiodic
  have hlow : (Finset.range buckets).filter (fun counter => counter % buckets < threshold) =
      Finset.range threshold := by
    ext counter
    simp only [Finset.mem_filter, Finset.mem_range]
    constructor
    · rintro ⟨hlt, hbucket⟩
      rwa [Nat.mod_eq_of_lt hlt] at hbucket
    · intro hlt
      have hlt' := Nat.lt_of_lt_of_le hlt hthreshold
      rw [Nat.mod_eq_of_lt hlt']
      exact ⟨hlt', hlt⟩
  rwa [card_filter_Ico, Nat.count_eq_card_filter_range, hlow, Finset.card_range] at hround

end Pick

/-! ## Places that are picked -/

section Reached

variable {buckets threshold hot cold place : Nat}

theorem mod_modEq_mod (first second counter : Nat) :
    counter % first ≡ counter % second [MOD first.gcd second] :=
  ((Nat.mod_modEq counter first).of_dvd (Nat.gcd_dvd_left first second)).trans
    ((Nat.mod_modEq counter second).of_dvd (Nat.gcd_dvd_right first second)).symm

/-- Two remainders that agree modulo the common divisor are those of one positive counter. -/
theorem exists_counter {first second bucket : Nat} (hbucket : bucket < first)
    (hplace : place < second) (hagree : bucket ≡ place [MOD first.gcd second]) :
    ∃ counter, 0 < counter ∧ counter ≤ first * second ∧ counter % first = bucket ∧
      counter % second = place := by
  have hfirst : first ≠ 0 := Nat.ne_of_gt (Nat.zero_lt_of_lt hbucket)
  have hsecond : second ≠ 0 := Nat.ne_of_gt (Nat.zero_lt_of_lt hplace)
  have hlt := Nat.chineseRemainder'_lt_lcm hagree hfirst hsecond
  have hlcm : first.lcm second ≤ first * second :=
    Nat.le_of_dvd (Nat.mul_pos (Nat.pos_of_ne_zero hfirst) (Nat.pos_of_ne_zero hsecond))
      (Nat.lcm_dvd_mul first second)
  generalize Nat.chineseRemainder' hagree = solution at hlt
  obtain ⟨counter, hcounter, hcounter'⟩ := solution
  have hmod : counter % first = bucket := by
    rw [hcounter, Nat.mod_eq_of_lt hbucket]
  have hmod' : counter % second = place := by
    rw [hcounter', Nat.mod_eq_of_lt hplace]
  change counter < first.lcm second at hlt
  rcases Nat.eq_zero_or_pos counter with hzero | hpos
  · -- The counter starts at one, so the product stands in for zero.
    subst hzero
    rw [Nat.zero_mod] at hmod hmod'
    refine ⟨first * second, by omega, Nat.le_refl _, ?_, ?_⟩
    · rw [Nat.mul_mod_right, hmod]
    · rw [Nat.mul_mod_left, hmod']
  · exact ⟨counter, hpos, by omega, hmod, hmod'⟩

theorem reached_pick (hbuckets : 0 < buckets) (hhot : 0 < hot) (counter : Nat) :
    Reached buckets threshold hot cold (pick buckets threshold hot cold counter) := by
  have hplace := Nat.mod_lt counter hhot
  by_cases hkind : counter % buckets < threshold ∨ cold = 0
  · rw [pick, if_pos hkind, Reached, if_pos hplace]
    rcases hkind with hbucket | hnone
    · exact Or.inr ⟨counter % buckets, hbucket, mod_modEq_mod buckets hot counter⟩
    · exact Or.inl hnone
  · rw [pick, if_neg hkind, Reached, if_neg (by omega), Nat.add_sub_cancel_left]
    exact ⟨counter % buckets, Nat.mod_lt counter hbuckets, by omega,
      mod_modEq_mod buckets cold counter⟩

theorem exists_pick_of_reached (hthreshold : threshold ≤ buckets) (hbuckets : 0 < buckets)
    (hplace : place < hot + cold) (hreached : Reached buckets threshold hot cold place) :
    ∃ counter, 0 < counter ∧ counter ≤ buckets * (hot + cold) ∧
      pick buckets threshold hot cold counter = place := by
  rw [Nat.mul_add]
  rw [Reached] at hreached
  split at hreached
  · rename_i hhot
    have hagree : ∃ bucket < buckets, (bucket < threshold ∨ cold = 0) ∧
        bucket ≡ place [MOD buckets.gcd hot] := by
      rcases hreached with hnone | ⟨bucket, hbucket, hagree⟩
      · refine ⟨place % buckets, Nat.mod_lt place hbuckets, Or.inr hnone, ?_⟩
        exact (Nat.mod_modEq place buckets).of_dvd (Nat.gcd_dvd_left buckets hot)
      · exact ⟨bucket, by omega, Or.inl hbucket, hagree⟩
    obtain ⟨bucket, hbucket, hkind, hagree⟩ := hagree
    obtain ⟨counter, hpos, hle, hmod, hmod'⟩ := exists_counter hbucket hhot hagree
    refine ⟨counter, hpos, by omega, ?_⟩
    rw [pick, hmod, if_pos hkind, hmod']
  · rename_i hhot
    obtain ⟨bucket, hbucket, hcold, hagree⟩ := hreached
    obtain ⟨counter, hpos, hle, hmod, hmod'⟩ :=
      exists_counter hbucket (show place - hot < cold by omega) hagree
    refine ⟨counter, hpos, by omega, ?_⟩
    rw [pick, hmod, if_neg (by omega), hmod']
    omega

end Reached

end HotRotation
