import GatedExecution.Gate.ControlRuns

/-!
# Which pushed updates are lost as stale

A push takes the next sequence, which is kept above every staged one by 64-bit
arithmetic.  That works until an update with the largest sequence is staged: the next
sequence then wraps to zero, and everything pushed afterwards is stale when it is
reached.

Main results:

- Theorem {lit}`step_sequenceInv`: the next sequence is ahead until it wraps.
- Theorem {lit}`pushed_applied_iff`: a pushed update that is reached is applied exactly
  if nothing with the largest sequence was staged before it, and a halt then takes effect.
- Theorem {lit}`pushed_halt_lost`: a halt that never takes effect.
-/

namespace Fgep.Gate

open Histories Runs

def maxSequence : GuardrailUpdateSequence := 0xFFFFFFFFFFFFFFFF

theorem lt_add_one_of_ne_maxSequence {sequence : GuardrailUpdateSequence}
    (hne : sequence ≠ maxSequence) : sequence < sequence + 1 := by
  have hlt := sequence.toNat_lt
  have hnat : sequence.toNat ≠ 2 ^ 64 - 1 := fun heq => hne (UInt64.toNat_inj.mp heq)
  have hadd : (sequence + 1).toNat = (sequence.toNat + 1) % 2 ^ 64 := UInt64.toNat_add _ _
  rw [UInt64.lt_iff_toNat_lt, hadd, Nat.mod_eq_of_lt (by omega)]
  exact Nat.lt_succ_self _

theorem le_maxSequence (sequence : GuardrailUpdateSequence) : sequence ≤ maxSequence := by
  have hlt := sequence.toNat_lt
  exact UInt64.le_iff_toNat_le.mpr (Nat.le_of_lt_succ hlt)

/-- No update of a list has the largest sequence. -/
def Unwrapped (entries : List StagedUpdate) : Prop :=
  ∀ entry ∈ entries, entry.update.sequence ≠ maxSequence

/-- All updates of a list have a sequence below a bound. -/
def Below (bound : GuardrailUpdateSequence) (entries : List StagedUpdate) : Prop :=
  0 < bound ∧ ∀ entry ∈ entries, entry.update.sequence < bound

theorem Below.concat {bound bound' : GuardrailUpdateSequence} {entries : List StagedUpdate}
    {entry : StagedUpdate} (hbelow : Below bound entries) (hle : bound ≤ bound')
    (hentry : entry.update.sequence < bound') : Below bound' (entries ++ [entry]) := by
  refine ⟨UInt64.lt_of_lt_of_le hbelow.1 hle, ?_⟩
  intro other hmem
  rcases List.mem_append.mp hmem with hold | hnew
  · exact UInt64.lt_of_lt_of_le (hbelow.2 other hold) hle
  · rwa [List.mem_singleton.mp hnew]

namespace ControlRun

/-! ## The next sequence -/

theorem nextSequence_applyNext (path : GuardrailControlPath) (state : GuardrailState) :
    (path.applyNext state).2.1.nextSequence = path.nextSequence := by
  unfold GuardrailControlPath.applyNext
  split
  · rfl
  · unfold GuardrailControlPath.applyUpdate
    split <;> rfl

structure SequenceInv (run : ControlRun) : Prop where
  ahead : Unwrapped run.staged → Below run.path.nextSequence run.staged
  pushed : Each (fun before entry => entry.pushed = true → Unwrapped before →
    Below entry.update.sequence before) run.staged

section Step

variable {run : ControlRun}

theorem SequenceInv.of_eq {other : ControlRun} (hinv : SequenceInv run)
    (hstaged : other.staged = run.staged)
    (hnext : other.path.nextSequence = run.path.nextSequence) : SequenceInv other := by
  constructor
  · rw [hstaged, hnext]
    exact hinv.ahead
  · rw [hstaged]
    exact hinv.pushed

theorem push_sequenceInv (hinv : SequenceInv run) (call : PushCall) :
    SequenceInv (run.step (.push call)) := by
  rcases run.path.push_eq call with ⟨hsequence, hpath⟩
  constructor
  · intro hunwrapped
    rw [step, staged_stage] at hunwrapped ⊢
    have hfront : Unwrapped run.staged :=
      fun entry hmem => hunwrapped entry (List.mem_append_left _ hmem)
    have hlast : run.path.nextSequence ≠ maxSequence := by
      rw [← hsequence]
      exact hunwrapped _ (List.mem_append_right _ List.mem_cons_self)
    have hlt := lt_add_one_of_ne_maxSequence hlast
    rw [stage, hpath]
    exact (hinv.ahead hfront).concat (UInt64.le_of_lt hlt) (by rw [hsequence]; exact hlt)
  · rw [step, staged_stage]
    apply each_concat hinv.pushed
    intro _ hunwrapped
    rw [hsequence]
    exact hinv.ahead hunwrapped

theorem enqueue_sequenceInv (hinv : SequenceInv run) (update : GuardrailUpdate) :
    SequenceInv (run.step (.enqueue update)) := by
  constructor
  · intro hunwrapped
    rw [step, staged_stage] at hunwrapped ⊢
    have hfront : Unwrapped run.staged :=
      fun entry hmem => hunwrapped entry (List.mem_append_left _ hmem)
    have hlast : update.sequence ≠ maxSequence :=
      hunwrapped _ (List.mem_append_right _ List.mem_cons_self)
    have hbelow := hinv.ahead hfront
    change Below (if update.sequence ≥ run.path.nextSequence then update.sequence + 1
      else run.path.nextSequence) _
    split
    · rename_i hge
      have hlt := lt_add_one_of_ne_maxSequence hlast
      exact hbelow.concat (UInt64.le_trans hge (UInt64.le_of_lt hlt)) hlt
    · rename_i hlt
      exact hbelow.concat (UInt64.le_refl _) (UInt64.not_le.mp hlt)
  · rw [step, staged_stage]
    apply each_concat hinv.pushed
    intro hpushed
    cases hpushed

theorem reachNext_sequenceInv (hinv : SequenceInv run) : SequenceInv run.reachNext :=
  hinv.of_eq run.staged_reachNext (nextSequence_applyNext _ _)

theorem step_sequenceInv (hqueued : run.Queued) (hinv : SequenceInv run) (op : ControlOp) :
    SequenceInv (run.step op) := by
  cases op with
  | push call => exact push_sequenceInv hinv call
  | enqueue update => exact enqueue_sequenceInv hinv update
  | applyNext => exact reachNext_sequenceInv hinv
  | applyAll =>
      rw [step_eq_drain hqueued]
      exact drain_invariant (fun _ => reachNext_sequenceInv) hinv
  | clearPending => exact hinv.of_eq run.staged_clearPending rfl

end Step

/-! ## Applied halts -/

/-- A halt decides whether the gate is halted, from when it is applied until the next
one is. -/
theorem globalHalted_of_settled {start : GuardrailState} {run : ControlRun}
    (hinv : RunInv start run) {before after : List (StagedUpdate × Fate)}
    {entry : StagedUpdate × Fate} (hsettled : run.settled = before ++ entry :: after)
    (happlied : entry.2 = .applied) (hkind : entry.1.update.kind = .setGlobalHalt)
    (hlast : ∀ update ∈ appliedIn after, update.kind ≠ .setGlobalHalt) :
    run.state.globalHalted = entry.1.update.boolValue := by
  have hsplit : run.applied = appliedIn before ++ entry.1.update :: appliedIn after := by
    rw [applied, hsettled, appliedIn_append, appliedIn_cons_applied happlied]
  have hlatest : latest (GuardrailUpdate.stores .setGlobalHalt GuardrailUpdate.boolValue)
      run.applied = some entry.1.update.boolValue := by
    rw [hsplit]
    apply latest_of_kept (GuardrailUpdate.stores_eq_some_iff.mpr ⟨hkind, rfl⟩)
    intro update hmem found hfound
    exact absurd (GuardrailUpdate.stores_eq_some_iff.mp hfound).1 (hlast update hmem)
  rw [hinv.holdsLastUpdates.globalHalted, hlatest, Option.getD_some]

/-! ## Runs without discards -/

section Runs

variable {start : GuardrailState} {run : ControlRun}

/-- Every update that has left the queue was reached. -/
def AllReached (run : ControlRun) : Prop :=
  ∀ entry ∈ run.settled, entry.2 ≠ .discarded

theorem reachNext_allReached (hreached : run.AllReached) : run.reachNext.AllReached := by
  intro entry hmem
  rcases List.mem_append.mp hmem with hold | hnew
  · exact hreached entry hold
  · rcases List.mem_map.mp hnew with ⟨staged, -, rfl⟩
    dsimp only
    split <;> nofun

theorem step_allReached (hqueued : run.Queued) (hreached : run.AllReached) {op : ControlOp}
    (hop : op ≠ .clearPending) : (run.step op).AllReached := by
  cases op with
  | push call => exact hreached
  | enqueue update => exact hreached
  | applyNext => exact reachNext_allReached hreached
  | applyAll =>
      rw [step_eq_drain hqueued]
      exact drain_invariant (fun _ => reachNext_allReached) hreached
  | clearPending => exact absurd rfl hop

theorem initial_sequenceInv (start : GuardrailState) : SequenceInv { state := start } where
  ahead := fun _ => ⟨(by decide : (0 : UInt64) < 1), nofun⟩
  pushed := each_nil

theorem of_sequenceInv (start : GuardrailState) (ops : List ControlOp) :
    SequenceInv (of start ops) := by
  have hstep : ∀ (run : ControlRun) (op : ControlOp), True →
      RunInv start run ∧ SequenceInv run →
        RunInv start (run.step op) ∧ SequenceInv (run.step op) :=
    fun _ op _ hrun => ⟨step_runInv hrun.1 op, step_sequenceInv hrun.1.queued hrun.2 op⟩
  have hinit := And.intro (initial_runInv start) (initial_sequenceInv start)
  exact (foldl_invariant hstep hinit (fun _ _ => trivial)).2

theorem of_allReached (start : GuardrailState) {ops : List ControlOp}
    (hops : ∀ op ∈ ops, op ≠ .clearPending) : (of start ops).AllReached := by
  have hstep : ∀ (run : ControlRun) (op : ControlOp), op ≠ .clearPending →
      RunInv start run ∧ run.AllReached →
        RunInv start (run.step op) ∧ (run.step op).AllReached :=
    fun _ op hop hrun => ⟨step_runInv hrun.1 op, step_allReached hrun.1.queued hrun.2 hop⟩
  have hnone : AllReached { state := start } := nofun
  exact (foldl_invariant_inputs hstep hops ⟨initial_runInv start, hnone⟩).2

/-- Once an update with the largest sequence was reached, it or one like it was applied. -/
theorem exists_applied_of_maxSequence {settled : List (StagedUpdate × Fate)}
    (hfates : Each FateExplained settled) {entry : StagedUpdate × Fate}
    (hmem : entry ∈ settled) (hreached : entry.2 ≠ .discarded)
    (hmax : entry.1.update.sequence = maxSequence) :
    ∃ update ∈ appliedIn settled, update.sequence = maxSequence := by
  rcases List.append_of_mem hmem with ⟨before, after, rfl⟩
  have hexplained := hfates before entry after rfl hreached
  rw [hmax] at hexplained
  by_cases happlied : entry.2 = .applied
  · refine ⟨entry.1.update, ?_, hmax⟩
    rw [appliedIn_append, appliedIn_cons_applied happlied]
    exact List.mem_append_right _ List.mem_cons_self
  · have hexists : ∃ update ∈ appliedIn before, ¬update.sequence < maxSequence := by
      by_contra hnone
      push Not at hnone
      exact happlied (hexplained.mpr ⟨by decide, fun update hupdate => by
        simpa using hnone update hupdate⟩)
    rcases hexists with ⟨update, hupdate, hge⟩
    refine ⟨update, ?_, ?_⟩
    · rw [appliedIn_append]
      exact List.mem_append_left _ hupdate
    · exact UInt64.le_antisymm (le_maxSequence _) (UInt64.not_lt.mp hge)

end Runs

/-- Which pushed updates are applied, and that the halts among them decide until another
one is applied. -/
theorem pushed_applied_iff (start : GuardrailState) {ops : List ControlOp}
    (hops : ∀ op ∈ ops, op ≠ .clearPending) {before after : List (StagedUpdate × Fate)}
    {entry : StagedUpdate × Fate} (hsettled : (of start ops).settled = before ++ entry :: after)
    (hpushed : entry.1.pushed = true) :
    (entry.2 = .applied ↔ ∀ earlier ∈ before, earlier.1.update.sequence ≠ maxSequence) ∧
    (entry.2 = .applied → entry.1.update.kind = .setGlobalHalt →
      (∀ update ∈ appliedIn after, update.kind ≠ .setGlobalHalt) →
      (of start ops).state.globalHalted = entry.1.update.boolValue) := by
  refine ⟨?_, globalHalted_of_settled (of_runInv start ops) hsettled⟩
  have hfates := (of_runInv start ops).fates
  have hreached := of_allReached start hops
  rw [AllReached, hsettled] at hreached
  rw [hsettled] at hfates
  have hexplained := hfates before entry after rfl
    (hreached entry (List.mem_append_right _ List.mem_cons_self))
  constructor
  · intro happlied earlier hmem hmax
    have hbefore : Each FateExplained before := by
      intro front found back hsplit
      apply hfates front found (back ++ entry :: after)
      rw [hsplit, List.append_assoc, List.cons_append]
    rcases exists_applied_of_maxSequence hbefore hmem
      (hreached earlier (List.mem_append_left _ hmem)) hmax with ⟨update, hupdate, hlargest⟩
    have hlt := (hexplained.mp happlied).2 update hupdate
    rw [hlargest] at hlt
    exact absurd (le_maxSequence _) (UInt64.not_le.mpr hlt)
  · intro hunwrapped
    have hstaged : (of start ops).staged =
        before.map Prod.fst ++ entry.1 :: (after.map Prod.fst ++ (of start ops).waiting) := by
      rw [staged, hsettled, List.map_append, List.map_cons, List.append_assoc, List.cons_append]
    have hbelow := (of_sequenceInv start ops).pushed _ _ _ hstaged hpushed
      (List.forall_mem_map.mpr hunwrapped)
    refine hexplained.mpr ⟨hbelow.1, ?_⟩
    intro update hupdate
    rcases List.mem_map.mp hupdate with ⟨earlier, hmem, rfl⟩
    exact hbelow.2 earlier.1 (List.mem_map_of_mem (List.mem_of_mem_filter hmem))

/-- A pushed halt that is reached, applied and in force. -/
theorem pushed_applied_iff_halt :
    let run := of {} [.push (.setGlobalHalt true), .applyNext]
    let entry := (StagedUpdate.mk ⟨1, .setGlobalHalt, true, {}, emptySymbol⟩ true, Fate.applied)
    run.settled = [entry] ∧ entry.2 = .applied ∧ run.state.globalHalted = true := by
  intro run entry
  have hsettled : run.settled = [] ++ entry :: [] := rfl
  rcases pushed_applied_iff {} (by simp) hsettled rfl with ⟨happlied, hhalted⟩
  have hentry : entry.2 = .applied := happlied.mpr (by simp)
  exact ⟨hsettled, hentry, hhalted hentry rfl (by simp [appliedIn])⟩

/-- An update enqueued with the largest sequence makes the halt pushed after it stale. -/
theorem pushed_halt_lost :
    let update : GuardrailUpdate := ⟨maxSequence, .setCancelOnly, false, {}, emptySymbol⟩
    let run := of {} [.enqueue update, .push (.setGlobalHalt true), .applyNext, .applyNext]
    run.settled.map (fun entry => (entry.1.pushed, entry.1.update.kind, entry.2)) =
        [(false, .setCancelOnly, .applied), (true, .setGlobalHalt, .droppedStale)] ∧
      run.state.globalHalted = false := by
  decide

end ControlRun

end Fgep.Gate
