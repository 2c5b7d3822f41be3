import GatedExecution.Gate.GuardrailControl
import GatedExecution.Lib.Histories
import GatedExecution.Lib.Runs
import GatedExecution.Lib.WrappingCounter

/-!
# Runs of the guardrail control path

A run keeps, beside the control path and the guardrail state, what has become of every
staged update so far: applied, dropped as stale or discarded by {lit}`clear_pending`, in
order of staging.  The last applied sequence is the largest one applied, so it alone
decides every update that is reached.

Main results:

- Theorem {lit}`step_eq_drain`: {lit}`apply_all` is {lit}`apply_next` until nothing is
  pending.
- Theorem {lit}`execute_fields`: the fields of the state after an update.
- Theorem {lit}`foldl_execute_holdsLastUpdates`: the fields after any list of updates.
- Theorem {lit}`step_runInv`: one operation keeps the account of the run.
- Theorem {lit}`control_run`: the account of whole runs.
-/

namespace Fgep.Gate

open Fgep.Core Histories Ouch Runs WrappingCounter

/-! ## What updates leave in the state -/

namespace GuardrailUpdate

/-- What an update stores if it is of a given kind. -/
def stores {β : Type} (kind : GuardrailUpdateKind) (value : GuardrailUpdate → β)
    (update : GuardrailUpdate) : Option β :=
  if update.kind = kind then some (value update) else none

theorem stores_eq_some_iff {β : Type} {kind : GuardrailUpdateKind} {value : GuardrailUpdate → β}
    {update : GuardrailUpdate} {stored : β} :
    update.stores kind value = some stored ↔ update.kind = kind ∧ value update = stored := by
  rw [stores, Option.ite_none_right_eq_some, Option.some_inj]

/-- What an update makes of the override of a symbol. -/
def overrides (symbol : Symbol) (update : GuardrailUpdate) : Option (Option Bool) :=
  match update.kind with
  | .enableSymbol => if symbol = update.symbol then some (some true) else none
  | .disableSymbol => if symbol = update.symbol then some (some false) else none
  | .clearSymbolOverrides => some none
  | _ => none

theorem execute_fields (update : GuardrailUpdate) (state : GuardrailState) :
    (update.execute state).globalHalted =
      (update.stores .setGlobalHalt boolValue).getD state.globalHalted ∧
    (update.execute state).cancelOnly =
      (update.stores .setCancelOnly boolValue).getD state.cancelOnly ∧
    (update.execute state).defaultSymbolEnabled =
      (update.stores .setDefaultSymbolEnabled boolValue).getD state.defaultSymbolEnabled ∧
    (update.execute state).limits =
      (update.stores .setLimits GuardrailUpdate.limits).getD state.limits := by
  unfold execute stores
  cases update.kind <;> exact ⟨rfl, rfl, rfl, rfl⟩

theorem execute_symbolOverride (symbol : Symbol) (state : GuardrailState)
    (update : GuardrailUpdate) :
    (update.execute state).symbolOverride symbol =
      (update.overrides symbol).getD (state.symbolOverride symbol) := by
  unfold execute overrides
  cases update.kind with
  | enableSymbol =>
      by_cases hsymbol : symbol = update.symbol <;>
        simp [GuardrailState.symbolOverride, GuardrailState.enableSymbol, hsymbol]
  | disableSymbol =>
      by_cases hsymbol : symbol = update.symbol <;>
        simp [GuardrailState.symbolOverride, GuardrailState.disableSymbol, hsymbol]
  | clearSymbolOverrides =>
      simp [GuardrailState.symbolOverride, GuardrailState.clearSymbolOverrides]
  | setGlobalHalt | setCancelOnly | setDefaultSymbolEnabled | setLimits => rfl

end GuardrailUpdate

/-- Every field holds what the last update for it stored, or what it started with. -/
structure HoldsLastUpdates (start : GuardrailState) (updates : List GuardrailUpdate)
    (state : GuardrailState) : Prop where
  globalHalted : state.globalHalted =
    (latest (GuardrailUpdate.stores .setGlobalHalt GuardrailUpdate.boolValue) updates).getD
      start.globalHalted
  cancelOnly : state.cancelOnly =
    (latest (GuardrailUpdate.stores .setCancelOnly GuardrailUpdate.boolValue) updates).getD
      start.cancelOnly
  defaultSymbolEnabled : state.defaultSymbolEnabled =
    (latest (GuardrailUpdate.stores .setDefaultSymbolEnabled GuardrailUpdate.boolValue)
      updates).getD start.defaultSymbolEnabled
  limits : state.limits =
    (latest (GuardrailUpdate.stores .setLimits GuardrailUpdate.limits) updates).getD start.limits
  isSymbolEnabled : ∀ symbol, state.isSymbolEnabled symbol =
    ((latest (GuardrailUpdate.overrides symbol) updates).getD
      (start.symbolOverride symbol)).getD state.defaultSymbolEnabled

theorem foldl_execute_holdsLastUpdates (start : GuardrailState) (updates : List GuardrailUpdate) :
    HoldsLastUpdates start updates
      (updates.foldl (fun state update => update.execute state) start) where
  globalHalted := foldl_field_eq_latest GuardrailState.globalHalted
    (fun state update => (update.execute_fields state).1) start updates
  cancelOnly := foldl_field_eq_latest GuardrailState.cancelOnly
    (fun state update => (update.execute_fields state).2.1) start updates
  defaultSymbolEnabled := foldl_field_eq_latest GuardrailState.defaultSymbolEnabled
    (fun state update => (update.execute_fields state).2.2.1) start updates
  limits := foldl_field_eq_latest GuardrailState.limits
    (fun state update => (update.execute_fields state).2.2.2) start updates
  isSymbolEnabled := by
    intro symbol
    have hoverride := foldl_field_eq_latest (fun state => state.symbolOverride symbol)
      (GuardrailUpdate.execute_symbolOverride symbol) start updates
    rw [GuardrailState.isSymbolEnabled_eq, hoverride]

/-! ## Runs -/

/-- An update that was staged, and whether a push made it. -/
structure StagedUpdate where
  update : GuardrailUpdate
  pushed : Bool

/-- What became of a staged update. -/
inductive Fate where
  | applied
  | droppedStale
  | discarded
deriving DecidableEq

inductive ControlOp where
  | push (call : PushCall)
  | enqueue (update : GuardrailUpdate)
  | applyNext
  | applyAll
  | clearPending

/-- A control path, the state it updates, the updates that have left the queue with
their fates, and those that wait in it. -/
structure ControlRun where
  path : GuardrailControlPath := {}
  state : GuardrailState
  settled : List (StagedUpdate × Fate) := []
  waiting : List StagedUpdate := []

/-- The updates that were applied, in order. -/
def appliedIn (settled : List (StagedUpdate × Fate)) : List GuardrailUpdate :=
  (settled.filter (fun entry => entry.2 = .applied)).map (fun entry => entry.1.update)

/-- How many updates met a fate. -/
def countFate (fate : Fate) (settled : List (StagedUpdate × Fate)) : Nat :=
  settled.countP (fun entry => entry.2 = fate)

namespace ControlRun

def staged (run : ControlRun) : List StagedUpdate :=
  run.settled.map Prod.fst ++ run.waiting

def applied (run : ControlRun) : List GuardrailUpdate :=
  appliedIn run.settled

def stage (run : ControlRun) (path : GuardrailControlPath) (update : GuardrailUpdate)
    (pushed : Bool) : ControlRun :=
  { run with path := path, waiting := run.waiting ++ [⟨update, pushed⟩] }

/-- One {lit}`apply_next`. -/
def reachNext (run : ControlRun) : ControlRun :=
  let outcome := run.path.applyNext run.state
  let fate := if outcome.1.applied then Fate.applied else .droppedStale
  { path := outcome.2.1
    state := outcome.2.2
    settled := run.settled ++ run.waiting.head?.toList.map (fun entry => (entry, fate))
    waiting := run.waiting.tail }

/-- As many as are waiting. -/
def drain (run : ControlRun) : ControlRun :=
  reachNext^[run.waiting.length] run

def step (run : ControlRun) : ControlOp → ControlRun
  | .push call => run.stage (run.path.push call).2 (run.path.push call).1 true
  | .enqueue update => run.stage (run.path.enqueue update) update false
  | .applyNext => run.reachNext
  | .applyAll =>
      let outcome := run.path.applyAll run.state
      { path := outcome.2.1
        state := outcome.2.2
        settled := run.drain.settled
        waiting := [] }
  | .clearPending =>
      { run with
        path := run.path.clearPending
        settled := run.settled ++ run.waiting.map (fun entry => (entry, .discarded))
        waiting := [] }

/-- The run of some operations on a new path and a state. -/
def of (state : GuardrailState) (ops : List ControlOp) : ControlRun :=
  ops.foldl step { state := state }

end ControlRun

/-! ## Lists of fates -/

theorem appliedIn_append (first second : List (StagedUpdate × Fate)) :
    appliedIn (first ++ second) = appliedIn first ++ appliedIn second := by
  rw [appliedIn, List.filter_append, List.map_append]
  rfl

theorem appliedIn_cons_applied {entry : StagedUpdate × Fate} (happlied : entry.2 = .applied)
    (rest : List (StagedUpdate × Fate)) :
    appliedIn (entry :: rest) = entry.1.update :: appliedIn rest := by
  rw [appliedIn, List.filter_cons_of_pos (by simpa using happlied), List.map_cons]
  rfl

theorem appliedIn_discarded (entries : List StagedUpdate) :
    appliedIn (entries.map (fun entry => (entry, .discarded))) = [] := by
  induction entries with
  | nil => rfl
  | cons entry rest ih => exact ih

theorem countFate_append (fate : Fate) (first second : List (StagedUpdate × Fate)) :
    countFate fate (first ++ second) = countFate fate first + countFate fate second :=
  List.countP_append

theorem countFate_discarded {fate : Fate} (hne : fate ≠ .discarded)
    (entries : List StagedUpdate) :
    countFate fate (entries.map (fun entry => (entry, .discarded))) = 0 := by
  induction entries with
  | nil => rfl
  | cons entry rest ih =>
      rw [List.map_cons, countFate, List.countP_cons_of_neg]
      · exact ih
      · simpa using hne.symm

theorem length_appliedIn (settled : List (StagedUpdate × Fate)) :
    (appliedIn settled).length = countFate .applied settled := by
  rw [appliedIn, List.length_map, countFate, List.countP_eq_length_filter]

/-- Every update that has left the queue met one of three fates. -/
theorem length_eq_countFate (settled : List (StagedUpdate × Fate)) :
    settled.length = countFate .applied settled + countFate .droppedStale settled +
      countFate .discarded settled := by
  induction settled with
  | nil => rfl
  | cons entry rest ih =>
      rcases entry with ⟨staged, _ | _ | _⟩
      all_goals
        simp only [countFate, List.countP_cons, List.length_cons, decide_true, if_true,
          reduceCtorEq, decide_false, Bool.false_eq_true, if_false] at ih ⊢
        omega

/-- The last of an increasing list bounds it. -/
theorem getLastD_lt_iff {sequences : List UInt64} (hincreasing : sequences.Pairwise (· < ·))
    (bound : UInt64) :
    sequences.getLastD 0 < bound ↔ 0 < bound ∧ ∀ sequence ∈ sequences, sequence < bound := by
  induction sequences using List.reverseRecOn with
  | nil => exact ⟨fun hlt => ⟨hlt, nofun⟩, fun h => h.1⟩
  | append_singleton front last ih =>
      rw [List.pairwise_append] at hincreasing
      rw [List.getLastD_concat]
      constructor
      · intro hlt
        have hpos : 0 < bound := UInt64.lt_of_le_of_lt (UInt64.zero_le) hlt
        refine ⟨hpos, ?_⟩
        intro sequence hmem
        rcases List.mem_append.mp hmem with hfront | hlast
        · exact UInt64.lt_trans (hincreasing.2.2 sequence hfront last List.mem_cons_self) hlt
        · rwa [List.mem_singleton.mp hlast]
      · rintro ⟨-, hall⟩
        exact hall last (List.mem_append_right _ List.mem_cons_self)

namespace ControlRun

/-! ## Reaching updates -/

section Reach

variable {run : ControlRun}

theorem staged_stage (run : ControlRun) (path : GuardrailControlPath) (update : GuardrailUpdate)
    (pushed : Bool) : (run.stage path update pushed).staged = run.staged ++ [⟨update, pushed⟩] :=
  (List.append_assoc _ _ _).symm

theorem staged_reachNext (run : ControlRun) : run.reachNext.staged = run.staged := by
  rw [reachNext, staged, staged]
  cases run.waiting with
  | nil => simp
  | cons entry rest => simp

theorem staged_clearPending (run : ControlRun) : (run.step .clearPending).staged = run.staged := by
  rw [step, staged, staged, List.map_append, List.map_map, List.append_nil]
  exact congrArg (fun back => run.settled.map Prod.fst ++ back) (List.map_id _)

/-- What reaching one update keeps, reaching all keeps. -/
theorem drain_invariant {Inv : ControlRun → Prop}
    (hstep : ∀ run, Inv run → Inv run.reachNext) (hinv : Inv run) : Inv run.drain := by
  have hiterate : ∀ count, Inv (reachNext^[count] run) := by
    intro count
    induction count with
    | zero => exact hinv
    | succ count ih =>
        rw [Function.iterate_succ_apply']
        exact hstep _ ih
  exact hiterate run.waiting.length

/-- The queue of the path is what waits. -/
def Queued (run : ControlRun) : Prop :=
  run.path.pending = run.waiting.map (fun entry => entry.update)

theorem reachNext_nil (hqueued : run.Queued) (hwaiting : run.waiting = []) :
    run.reachNext = run := by
  have hpending : run.path.pending = [] := by rw [hqueued, hwaiting, List.map_nil]
  have hnone := GuardrailControlPath.applyNext_nil hpending run.state
  rw [reachNext, hnone, hwaiting]
  cases run
  simp_all

theorem reachNext_stale (hqueued : run.Queued) {entry : StagedUpdate}
    {rest : List StagedUpdate} (hwaiting : run.waiting = entry :: rest)
    (hstale : entry.update.sequence ≤ run.path.stats.lastAppliedSequence) :
    run.reachNext =
      { path :=
          { run.path with
            pending := rest.map (fun entry => entry.update)
            stats := { run.path.stats with
              droppedStaleCount := run.path.stats.droppedStaleCount + 1 } }
        state := run.state
        settled := run.settled ++ [(entry, .droppedStale)]
        waiting := rest } := by
  have hpending : run.path.pending =
      entry.update :: rest.map (fun entry => entry.update) := by
    rw [hqueued, hwaiting, List.map_cons]
  rw [reachNext, GuardrailControlPath.applyNext_cons hpending,
    GuardrailControlPath.applyUpdate, if_pos hstale, hwaiting]
  rfl

theorem reachNext_applied (hqueued : run.Queued) {entry : StagedUpdate}
    {rest : List StagedUpdate} (hwaiting : run.waiting = entry :: rest)
    (hfresh : run.path.stats.lastAppliedSequence < entry.update.sequence) :
    run.reachNext =
      { path :=
          { run.path with
            pending := rest.map (fun entry => entry.update)
            stats := { run.path.stats with
              appliedCount := run.path.stats.appliedCount + 1
              lastAppliedSequence := entry.update.sequence } }
        state := entry.update.execute run.state
        settled := run.settled ++ [(entry, .applied)]
        waiting := rest } := by
  have hpending : run.path.pending =
      entry.update :: rest.map (fun entry => entry.update) := by
    rw [hqueued, hwaiting, List.map_cons]
  rw [reachNext, GuardrailControlPath.applyNext_cons hpending,
    GuardrailControlPath.applyUpdate, if_neg (UInt64.not_le.mpr hfresh), hwaiting]
  rfl

end Reach

/-! ## The account of a run -/

/-- An update that is reached is applied exactly if its number is above zero and above
all numbers applied before. -/
def FateExplained (before : List (StagedUpdate × Fate)) (entry : StagedUpdate × Fate) : Prop :=
  entry.2 ≠ .discarded →
    (entry.2 = .applied ↔ 0 < entry.1.update.sequence ∧
      ∀ update ∈ appliedIn before, update.sequence < entry.1.update.sequence)

structure RunInv (start : GuardrailState) (run : ControlRun) : Prop where
  queued : run.Queued
  state : run.state = run.applied.foldl (fun state update => update.execute state) start
  increasing : (run.applied.map (fun update => update.sequence)).Pairwise (· < ·)
  last : run.path.stats.lastAppliedSequence =
    (run.applied.map (fun update => update.sequence)).getLastD 0
  fates : Each FateExplained run.settled
  stagedCount : run.path.stats.stagedCount = UInt64.ofNat run.staged.length
  appliedCount : run.path.stats.appliedCount = UInt64.ofNat (countFate .applied run.settled)
  droppedStaleCount : run.path.stats.droppedStaleCount =
    UInt64.ofNat (countFate .droppedStale run.settled)

section Step

variable {start : GuardrailState} {run : ControlRun}

theorem RunInv.holdsLastUpdates (hinv : RunInv start run) :
    HoldsLastUpdates start run.applied run.state := by
  rw [hinv.state]
  exact foldl_execute_holdsLastUpdates start run.applied

theorem initial_runInv (start : GuardrailState) : RunInv start { state := start } where
  queued := rfl
  state := rfl
  increasing := List.Pairwise.nil
  last := rfl
  fates := each_nil
  stagedCount := rfl
  appliedCount := rfl
  droppedStaleCount := rfl

theorem RunInv.last_lt_iff (hinv : RunInv start run) (bound : UInt64) :
    run.path.stats.lastAppliedSequence < bound ↔
      0 < bound ∧ ∀ update ∈ run.applied, update.sequence < bound := by
  rw [hinv.last, getLastD_lt_iff hinv.increasing, List.forall_mem_map]

theorem stage_runInv (hinv : RunInv start run) {path : GuardrailControlPath}
    (update : GuardrailUpdate) (pushed : Bool)
    (hpending : path.pending = run.path.pending ++ [update])
    (hstats : path.stats =
      { run.path.stats with stagedCount := run.path.stats.stagedCount + 1 }) :
    RunInv start (run.stage path update pushed) where
  queued := by
    rw [Queued, stage, hpending, hinv.queued, List.map_append]
    rfl
  state := hinv.state
  increasing := hinv.increasing
  last := by
    rw [stage, hstats]
    exact hinv.last
  fates := hinv.fates
  stagedCount := by
    rw [staged_stage, List.length_append, List.length_singleton, ← ofNat_add_one,
      ← hinv.stagedCount, stage, hstats]
  appliedCount := by
    rw [stage, hstats]
    exact hinv.appliedCount
  droppedStaleCount := by
    rw [stage, hstats]
    exact hinv.droppedStaleCount

theorem stale_runInv (hinv : RunInv start run) {entry : StagedUpdate}
    {rest : List StagedUpdate} (hwaiting : run.waiting = entry :: rest)
    (hstale : entry.update.sequence ≤ run.path.stats.lastAppliedSequence) :
    RunInv start run.reachNext := by
  have happlied : appliedIn (run.settled ++ [(entry, .droppedStale)]) = run.applied := by
    rw [appliedIn_append]
    exact List.append_nil _
  have hstaged := run.staged_reachNext
  rw [reachNext_stale hinv.queued hwaiting hstale] at hstaged ⊢
  exact {
    queued := rfl
    state := by
      rw [applied, happlied]
      exact hinv.state
    increasing := by
      rw [applied, happlied]
      exact hinv.increasing
    last := by
      rw [applied, happlied]
      exact hinv.last
    fates := by
      apply each_concat hinv.fates
      intro _
      have hnot : ¬run.path.stats.lastAppliedSequence < entry.update.sequence :=
        UInt64.not_lt.mpr hstale
      rw [hinv.last_lt_iff] at hnot
      exact iff_of_false nofun hnot
    stagedCount := by
      rw [hstaged]
      exact hinv.stagedCount
    appliedCount := by
      rw [countFate_append]
      exact hinv.appliedCount
    droppedStaleCount := by
      rw [countFate_append, hinv.droppedStaleCount, ofNat_add_one]
      rfl }

theorem applied_runInv (hinv : RunInv start run) {entry : StagedUpdate}
    {rest : List StagedUpdate} (hwaiting : run.waiting = entry :: rest)
    (hfresh : run.path.stats.lastAppliedSequence < entry.update.sequence) :
    RunInv start run.reachNext := by
  have happlied : appliedIn (run.settled ++ [(entry, .applied)]) =
      run.applied ++ [entry.update] := appliedIn_append _ _
  have habove := (hinv.last_lt_iff entry.update.sequence).mp hfresh
  have hstaged := run.staged_reachNext
  rw [reachNext_applied hinv.queued hwaiting hfresh] at hstaged ⊢
  exact {
    queued := rfl
    state := by
      rw [applied, happlied, List.foldl_append, ← hinv.state]
      rfl
    increasing := by
      rw [applied, happlied, List.map_append, List.pairwise_append]
      refine ⟨hinv.increasing, List.pairwise_singleton _ _, ?_⟩
      intro sequence hmem other hother
      rw [List.mem_singleton.mp hother]
      rcases List.mem_map.mp hmem with ⟨update, hupdate, rfl⟩
      exact habove.2 update hupdate
    last := by
      rw [applied, happlied, List.map_append, List.map_singleton, List.getLastD_concat]
    fates := by
      apply each_concat hinv.fates
      intro _
      exact iff_of_true rfl habove
    stagedCount := by
      rw [hstaged]
      exact hinv.stagedCount
    appliedCount := by
      rw [countFate_append, hinv.appliedCount, ofNat_add_one]
      rfl
    droppedStaleCount := by
      rw [countFate_append]
      exact hinv.droppedStaleCount }

theorem reachNext_runInv (hinv : RunInv start run) : RunInv start run.reachNext := by
  cases hwaiting : run.waiting with
  | nil =>
      rw [reachNext_nil hinv.queued hwaiting]
      exact hinv
  | cons entry rest =>
      by_cases hstale : entry.update.sequence ≤ run.path.stats.lastAppliedSequence
      · exact stale_runInv hinv hwaiting hstale
      · exact applied_runInv hinv hwaiting (UInt64.not_le.mp hstale)

theorem clearPending_runInv (hinv : RunInv start run) :
    RunInv start (run.step .clearPending) := by
  have happlied : appliedIn (run.settled ++ run.waiting.map (fun entry => (entry, .discarded))) =
      run.applied := by
    rw [appliedIn_append, appliedIn_discarded]
    exact List.append_nil _
  exact {
    queued := rfl
    state := by
      rw [step, applied, happlied]
      exact hinv.state
    increasing := by
      rw [step, applied, happlied]
      exact hinv.increasing
    last := by
      rw [step, applied, happlied]
      exact hinv.last
    fates := by
      apply each_append hinv.fates
      apply each_map
      intro before entry after _ hreached
      exact absurd rfl hreached
    stagedCount := by
      rw [staged_clearPending]
      exact hinv.stagedCount
    appliedCount := by
      have hother : Fate.applied ≠ .discarded := nofun
      rw [step, countFate_append, countFate_discarded hother, Nat.add_zero]
      exact hinv.appliedCount
    droppedStaleCount := by
      have hother : Fate.droppedStale ≠ .discarded := nofun
      rw [step, countFate_append, countFate_discarded hother, Nat.add_zero]
      exact hinv.droppedStaleCount }

/-! ## Applying all -/

theorem reachNext_queued (hqueued : run.Queued) : run.reachNext.Queued := by
  rw [Queued, reachNext, GuardrailControlPath.applyNext_pending, hqueued, List.map_tail]

/-- The loop settles what waits, and counts the updates it applies. -/
theorem applyLoop_eq (hqueued : run.Queued) (appliedCount : UInt64) :
    ∃ new, run.drain.settled = run.settled ++ new ∧ run.drain.waiting = [] ∧
      run.path.applyLoop run.state appliedCount =
        (appliedCount + UInt64.ofNat (appliedIn new).length, run.drain.path, run.drain.state) := by
  induction hlength : run.waiting.length generalizing run appliedCount with
  | zero =>
      have hwaiting := List.eq_nil_of_length_eq_zero hlength
      have hpending : run.path.pending = [] := by rw [hqueued, hwaiting, List.map_nil]
      have hdrain : run.drain = run := by rw [drain, hlength, Function.iterate_zero_apply]
      refine ⟨[], ?_, ?_, ?_⟩
      · rw [hdrain, List.append_nil]
      · rw [hdrain, hwaiting]
      · rw [hdrain, GuardrailControlPath.applyLoop, dif_pos hpending]
        exact congrArg (fun count => (count, run.path, run.state)) (UInt64.add_zero _).symm
  | succ count ih =>
      rcases List.exists_cons_of_length_eq_add_one hlength with ⟨entry, rest, hwaiting⟩
      have hrest : run.reachNext.waiting.length = count := by
        rw [reachNext, List.length_tail, hlength, Nat.add_sub_cancel]
      have hdrain : run.drain = run.reachNext.drain := by
        rw [drain, drain, hlength, hrest, Function.iterate_succ_apply]
      have hpending : run.path.pending ≠ [] := by
        rw [hqueued, hwaiting, List.map_cons]
        exact List.cons_ne_nil _ _
      rcases ih (reachNext_queued hqueued)
        (if (run.path.applyNext run.state).1.applied then appliedCount + 1 else appliedCount)
        hrest with ⟨new, hsettled, hnone, hloop⟩
      have hfirst : run.reachNext.settled = run.settled ++ [(entry,
          if (run.path.applyNext run.state).1.applied then .applied else .droppedStale)] := by
        rw [reachNext, hwaiting]
        rfl
      refine ⟨(entry, if (run.path.applyNext run.state).1.applied then .applied
        else .droppedStale) :: new, ?_, ?_, ?_⟩
      · rw [hdrain, hsettled, hfirst, List.append_assoc]
        rfl
      · rw [hdrain]
        exact hnone
      · rw [GuardrailControlPath.applyLoop, dif_neg hpending, hdrain]
        change run.reachNext.path.applyLoop run.reachNext.state _ = _
        rw [hloop]
        refine congrArg (fun total => (total, run.reachNext.drain.path, _)) ?_
        cases (run.path.applyNext run.state).1.applied with
        | true =>
            change appliedCount + 1 + UInt64.ofNat (appliedIn new).length =
              appliedCount + UInt64.ofNat ((appliedIn new).length + 1)
            rw [← ofNat_add_one, UInt64.add_assoc, UInt64.add_comm 1]
        | false => rfl

theorem step_eq_drain (hqueued : run.Queued) : run.step .applyAll = run.drain := by
  rcases applyLoop_eq hqueued 0 with ⟨new, -, hnone, hloop⟩
  rw [step, GuardrailControlPath.applyAll, hloop, ← hnone]

theorem drain_runInv (hinv : RunInv start run) : RunInv start run.drain :=
  drain_invariant (fun _ => reachNext_runInv) hinv

theorem step_runInv (hinv : RunInv start run) (op : ControlOp) : RunInv start (run.step op) := by
  cases op with
  | push call =>
      have hpush := (run.path.push_eq call).2
      exact stage_runInv hinv _ true (by rw [hpush]) (by rw [hpush])
  | enqueue update => exact stage_runInv hinv update false rfl rfl
  | applyNext => exact reachNext_runInv hinv
  | applyAll =>
      rw [step_eq_drain hinv.queued]
      exact drain_runInv hinv
  | clearPending => exact clearPending_runInv hinv

end Step

/-! ## Whole runs -/

theorem of_runInv (start : GuardrailState) (ops : List ControlOp) :
    RunInv start (of start ops) := by
  have hstep : ∀ (run : ControlRun) (op : ControlOp), True → RunInv start run →
      RunInv start (run.step op) := fun _ op _ hinv => step_runInv hinv op
  exact foldl_invariant hstep (initial_runInv start) (fun _ _ => trivial)

/-- What became of every staged update, and what the applied ones left in the state, after
any operations. -/
theorem control_run (start : GuardrailState) (ops : List ControlOp) :
    let run := of start ops
    run.staged.map (fun entry => entry.update) =
      run.settled.map (fun entry => entry.1.update) ++ run.path.pending ∧
    (∀ before entry after, run.settled = before ++ entry :: after → entry.2 ≠ .discarded →
      (entry.2 = .applied ↔ 0 < entry.1.update.sequence ∧
        ∀ update ∈ appliedIn before, update.sequence < entry.1.update.sequence)) ∧
    run.state = run.applied.foldl (fun state update => update.execute state) start ∧
    HoldsLastUpdates start run.applied run.state ∧
    (run.applied.map (fun update => update.sequence)).Pairwise (· < ·) ∧
    run.path.stats.lastAppliedSequence =
      (run.applied.map (fun update => update.sequence)).getLastD 0 ∧
    (∃ new, (run.step .applyAll).settled = run.settled ++ new ∧
      (run.step .applyAll).path.pending = [] ∧
      (run.path.applyAll run.state).1 = UInt64.ofNat (appliedIn new).length) ∧
    run.staged.length = run.applied.length + countFate .droppedStale run.settled +
      run.path.pending.length + countFate .discarded run.settled ∧
    run.path.stats.stagedCount = UInt64.ofNat run.staged.length ∧
    run.path.stats.appliedCount = UInt64.ofNat run.applied.length ∧
    run.path.stats.droppedStaleCount = UInt64.ofNat (countFate .droppedStale run.settled) := by
  intro run
  have hinv : RunInv start run := of_runInv start ops
  refine ⟨?_, hinv.fates, hinv.state, hinv.holdsLastUpdates, hinv.increasing, hinv.last, ?_, ?_,
    hinv.stagedCount, ?_, hinv.droppedStaleCount⟩
  · rw [staged, List.map_append, List.map_map, hinv.queued]
    rfl
  · rcases applyLoop_eq hinv.queued 0 with ⟨new, hsettled, hnone, hloop⟩
    refine ⟨new, ?_, ?_, ?_⟩
    · rw [step_eq_drain hinv.queued]
      exact hsettled
    · rw [step_eq_drain hinv.queued, (drain_runInv hinv).queued, hnone, List.map_nil]
    · rw [GuardrailControlPath.applyAll, hloop]
      exact UInt64.zero_add _
  · have hfates := length_eq_countFate run.settled
    rw [applied, length_appliedIn, staged, List.length_append, List.length_map, hinv.queued,
      List.length_map]
    omega
  · rw [applied, length_appliedIn]
    exact hinv.appliedCount

end ControlRun

end Fgep.Gate
