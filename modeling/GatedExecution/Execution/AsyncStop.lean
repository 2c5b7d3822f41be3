import GatedExecution.Execution.AsyncSafety

/-!
# Stopping the asynchronous backend

Once the client has set the flag it only waits, so nothing enters the queue any more.
The worker's remaining steps are bounded by a rank: each item still queued is worth
one round of the loop, and within a round every step counts down.

Main results:

- Theorem {lit}`workerStep_rank`: a step of the worker lowers the rank.
- Theorem {lit}`stop_returns`: so {lit}`stop` ends in every schedule that gives the
  worker enough steps.
- Theorem {lit}`stop_delivers_accepted`: what holds when {lit}`stop` returns.
-/

namespace Fgep.Execution

open Wire Ouch Fgep.Core Runs

variable {capacity : RingCapacity} {limit : PayloadLimit} {backend : ExecutionBackend}

/-! ## The rank of a pop -/

section Poll

variable {α : Type} {ring : SpscRing α capacity} {pc : PopPc α}

/-- A pop that will find the ring empty goes back to the head of the loop, at 8. -/
def pollRank (ring : SpscRing α capacity) : PopPc α → Nat
  | .idle => if ring.tail = ring.head then 11 else 5
  | .loadHead tail => if tail = ring.head then 10 else 4
  | .updateCachedHead tail head => if tail = head then 9 else 3
  | .readSlot _ => 2
  | .storeTail _ _ => 1

theorem popStep_pollRank_lt (hgoes : (popStep ring pc).returned = none) :
    pollRank (popStep ring pc).ring (popStep ring pc).pc < pollRank ring pc := by
  cases pc with
  | idle =>
      rw [popStep]
      split
      · unfold pollRank
        dsimp only
        split <;> decide
      · unfold pollRank
        dsimp only
        split <;> decide
  | loadHead tail =>
      rw [popStep]
      unfold pollRank
      dsimp only
      split <;> decide
  | updateCachedHead tail head =>
      rw [popStep] at hgoes ⊢
      dsimp only at hgoes ⊢
      split at hgoes
      · cases hgoes
      · rename_i hne
        rw [if_neg hne]
        unfold pollRank
        dsimp only
        rw [if_neg hne]
        decide
  | readSlot tail => exact Nat.lt_succ_self _
  | storeTail tail out => cases hgoes

theorem pollRank_of_returned_none (hreturned : (popStep ring pc).returned = some none) :
    pollRank ring pc = 9 := by
  rcases popStep_returned hreturned with ⟨value, tail, hsome, -⟩ | ⟨-, index, rfl⟩
  · cases hsome
  · exact if_pos rfl

end Poll

/-- A move of the worker. -/
def AsyncMove.isWorker : AsyncMove → Bool
  | .worker => true
  | .client _ => false

namespace AsyncState

/-! ## The rank of the worker -/

def phase (state : AsyncState capacity limit backend) : Nat :=
  match state.worker with
  | .notJoinable => 0
  | .finished => 0
  | .clearRunning => 1
  | .polling => pollRank state.ring.ring state.ring.pop
  | .loadHead _ => 6
  | .loadTail => 7
  | .loadStop => 8
  | .storeRunning => 9
  | .recording _ => 9
  | .submitting _ => 10

def rank (state : AsyncState capacity limit backend) : Nat :=
  12 * state.ring.contents.length + state.phase

section Finish

variable {start : backend.State} {base : CoreStats} {state : AsyncState capacity limit backend}

theorem finished_of_rank_eq_zero (hrank : state.rank = 0)
    (hjoinable : state.worker ≠ .notJoinable) : state.worker = .finished := by
  have hphase : state.phase = 0 := Nat.eq_zero_of_add_eq_zero_left hrank
  unfold phase at hphase
  split at hphase
  case h_1 hworker => exact absurd hworker hjoinable
  case h_2 hworker => exact hworker
  case h_4 =>
    unfold pollRank at hphase
    split at hphase
    all_goals first | cases hphase | (split at hphase <;> cases hphase)
  all_goals cases hphase

/-- A move inside a round: the queue is the same and the phase lower. -/
theorem rank_le_of_phase_lt {after : AsyncState capacity limit backend}
    (hcontents : after.ring.contents = state.ring.contents) (hphase : after.phase < state.phase) :
    after.rank ≤ state.rank - 1 := by
  unfold rank
  rw [hcontents]
  omega

theorem polling_rank (hinv : AsyncInv start base state) (hworker : state.worker = .polling) :
    state.workerStep.rank ≤ state.rank - 1 := by
  have hbefore : state.phase = pollRank state.ring.ring state.ring.pop := by
    rw [phase, hworker]
  rcases hreturned : (popStep state.ring.ring state.ring.pop).returned with _ | _ | item
  · have hcontents : (state.ring.step .consumer).contents = state.ring.contents :=
      SpscState.contents_of_nothing_popped (by rw [hreturned]; rfl)
    have hlower := popStep_pollRank_lt hreturned
    rw [workerStep, hworker, hreturned]
    apply rank_le_of_phase_lt hcontents
    rw [hbefore]
    exact hlower
  · have hcontents : (state.ring.step .consumer).contents = state.ring.contents :=
      SpscState.contents_of_nothing_popped (by rw [hreturned]; rfl)
    have hnine := pollRank_of_returned_none hreturned
    rw [workerStep, hworker, hreturned]
    apply rank_le_of_phase_lt hcontents
    rw [hbefore, hnine]
    exact Nat.lt_succ_self 8
  · -- The round is paid for by the item that leaves the queue.
    have hcontents := congrArg List.length (hinv.reliable.contents_eq_cons hreturned)
    rw [List.length_cons] at hcontents
    rw [workerStep, hworker, hreturned]
    unfold rank
    rw [hcontents, phase]
    dsimp only
    omega

/-- Outside a pop the worker does not touch the ring. -/
theorem workerStep_ring (hworker : state.worker ≠ .polling) :
    state.workerStep.ring = state.ring := by
  unfold workerStep
  split
  case h_6 hpolling => exact absurd hpolling hworker
  all_goals rfl

theorem loadHead_phase_lt (hinv : AsyncInv start base state) {tail : UInt64}
    (hworker : state.worker = .loadHead tail) : state.workerStep.phase < 6 := by
  have hpop := hinv.pop
  have hexit := hinv.exit
  rw [hworker] at hpop hexit
  rcases hexit with ⟨-, rfl⟩
  rw [workerStep, hworker]
  dsimp only
  split
  · exact (by decide : 1 < 6)
  · -- Something is queued, so the pop that starts now will take it.
    rename_i hsome
    have hne : state.ring.ring.tail ≠ state.ring.ring.head := by
      intro heq
      rw [heq, UInt64.sub_self] at hsome
      exact hsome rfl
    change pollRank state.ring.ring state.ring.pop < 6
    rw [hpop, pollRank, if_neg hne]
    decide

theorem workerStep_phase_lt (hinv : AsyncInv start base state)
    (hjoinable : state.worker ≠ .notJoinable) (hstop : state.stopRequested = true)
    (hpolling : state.worker ≠ .polling) (hfinished : state.worker ≠ .finished) :
    state.workerStep.phase < state.phase := by
  cases hworker : state.worker with
  | notJoinable => exact absurd hworker hjoinable
  | storeRunning =>
      rw [phase, phase, workerStep, hworker]
      exact Nat.lt_succ_self 8
  | loadStop =>
      rw [phase, phase, workerStep, hworker, hstop]
      exact Nat.lt_succ_self 7
  | loadTail =>
      rw [phase, phase, workerStep, hworker]
      exact Nat.lt_succ_self 6
  | loadHead tail =>
      have hbefore : state.phase = 6 := by rw [phase, hworker]
      rw [hbefore]
      exact loadHead_phase_lt hinv hworker
  | polling => exact absurd hworker hpolling
  | submitting item =>
      rw [phase, phase, workerStep, hworker]
      exact Nat.lt_succ_self 9
  | recording result =>
      rw [phase, phase, workerStep, hworker]
      exact Nat.lt_succ_self 8
  | clearRunning =>
      rw [phase, phase, workerStep, hworker]
      exact Nat.lt_succ_self 0
  | finished => exact absurd hworker hfinished

/-- Once the flag is set, a step of the worker lowers the rank. -/
theorem workerStep_rank (hinv : AsyncInv start base state)
    (hjoinable : state.worker ≠ .notJoinable) (hstop : state.stopRequested = true) :
    state.workerStep.rank ≤ state.rank - 1 := by
  by_cases hpolling : state.worker = .polling
  · exact polling_rank hinv hpolling
  by_cases hfinished : state.worker = .finished
  · have hexit := hinv.exit
    rw [hfinished] at hexit
    have hzero : state.rank = 0 := by
      rw [rank, hexit.2, phase, hfinished]
      rfl
    rw [workerStep, hfinished, hzero]
  · apply rank_le_of_phase_lt
    · rw [workerStep_ring hpolling]
    · exact workerStep_phase_lt hinv hjoinable hstop hpolling hfinished

/-! ## Waiting for the worker -/

theorem workerStep_client (state : AsyncState capacity limit backend) :
    state.workerStep.client = state.client := by
  unfold workerStep
  split <;> rfl

/-- A worker that is waited for stays joinable. -/
theorem workerStep_worker_ne (hworker : state.worker ≠ .notJoinable) :
    state.workerStep.worker ≠ .notJoinable := by
  unfold workerStep
  split
  case h_1 hnot => exact absurd hnot hworker
  case h_3 => dsimp only; split <;> nofun
  case h_5 => dsimp only; split <;> nofun
  case h_6 => dsimp only; split <;> nofun
  case h_10 => exact hworker
  all_goals nofun

theorem clientCall_joinable (hclient : state.client ≠ .joining) {call : ClientCall}
    (hjoining : (state.clientCall call).client = .joining) :
    (state.clientCall call).worker ≠ .notJoinable := by
  cases call with
  | overwrite memory => exact absurd hjoining hclient
  | submit userRefNum kind offset length =>
      rw [clientCall] at hjoining
      dsimp only at hjoining
      split at hjoining <;> cases hjoining
  | start =>
      rw [clientCall] at hjoining
      split at hjoining <;> cases hjoining
  | stop =>
      rw [clientCall] at hjoining ⊢
      split
      · rename_i hworker
        rw [hworker] at hjoining
        cases hjoining
      · rename_i hworker
        exact hworker

/-- A client waits only for a thread that it can join. -/
theorem step_joinable (hwaits : state.client = .joining → state.worker ≠ .notJoinable)
    (move : AsyncMove) (hjoining : (state.step move).client = .joining) :
    (state.step move).worker ≠ .notJoinable := by
  cases move with
  | worker => exact workerStep_worker_ne (hwaits (state.workerStep_client.symm.trans hjoining))
  | client call =>
      change (state.clientStep call).client = .joining at hjoining
      change (state.clientStep call).worker ≠ .notJoinable
      cases hclient : state.client with
      | idle =>
          rw [clientStep, hclient] at hjoining ⊢
          exact clientCall_joinable (fun heq => by cases hclient.symm.trans heq) hjoining
      | stopped =>
          rw [clientStep, hclient] at hjoining ⊢
          exact clientCall_joinable (fun heq => by cases hclient.symm.trans heq) hjoining
      | joining =>
          rw [clientStep, hclient] at hjoining ⊢
          dsimp only at hjoining ⊢
          split at hjoining
          · cases hjoining
          · exact hwaits hclient
      | pushing request item =>
          rw [clientStep, hclient] at hjoining
          dsimp only at hjoining
          split at hjoining <;> cases hjoining
      | recordQueued request => rw [clientStep, hclient] at hjoining; cases hjoining
      | recordRingFull request => rw [clientStep, hclient] at hjoining; cases hjoining
      | recordRejected request status => rw [clientStep, hclient] at hjoining; cases hjoining

/-- Inside a {lit}`stop` that waits for its worker. -/
structure Stopping (start : backend.State) (base : CoreStats)
    (state : AsyncState capacity limit backend) : Prop where
  inv : AsyncInv start base state
  client : state.client = .joining
  joinable : state.worker ≠ .notJoinable

theorem step_stopping (hstopping : Stopping start base state) (move : AsyncMove) :
    (state.step move).client = .stopped ∨
      (Stopping start base (state.step move) ∧
        (state.step move).rank ≤ state.rank - if move.isWorker then 1 else 0) := by
  have hclient := hstopping.client
  cases move with
  | client call =>
      rw [step, clientStep, hclient]
      dsimp only
      split
      · exact Or.inl rfl
      · exact Or.inr ⟨hstopping, Nat.le_refl _⟩
  | worker =>
      have hstop := hstopping.inv.stopRequested_eq hstopping.joinable
      rw [hclient] at hstop
      exact Or.inr ⟨
        { inv := workerStep_asyncInv hstopping.inv
          client := state.workerStep_client.trans hclient
          joinable := workerStep_worker_ne hstopping.joinable },
        workerStep_rank hstopping.inv hstopping.joinable hstop⟩

/-- The call ends in every schedule that gives the worker as many moves as its rank and
then the client one. -/
theorem stop_returns (hstopping : Stopping start base state) {later : List AsyncMove}
    (hmoves : state.rank ≤ later.countP AsyncMove.isWorker) (call : ClientCall) :
    ∃ done, done <+: later ++ [.client call] ∧ (state.run done).client = .stopped := by
  have hstep : ∀ (state : AsyncState capacity limit backend) (move : AsyncMove),
      Stopping start base state → (state.step move).client = .stopped ∨
        (Stopping start base (state.step move) ∧
          (state.step move).rank ≤ state.rank - if move.isWorker then 1 else 0) :=
    fun _ move hstate => step_stopping hstate move
  rcases reaches_or_rank_le (fun state => state.client = .stopped) rank AsyncMove.isWorker hstep
    later hstopping with ⟨done, hdone, hclient⟩ | ⟨hwaits, hrank⟩
  · exact ⟨done, hdone.trans (List.prefix_append _ _), hclient⟩
  · refine ⟨later ++ [.client call], List.prefix_refl _, ?_⟩
    have hzero : (later.foldl step state).rank = 0 := by omega
    have hfinished := finished_of_rank_eq_zero hzero hwaits.joinable
    rw [run, List.foldl_append, List.foldl_cons, List.foldl_nil, step, clientStep, hwaits.client,
      hfinished]

/-! ## When {lit}`stop` returns -/

/-- Nothing is left between the two threads. -/
theorem AsyncInv.received_eq (hinv : AsyncInv start base state)
    (hclient : state.client = .stopped) : state.received = state.acceptedRequests := by
  rcases hinv.joined hclient with ⟨hworker, hempty⟩
  have hpushed := hinv.pushed
  have hpopped := hinv.popped
  rw [hclient] at hpushed
  rw [hworker] at hpopped
  have hall : state.ring.popped = state.ring.pushed := hinv.reliable.popped_eq_pushed hempty
  have hreceived : state.ring.popped.map (fun item => item.request) = state.received :=
    hpopped.trans (List.append_nil _)
  have haccepted : state.ring.pushed.map (fun item => item.request) = state.acceptedRequests :=
    hpushed.trans (List.append_nil _)
  rw [← hreceived, ← haccepted, hall]

end Finish

/-- A backend that has stopped has handed on what it accepted, each request once and in order,
and its statistics account for every call; one that joins the worker stops after enough of the
worker's moves. -/
theorem stop_delivers_accepted (buffer : Fin capacity.size → BackendSubmitQueueItem limit)
    (start : backend.State) (attached : Option CoreStats) (startWorker : Bool) (memory : Bytes)
    (schedule : List AsyncMove) :
    let state := (initial buffer start attached startWorker memory :
      AsyncState capacity limit backend).run schedule
    (state.client = .stopped →
      state.received = state.acceptedRequests ∧
      state.downstream = backend.submitAll start state.acceptedRequests ∧
      state.calls = state.returned.map (fun entry => entry.1) ∧
      ∀ stats, state.stats = some stats → attached = some {} →
        stats.load .submitQueued = stats.load .backendAccepted + stats.load .backendRejected ∧
        stats.load .submitQueued + stats.load .submitRejected =
          UInt64.ofNat state.calls.length) ∧
    (state.client = .joining → ∀ later call,
      state.rank ≤ later.countP AsyncMove.isWorker →
        ∃ done, done <+: later ++ [.client call] ∧ (state.run done).client = .stopped) := by
  intro state
  have hinv : AsyncInv start (attached.getD {}) state := run_asyncInv buffer start startWorker
    memory (fun base hbase => by rw [hbase]; rfl) schedule
  refine ⟨?_, ?_⟩
  · intro hclient
    have hreceived := hinv.received_eq hclient
    have hcalls := hinv.calls
    rw [hclient] at hcalls
    refine ⟨hreceived, hreceived ▸ hinv.downstream, hcalls.trans (List.append_nil _), ?_⟩
    intro stats hstats hattached
    have hcounted := hinv.counted stats hstats
    rw [(hinv.joined hclient).1, hattached, Option.getD_some,
      CoreStats.since_zero stats (fun _ => rfl), hreceived] at hcounted
    have hlength : state.calls.length = state.returned.length := by
      rw [hcalls, List.length_append, List.length_map]
      rfl
    refine ⟨?_, ?_⟩
    · rw [hcounted.queued, ← hcounted.results]
      exact UInt64.add_zero _
    · rw [hcounted.submits, hlength]
  · intro hclient later call hmoves
    have hstep : ∀ (state : AsyncState capacity limit backend) (move : AsyncMove), True →
        (state.client = .joining → state.worker ≠ .notJoinable) →
        (state.step move).client = .joining → (state.step move).worker ≠ .notJoinable :=
      fun _ move _ hwaits => step_joinable hwaits move
    have hjoinable : state.client = .joining → state.worker ≠ .notJoinable :=
      foldl_invariant hstep nofun (fun _ _ => trivial)
    exact stop_returns ⟨hinv, hclient, hjoinable hclient⟩ hmoves call

/-- A submit, an overwritten buffer, an empty and an oversized submit, and a stop. -/
theorem stop_delivers_accepted_recording :
    let capacity : RingCapacity := ⟨2, by decide, by decide⟩
    let limit : PayloadLimit := ⟨4, by decide, by decide⟩
    -- The argument of a move inside a call is not read.
    let calls : List ClientCall := [.submit 7 .enter 0 2, .stop, .stop, .stop, .stop,
      .overwrite [9, 9, 9, 9, 9], .submit 8 .cancel 0 0, .stop, .submit 9 .replace 0 5, .stop,
      .submit 10 .replace 0 3, .stop, .stop, .stop, .stop, .stop]
    let state := (initial (fun _ => {}) {} (some {}) true [1, 2, 3, 4, 5, 6] :
      AsyncState capacity limit RecordingExecutionBackend.backend).run
        (calls.map .client ++ List.replicate 40 .worker ++ [.client .stop])
    state.client = .stopped ∧
      state.received = [⟨7, .enter, [1, 2]⟩, ⟨10, .replace, [9, 9, 9]⟩] := by
  intro capacity limit calls state
  have hclient : state.client = .stopped := by decide +kernel
  refine ⟨hclient, ?_⟩
  rw [((stop_delivers_accepted _ _ _ _ _ _).1 hclient).1]
  decide +kernel

end AsyncState

end Fgep.Execution
