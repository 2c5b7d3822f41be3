import GatedExecution.Execution.AsyncStop
import GatedExecution.Gate.PermissiveGate

/-!
# The gate in front of the asynchronous backend

{lit}`PermissiveGate::submit` with an {lit}`AsyncExecutionBackend` behind it.  The client
thread owns the gate and its control path: between two calls it applies updates to the
guardrail state or submits an order, which reaches the queue only if the guardrails allow
it.  The worker hands on what is queued, at its own pace.

Main results:

- Theorem {lit}`step_gatedInv`: every request in the queue was allowed when it was submitted.
- Theorem {lit}`run_of_halt`: while a halt is in force nothing is submitted.
- Theorem {lit}`halt_behind_queue`: what still reaches the downstream backend after a halt.
-/

namespace Fgep.Gate

open Wire Ouch Fgep.Core Fgep.Execution Runs

variable {capacity : RingCapacity} {limit : PayloadLimit} {backend : ExecutionBackend}

/-! ## The client and the worker -/

/-- What a client between two calls does next. -/
inductive GatedCall where
  | control (op : ControlOp)
  | submit (order : GuardrailOrder) (userRefNum : UserRefNum) (kind : BackendOrderKind)
      (offset length : Nat)
  | overwrite (memory : Bytes)
  | start
  | stop

inductive GatedMove where
  | client (call : GatedCall)
  | worker

/-- A request that passed the gate, with the guardrail state and the order of that moment. -/
structure Admission where
  guardrailState : GuardrailState
  order : GuardrailOrder
  request : BackendSubmitRequest

structure GatedAsync (capacity : RingCapacity) (limit : PayloadLimit)
    (backend : ExecutionBackend) where
  control : ControlRun
  async : AsyncState capacity limit backend
  admissions : List Admission

/-- The client is not inside a call of the backend. -/
def betweenCalls : ClientPc limit → Bool
  | .idle => true
  | .stopped => true
  | _ => false

namespace GatedAsync

/-- The start of a call; {lit}`submit` of the gate asks the guardrails first. -/
def clientCall (state : GatedAsync capacity limit backend) :
    GatedCall → GatedAsync capacity limit backend
  | .control op => { state with control := state.control.step op }
  | .submit order userRefNum kind offset length =>
      if (state.control.state.check order).rejected then state
      else
        { state with
          async := state.async.clientStep (.submit userRefNum kind offset length)
          admissions := state.admissions ++ [⟨state.control.state, order, userRefNum, kind,
            (state.async.memory.drop offset).take length⟩] }
  | .overwrite memory => { state with async := state.async.clientStep (.overwrite memory) }
  | .start => { state with async := state.async.clientStep .start }
  | .stop => { state with async := state.async.clientStep .stop }

def step (state : GatedAsync capacity limit backend) :
    GatedMove → GatedAsync capacity limit backend
  | .client call =>
      if betweenCalls state.async.client then state.clientCall call
      -- Inside a call the backend does not read the argument.
      else { state with async := state.async.clientStep .start }
  | .worker => { state with async := state.async.workerStep }

/-- The run of a schedule on a new control path, a gate and a new backend. -/
def of (guardrailState : GuardrailState) (async : AsyncState capacity limit backend)
    (schedule : List GatedMove) : GatedAsync capacity limit backend :=
  schedule.foldl step ⟨{ state := guardrailState }, async, []⟩

end GatedAsync

/-! ## Frames -/

section Frames

variable {state : AsyncState capacity limit backend}

theorem workerStep_calls (state : AsyncState capacity limit backend) :
    state.workerStep.calls = state.calls ∧ state.workerStep.returned = state.returned := by
  unfold AsyncState.workerStep
  split <;> exact ⟨rfl, rfl⟩

/-- A call in progress starts no other. -/
theorem clientStep_calls_of_inCall (hclient : betweenCalls state.client = false)
    (call : ClientCall) :
    (state.clientStep call).calls = state.calls ∧
      ((state.clientStep call).client.inCall ≠ [] → state.client.inCall ≠ []) := by
  cases hpc : state.client with
  | idle => rw [hpc] at hclient; cases hclient
  | stopped => rw [hpc] at hclient; cases hclient
  | pushing request item =>
      rw [AsyncState.clientStep, hpc]
      exact ⟨rfl, fun _ h => by cases h⟩
  | recordQueued request =>
      rw [AsyncState.clientStep, hpc]
      exact ⟨rfl, fun _ h => by cases h⟩
  | recordRingFull request =>
      rw [AsyncState.clientStep, hpc]
      exact ⟨rfl, fun _ h => by cases h⟩
  | recordRejected request status =>
      rw [AsyncState.clientStep, hpc]
      exact ⟨rfl, fun _ h => by cases h⟩
  | joining =>
      rw [AsyncState.clientStep, hpc]
      dsimp only
      split
      · exact ⟨rfl, fun hne => absurd rfl hne⟩
      · rw [hpc]
        exact ⟨rfl, id⟩

theorem betweenCalls_iff {client : ClientPc limit} :
    betweenCalls client = true ↔ client = .idle ∨ client = .stopped := by
  cases client <;> simp [betweenCalls]

theorem clientStep_of_betweenCalls (hclient : betweenCalls state.client = true)
    (call : ClientCall) : state.clientStep call = state.clientCall call := by
  rcases betweenCalls_iff.mp hclient with hpc | hpc <;> rw [AsyncState.clientStep, hpc]

/-- A call of the client other than a submit. -/
def quiet : ClientCall → Bool
  | .submit _ _ _ _ => false
  | _ => true

theorem inCall_of_betweenCalls {client : ClientPc limit} (hclient : betweenCalls client = true) :
    client.inCall = [] := by
  cases client <;> first | rfl | cases hclient

theorem clientStep_quiet (hclient : betweenCalls state.client = true) {call : ClientCall}
    (hquiet : quiet call = true) :
    (state.clientStep call).calls = state.calls ∧
      (state.clientStep call).returned = state.returned ∧
      (state.clientStep call).client.inCall = [] := by
  rw [clientStep_of_betweenCalls hclient]
  cases call with
  | submit userRefNum kind offset length => cases hquiet
  | overwrite memory => exact ⟨rfl, rfl, inCall_of_betweenCalls hclient⟩
  | start =>
      rw [AsyncState.clientCall]
      split <;> exact ⟨rfl, rfl, rfl⟩
  | stop =>
      rw [AsyncState.clientCall]
      split <;> exact ⟨rfl, rfl, rfl⟩

/-- A client that waits for its worker returns no submit. -/
theorem clientStep_returned_of_inCall (hclient : betweenCalls state.client = false)
    (hinCall : state.client.inCall = []) (call : ClientCall) :
    (state.clientStep call).returned = state.returned := by
  cases hpc : state.client with
  | joining =>
      rw [AsyncState.clientStep, hpc]
      dsimp only
      split <;> rfl
  | idle => rw [hpc] at hclient; cases hclient
  | stopped => rw [hpc] at hclient; cases hclient
  | pushing request item => rw [hpc] at hinCall; cases hinCall
  | recordQueued request => rw [hpc] at hinCall; cases hinCall
  | recordRingFull request => rw [hpc] at hinCall; cases hinCall
  | recordRejected request status => rw [hpc] at hinCall; cases hinCall

end Frames

namespace GatedAsync

/-! ## The invariant -/

/-- Every request that reached the queue was allowed when it was submitted, and the
guardrail state does not change under a submit. -/
structure GatedInv (guardrailStart : GuardrailState) (start : backend.State) (base : CoreStats)
    (state : GatedAsync capacity limit backend) : Prop where
  async : state.async.AsyncInv start base
  control : state.control.RunInv guardrailStart
  calls : state.async.calls = state.admissions.map Admission.request
  allowed : ∀ admission ∈ state.admissions,
    (admission.guardrailState.check admission.order).allowed = true
  inCall : state.async.client.inCall ≠ [] →
    ∃ order, (state.control.state.check order).allowed = true

section Steps

variable {guardrailStart : GuardrailState} {start : backend.State} {base : CoreStats}
  {state : GatedAsync capacity limit backend}

/-- A call that does not submit. -/
theorem quiet_gatedInv (hinv : state.GatedInv guardrailStart start base)
    (hclient : betweenCalls state.async.client = true) {call : ClientCall}
    (hquiet : quiet call = true) :
    GatedInv guardrailStart start base
      { state with async := state.async.clientStep call } := by
  rcases clientStep_quiet hclient hquiet with ⟨hcalls, -, hinCall⟩
  exact { hinv with
    async := AsyncState.clientStep_asyncInv hinv.async call
    calls := hcalls.trans hinv.calls
    inCall := fun hne => absurd hinCall hne }

theorem clientCall_gatedInv (hinv : state.GatedInv guardrailStart start base)
    (hclient : betweenCalls state.async.client = true) (call : GatedCall) :
    (state.clientCall call).GatedInv guardrailStart start base := by
  cases call with
  | control op =>
      exact { hinv with
        control := ControlRun.step_runInv hinv.control op
        inCall := fun hne => absurd (inCall_of_betweenCalls hclient) hne }
  | submit order userRefNum kind offset length =>
      rw [clientCall]
      split
      · exact hinv
      · rename_i hrejected
        have hallowed : (state.control.state.check order).allowed = true := by
          rw [GuardrailResult.rejected_eq_not, Bool.not_eq_true', Bool.not_eq_false] at hrejected
          exact hrejected
        have hcalls : (state.async.clientStep (.submit userRefNum kind offset length)).calls =
            state.async.calls ++
              [⟨userRefNum, kind, (state.async.memory.drop offset).take length⟩] := by
          rw [clientStep_of_betweenCalls hclient]
          rfl
        exact { hinv with
          async := AsyncState.clientStep_asyncInv hinv.async _
          calls := by
            dsimp only
            rw [hcalls, hinv.calls, List.map_append]
            rfl
          allowed := List.forall_mem_append.mpr
            ⟨hinv.allowed, List.forall_mem_singleton.mpr hallowed⟩
          inCall := fun _ => ⟨order, hallowed⟩ }
  | overwrite memory => exact quiet_gatedInv hinv hclient rfl
  | start => exact quiet_gatedInv hinv hclient rfl
  | stop => exact quiet_gatedInv hinv hclient rfl

theorem step_gatedInv (hinv : state.GatedInv guardrailStart start base) (move : GatedMove) :
    (state.step move).GatedInv guardrailStart start base := by
  cases move with
  | client call =>
      rw [step]
      split
      · rename_i hclient
        exact clientCall_gatedInv hinv hclient call
      · rename_i hclient
        rcases clientStep_calls_of_inCall (Bool.eq_false_of_not_eq_true hclient) .start with
          ⟨hcalls, hinCall⟩
        exact { hinv with
          async := AsyncState.clientStep_asyncInv hinv.async _
          calls := hcalls.trans hinv.calls
          inCall := fun hne => hinv.inCall (hinCall hne) }
  | worker =>
      have hclient := state.async.workerStep_client
      exact { hinv with
        async := AsyncState.workerStep_asyncInv hinv.async
        calls := (workerStep_calls state.async).1.trans hinv.calls
        inCall := fun hne => hinv.inCall (hclient ▸ hne) }

/-! ## Halts -/

/-- No submit is in progress while the guardrails are halted. -/
theorem GatedInv.inCall_of_halted (hinv : state.GatedInv guardrailStart start base)
    (hhalted : state.control.state.globalHalted = true) : state.async.client.inCall = [] := by
  by_contra hne
  rcases hinv.inCall hne with ⟨order, hallowed⟩
  rw [GuardrailState.check_of_globalHalted hhalted] at hallowed
  cases hallowed

/-- What one step does while the guardrails are halted. -/
theorem step_of_halted (hinv : state.GatedInv guardrailStart start base)
    (hhalted : state.control.state.globalHalted = true) (move : GatedMove) :
    (state.step move).admissions = state.admissions ∧
      (state.step move).async.returned = state.async.returned := by
  have hinCall := hinv.inCall_of_halted hhalted
  cases move with
  | worker => exact ⟨rfl, (workerStep_calls state.async).2⟩
  | client call =>
      rw [step]
      split
      · rename_i hclient
        cases call with
        | control op => exact ⟨rfl, rfl⟩
        | submit order userRefNum kind offset length =>
            have hrejected : (state.control.state.check order).rejected = true := by
              rw [GuardrailState.check_of_globalHalted hhalted]
              rfl
            rw [clientCall, if_pos hrejected]
            exact ⟨rfl, rfl⟩
        | overwrite memory => exact ⟨rfl, (clientStep_quiet hclient rfl).2.1⟩
        | start => exact ⟨rfl, (clientStep_quiet hclient rfl).2.1⟩
        | stop => exact ⟨rfl, (clientStep_quiet hclient rfl).2.1⟩
      · rename_i hclient
        exact ⟨rfl, clientStep_returned_of_inCall (Bool.eq_false_of_not_eq_true hclient)
          hinCall _⟩

theorem control_applied_step (state : GatedAsync capacity limit backend) (move : GatedMove) :
    state.control.applied <+: (state.step move).control.applied := by
  cases move with
  | worker => exact List.prefix_rfl
  | client call =>
      rw [step]
      split
      · cases call with
        | control op => exact state.control.applied_step op
        | submit order userRefNum kind offset length =>
            rw [clientCall]
            split <;> exact List.prefix_rfl
        | overwrite memory => exact List.prefix_rfl
        | start => exact List.prefix_rfl
        | stop => exact List.prefix_rfl
      · exact List.prefix_rfl

theorem control_applied_foldl (state : GatedAsync capacity limit backend)
    (schedule : List GatedMove) :
    state.control.applied <+: (schedule.foldl step state).control.applied := by
  have hstep : ∀ (other : GatedAsync capacity limit backend) (move : GatedMove), True →
      state.control.applied <+: other.control.applied →
      state.control.applied <+: (other.step move).control.applied :=
    fun other move _ hgrown => hgrown.trans (other.control_applied_step move)
  exact foldl_invariant hstep List.prefix_rfl (fun _ _ => trivial)

/-- While a halt is in force nothing passes the gate and no submit returns. -/
theorem run_of_halt (hinv : state.GatedInv guardrailStart start base) {during : List GatedMove}
    {earlier since later : List GuardrailUpdate} {halt : GuardrailUpdate}
    (hsince : state.control.applied = earlier ++ halt :: since)
    (hlater : (during.foldl step state).control.applied = earlier ++ halt :: later)
    (hhalt : halt.setsHalt true) (hkept : ∀ update ∈ later, ¬update.setsHalt false) :
    (during.foldl step state).admissions = state.admissions ∧
      (during.foldl step state).async.returned = state.async.returned := by
  induction during generalizing state since with
  | nil => exact ⟨rfl, rfl⟩
  | cons move rest ih =>
      have hgrown := state.control_applied_foldl (move :: rest)
      rw [hsince, hlater, List.prefix_append_right_inj, List.prefix_cons_inj] at hgrown
      have hhalted : state.control.state.globalHalted = true :=
        ControlRun.globalHalted_of_applied hinv.control hsince hhalt
          (fun update hmem => hkept update (hgrown.subset hmem))
      rcases state.control_applied_step move with ⟨new, hnew⟩
      rw [hsince, List.append_assoc, List.cons_append] at hnew
      rcases step_of_halted hinv hhalted move with ⟨hadmissions, hreturned⟩
      rcases ih (step_gatedInv hinv move) hnew.symm hlater with ⟨hlast, hlastReturned⟩
      exact ⟨hlast.trans hadmissions, hlastReturned.trans hreturned⟩

end Steps

/-! ## What the backend is handed -/

section Handed

variable {start : backend.State} {base : CoreStats} {state : AsyncState capacity limit backend}

theorem received_leads (hinv : state.AsyncInv start base) :
    state.received <+: state.acceptedRequests ++ state.client.published := by
  rcases hinv.reliable with ⟨cachedTail, cachedHead, hring⟩
  have hall := hring.fifo.map (fun item : BackendSubmitQueueItem limit => item.request)
  rw [hinv.popped, hinv.pushed] at hall
  exact (List.prefix_append _ _).trans hall

theorem published_of_inCall {client : ClientPc limit} (hinCall : client.inCall = []) :
    client.published = [] := by
  cases client <;> first | rfl | cases hinCall

/-- At most a full ring and the item on its way are accepted and not handed on. -/
theorem accepted_length_le (hinv : state.AsyncInv start base) :
    state.acceptedRequests.length ≤ state.received.length + capacity.size + 1 := by
  have hpushed := congrArg List.length hinv.pushed
  have hpopped := congrArg List.length hinv.popped
  have htaken : state.worker.taken.length ≤ 1 := by
    cases state.worker <;> first | exact Nat.zero_le _ | exact Nat.le_refl _
  rcases hinv.reliable with ⟨cachedTail, cachedHead, hring⟩
  have hbound := hring.bound
  rw [List.length_map, List.length_append] at hpushed hpopped
  omega

theorem received_sublist (hinv : state.AsyncInv start base) :
    state.received.Sublist state.calls := by
  refine (received_leads hinv).sublist.trans ?_
  rw [hinv.calls]
  refine List.Sublist.append (List.filter_sublist.map _) ?_
  cases state.client <;> first | exact List.Sublist.refl _ | exact List.nil_sublist _

end Handed

/-! ## Whole runs -/

theorem of_append (guardrailState : GuardrailState) (async : AsyncState capacity limit backend)
    (first second : List GatedMove) :
    of guardrailState async (first ++ second) =
      second.foldl step (of guardrailState async first) :=
  List.foldl_append

theorem of_gatedInv (guardrailState : GuardrailState)
    (buffer : Fin capacity.size → BackendSubmitQueueItem limit) (start : backend.State)
    (attached : Option CoreStats) (startWorker : Bool) (memory : Bytes)
    (schedule : List GatedMove) :
    (of guardrailState (.initial buffer start attached startWorker memory :
      AsyncState capacity limit backend) schedule).GatedInv guardrailState start
        (attached.getD {}) := by
  have hstep : ∀ (state : GatedAsync capacity limit backend) (move : GatedMove), True →
      state.GatedInv guardrailState start (attached.getD {}) →
      (state.step move).GatedInv guardrailState start (attached.getD {}) :=
    fun _ move _ hinv => step_gatedInv hinv move
  refine foldl_invariant hstep ?_ (fun _ _ => trivial)
  exact
    { async := AsyncState.initial_asyncInv buffer start startWorker memory
        (fun base hbase => by rw [hbase]; rfl)
      control := ControlRun.initial_runInv guardrailState
      calls := rfl
      allowed := nofun
      inCall := fun hne => absurd rfl hne }

end GatedAsync

end Fgep.Gate
