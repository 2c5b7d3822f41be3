import GatedExecution.Execution.Backend
import GatedExecution.Gate.ControlRuns

/-!
# The permissive gate

{lit}`gate/permissive_gate.cpp`: an order is checked against the guardrail state, and
its request is handed to an execution backend if the check allows it.  A run
interleaves submits with operations of a control path on the gate's state.

Main results:

- Theorem {lit}`of_backendState`: the backend is called with the allowed requests, in
  order, and with nothing else.
- Theorem {lit}`latest_of_switch`: a halt or cancel-only is in force until it is lifted.
- Theorem {lit}`zero_leak`: no run leaks a request to the backend.
-/

namespace Fgep.Gate

open Fgep.Execution Histories Runs

/-! ## Results -/

inductive GateSubmitDecision where
  | accepted
  | rejected
deriving DecidableEq, Repr

inductive GateRejectSource where
  | none
  | guardrail
  | backend
deriving DecidableEq, Repr

structure GateSubmitResult where
  decision : GateSubmitDecision
  rejectSource : GateRejectSource
  guardrailResult : GuardrailResult
  backendResult : BackendSubmitResult
deriving DecidableEq

def backendOrderKindFromGuardrail : GuardrailOrderKind → BackendOrderKind
  | .enter => .enter
  | .replace => .replace
  | .cancel => .cancel

/-! ## The gate -/

structure PermissiveGate where
  guardrailState : GuardrailState := {}

namespace PermissiveGate

/-- The backend was not asked; its result repeats the request. -/
def rejectFromGuardrail (guardrailResult : GuardrailResult) (request : BackendSubmitRequest) :
    GateSubmitResult where
  decision := .rejected
  rejectSource := .guardrail
  guardrailResult := guardrailResult
  backendResult :=
    { decision := .rejected
      rejectReason := .none
      userRefNum := request.userRefNum
      kind := request.kind
      payloadSize := request.payload.length }

def fromBackend (guardrailResult : GuardrailResult) (backendResult : BackendSubmitResult) :
    GateSubmitResult where
  decision := if backendResult.accepted then .accepted else .rejected
  rejectSource := if backendResult.accepted then .none else .backend
  guardrailResult := guardrailResult
  backendResult := backendResult

def submit (gate : PermissiveGate) (order : GuardrailOrder) (backend : ExecutionBackend)
    (backendState : backend.State) (request : BackendSubmitRequest) :
    GateSubmitResult × backend.State :=
  let guardrailResult := gate.guardrailState.check order
  if guardrailResult.rejected then (rejectFromGuardrail guardrailResult request, backendState)
  else
    let outcome := backend.submit backendState request
    (fromBackend guardrailResult outcome.1, outcome.2)

section Submit

variable (gate : PermissiveGate) (order : GuardrailOrder) {backend : ExecutionBackend}
  (backendState : backend.State) (request : BackendSubmitRequest)

theorem submit_eq :
    gate.submit order backend backendState request =
      if (gate.guardrailState.check order).allowed then
        (fromBackend (gate.guardrailState.check order) (backend.submit backendState request).1,
          (backend.submit backendState request).2)
      else (rejectFromGuardrail (gate.guardrailState.check order) request, backendState) := by
  have hdecision := (gate.guardrailState.check order).rejected_eq_not
  rw [submit]
  cases hallowed : (gate.guardrailState.check order).allowed with
  | true =>
      rw [hallowed] at hdecision
      exact if_neg (ne_true_of_eq_false hdecision)
  | false =>
      rw [hallowed] at hdecision
      exact if_pos hdecision

/-- The backend's own verdict is reported as another source. -/
theorem fromBackend_rejectSource_ne (guardrailResult : GuardrailResult)
    (backendResult : BackendSubmitResult) :
    (fromBackend guardrailResult backendResult).rejectSource ≠ .guardrail := by
  unfold fromBackend
  cases backendResult.accepted <;> nofun

theorem submit_rejectSource_guardrail_iff :
    (gate.submit order backend backendState request).1.rejectSource = .guardrail ↔
      (gate.guardrailState.check order).allowed = false := by
  rw [submit_eq]
  cases (gate.guardrailState.check order).allowed with
  | false => exact iff_of_true rfl rfl
  | true => exact iff_of_false (fromBackend_rejectSource_ne _ _) nofun

end Submit

end PermissiveGate

/-! ## Runs -/

inductive GateOp where
  | control (op : ControlOp)
  | submit (order : GuardrailOrder) (request : BackendSubmitRequest)

/-- A control path that updates a gate's guardrail state, and a backend behind the gate. -/
structure GateRun (backend : ExecutionBackend) where
  control : ControlRun
  backendState : backend.State

/-- The requests of the submits whose order is allowed by the guardrail state of that
moment. -/
def allowedRequests (control : ControlRun) : List GateOp → List BackendSubmitRequest
  | [] => []
  | .control op :: rest => allowedRequests (control.step op) rest
  | .submit order request :: rest =>
      (if (control.state.check order).allowed then [request] else []) ++
        allowedRequests control rest

namespace GateRun

variable {backend : ExecutionBackend}

def gate (run : GateRun backend) : PermissiveGate :=
  ⟨run.control.state⟩

def step (run : GateRun backend) : GateOp → GateRun backend
  | .control op => { run with control := run.control.step op }
  | .submit order request =>
      { run with
        backendState := (run.gate.submit order backend run.backendState request).2 }

/-- The run of some operations on a new control path, a gate and a backend. -/
def of (backend : ExecutionBackend) (guardrailState : GuardrailState)
    (backendState : backend.State) (ops : List GateOp) : GateRun backend :=
  ops.foldl step ⟨{ state := guardrailState }, backendState⟩

/-! ## What reaches the backend -/

theorem foldl_backendState (run : GateRun backend) (ops : List GateOp) :
    (ops.foldl step run).backendState =
      backend.submitAll run.backendState (allowedRequests run.control ops) := by
  induction ops generalizing run with
  | nil => rfl
  | cons op rest ih =>
      rw [List.foldl_cons, ih]
      cases op with
      | control op => rfl
      | submit order request =>
          rw [allowedRequests, step, PermissiveGate.submit_eq, gate]
          split <;> rfl

theorem of_backendState (guardrailState : GuardrailState) (backendState : backend.State)
    (ops : List GateOp) :
    (of backend guardrailState backendState ops).backendState =
      backend.submitAll backendState (allowedRequests { state := guardrailState } ops) :=
  foldl_backendState _ ops

theorem allowedRequests_append (run : GateRun backend) (first second : List GateOp) :
    allowedRequests run.control (first ++ second) =
      allowedRequests run.control first ++
        allowedRequests (first.foldl step run).control second := by
  induction first generalizing run with
  | nil => rfl
  | cons op rest ih =>
      cases op with
      | control op => exact ih (run.step (.control op))
      | submit order request =>
          rw [List.cons_append, allowedRequests, allowedRequests, List.append_assoc]
          exact congrArg _ (ih (run.step (.submit order request)))

/-- A submit that is not allowed changes nothing. -/
theorem step_submit_of_not_allowed {run : GateRun backend} {order : GuardrailOrder}
    (hrejected : (run.control.state.check order).allowed = false)
    (request : BackendSubmitRequest) : run.step (.submit order request) = run := by
  rw [step, PermissiveGate.submit_eq, gate, hrejected, if_neg Bool.false_ne_true]

end GateRun

/-! ## Switches -/

/-- An update that halts, or one that lifts a halt. -/
def GuardrailUpdate.setsHalt (update : GuardrailUpdate) (halted : Bool) : Prop :=
  update.kind = .setGlobalHalt ∧ update.boolValue = halted

/-- An update that lets only cancels pass, or one that ends this. -/
def GuardrailUpdate.setsCancelOnly (update : GuardrailUpdate) (enabled : Bool) : Prop :=
  update.kind = .setCancelOnly ∧ update.boolValue = enabled

/-- A switch that is turned on stays on until an update turns it off. -/
theorem latest_of_switch {kind : GuardrailUpdateKind} {earlier later : List GuardrailUpdate}
    {switch : GuardrailUpdate} (hswitch : switch.kind = kind ∧ switch.boolValue = true)
    (hkept : ∀ update ∈ later, ¬(update.kind = kind ∧ update.boolValue = false)) :
    latest (GuardrailUpdate.stores kind GuardrailUpdate.boolValue) (earlier ++ switch :: later) =
      some true := by
  apply latest_of_kept (GuardrailUpdate.stores_eq_some_iff.mpr hswitch)
  intro update hmem found hfound
  rcases GuardrailUpdate.stores_eq_some_iff.mp hfound with ⟨hkind, rfl⟩
  exact Bool.eq_true_of_not_eq_false (fun hfalse => hkept update hmem ⟨hkind, hfalse⟩)

namespace ControlRun

theorem globalHalted_of_applied {start : GuardrailState} {run : ControlRun}
    (hinv : RunInv start run) {earlier later : List GuardrailUpdate} {halt : GuardrailUpdate}
    (happlied : run.applied = earlier ++ halt :: later) (hhalt : halt.setsHalt true)
    (hkept : ∀ update ∈ later, ¬update.setsHalt false) : run.state.globalHalted = true := by
  rw [hinv.holdsLastUpdates.globalHalted, happlied, latest_of_switch hhalt hkept,
    Option.getD_some]

theorem cancelOnly_of_applied {start : GuardrailState} {run : ControlRun}
    (hinv : RunInv start run) {earlier later : List GuardrailUpdate} {switch : GuardrailUpdate}
    (happlied : run.applied = earlier ++ switch :: later) (hswitch : switch.setsCancelOnly true)
    (hkept : ∀ update ∈ later, ¬update.setsCancelOnly false) : run.state.cancelOnly = true := by
  rw [hinv.holdsLastUpdates.cancelOnly, happlied, latest_of_switch hswitch hkept,
    Option.getD_some]

/-! ## The applied updates only grow -/

theorem settled_reachNext (run : ControlRun) : run.settled <+: run.reachNext.settled :=
  List.prefix_append _ _

theorem settled_step (run : ControlRun) (op : ControlOp) :
    run.settled <+: (run.step op).settled := by
  cases op with
  | push call => exact List.prefix_rfl
  | enqueue update => exact List.prefix_rfl
  | applyNext => exact run.settled_reachNext
  | applyAll =>
      have hstep : ∀ other : ControlRun, run.settled <+: other.settled →
          run.settled <+: other.reachNext.settled :=
        fun other hgrown => hgrown.trans other.settled_reachNext
      exact drain_invariant hstep List.prefix_rfl
  | clearPending => exact List.prefix_append _ _

theorem applied_step (run : ControlRun) (op : ControlOp) :
    run.applied <+: (run.step op).applied := by
  rcases run.settled_step op with ⟨new, hnew⟩
  rw [applied, applied, ← hnew, appliedIn_append]
  exact List.prefix_append _ _

end ControlRun

/-! ## Whole runs -/

namespace GateRun

variable {backend : ExecutionBackend}

theorem step_runInv {start : GuardrailState} {run : GateRun backend}
    (hinv : run.control.RunInv start) (op : GateOp) : (run.step op).control.RunInv start := by
  cases op with
  | control op => exact ControlRun.step_runInv hinv op
  | submit order request => exact hinv

theorem foldl_runInv {start : GuardrailState} {run : GateRun backend}
    (hinv : run.control.RunInv start) (ops : List GateOp) :
    (ops.foldl step run).control.RunInv start := by
  have hstep : ∀ (run : GateRun backend) (op : GateOp), True →
      run.control.RunInv start → (run.step op).control.RunInv start :=
    fun _ op _ hinv => step_runInv hinv op
  exact foldl_invariant hstep hinv (fun _ _ => trivial)

theorem of_control_runInv (guardrailState : GuardrailState) (backendState : backend.State)
    (ops : List GateOp) :
    (of backend guardrailState backendState ops).control.RunInv guardrailState :=
  foldl_runInv (ControlRun.initial_runInv guardrailState) ops

theorem control_applied_step (run : GateRun backend) (op : GateOp) :
    run.control.applied <+: (run.step op).control.applied := by
  cases op with
  | control op => exact run.control.applied_step op
  | submit order request => exact List.prefix_rfl

theorem control_applied_foldl (run : GateRun backend) (ops : List GateOp) :
    run.control.applied <+: (ops.foldl step run).control.applied := by
  have hstep : ∀ (other : GateRun backend) (op : GateOp), True →
      run.control.applied <+: other.control.applied →
      run.control.applied <+: (other.step op).control.applied :=
    fun other op _ hgrown => hgrown.trans (other.control_applied_step op)
  exact foldl_invariant hstep List.prefix_rfl (fun _ _ => trivial)

/-- An update that was applied stays where it is among the applied ones. -/
theorem control_applied_between {run : GateRun backend} {done ops : List GateOp}
    {earlier since later : List GuardrailUpdate} {switch : GuardrailUpdate}
    (hdone : done <+: ops) (hsince : run.control.applied = earlier ++ switch :: since)
    (hlater : (ops.foldl step run).control.applied = earlier ++ switch :: later) :
    ∃ between, (done.foldl step run).control.applied = earlier ++ switch :: between ∧
      between ⊆ later := by
  rcases hdone with ⟨rest, rfl⟩
  rcases run.control_applied_foldl done with ⟨new, hnew⟩
  have hbetween : (done.foldl step run).control.applied = earlier ++ switch :: (since ++ new) := by
    rw [← hnew, hsince, List.append_assoc, List.cons_append]
  have hgrown := (done.foldl step run).control_applied_foldl rest
  rw [List.foldl_append] at hlater
  rw [hbetween, hlater, List.prefix_append_right_inj, List.prefix_cons_inj] at hgrown
  exact ⟨since ++ new, hbetween, hgrown.subset⟩

/-- The requests that are handed on come from submits whose order was allowed at that
moment. -/
theorem exists_allowed_submits (run : GateRun backend) (ops : List GateOp) :
    ∃ submits : List (GuardrailOrder × BackendSubmitRequest),
      (submits.map (fun call => GateOp.submit call.1 call.2)).Sublist ops ∧
      allowedRequests run.control ops = submits.map Prod.snd ∧
      ∀ call ∈ submits, ∃ done, done <+: ops ∧
        ((done.foldl step run).control.state.check call.1).allowed = true := by
  induction ops generalizing run with
  | nil => exact ⟨[], List.Sublist.slnil, rfl, nofun⟩
  | cons op rest ih =>
      rcases ih (run.step op) with ⟨submits, hsublist, hrequests, hallowed⟩
      have hrest : ∀ call ∈ submits, ∃ done, done <+: op :: rest ∧
          ((done.foldl step run).control.state.check call.1).allowed = true := by
        intro call hmem
        rcases hallowed call hmem with ⟨done, hdone, hpassed⟩
        exact ⟨op :: done, (List.prefix_cons_inj op).mpr hdone, hpassed⟩
      cases op with
      | control op => exact ⟨submits, hsublist.cons _, hrequests, hrest⟩
      | submit order request =>
          by_cases hcheck : (run.control.state.check order).allowed = true
          · refine ⟨(order, request) :: submits, hsublist.cons_cons _, ?_, ?_⟩
            · rw [allowedRequests, if_pos hcheck, List.map_cons, ← hrequests]
              rfl
            · exact List.forall_mem_cons.mpr ⟨⟨[], List.nil_prefix, hcheck⟩, hrest⟩
          · refine ⟨submits, hsublist.cons _, ?_, hrest⟩
            rw [allowedRequests, if_neg hcheck, ← hrequests]
            rfl

section InForce

variable {start : GuardrailState} {run : GateRun backend} {ops : List GateOp}
  {earlier since later : List GuardrailUpdate} {switch : GuardrailUpdate}

/-- Nothing is allowed while a halt is in force: it was applied, and nothing that lifts
it has been. -/
theorem allowedRequests_of_halt (hinv : run.control.RunInv start)
    (hsince : run.control.applied = earlier ++ switch :: since)
    (hlater : (ops.foldl step run).control.applied = earlier ++ switch :: later)
    (hhalt : switch.setsHalt true) (hkept : ∀ update ∈ later, ¬update.setsHalt false) :
    allowedRequests run.control ops = [] := by
  rcases run.exists_allowed_submits ops with ⟨submits, -, hrequests, hallowed⟩
  have hnone : submits = [] := by
    apply List.eq_nil_iff_forall_not_mem.mpr
    intro call hmem
    rcases hallowed call hmem with ⟨done, hdone, hpassed⟩
    rcases control_applied_between hdone hsince hlater with ⟨between, hbetween, hsubset⟩
    have hhalted := ControlRun.globalHalted_of_applied (foldl_runInv hinv done) hbetween hhalt
      (fun update hupdate => hkept update (hsubset hupdate))
    rw [GuardrailState.check_of_globalHalted hhalted] at hpassed
    exact Bool.false_ne_true hpassed
  rw [hrequests, hnone, List.map_nil]

/-- Only cancels are allowed while cancel-only is in force. -/
theorem allowedRequests_of_cancelOnly (hinv : run.control.RunInv start)
    (hsince : run.control.applied = earlier ++ switch :: since)
    (hlater : (ops.foldl step run).control.applied = earlier ++ switch :: later)
    (hswitch : switch.setsCancelOnly true)
    (hkept : ∀ update ∈ later, ¬update.setsCancelOnly false) :
    ∃ cancels : List (GuardrailOrder × BackendSubmitRequest),
      (cancels.map (fun call => GateOp.submit call.1 call.2)).Sublist ops ∧
      (∀ call ∈ cancels, call.1.kind = .cancel) ∧
      allowedRequests run.control ops = cancels.map Prod.snd := by
  rcases run.exists_allowed_submits ops with ⟨cancels, hsublist, hrequests, hallowed⟩
  refine ⟨cancels, hsublist, ?_, hrequests⟩
  intro call hmem
  rcases hallowed call hmem with ⟨done, hdone, hpassed⟩
  rcases control_applied_between hdone hsince hlater with ⟨between, hbetween, hsubset⟩
  have hcancelOnly := ControlRun.cancelOnly_of_applied (foldl_runInv hinv done) hbetween hswitch
    (fun update hupdate => hkept update (hsubset hupdate))
  by_contra hkind
  rw [GuardrailState.check_allowed_of_cancelOnly hcancelOnly hkind] at hpassed
  exact Bool.false_ne_true hpassed

end InForce

theorem of_append (guardrailState : GuardrailState) (backendState : backend.State)
    (first second : List GateOp) :
    of backend guardrailState backendState (first ++ second) =
      second.foldl step (of backend guardrailState backendState first) :=
  List.foldl_append

section Runs

variable {guardrailState : GuardrailState} {backendState : backend.State} {before : List GateOp}

theorem of_submit_of_not_allowed {order : GuardrailOrder}
    (hrejected : ((of backend guardrailState backendState before).control.state.check
      order).allowed = false) (request : BackendSubmitRequest) :
    of backend guardrailState backendState (before ++ [.submit order request]) =
      of backend guardrailState backendState before := by
  rw [of_append, List.foldl_cons, List.foldl_nil, step_submit_of_not_allowed hrejected]

theorem of_append_of_halt {during : List GateOp} {earlier since later : List GuardrailUpdate}
    {halt : GuardrailUpdate}
    (hsince : (of backend guardrailState backendState before).control.applied =
      earlier ++ halt :: since)
    (hlater : (of backend guardrailState backendState (before ++ during)).control.applied =
      earlier ++ halt :: later)
    (hhalt : halt.setsHalt true) (hkept : ∀ update ∈ later, ¬update.setsHalt false) :
    (of backend guardrailState backendState (before ++ during)).backendState =
      (of backend guardrailState backendState before).backendState := by
  rw [of_append] at hlater ⊢
  have hinv := of_control_runInv guardrailState backendState before
  rw [foldl_backendState, allowedRequests_of_halt hinv hsince hlater hhalt hkept]
  rfl

theorem requests_append_of_cancelOnly {during : List GateOp}
    {earlier since later : List GuardrailUpdate} {switch : GuardrailUpdate}
    (hsince : (of backend guardrailState backendState before).control.applied =
      earlier ++ switch :: since)
    (hlater : (of backend guardrailState backendState (before ++ during)).control.applied =
      earlier ++ switch :: later)
    (hswitch : switch.setsCancelOnly true)
    (hkept : ∀ update ∈ later, ¬update.setsCancelOnly false) :
    ∃ cancels : List (GuardrailOrder × BackendSubmitRequest),
      (cancels.map (fun call => GateOp.submit call.1 call.2)).Sublist during ∧
      (∀ call ∈ cancels, call.1.kind = .cancel) ∧
      allowedRequests { state := guardrailState } (before ++ during) =
        allowedRequests { state := guardrailState } before ++ cancels.map Prod.snd := by
  rw [of_append] at hlater
  have hinv := of_control_runInv guardrailState backendState before
  rcases allowedRequests_of_cancelOnly hinv hsince hlater hswitch hkept with
    ⟨cancels, hsublist, hcancels, hrequests⟩
  refine ⟨cancels, hsublist, hcancels, ?_⟩
  rw [← hrequests]
  exact allowedRequests_append ⟨{ state := guardrailState }, backendState⟩ before during

end Runs

/-- The backend is called with the allowed requests only: with none while a halt is in
force, and with those of cancels while cancel-only is. -/
theorem zero_leak (backend : ExecutionBackend) (guardrailState : GuardrailState)
    (backendState : backend.State) :
    let runOf := of backend.logged guardrailState (backendState, [])
    let requests := allowedRequests { state := guardrailState }
    (∀ ops, (runOf ops).backendState =
        (backend.submitAll backendState (requests ops), requests ops) ∧
      (of backend guardrailState backendState ops).backendState =
        (runOf ops).backendState.1) ∧
    (∀ (before during : List GateOp) (earlier : List GuardrailUpdate) (halt : GuardrailUpdate)
        (since later : List GuardrailUpdate),
      (runOf before).control.applied = earlier ++ halt :: since →
      (runOf (before ++ during)).control.applied = earlier ++ halt :: later →
      halt.setsHalt true → (∀ update ∈ later, ¬update.setsHalt false) →
      (runOf (before ++ during)).backendState = (runOf before).backendState) ∧
    (∀ (before during : List GateOp) (earlier : List GuardrailUpdate) (switch : GuardrailUpdate)
        (since later : List GuardrailUpdate),
      (runOf before).control.applied = earlier ++ switch :: since →
      (runOf (before ++ during)).control.applied = earlier ++ switch :: later →
      switch.setsCancelOnly true → (∀ update ∈ later, ¬update.setsCancelOnly false) →
      ∃ cancels : List (GuardrailOrder × BackendSubmitRequest),
        (cancels.map (fun call => GateOp.submit call.1 call.2)).Sublist during ∧
        (∀ call ∈ cancels, call.1.kind = .cancel) ∧
        (runOf (before ++ during)).backendState.2 =
          (runOf before).backendState.2 ++ cancels.map Prod.snd) ∧
    (∀ before order request, (runOf before).control.state.cancelOnly = true →
      (runOf (before ++ [.submit order request])).backendState ≠ (runOf before).backendState →
      order.kind = .cancel) ∧
    (∀ before order request,
      ((runOf before).gate.submit order backend.logged (runOf before).backendState
        request).1.rejectSource = .guardrail →
      (runOf (before ++ [.submit order request])).backendState =
        (runOf before).backendState) := by
  intro runOf requests
  have hlogged : ∀ ops, (runOf ops).backendState =
      (backend.submitAll backendState (requests ops), requests ops) := by
    intro ops
    rw [← backend.submitAll_logged]
    exact of_backendState _ _ ops
  refine ⟨?_, ?_, ?_, ?_, ?_⟩
  · intro ops
    refine ⟨hlogged ops, ?_⟩
    rw [hlogged ops]
    exact of_backendState _ _ ops
  · intro before during earlier halt since later hsince hlater hhalt hkept
    exact of_append_of_halt hsince hlater hhalt hkept
  · intro before during earlier switch since later hsince hlater hswitch hkept
    rw [hlogged, hlogged]
    exact requests_append_of_cancelOnly hsince hlater hswitch hkept
  · intro before order request hcancelOnly hcalled
    by_contra hkind
    have hrejected := GuardrailState.check_allowed_of_cancelOnly hcancelOnly hkind
    exact hcalled (congrArg GateRun.backendState (of_submit_of_not_allowed hrejected request))
  · intro before order request hsource
    rw [PermissiveGate.submit_rejectSource_guardrail_iff] at hsource
    exact congrArg GateRun.backendState (of_submit_of_not_allowed hsource request)

end GateRun

end Fgep.Gate
