import GatedExecution.Execution.AsyncStop
import GatedExecution.Execution.QueuedBackend

/-!
# Draining the queued backend

While the submitting thread does nothing, a call of {lit}`drain_to` hands on the oldest
queued requests, as many as it may, and returns their number.

Main results:

- Theorem {lit}`popping_ends`: a pop comes to its end.
- Theorem {lit}`drainLoop_alone`: what the loop of {lit}`drain_to` does from any round on.
- Theorem {lit}`drainTo_alone`: what the call does.
-/

namespace Fgep.Execution

open Wire Ouch Fgep.Core

variable {capacity : RingCapacity} {limit : PayloadLimit} {backend : ExecutionBackend}

namespace QueuedState

/-- Some moves of the draining thread alone. -/
def drainAlone (state : QueuedState capacity limit backend) (call : DrainCall) (moves : Nat) :
    QueuedState capacity limit backend :=
  state.run (List.replicate moves (.consumer call))

section Alone

variable {start : backend.State} {state : QueuedState capacity limit backend} (call : DrainCall)

theorem drainAlone_succ (moves : Nat) :
    state.drainAlone call (moves + 1) = (state.consumerStep call).drainAlone call moves :=
  rfl

theorem drainAlone_add (first second : Nat) :
    state.drainAlone call (first + second) =
      (state.drainAlone call first).drainAlone call second := by
  rw [drainAlone, List.replicate_add, run, List.foldl_append]
  rfl

theorem drainAlone_queuedInv (hinv : QueuedInv start state) (moves : Nat) :
    QueuedInv start (state.drainAlone call moves) := by
  induction moves generalizing state with
  | zero => exact hinv
  | succ moves ih =>
      rw [drainAlone_succ]
      exact ih (consumerStep_queuedInv hinv call)

/-- Two states of one pop: nothing but the ring's own bookkeeping differs. -/
structure SamePop (state after : QueuedState capacity limit backend) : Prop where
  consumer : after.consumer = state.consumer
  contents : after.queue.ring.contents = state.queue.ring.contents
  deliveries : after.deliveries = state.deliveries
  drains : after.drains = state.drains
  rank : pollRank after.queue.ring.ring after.queue.ring.pop ≤
    pollRank state.queue.ring.ring state.queue.ring.pop

/-- A pop comes to its end after some moves. -/
theorem popping_ends {place : DrainPlace} (hconsumer : state.consumer = .popping place) :
    ∃ moves, SamePop state (state.drainAlone call moves) ∧
      ∃ out, (state.drainAlone call moves).queue.popReturns = some out := by
  induction hrank : pollRank state.queue.ring.ring state.queue.ring.pop using
    Nat.strong_induction_on generalizing state with
  | h rank ih =>
      cases hreturned : state.queue.popReturns with
      | some out => exact ⟨0, ⟨rfl, rfl, rfl, rfl, Nat.le_refl _⟩, out, hreturned⟩
      | none =>
          have hstep : state.consumerStep call = { state with queue := state.queue.popStep } := by
            rw [consumerStep, hconsumer]
            dsimp only
            rw [hreturned]
          have hlower := popStep_pollRank_lt hreturned
          rw [hrank] at hlower
          have hsame : state.queue.popStep.ring.contents = state.queue.ring.contents :=
            SpscState.contents_of_nothing_popped (congrArg poppedBy hreturned)
          rcases @ih _ hlower { state with queue := state.queue.popStep } hconsumer rfl with
            ⟨moves, halike, hends⟩
          refine ⟨moves + 1, ?_, ?_⟩
          · rw [drainAlone_succ, hstep]
            exact ⟨halike.consumer, halike.contents.trans hsame, halike.deliveries,
              halike.drains, Nat.le_trans halike.rank (hrank.symm ▸ Nat.le_of_lt hlower)⟩
          · rw [drainAlone_succ, hstep]
            exact hends

/-- A pop that starts on a ring with something in it takes the oldest item. -/
theorem popping_takes (hinv : QueuedInv start state) {place : DrainPlace}
    (hconsumer : state.consumer = .popping place) (hpop : state.queue.ring.pop = .idle)
    {item : BackendSubmitQueueItem limit} {rest : List (BackendSubmitQueueItem limit)}
    (hcontents : state.queue.ring.contents = item :: rest) :
    ∃ moves, SamePop state (state.drainAlone call moves) ∧
      (state.drainAlone call moves).queue.popReturns = some (some item) ∧
      (state.drainAlone call moves).queue.popStep.ring.contents = rest := by
  have hne : state.queue.ring.ring.tail ≠ state.queue.ring.ring.head := by
    intro heq
    have hsize := hinv.queue.reliable.toNat_size
    rw [SpscState.size, heq, UInt64.sub_self, hcontents] at hsize
    cases hsize
  rcases popping_ends call hconsumer with ⟨moves, halike, out, hreturned⟩
  have hrank := halike.rank
  rw [hpop, pollRank, if_neg hne] at hrank
  have hreliable := (drainAlone_queuedInv call hinv moves).queue.reliable
  refine ⟨moves, halike, ?_⟩
  cases out with
  | none =>
      rw [pollRank_of_returned_none hreturned] at hrank
      omega
  | some taken =>
      have hcons := hreliable.contents_eq_cons hreturned
      rw [halike.contents, hcontents] at hcons
      cases hcons
      exact ⟨hreturned, rfl⟩

/-- A pop on an empty ring finds it empty. -/
theorem popping_fails (hinv : QueuedInv start state) {place : DrainPlace}
    (hconsumer : state.consumer = .popping place) (hcontents : state.queue.ring.contents = []) :
    ∃ moves, SamePop state (state.drainAlone call moves) ∧
      (state.drainAlone call moves).queue.popReturns = some none := by
  rcases popping_ends call hconsumer with ⟨moves, halike, out, hreturned⟩
  have hreliable := (drainAlone_queuedInv call hinv moves).queue.reliable
  refine ⟨moves, halike, ?_⟩
  cases out with
  | none => exact hreturned
  | some taken =>
      have hcons := hreliable.contents_eq_cons hreturned
      rw [halike.contents, hcontents] at hcons
      cases hcons

/-- A call of {lit}`drain_to` has ended that handed on {lit}`items`. -/
structure DrainedTo (state after : QueuedState capacity limit backend)
    (items : List (BackendSubmitQueueItem limit)) (result : DrainReturn) : Prop where
  consumer : after.consumer = .idle
  drains : after.drains = state.drains ++ [result]
  deliveries : after.deliveries =
    state.deliveries ++ items.map (fun item => Delivery.submission item.request)
  contents : after.queue.ring.contents = state.queue.ring.contents.drop items.length

section Round

variable {call} {maxSubmissions drained : Nat}

/-- The round that finds the queue empty is the last. -/
theorem emptyRound_alone (hinv : QueuedInv start state)
    (hconsumer : state.consumer = .popping (.drainTo maxSubmissions drained))
    (hcontents : state.queue.ring.contents = []) :
    ∃ moves, DrainedTo state (state.drainAlone call moves) []
      (.drainTo maxSubmissions drained) := by
  rcases popping_fails call hinv hconsumer hcontents with ⟨moves, halike, hreturned⟩
  refine ⟨moves + 1, ?_⟩
  rw [drainAlone_add]
  generalize state.drainAlone call moves = popped at halike hreturned ⊢
  have hstep : popped.drainAlone call 1 = { popped with
      queue := popped.queue.popStep
      drains := popped.drains ++ [.drainTo maxSubmissions drained]
      consumer := .idle } := by
    change popped.consumerStep call = _
    rw [consumerStep, halike.consumer, hconsumer]
    dsimp only
    rw [hreturned]
    rfl
  rw [hstep]
  exact
    { consumer := rfl
      drains := congrArg (fun drains => drains ++ [_]) halike.drains
      deliveries := halike.deliveries.trans (List.append_nil _).symm
      contents :=
        (SpscState.contents_of_nothing_popped (congrArg poppedBy hreturned)).trans
          halike.contents }

/-- A round that finds an item hands it on, and the loop goes on or ends. -/
theorem fullRound_alone (hinv : QueuedInv start state)
    (hconsumer : state.consumer = .popping (.drainTo maxSubmissions drained))
    (hpop : state.queue.ring.pop = .idle) {item : BackendSubmitQueueItem limit}
    {rest : List (BackendSubmitQueueItem limit)}
    (hcontents : state.queue.ring.contents = item :: rest) :
    ∃ moves,
      (state.drainAlone call moves).deliveries =
        state.deliveries ++ [.submission item.request] ∧
      (state.drainAlone call moves).queue.ring.contents = rest ∧
      (state.drainAlone call moves).queue.ring.pop = .idle ∧
      (if drained + 1 < maxSubmissions then
        (state.drainAlone call moves).consumer =
            .popping (.drainTo maxSubmissions (drained + 1)) ∧
          (state.drainAlone call moves).drains = state.drains
      else
        (state.drainAlone call moves).consumer = .idle ∧
          (state.drainAlone call moves).drains =
            state.drains ++ [.drainTo maxSubmissions (drained + 1)]) := by
  rcases popping_takes call hinv hconsumer hpop hcontents with ⟨moves, halike, hreturned, hrest⟩
  refine ⟨moves + 2, ?_⟩
  rw [drainAlone_add]
  generalize state.drainAlone call moves = popped at halike hreturned hrest ⊢
  have htaken : popped.consumerStep call = { popped with
      queue := popped.queue.popStep
      consumer := .handing (.drainTo maxSubmissions drained) item } := by
    rw [consumerStep, halike.consumer, hconsumer]
    dsimp only
    rw [hreturned]
    rfl
  have hstep : popped.drainAlone call 2 = afterSubmit { popped with
      queue := popped.queue.popStep
      consumer := .handing (.drainTo maxSubmissions drained) item
      downstream := (backend.submit popped.downstream item.request).2
      deliveries := popped.deliveries ++ [.submission item.request] }
        (.drainTo maxSubmissions drained) := by
    change (popped.consumerStep call).consumerStep call = _
    rw [htaken]
    rfl
  have hdeliveries := congrArg (fun list => list ++ [Delivery.submission item.request])
    halike.deliveries
  rw [hstep, afterSubmit]
  split
  · exact ⟨hdeliveries, hrest, popStep_returned_idle hreturned, rfl, halike.drains⟩
  · exact ⟨hdeliveries, hrest, popStep_returned_idle hreturned, rfl,
      congrArg (fun drains => drains ++ [_]) halike.drains⟩

end Round

/-- The loop from the round on in which it has drained {lit}`drained` requests. -/
theorem drainLoop_alone {maxSubmissions drained : Nat}
    (contents : List (BackendSubmitQueueItem limit)) (hinv : QueuedInv start state)
    (hconsumer : state.consumer = .popping (.drainTo maxSubmissions drained))
    (hpop : state.queue.ring.pop = .idle) (hcontents : state.queue.ring.contents = contents) :
    ∃ moves, DrainedTo state (state.drainAlone call moves)
      (contents.take (maxSubmissions - drained))
      (.drainTo maxSubmissions (min maxSubmissions (drained + contents.length))) := by
  induction contents generalizing state drained with
  | nil =>
      have hmore := hinv.place
      rw [hconsumer] at hmore
      have hcount : min maxSubmissions (drained + 0) = drained :=
        Nat.min_eq_right (Nat.le_of_lt hmore)
      rw [List.take_nil, List.length_nil, hcount]
      exact emptyRound_alone hinv hconsumer hcontents
  | cons item rest ih =>
      have hmore := hinv.place
      rw [hconsumer] at hmore
      change drained < maxSubmissions at hmore
      rcases @fullRound_alone _ _ _ _ _ call _ _ hinv hconsumer hpop _ _ hcontents with
        ⟨moves, hdeliveries, hrest, hidle, hnext⟩
      have hafter := drainAlone_queuedInv call hinv moves
      have htake : (item :: rest).take (maxSubmissions - drained) =
          item :: rest.take (maxSubmissions - (drained + 1)) := by
        have hleft : maxSubmissions - drained = maxSubmissions - (drained + 1) + 1 := by omega
        rw [hleft, List.take_succ_cons]
      have hcount : drained + (item :: rest).length = drained + 1 + rest.length := by
        rw [List.length_cons]
        omega
      rw [htake, hcount]
      split at hnext
      · rcases ih hafter hnext.1 hidle hrest with ⟨later, hlast⟩
        refine ⟨moves + later, ?_⟩
        rw [drainAlone_add]
        exact
          { consumer := hlast.consumer
            drains := hlast.drains.trans (by rw [hnext.2])
            deliveries := by
              rw [hlast.deliveries, hdeliveries, List.append_assoc]
              rfl
            contents := by
              rw [hlast.contents, hrest, hcontents]
              rfl }
      · -- The limit is reached with this request.
        have hlimit : maxSubmissions = drained + 1 := by omega
        refine ⟨moves, ?_⟩
        exact
          { consumer := hnext.1
            drains := by
              rw [hnext.2, hlimit, Nat.min_eq_left (Nat.le_add_right _ _)]
            deliveries := by
              rw [hdeliveries, hlimit, Nat.sub_self, List.take_zero]
              rfl
            contents := by
              rw [hrest, hcontents, hlimit, Nat.sub_self, List.take_zero]
              rfl }

end Alone

/-- A call of {lit}`drain_to` during which nothing is submitted hands the oldest queued
requests on to the other backend, in order and up to its limit, leaves the others queued
and returns how many there were. -/
theorem drainTo_alone (buffer : Fin capacity.size → BackendSubmitQueueItem limit)
    (start : backend.State) (schedule : List QueuedMove) (maxSubmissions : Nat)
    (hconsumer : ((initial buffer start : QueuedState capacity limit backend).run
      schedule).consumer = .idle) :
    ∃ moves,
      let state := (initial buffer start : QueuedState capacity limit backend).run schedule
      let queued := state.queue.ring.contents
      let after := state.drainAlone (.drainTo maxSubmissions) moves
      after.consumer = .idle ∧
      after.drains = state.drains ++ [.drainTo maxSubmissions (min maxSubmissions queued.length)] ∧
      after.queue.ring.contents = queued.drop maxSubmissions ∧
      after.received =
        state.received ++ (queued.take maxSubmissions).map (fun item => item.request) ∧
      after.downstream = backend.submitAll state.downstream
        ((queued.take maxSubmissions).map (fun item => item.request)) := by
  have hinv := run_queuedInv buffer start schedule
  generalize (initial buffer start : QueuedState capacity limit backend).run schedule = state
    at hconsumer hinv ⊢
  have hpop := hinv.pop (fun place => by rw [hconsumer]; nofun)
  have hlast : ∃ moves, DrainedTo state (state.drainAlone (.drainTo maxSubmissions) moves)
      (state.queue.ring.contents.take maxSubmissions)
      (.drainTo maxSubmissions (min maxSubmissions state.queue.ring.contents.length)) := by
    rcases Nat.eq_zero_or_pos maxSubmissions with rfl | hpos
    · refine ⟨1, ?_⟩
      change DrainedTo state (state.consumerStep (.drainTo 0)) _ _
      rw [consumerStep, hconsumer]
      exact ⟨hconsumer, by rw [Nat.zero_min]; rfl, (List.append_nil _).symm, rfl⟩
    · have hbegun : state.consumerStep (.drainTo maxSubmissions) =
          { state with consumer := .popping (.drainTo maxSubmissions 0) } := by
        rw [consumerStep, hconsumer]
        exact if_pos hpos
      have hinv' := consumerStep_queuedInv hinv (.drainTo maxSubmissions)
      rw [hbegun] at hinv'
      rcases drainLoop_alone (.drainTo maxSubmissions) state.queue.ring.contents hinv' rfl hpop
        rfl with ⟨moves, hdrained⟩
      refine ⟨moves + 1, ?_⟩
      rw [drainAlone_succ, hbegun]
      rw [Nat.zero_add] at hdrained
      exact ⟨hdrained.consumer, hdrained.drains, hdrained.deliveries, hdrained.contents⟩
  rcases hlast with ⟨moves, hdrained⟩
  have hafter := drainAlone_queuedInv (.drainTo maxSubmissions) hinv moves
  have hreceived : (state.drainAlone (.drainTo maxSubmissions) moves).received =
      state.received ++
        (state.queue.ring.contents.take maxSubmissions).map (fun item => item.request) := by
    rw [received, hdrained.deliveries, List.filterMap_append, List.filterMap_map]
    exact congrArg (fun more => state.received ++ more) (congrFun List.filterMap_eq_map _)
  refine ⟨moves, hdrained.consumer, hdrained.drains, ?_, hreceived, ?_⟩
  · rw [hdrained.contents, List.length_take]
    rcases Nat.le_total maxSubmissions state.queue.ring.contents.length with hle | hle
    · rw [Nat.min_eq_left hle]
    · rw [Nat.min_eq_right hle, List.drop_length, List.drop_of_length_le hle]
  · rw [hafter.downstream, hreceived, hinv.downstream]
    exact List.foldl_append

/-- Two requests are queued and one is drained. -/
theorem drainTo_alone_one :
    let capacity : RingCapacity := ⟨2, by decide, by decide⟩
    let limit : PayloadLimit := ⟨4, by decide, by decide⟩
    let first : BackendSubmitRequest := ⟨7, .enter, [1, 2]⟩
    let second : BackendSubmitRequest := ⟨8, .cancel, [3]⟩
    let state := (initial (fun _ => {}) {} :
      QueuedState capacity limit RecordingExecutionBackend.backend).run
        (List.replicate 6 (.client first) ++ List.replicate 6 (.client second))
    ∃ moves, (state.drainAlone (.drainTo 1) moves).received = [first] ∧
      (state.drainAlone (.drainTo 1) moves).queue.ring.contents.length = 1 := by
  intro capacity limit first second state
  have hconsumer : state.consumer = .idle := by decide +kernel
  rcases drainTo_alone _ _ _ 1 hconsumer with ⟨moves, -, -, hcontents, hreceived, -⟩
  have hone : (state.queue.ring.contents.drop 1).length = 1 := by decide +kernel
  refine ⟨moves, hreceived.trans ?_, (congrArg List.length hcontents).trans hone⟩
  decide +kernel

end QueuedState

end Fgep.Execution
