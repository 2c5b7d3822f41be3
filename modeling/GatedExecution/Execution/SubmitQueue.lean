import GatedExecution.Core.SpscFifo
import GatedExecution.Execution.Backend

/-!
# Queue items and counters

{lit}`execution/backend_submit_queue.hpp` and {lit}`telemetry/core_stats.hpp`.  An item
owns a copy of a request's payload in an array of fixed size with a 16-bit length;
what the queue does with its ring is interleaved with other threads and belongs to
the asynchronous backend.

Main results:

- Theorem {lit}`makeItem_status`: which requests become items.
- Theorem {lit}`makeItem_request`: an item stands for the request it was made from.
-/

namespace Fgep.Execution

open Wire Ouch

/-! ## Counters -/

inductive CoreCounter where
  | rxPackets
  | txPackets
  | rxDropped
  | txDropped
  | rxNombuf
  | submitQueued
  | submitRejected
  | ringFull
  | backendAccepted
  | backendRejected
deriving DecidableEq, Repr

/-- Every counter is an atomic 64-bit number of its own. -/
structure CoreStats where
  counters : CoreCounter → UInt64 := fun _ => 0

namespace CoreStats

def increment (stats : CoreStats) (counter : CoreCounter) : CoreStats where
  counters := Function.update stats.counters counter (stats.counters counter + 1)

def load (stats : CoreStats) (counter : CoreCounter) : UInt64 :=
  stats.counters counter

theorem load_increment (stats : CoreStats) (counter other : CoreCounter) :
    (stats.increment counter).load other =
      stats.load other + if other = counter then 1 else 0 := by
  unfold load increment
  dsimp only
  rw [Function.update_apply]
  split
  · rename_i heq
    rw [heq]
  · rw [UInt64.add_zero]

/-- What has been counted since the counters stood at {lit}`base`. -/
def since (stats base : CoreStats) : CoreStats where
  counters := fun counter => stats.load counter - base.load counter

theorem since_increment (stats base : CoreStats) (counter : CoreCounter) :
    (stats.increment counter).since base = (stats.since base).increment counter := by
  have hcounters : ∀ other, ((stats.increment counter).since base).load other =
      ((stats.since base).increment counter).load other := by
    intro other
    rw [load_increment]
    change (stats.increment counter).load other - base.load other =
      stats.load other - base.load other + _
    rw [load_increment]
    grind
  exact congrArg CoreStats.mk (funext hcounters)

theorem since_self (stats : CoreStats) (counter : CoreCounter) :
    (stats.since stats).load counter = 0 :=
  UInt64.sub_self _

theorem since_zero (stats : CoreStats) {base : CoreStats}
    (hzero : ∀ counter, base.load counter = 0) : stats.since base = stats := by
  have hcounters : ∀ counter, (stats.since base).load counter = stats.load counter := by
    intro counter
    change stats.load counter - base.load counter = stats.load counter
    rw [hzero, UInt64.sub_zero]
  exact congrArg CoreStats.mk (funext hcounters)

end CoreStats

/-! ## Items -/

inductive BackendSubmitQueuePushStatus where
  | queued
  | emptyPayload
  | payloadTooLarge
  | queueFull
deriving DecidableEq, Repr

/-- The size of an item's array with the static assertions of the template. -/
structure PayloadLimit where
  size : Nat
  pos : 0 < size
  fits : size ≤ 0xFFFF

variable {limit : PayloadLimit}

structure BackendSubmitQueueItem (limit : PayloadLimit) where
  userRefNum : UserRefNum := 0
  kind : BackendOrderKind := .enter
  payloadSize : UInt16 := 0
  payload : List.Vector UInt8 limit.size := List.Vector.replicate limit.size 0
deriving DecidableEq

namespace BackendSubmitQueueItem

def payloadSpan (item : BackendSubmitQueueItem limit) : Bytes :=
  item.payload.toList.take item.payloadSize.toNat

def request (item : BackendSubmitQueueItem limit) : BackendSubmitRequest where
  userRefNum := item.userRefNum
  kind := item.kind
  payload := item.payloadSpan

end BackendSubmitQueueItem

/-- {lit}`std::copy` to the start of an array. -/
def copyToFront (bytes : Bytes) (array : List.Vector UInt8 limit.size)
    (hfits : bytes.length ≤ limit.size) : List.Vector UInt8 limit.size :=
  ⟨bytes ++ array.toList.drop bytes.length, by
    rw [List.length_append, List.length_drop, List.Vector.toList_length]
    omega⟩

/-- The status, and the item as {lit}`make_item` leaves it. -/
def makeItem (limit : PayloadLimit) (request : BackendSubmitRequest) :
    BackendSubmitQueuePushStatus × BackendSubmitQueueItem limit :=
  let item : BackendSubmitQueueItem limit := {}
  if request.payload.isEmpty then (.emptyPayload, item)
  else if hsize : request.payload.length > limit.size then (.payloadTooLarge, item)
  else
    (.queued,
      { userRefNum := request.userRefNum
        kind := request.kind
        payloadSize := UInt16.ofNat request.payload.length
        payload := copyToFront request.payload item.payload (Nat.le_of_not_gt hsize) })

theorem makeItem_status (request : BackendSubmitRequest) :
    (makeItem limit request).1 = .queued ↔
      request.payload ≠ [] ∧ request.payload.length ≤ limit.size := by
  unfold makeItem
  cases hempty : request.payload.isEmpty with
  | true => simp [List.isEmpty_iff.mp hempty]
  | false =>
      have hsome : request.payload ≠ [] := List.isEmpty_eq_false_iff.mp hempty
      by_cases hsize : request.payload.length > limit.size
      · simp [hsize]
      · simp [hsize, hsome, Nat.le_of_not_gt hsize]

/-- Only the ring can be full. -/
theorem makeItem_ne_queueFull (request : BackendSubmitRequest) :
    (makeItem limit request).1 ≠ .queueFull := by
  unfold makeItem
  dsimp only
  split
  · nofun
  · split <;> nofun

/-- An item that is queued shows its request's own fields and bytes. -/
theorem makeItem_request {request : BackendSubmitRequest} {item : BackendSubmitQueueItem limit}
    (hitem : makeItem limit request = (.queued, item)) : item.request = request := by
  have hstatus : (makeItem limit request).1 = .queued := by rw [hitem]
  rcases (makeItem_status request).mp hstatus with ⟨hsome, hsize⟩
  have hempty : request.payload.isEmpty = false := List.isEmpty_eq_false_iff.mpr hsome
  have hlength : (UInt16.ofNat request.payload.length).toNat = request.payload.length :=
    UInt16.toNat_ofNat_of_lt' (Nat.lt_succ_of_le (Nat.le_trans hsize limit.fits))
  unfold makeItem at hitem
  rw [hempty] at hitem
  simp only [Bool.false_eq_true, if_false, dif_neg (Nat.not_lt.mpr hsize), Prod.mk.injEq,
    true_and] at hitem
  subst hitem
  unfold BackendSubmitQueueItem.request BackendSubmitQueueItem.payloadSpan
  dsimp only
  rw [hlength]
  have hcopy : (copyToFront request.payload (List.Vector.replicate limit.size 0) hsize).toList =
      request.payload ++
        (List.Vector.replicate limit.size (0 : UInt8)).toList.drop request.payload.length := rfl
  rw [hcopy, List.take_left']
  rfl

end Fgep.Execution
