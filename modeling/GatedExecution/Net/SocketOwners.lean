import GatedExecution.Lib.Ownership
import GatedExecution.Lib.Runs
import GatedExecution.Net.Sockets

/-!
# Who owns a descriptor

A process with any number of senders, receivers and kernel backends, which are constructed,
moved, assigned, closed, used and destroyed in any order, while other code of the process
opens and closes descriptors of its own.  Every operation is one of the operations of
{lit}`Ownership` on the descriptors the objects store.

Main results:

- Theorem {lit}`step_owned`: an operation keeps ownership exclusive and makes no call on a
  descriptor that is not open.
- Theorem {lit}`run_descriptors`: so does every run, and what is open is owned once or
  belongs to other code.
-/

namespace Fgep.Net

open Wire Execution Ownership

inductive SocketObject where
  | sender (object : UdpSender)
  | backend (object : KernelUdpExecutionBackend)
  | receiver (object : UdpReceiver)

namespace SocketObject

def socketFd : SocketObject → Option Nat
  | sender object => object.socketFd
  | backend object => object.socketFd
  | receiver object => object.socketFd

def movedFrom : SocketObject → SocketObject
  | sender object => sender object.movedFrom
  | backend object => backend object.movedFrom
  | receiver object => receiver object.movedFrom

def close (kernel : Kernel) : SocketObject → SocketObject × Kernel
  | sender object => (sender (object.close kernel).1, (object.close kernel).2)
  | backend object => (backend (object.close kernel).1, (object.close kernel).2)
  | receiver object => (receiver (object.close kernel).1, (object.close kernel).2)

/-- The descriptor is closed and the object forgets it. -/
def closeSocket (kernel : Kernel) : SocketObject → SocketObject × Kernel
  | sender object => (sender (object.closeSocket kernel).1, (object.closeSocket kernel).2)
  | backend object => (backend (object.closeSocket kernel).1, (object.closeSocket kernel).2)
  | receiver object => (receiver (object.closeSocket kernel).1, (object.closeSocket kernel).2)

/-- Only objects of one class are assigned to each other. -/
def sameClass : SocketObject → SocketObject → Bool
  | sender _, sender _ => true
  | backend _, backend _ => true
  | receiver _, receiver _ => true
  | _, _ => false

@[simp]
theorem socketFd_movedFrom (object : SocketObject) : object.movedFrom.socketFd = none := by
  cases object <;> rfl

@[simp]
theorem socketFd_close (object : SocketObject) (kernel : Kernel) :
    (object.close kernel).1.socketFd = none := by
  cases object <;> rfl

@[simp]
theorem close_kernel (object : SocketObject) (kernel : Kernel) :
    (object.close kernel).2 = kernel.closeSocket object.socketFd := by
  cases object <;> rfl

@[simp]
theorem socketFd_closeSocket (object : SocketObject) (kernel : Kernel) :
    (object.closeSocket kernel).1.socketFd = none := by
  cases object <;> rfl

@[simp]
theorem closeSocket_kernel (object : SocketObject) (kernel : Kernel) :
    (object.closeSocket kernel).2 = kernel.closeSocket object.socketFd := by
  cases object <;> rfl

end SocketObject

/-! ## The process -/

/-- Objects are told apart by where they live.  {lit}`foreign` are the descriptors of other
code. -/
structure SocketProcess where
  objects : Nat → Option SocketObject
  kernel : Kernel
  foreign : Finset Nat

inductive SocketOperation where
  | newSender (place : Nat) (config : UdpSenderConfig) (answer : Option Nat)
  | newBackend (place : Nat) (config : KernelUdpBackendConfig) (answer : Option Nat)
  | newReceiver (place : Nat) (config : UdpReceiverConfig) (answers : ReceiverAnswers)
  | moveConstruct (place other : Nat)
  | moveAssign (place other : Nat)
  | close (place : Nat)
  | destroy (place : Nat)
  | send (place : Nat) (payload : Bytes) (now : UInt64) (answer : Option Nat)
  | submit (place : Nat) (request : BackendSubmitRequest) (answer : Option Nat)
  | receive (place : Nat) (bufferSize : Nat) (now : UInt64) (answer : Option Arrival)
  | foreignOpen (fd : Nat)
  | foreignClose (fd : Nat)

namespace SocketProcess

def put (process : SocketProcess) (place : Nat) (object : Option SocketObject)
    (kernel : Kernel) : SocketProcess :=
  { process with objects := Function.update process.objects place object, kernel := kernel }

/-- A constructor runs where no object lives. -/
def construct (process : SocketProcess) (place : Nat) (made : SocketObject × Kernel) :
    SocketProcess :=
  match process.objects place with
  | none => process.put place (some made.1) made.2
  | some _ => process

/-- Both moves hand the members of {lit}`other` on and reset it. -/
def handOver (process : SocketProcess) (place other : Nat) (object : SocketObject) :
    SocketProcess :=
  (process.put place (some object) process.kernel).put other (some object.movedFrom)
    process.kernel

def step (inetPton : String → Option UInt32) (process : SocketProcess) :
    SocketOperation → SocketProcess
  | .newSender place config answer =>
      let made := UdpSender.new inetPton config process.kernel answer
      process.construct place (.sender made.1, made.2)
  | .newBackend place config answer =>
      let made := KernelUdpExecutionBackend.new inetPton config process.kernel answer
      process.construct place (.backend made.1, made.2)
  | .newReceiver place config answers =>
      let made := UdpReceiver.new inetPton config process.kernel answers
      process.construct place (.receiver made.1, made.2)
  | .moveConstruct place other =>
      match process.objects place, process.objects other with
      | none, some object => process.handOver place other object
      | _, _ => process
  | .moveAssign place other =>
      match process.objects place, process.objects other with
      | some target, some object =>
          if place = other || !target.sameClass object then process
          else
            let closed := target.closeSocket process.kernel
            (process.put place (some closed.1) closed.2).handOver place other object
      | _, _ => process
  | .close place =>
      match process.objects place with
      | some object =>
          process.put place (some (object.close process.kernel).1) (object.close process.kernel).2
      | none => process
  | .destroy place =>
      match process.objects place with
      | some object => process.put place none (object.closeSocket process.kernel).2
      | none => process
  | .send place payload now answer =>
      match process.objects place with
      | some (.sender object) =>
          { process with kernel := (UdpSender.send object process.kernel payload now answer).2 }
      | _ => process
  | .submit place request answer =>
      match process.objects place with
      | some (.backend object) =>
          { process with
            kernel := (KernelUdpExecutionBackend.submit object process.kernel request answer).2 }
      | _ => process
  | .receive place bufferSize now answer =>
      match process.objects place with
      | some (.receiver object) =>
          { process with kernel := (object.receive process.kernel bufferSize now answer).2 }
      | _ => process
  | .foreignOpen fd =>
      if fd ∈ process.kernel.openFds then process
      else
        { process with
          kernel := { process.kernel with openFds := insert fd process.kernel.openFds }
          foreign := insert fd process.foreign }
  | .foreignClose fd =>
      if fd ∈ process.foreign then
        { process with kernel := process.kernel.close fd, foreign := process.foreign.erase fd }
      else process

def run (inetPton : String → Option UInt32) (process : SocketProcess)
    (operations : List SocketOperation) : SocketProcess :=
  operations.foldl (step inetPton) process

/-- A process before its first object, with the descriptors other code has open. -/
def initial (foreign : Finset Nat) : SocketProcess where
  objects _ := none
  kernel := ⟨foreign, 0⟩
  foreign := foreign

/-! ## Ownership -/

def owns (process : SocketProcess) (place : Nat) : Option Nat :=
  (process.objects place).bind SocketObject.socketFd

def holdings (process : SocketProcess) : Holdings Nat Nat where
  holds := process.owns
  inUse := process.kernel.openFds
  foreign := process.foreign

structure Owned (process : SocketProcess) : Prop where
  exclusive : Exclusive process.holdings
  badCalls : process.kernel.badCalls = 0

theorem owns_of_object {process : SocketProcess} {place : Nat} {object : SocketObject}
    (hobject : process.objects place = some object) :
    process.owns place = object.socketFd := by
  rw [owns, hobject, Option.bind_some]

theorem owns_put (process : SocketProcess) (place : Nat) (object : Option SocketObject)
    (kernel : Kernel) :
    (process.put place object kernel).owns =
      Function.update process.owns place (object.bind SocketObject.socketFd) := by
  funext other
  by_cases hother : other = place
  · subst hother
    simp [owns, put]
  · simp [owns, put, Function.update_of_ne hother]

/-- An owned descriptor is open. -/
theorem Owned.mem_openFds {process : SocketProcess} (howned : Owned process) {place fd : Nat}
    (howns : process.owns place = some fd) : fd ∈ process.kernel.openFds :=
  howned.exclusive.inUse place fd howns

theorem Owned.construct {process : SocketProcess} (howned : Owned process) {place : Nat}
    {made : SocketObject × Kernel} (hopens : Opens process.kernel made.1.socketFd made.2) :
    Owned (process.construct place made) := by
  rw [SocketProcess.construct]
  cases hplace : process.objects place with
  | some object => exact howned
  | none =>
      have hnone : process.owns place = none := by rw [owns, hplace, Option.bind_none]
      rcases hopens with ⟨hfd, hkernel⟩ | ⟨fd, hfd, hfresh, hkernel⟩
      · have hsame : (process.put place (some made.1) made.2).holdings = process.holdings := by
          rw [holdings, owns_put, Option.bind_some, hfd, ← hnone, Function.update_eq_self, hkernel]
          rfl
        exact ⟨hsame ▸ howned.exclusive, (congrArg Kernel.badCalls hkernel).trans howned.badCalls⟩
      · have hacquire : (process.put place (some made.1) made.2).holdings =
            process.holdings.acquire place fd := by
          rw [holdings, owns_put, Option.bind_some, hfd, hkernel]
          rfl
        exact ⟨hacquire ▸ howned.exclusive.acquire hnone hfresh,
          (congrArg Kernel.badCalls hkernel).trans howned.badCalls⟩

/-- Closing what an object stores, and an object without a descriptor in its place. -/
theorem Owned.release {process : SocketProcess} (howned : Owned process) (place : Nat)
    (after : Option SocketObject) (hafter : after.bind SocketObject.socketFd = none) :
    Owned (process.put place after (process.kernel.closeSocket (process.owns place))) := by
  have hreleased := howned.exclusive.release place
  cases howns : process.owns place with
  | none =>
      have hsame : (process.put place after process.kernel).holdings = process.holdings := by
        rw [holdings, owns_put, hafter, ← howns, Function.update_eq_self]
        rfl
      exact ⟨hsame ▸ howned.exclusive, howned.badCalls⟩
  | some fd =>
      rw [Holdings.release_of_some (show process.holdings.holds place = some fd from howns)]
        at hreleased
      rw [Kernel.closeSocket, Kernel.close_of_mem (howned.mem_openFds howns)]
      refine ⟨?_, howned.badCalls⟩
      rw [holdings, owns_put, hafter]
      exact hreleased

theorem Owned.handOver {process : SocketProcess} (howned : Owned process) {place other : Nat}
    {object : SocketObject} (hobject : process.objects other = some object)
    (hne : other ≠ place) (hnone : process.owns place = none) :
    Owned (process.handOver place other object) := by
  have htransfer : (process.handOver place other object).holdings =
      process.holdings.transfer other place := by
    rw [holdings, SocketProcess.handOver, owns_put, owns_put, Option.bind_some, Option.bind_some,
      SocketObject.socketFd_movedFrom, ← owns_of_object hobject]
    rfl
  exact ⟨htransfer ▸ howned.exclusive.transfer hne hnone, howned.badCalls⟩

/-! ## Calls on an owned descriptor change nothing -/

theorem UdpSender.send_kernel (sender : UdpSender) (kernel : Kernel) (payload : Bytes)
    (now : UInt64) (answer : Option Nat) (hopen : ∀ fd, sender.socketFd = some fd →
      fd ∈ kernel.openFds) :
    (UdpSender.send sender kernel payload now answer).2 = kernel := by
  rw [UdpSender.send]
  split
  · rfl
  split
  · rfl
  · rename_i fd hfd
    cases answer <;> exact Kernel.call_of_mem (hopen fd hfd)

theorem KernelUdpExecutionBackend.submit_kernel (backend : KernelUdpExecutionBackend)
    (kernel : Kernel) (request : BackendSubmitRequest) (answer : Option Nat)
    (hopen : ∀ fd, backend.socketFd = some fd → fd ∈ kernel.openFds) :
    (KernelUdpExecutionBackend.submit backend kernel request answer).2 = kernel := by
  rw [KernelUdpExecutionBackend.submit]
  split
  · rfl
  split
  · rfl
  split
  · rfl
  split
  · rfl
  · rename_i fd hfd
    have hcall := Kernel.call_of_mem (hopen fd hfd)
    cases answer with
    | none => exact hcall
    | some size =>
        dsimp only
        split <;> exact hcall

theorem UdpReceiver.receive_kernel (receiver : UdpReceiver) (kernel : Kernel) (bufferSize : Nat)
    (now : UInt64) (answer : Option Arrival) (hopen : ∀ fd, receiver.socketFd = some fd →
      fd ∈ kernel.openFds) :
    (receiver.receive kernel bufferSize now answer).2 = kernel := by
  rw [UdpReceiver.receive]
  split
  · rfl
  split
  · rfl
  · rename_i fd hfd
    have hcall := Kernel.call_of_mem (hopen fd hfd)
    cases answer with
    | none => exact hcall
    | some arrival =>
        dsimp only
        split <;> exact hcall

/-! ## Steps and runs -/

variable {inetPton : String → Option UInt32}

theorem step_owned (process : SocketProcess) (operation : SocketOperation)
    (howned : Owned process) : Owned (process.step inetPton operation) := by
  cases operation with
  | newSender place config answer =>
      exact howned.construct (EndpointSocket.new_opens _ _ _ _)
  | newBackend place config answer =>
      exact howned.construct (EndpointSocket.new_opens _ _ _ _)
  | newReceiver place config answers =>
      exact howned.construct (UdpReceiver.new_opens _ _ _ _)
  | moveConstruct place other =>
      rw [step]
      split
      · rename_i object hplace hother
        have hne : other ≠ place := by
          rintro rfl
          rw [hplace] at hother
          cases hother
        exact howned.handOver hother hne (by rw [owns, hplace, Option.bind_none])
      · exact howned
  | moveAssign place other =>
      rw [step]
      split
      · rename_i target object hplace hother
        split
        · exact howned
        · rename_i hguard
          have hne : other ≠ place := by
            rintro rfl
            exact hguard (by simp)
          -- The target gives up its own descriptor before it takes the other's.
          have hclosed := howned.release place
            (some (target.closeSocket process.kernel).1) (by simp)
          rw [owns_of_object hplace, ← SocketObject.closeSocket_kernel] at hclosed
          refine hclosed.handOver ?_ hne ?_
          · exact (Function.update_of_ne hne _ _).trans hother
          · rw [owns_put, Function.update_self]
            simp
      · exact howned
  | close place =>
      rw [step]
      split
      · rename_i object hplace
        have hclosed := howned.release place
          (some (object.close process.kernel).1) (by simp)
        rwa [owns_of_object hplace, ← SocketObject.close_kernel] at hclosed
      · exact howned
  | destroy place =>
      rw [step]
      split
      · rename_i object hplace
        have hclosed := howned.release place none rfl
        rwa [owns_of_object hplace, ← SocketObject.closeSocket_kernel] at hclosed
      · exact howned
  | send place payload now answer =>
      rw [step]
      split
      · rename_i object hplace
        rw [UdpSender.send_kernel object process.kernel payload now answer
          (fun fd hfd => howned.mem_openFds ((owns_of_object hplace).trans hfd))]
        exact howned
      · exact howned
  | submit place request answer =>
      rw [step]
      split
      · rename_i object hplace
        rw [KernelUdpExecutionBackend.submit_kernel object process.kernel request answer
          (fun fd hfd => howned.mem_openFds ((owns_of_object hplace).trans hfd))]
        exact howned
      · exact howned
  | receive place bufferSize now answer =>
      rw [step]
      split
      · rename_i object hplace
        rw [UdpReceiver.receive_kernel object process.kernel bufferSize now answer
          (fun fd hfd => howned.mem_openFds ((owns_of_object hplace).trans hfd))]
        exact howned
      · exact howned
  | foreignOpen fd =>
      rw [step]
      split
      · exact howned
      · rename_i hfresh
        exact ⟨howned.exclusive.borrow hfresh, howned.badCalls⟩
  | foreignClose fd =>
      rw [step]
      split
      · rename_i hforeign
        rw [Kernel.close_of_mem (howned.exclusive.foreign hforeign)]
        exact ⟨howned.exclusive.giveBack hforeign, howned.badCalls⟩
      · exact howned

theorem initial_owned (foreign : Finset Nat) : Owned (initial foreign) where
  exclusive :=
    { inUse := fun _ _ hheld => by cases hheld
      notForeign := fun _ _ hheld => by cases hheld
      unique := fun _ _ _ hheld => by cases hheld
      accounted := fun _ hmem => Or.inl hmem
      foreign := Finset.Subset.refl _ }
  badCalls := rfl

theorem run_owned (foreign : Finset Nat) (operations : List SocketOperation) :
    Owned ((initial foreign).run inetPton operations) :=
  List.foldlRecOn operations (step inetPton) (initial_owned foreign)
    (fun process howned operation _ => step_owned process operation howned)

/-- In every run no call names a descriptor that is not open, no two objects store the same
one, an object never stores one of other code, and nothing else is open; once the last object
is gone only what other code has open is left. -/
theorem run_descriptors (inetPton : String → Option UInt32) (foreign : Finset Nat)
    (operations : List SocketOperation) :
    let process := (initial foreign).run inetPton operations
    process.kernel.badCalls = 0 ∧
      (∀ place other fd, process.owns place = some fd → process.owns other = some fd →
        place = other) ∧
      (∀ place fd, process.owns place = some fd → fd ∉ process.foreign) ∧
      (∀ fd, fd ∈ process.kernel.openFds ↔
        fd ∈ process.foreign ∨ ∃ place, process.owns place = some fd) ∧
      ((∀ place, process.objects place = none) → process.kernel.openFds = process.foreign) := by
  intro process
  have howned : Owned process := run_owned foreign operations
  refine ⟨howned.badCalls, howned.exclusive.unique, howned.exclusive.notForeign, ?_, ?_⟩
  · intro fd
    constructor
    · exact howned.exclusive.accounted fd
    · rintro (hforeign | ⟨place, hplace⟩)
      · exact howned.exclusive.foreign hforeign
      · exact howned.mem_openFds hplace
  · intro hgone
    apply howned.exclusive.inUse_eq_foreign
    intro place
    change process.owns place = none
    rw [owns, hgone place, Option.bind_none]

end SocketProcess

end Fgep.Net
