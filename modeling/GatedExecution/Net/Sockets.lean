import GatedExecution.Execution.Backend

/-!
# Socket objects

{lit}`net/udp_sender.cpp`, {lit}`net/udp_receiver.cpp` and
{lit}`execution/kernel_udp_backend.cpp`: three classes that own a socket.  A descriptor of
the source is negative when there is none, here it is an option.  What the kernel answers
is an argument of each function, and so is {lit}`inet_pton`.  The kernel counts the calls
that name a descriptor which is not open.

Main results:

- Theorems {lit}`EndpointSocket.new_opens` and {lit}`UdpReceiver.new_opens`: a constructor
  ends with one new descriptor open and stored, or with the kernel as it was.
-/

namespace Fgep.Net

open Wire Execution

/-! ## The kernel -/

structure Kernel where
  openFds : Finset Nat
  badCalls : Nat
deriving DecidableEq

namespace Kernel

/-- A descriptor that is open already is no answer of {lit}`socket`. -/
def socket (kernel : Kernel) (answer : Option Nat) : Option Nat × Kernel :=
  match answer with
  | none => (none, kernel)
  | some fd =>
      if fd ∈ kernel.openFds then (none, kernel)
      else (some fd, { kernel with openFds := insert fd kernel.openFds })

def close (kernel : Kernel) (fd : Nat) : Kernel :=
  if fd ∈ kernel.openFds then { kernel with openFds := kernel.openFds.erase fd }
  else { kernel with badCalls := kernel.badCalls + 1 }

/-- Any other call: {lit}`bind`, {lit}`getsockname`, {lit}`setsockopt`, {lit}`sendto`,
{lit}`recvfrom`, {lit}`recvmsg`. -/
def call (kernel : Kernel) (fd : Nat) : Kernel :=
  if fd ∈ kernel.openFds then kernel
  else { kernel with badCalls := kernel.badCalls + 1 }

/-- The common body of the three {lit}`close_socket` functions. -/
def closeSocket (kernel : Kernel) (socketFd : Option Nat) : Kernel :=
  match socketFd with
  | some fd => kernel.close fd
  | none => kernel

theorem call_of_mem {kernel : Kernel} {fd : Nat} (hopen : fd ∈ kernel.openFds) :
    kernel.call fd = kernel :=
  if_pos hopen

theorem close_of_mem {kernel : Kernel} {fd : Nat} (hopen : fd ∈ kernel.openFds) :
    kernel.close fd = { kernel with openFds := kernel.openFds.erase fd } :=
  if_pos hopen

end Kernel

/-- What opening a socket does: nothing, or one descriptor that was not open is. -/
def Opens (kernel : Kernel) (socketFd : Option Nat) (after : Kernel) : Prop :=
  (socketFd = none ∧ after = kernel) ∨
    ∃ fd, socketFd = some fd ∧ fd ∉ kernel.openFds ∧
      after = { kernel with openFds := insert fd kernel.openFds }

theorem Kernel.socket_opens (kernel : Kernel) (answer : Option Nat) :
    Opens kernel (kernel.socket answer).1 (kernel.socket answer).2 := by
  cases answer with
  | none => exact Or.inl ⟨rfl, rfl⟩
  | some fd =>
      rw [Kernel.socket]
      split
      · exact Or.inl ⟨rfl, rfl⟩
      · rename_i hfresh
        exact Or.inr ⟨fd, rfl, hfresh, rfl⟩

/-! ## Senders and the kernel backend -/

structure UdpSenderConfig where
  destinationIpv4 : String := "127.0.0.1"
  destinationPort : UInt16 := 0
deriving DecidableEq

structure KernelUdpBackendConfig where
  destinationIpv4 : String := "127.0.0.1"
  destinationPort : UInt16 := 9000
deriving DecidableEq

/-- The members that {lit}`UdpSender` and {lit}`KernelUdpExecutionBackend` share. -/
structure EndpointSocket (κ : Type) where
  config : κ
  socketFd : Option Nat
  endpointValid : Bool
  manuallyClosed : Bool

namespace EndpointSocket

variable {κ : Type}

def openSocket (object : EndpointSocket κ) (kernel : Kernel) (answer : Option Nat) :
    EndpointSocket κ × Kernel :=
  if !object.endpointValid || object.manuallyClosed || object.socketFd.isSome then
    (object, kernel)
  else
    ({ object with socketFd := (kernel.socket answer).1 }, (kernel.socket answer).2)

def new (config : κ) (endpointValid : Bool) (kernel : Kernel) (answer : Option Nat) :
    EndpointSocket κ × Kernel :=
  openSocket ⟨config, none, endpointValid, false⟩ kernel answer

def closeSocket (object : EndpointSocket κ) (kernel : Kernel) : EndpointSocket κ × Kernel :=
  ({ object with socketFd := none }, kernel.closeSocket object.socketFd)

def close (object : EndpointSocket κ) (kernel : Kernel) : EndpointSocket κ × Kernel :=
  ({ (object.closeSocket kernel).1 with manuallyClosed := true }, (object.closeSocket kernel).2)

/-- What both moves leave behind.  The text of a configuration that was moved from is
unspecified; nothing reads it while the endpoint is invalid. -/
def movedFrom (object : EndpointSocket κ) : EndpointSocket κ :=
  { object with socketFd := none, endpointValid := false, manuallyClosed := true }

def isOpen (object : EndpointSocket κ) : Bool :=
  object.endpointValid && !object.manuallyClosed && object.socketFd.isSome

theorem new_opens (config : κ) (endpointValid : Bool) (kernel : Kernel) (answer : Option Nat) :
    Opens kernel (new config endpointValid kernel answer).1.socketFd
      (new config endpointValid kernel answer).2 := by
  rw [new, openSocket]
  split
  · exact Or.inl ⟨rfl, rfl⟩
  · exact kernel.socket_opens answer

end EndpointSocket

def isValidEndpoint (inetPton : String → Option UInt32) (destinationIpv4 : String)
    (destinationPort : UInt16) : Bool :=
  destinationPort != 0 && (inetPton destinationIpv4).isSome

abbrev UdpSender := EndpointSocket UdpSenderConfig

structure UdpSendResult where
  sent : Bool := false
  bytesSent : Nat := 0
  sendTimestampNs : UInt64 := 0
deriving DecidableEq

namespace UdpSender

def new (inetPton : String → Option UInt32) (config : UdpSenderConfig) (kernel : Kernel)
    (answer : Option Nat) : UdpSender × Kernel :=
  EndpointSocket.new config
    (isValidEndpoint inetPton config.destinationIpv4 config.destinationPort) kernel answer

/-- {lit}`answer` is what {lit}`sendto` returns, nothing where it is negative. -/
def send (sender : UdpSender) (kernel : Kernel) (payload : Bytes) (now : UInt64)
    (answer : Option Nat) : UdpSendResult × Kernel :=
  if payload.isEmpty || !sender.endpointValid || sender.manuallyClosed then
    ({ sendTimestampNs := now }, kernel)
  else
    match sender.socketFd with
    | none => ({ sendTimestampNs := now }, kernel)
    | some fd =>
        match answer with
        | none => ({ sendTimestampNs := now }, kernel.call fd)
        | some size =>
            (⟨size == payload.length, size, now⟩, kernel.call fd)

end UdpSender

abbrev KernelUdpExecutionBackend := EndpointSocket KernelUdpBackendConfig

namespace KernelUdpExecutionBackend

def new (inetPton : String → Option UInt32) (config : KernelUdpBackendConfig) (kernel : Kernel)
    (answer : Option Nat) : KernelUdpExecutionBackend × Kernel :=
  EndpointSocket.new config
    (isValidEndpoint inetPton config.destinationIpv4 config.destinationPort) kernel answer

def submit (backend : KernelUdpExecutionBackend) (kernel : Kernel)
    (request : BackendSubmitRequest) (answer : Option Nat) : BackendSubmitResult × Kernel :=
  if request.payload.isEmpty then (makeBackendReject request .emptyPayload, kernel)
  else if !backend.endpointValid then (makeBackendReject request .invalidEndpoint, kernel)
  else if backend.manuallyClosed then (makeBackendReject request .backendClosed, kernel)
  else
    match backend.socketFd with
    | none => (makeBackendReject request .socketError, kernel)
    | some fd =>
        match answer with
        | none => (makeBackendReject request .sendFailed, kernel.call fd)
        | some size =>
            if size ≠ request.payload.length then
              (makeBackendReject request .sendFailed, kernel.call fd)
            else
              (makeBackendAccept request, kernel.call fd)

end KernelUdpExecutionBackend

/-! ## Receivers -/

structure UdpReceiverConfig where
  bindIpv4 : String := "0.0.0.0"
  bindPort : UInt16 := 0
  enableKernelTimestamping : Bool := false
deriving DecidableEq

structure UdpReceiver where
  config : UdpReceiverConfig
  socketFd : Option Nat := none
  boundPort : UInt16 := 0
  manuallyClosed : Bool := false
  kernelTimestampingActive : Bool := false

/-- The kernel's answers while a receiver opens its socket; {lit}`port` is nothing where
{lit}`getsockname` fails. -/
structure ReceiverAnswers where
  socket : Option Nat
  bound : Bool
  port : Option UInt16
  timestamping : Bool

structure Timespec where
  sec : Int64
  nsec : Int64
deriving DecidableEq

/-- A control message, with the three times of a {lit}`SCM_TIMESTAMPING` message. -/
structure ControlMessage where
  timestamping : Bool
  software : Timespec
  legacy : Timespec
  hardware : Timespec

structure Arrival where
  datagram : Bytes
  control : List ControlMessage

structure UdpReceiveResult where
  received : Bool := false
  bytesReceived : Nat := 0
  receiveTimestampNs : UInt64 := 0
  kernelSoftwareTimestampAvailable : Bool := false
  kernelSoftwareTimestampNs : UInt64 := 0
  kernelHardwareTimestampAvailable : Bool := false
  kernelHardwareTimestampNs : UInt64 := 0
deriving DecidableEq

def timespecToNs (value : Timespec) : UInt64 :=
  value.sec.toUInt64 * 1000000000 + value.nsec.toUInt64

def timespecIsSet (value : Timespec) : Bool :=
  value.sec != 0 || value.nsec != 0

namespace UdpReceiver

def openSocket (inetPton : String → Option UInt32) (receiver : UdpReceiver) (kernel : Kernel)
    (answers : ReceiverAnswers) : UdpReceiver × Kernel :=
  if receiver.manuallyClosed || receiver.socketFd.isSome then (receiver, kernel)
  else if (inetPton receiver.config.bindIpv4).isNone then (receiver, kernel)
  else
    match kernel.socket answers.socket with
    | (none, kernel) => (receiver, kernel)
    | (some fd, kernel) =>
        let kernel := kernel.call fd
        if !answers.bound then (receiver, kernel.close fd)
        else
          let kernel := kernel.call fd
          let receiver := { receiver with boundPort := answers.port.getD receiver.boundPort }
          if receiver.config.enableKernelTimestamping then
            ({ receiver with
                kernelTimestampingActive := answers.timestamping, socketFd := some fd },
              kernel.call fd)
          else ({ receiver with socketFd := some fd }, kernel)

def new (inetPton : String → Option UInt32) (config : UdpReceiverConfig) (kernel : Kernel)
    (answers : ReceiverAnswers) : UdpReceiver × Kernel :=
  openSocket inetPton { config := config } kernel answers

def closeSocket (receiver : UdpReceiver) (kernel : Kernel) : UdpReceiver × Kernel :=
  ({ receiver with socketFd := none }, kernel.closeSocket receiver.socketFd)

/-- The port and the timestamping flag stay as they were. -/
def close (receiver : UdpReceiver) (kernel : Kernel) : UdpReceiver × Kernel :=
  ({ (receiver.closeSocket kernel).1 with manuallyClosed := true },
    (receiver.closeSocket kernel).2)

def movedFrom (receiver : UdpReceiver) : UdpReceiver :=
  { receiver with
    socketFd := none, boundPort := 0, manuallyClosed := true, kernelTimestampingActive := false }

def isOpen (receiver : UdpReceiver) : Bool :=
  !receiver.manuallyClosed && receiver.socketFd.isSome

/-- Only the first timestamping message is read. -/
def readTimestamps (control : List ControlMessage) (result : UdpReceiveResult) :
    UdpReceiveResult :=
  match control.find? (fun message => message.timestamping) with
  | none => result
  | some message =>
      let result :=
        if timespecIsSet message.hardware then
          { result with
            kernelHardwareTimestampAvailable := true
            kernelHardwareTimestampNs := timespecToNs message.hardware }
        else result
      if timespecIsSet message.software then
        { result with
          kernelSoftwareTimestampAvailable := true
          kernelSoftwareTimestampNs := timespecToNs message.software }
      else result

/-- The result and the bytes that the kernel put into the buffer. -/
def receive (receiver : UdpReceiver) (kernel : Kernel) (bufferSize : Nat) (now : UInt64)
    (answer : Option Arrival) : (UdpReceiveResult × Bytes) × Kernel :=
  if bufferSize == 0 || receiver.manuallyClosed then (({}, []), kernel)
  else
    match receiver.socketFd with
    | none => (({}, []), kernel)
    | some fd =>
        match answer with
        | none => (({ receiveTimestampNs := now }, []), kernel.call fd)
        | some arrival =>
            -- The kernel cuts a datagram to the buffer.
            let stored := arrival.datagram.take bufferSize
            let result : UdpReceiveResult :=
              { received := true, bytesReceived := stored.length, receiveTimestampNs := now }
            if receiver.kernelTimestampingActive then
              ((readTimestamps arrival.control result, stored), kernel.call fd)
            else ((result, stored), kernel.call fd)

theorem new_opens (inetPton : String → Option UInt32) (config : UdpReceiverConfig)
    (kernel : Kernel) (answers : ReceiverAnswers) :
    Opens kernel (new inetPton config kernel answers).1.socketFd
      (new inetPton config kernel answers).2 := by
  have hsocket := kernel.socket_opens answers.socket
  rw [new, openSocket]
  split
  · exact Or.inl ⟨rfl, rfl⟩
  split
  · exact Or.inl ⟨rfl, rfl⟩
  rcases hanswer : kernel.socket answers.socket with ⟨socketFd, after⟩
  rw [hanswer] at hsocket
  rcases hsocket with ⟨rfl, rfl⟩ | ⟨fd, rfl, hfresh, rfl⟩
  · exact Or.inl ⟨rfl, rfl⟩
  have hopen : fd ∈ insert fd kernel.openFds := Finset.mem_insert_self _ _
  simp only [Kernel.call, Kernel.close, hopen, if_true]
  split
  · -- The address was refused, and the descriptor is closed again.
    left
    rw [Finset.erase_insert hfresh]
    exact ⟨rfl, rfl⟩
  · right
    split <;> exact ⟨fd, rfl, hfresh, rfl⟩

end UdpReceiver

end Fgep.Net
