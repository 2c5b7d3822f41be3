import GatedExecution.Gen.BuilderFlow
import GatedExecution.Gen.BuilderRuns
import GatedExecution.Gen.PacketFramer
import GatedExecution.Net.Sockets
import GatedExecution.Replay.PacketRuns

/-!
# The market data generator

{lit}`apps/fgep_md_generator.cpp`: the session-open messages and then one market event after
another, each in a packet of its own, until a signal came or enough were sent.  A signal may
come between any two turns of the two loops, and the kernel may refuse any datagram.  The
pause between two events is left out.

Main results:

- Theorem {lit}`step_inv`: a turn frames one message under the next number.
- Theorem {lit}`generator_run`: what has been sent and counted after any number of turns.
- Theorem {lit}`generator_replay`: a receiver that applies the sent datagrams one by one.
-/

namespace Fgep.Apps

open Wire Gen Net Replay Runs ItchMessageBuilder

/-! ## The program -/

structure GeneratorConfig where
  destinationIpv4 : String := "127.0.0.1"
  destinationPort : UInt16 := 30001
  messageCount : UInt64 := 10000

/-- What the program configures its parts with. -/
structure GeneratorSetup where
  config : GeneratorConfig
  builder : ItchMessageBuilderConfig
  framer : MoldUdp64PacketFramerConfig

/-- A C string into a session, padded with spaces. -/
def sessionFromText (text : String) : Moldudp64.Session :=
  fixedAsciiFromText Moldudp64.lengthSession (text.toList.map asciiByte)

/-- The values in the source. -/
def mdGeneratorSetup : GeneratorSetup where
  config := {}
  builder :=
    { symbols :=
        [⟨"AAPL".toList.map asciiByte, 1000000, 100⟩, ⟨"MSFT".toList.map asciiByte, 2000000, 100⟩,
          ⟨"TSLA".toList.map asciiByte, 3000000, 100⟩]
      hotSymbolCount := 1 }
  framer := ⟨sessionFromText "FGEPGEN01", 1⟩

/-- The clock and what {lit}`sendto` returns, nothing where it fails. -/
structure SendAnswer where
  now : UInt64
  size : Option Nat

/-- A datagram the program tried to send, and whether it was sent. -/
structure SendAttempt where
  datagram : Bytes
  sent : Bool
deriving DecidableEq

structure GeneratorState where
  builder : ItchMessageBuilder
  framer : MoldUdp64PacketFramer
  sender : UdpSender
  kernel : Kernel
  pending : List Itch.Message
  stopRequested : Bool := false
  openMessagesSent : UInt64 := 0
  messagesSent : UInt64 := 0
  sendFailures : UInt64 := 0
  bytesSent : UInt64 := 0
  ended : Bool := false
  openAttempts : List SendAttempt := []
  attempts : List SendAttempt := []

inductive GeneratorMove where
  | signal
  | turn
deriving DecidableEq

namespace GeneratorState

/-- The state before the first loop, or nothing where the program returns 1. -/
def start (inetPton : String → Option UInt32) (setup : GeneratorSetup) (kernel : Kernel)
    (answer : Option Nat) : Option GeneratorState :=
  let made := UdpSender.new inetPton
    ⟨setup.config.destinationIpv4, setup.config.destinationPort⟩ kernel answer
  if made.1.isOpen then
    some
      { builder := .new setup.builder
        framer := .create setup.framer
        sender := made.1
        kernel := made.2
        pending := (ItchMessageBuilder.new setup.builder).sessionOpenMessages }
  else none

/-- One turn of the loop over the session-open messages. -/
def openTurn (state : GeneratorState) (message : Itch.Message) (rest : List Itch.Message)
    (answer : SendAnswer) : GeneratorState :=
  let framed := frameDataPacket state.framer [message]
  let state := { state with framer := framed.2, pending := rest }
  if framed.1.isEmpty then state
  else
    let result := UdpSender.send state.sender state.kernel framed.1 answer.now answer.size
    { state with
      kernel := result.2
      openMessagesSent :=
        if result.1.sent then state.openMessagesSent + 1 else state.openMessagesSent
      openAttempts := state.openAttempts ++ [⟨framed.1, result.1.sent⟩] }

/-- One turn of the main loop. -/
def eventTurn (state : GeneratorState) (answer : SendAnswer) : GeneratorState :=
  let event := state.builder.nextMarketEvent
  let framed := frameDataPacket state.framer [event.1]
  let state := { state with builder := event.2, framer := framed.2 }
  if framed.1.isEmpty then { state with sendFailures := state.sendFailures + 1 }
  else
    let result := UdpSender.send state.sender state.kernel framed.1 answer.now answer.size
    let state :=
      { state with
        kernel := result.2
        attempts := state.attempts ++ [SendAttempt.mk framed.1 result.1.sent] }
    if result.1.sent then
      { state with
        messagesSent := state.messagesSent + 1
        bytesSent := state.bytesSent + UInt64.ofNat result.1.bytesSent }
    else { state with sendFailures := state.sendFailures + 1 }

/-- {lit}`answers` has the answer to each attempt. -/
def step (setup : GeneratorSetup) (answers : Nat → SendAnswer) (state : GeneratorState) :
    GeneratorMove → GeneratorState
  | .signal => { state with stopRequested := true }
  | .turn =>
      let answer := answers (state.openAttempts.length + state.attempts.length)
      match state.pending with
      | message :: rest => state.openTurn message rest answer
      | [] =>
          if !state.stopRequested && state.messagesSent < setup.config.messageCount then
            state.eventTurn answer
          else { state with ended := true }

def run (setup : GeneratorSetup) (answers : Nat → SendAnswer) (state : GeneratorState)
    (moves : List GeneratorMove) : GeneratorState :=
  moves.foldl (step setup answers) state

/-! ## What has been sent -/

/-- The packet with one message. -/
def singlePacket (session : Moldudp64.Session) (message : DecodedItchMessage) :
    MoldUdp64ItchReplayPacket :=
  ⟨session, message.sequenceNumber, 1, .data, [message]⟩

def sentCount (attempts : List SendAttempt) : Nat :=
  attempts.countP (fun attempt => attempt.sent)

def failedCount (attempts : List SendAttempt) : Nat :=
  attempts.countP (fun attempt => !attempt.sent)

def sentBytes (attempts : List SendAttempt) : Nat :=
  ((attempts.filter (fun attempt => attempt.sent)).map (fun attempt =>
    attempt.datagram.length)).sum

/-- The messages that so many turns of the two loops frame. -/
def made (setup : GeneratorSetup) (opens events : Nat) : List Itch.Message :=
  (ItchMessageBuilder.new setup.builder).sessionOpenMessages.take opens ++
    (ItchMessageBuilder.new setup.builder).events events

/-- They are numbered from the framer's first number on. -/
def numbered (setup : GeneratorSetup) (opens events : Nat) : List DecodedItchMessage :=
  numberMessages (UInt64.ofNat (startNumber setup.framer)) 0 (made setup opens events)

/-- Each attempt carries the message whose turn it was. -/
structure FlowInv (setup : GeneratorSetup) (pending : List Itch.Message)
    (builder : ItchMessageBuilder) (framer : MoldUdp64PacketFramer)
    (openAttempts attempts : List SendAttempt) : Prop where
  remaining : pending =
    (ItchMessageBuilder.new setup.builder).sessionOpenMessages.drop openAttempts.length
  phase : attempts = [] ∨ pending = []
  advanced : builder = (ItchMessageBuilder.new setup.builder).advance attempts.length
  session : framer.config.session = setup.framer.session
  number : framer.nextSequenceNumber =
    UInt64.ofNat (startNumber setup.framer + (openAttempts ++ attempts).length)
  datagrams : (openAttempts ++ attempts).map
      (fun attempt => decodeMoldudp64ItchPacket attempt.datagram) =
    (numbered setup openAttempts.length attempts.length).map
      (fun message => .ok (singlePacket setup.framer.session message))

structure GeneratorInv (setup : GeneratorSetup) (state : GeneratorState) : Prop where
  flow : FlowInv setup state.pending state.builder state.framer state.openAttempts state.attempts
  opened : state.openMessagesSent = UInt64.ofNat (sentCount state.openAttempts)
  sent : state.messagesSent = UInt64.ofNat (sentCount state.attempts)
  failed : state.sendFailures = UInt64.ofNat (failedCount state.attempts)
  bytes : state.bytesSent = UInt64.ofNat (sentBytes state.attempts)
  limit : state.messagesSent ≤ setup.config.messageCount
  ended : state.ended = true → state.pending = [] ∧
    (state.stopRequested = true ∨ state.messagesSent = setup.config.messageCount)

section Turns

theorem numberMessages_concat (first : Moldudp64.SequenceNumber) (index : Nat)
    (messages : List Itch.Message) (message : Itch.Message) :
    numberMessages first index (messages ++ [message]) =
      numberMessages first index messages ++
        [⟨first + UInt64.ofNat (index + messages.length), message⟩] := by
  induction messages generalizing index with
  | nil => rfl
  | cons head rest ih =>
      rw [List.cons_append, numberMessages, ih, numberMessages, List.length_cons,
        Nat.add_right_comm, Nat.add_assoc, List.cons_append]

/-- A message the encoder takes is framed alone, under the framer's number. -/
theorem frame_single {framer : MoldUdp64PacketFramer} {message : Itch.Message} {n : Nat}
    (hnext : framer.nextSequenceNumber = UInt64.ofNat n) (hroom : n + 1 ≤ 2 ^ 64)
    (haccepts : encoderAccepts message = true) :
    (frameDataPacket framer [message]).1.isEmpty = false ∧
      (frameDataPacket framer [message]).2 =
        { framer with nextSequenceNumber := UInt64.ofNat (n + 1) } ∧
      decodeMoldudp64ItchPacket (frameDataPacket framer [message]).1 =
        .ok (singlePacket framer.config.session ⟨UInt64.ofNat n, message⟩) := by
  have hall : [message].all encoderAccepts = true := by rw [List.all_cons, haccepts]; rfl
  have hframe := frameDataPacket_eq framer (show [message].length ≤ 0xFFFF by simp)
  rw [if_pos ⟨List.cons_ne_nil _ _, hall⟩] at hframe
  have hposition : framer.nextSequenceNumber.toNat = n := by
    rw [hnext, UInt64.toNat_ofNat', Nat.mod_eq_of_lt (by omega)]
  have hdecodes := @frameDataPacket_decodes framer [message] (List.cons_ne_nil _ _)
    (by simp) (by rw [hposition]; exact hroom) hall
  rw [hframe]
  refine ⟨?_, ?_, ?_⟩
  · exact List.isEmpty_eq_false_iff.mpr (wireBytes_ne_nil _)
  · rw [hnext, UInt64.ofNat_add]
    rfl
  · rw [hdecodes, hnext]
    simp [singlePacket, numberMessages]

theorem encoderAccepts_of_encodes {message : Itch.Message} (hencodes : Encodes message) :
    encoderAccepts message = true := by
  rw [encoderAccepts, beq_iff_eq]
  exact hencodes _ List.length_replicate

/-- The encoder takes every event until the reference numbers are used up. -/
theorem event_accepted {config : ItchMessageBuilderConfig} (hconfig : config.Admissible) {k : Nat}
    (hroom : config.firstOrderReferenceNumber.toNat + (k + 1) ≤ 2 ^ 64) :
    encoderAccepts ((ItchMessageBuilder.new config).advance k).nextMarketEvent.1 = true := by
  have hstart := ItchMessageBuilder.new_wellFormed hconfig
  have hadds : ∀ n, (addOrders ((ItchMessageBuilder.new config).events n)).length ≤ n := by
    intro n
    have hle : (addOrders ((ItchMessageBuilder.new config).events n)).length ≤
        ((ItchMessageBuilder.new config).events n).length := List.length_filterMap_le _ _
    rwa [events_length] at hle
  have htracks : Tracks config.firstOrderReferenceNumber.toNat
      ((ItchMessageBuilder.new config).events k) ((ItchMessageBuilder.new config).advance k) := by
    have hnext : (ItchMessageBuilder.new config).nextOrderReferenceNumber =
        UInt64.ofNat config.firstOrderReferenceNumber.toNat := UInt64.ofNat_toNat.symm
    apply tracks_advance hstart.placed hnext (new_restingOrders hconfig.locates)
    have := hadds k
    omega
  apply encoderAccepts_of_encodes
  refine (nextMarketEvent_encodes (advance_wellFormed hstart k) htracks
    hconfig.first_reference ?_).2
  rw [← events_succ]
  have := hadds (k + 1)
  omega

/-- A datagram that was sent was sent whole. -/
theorem send_bytesSent (sender : UdpSender) (kernel : Kernel) (payload : Bytes) (now : UInt64)
    (answer : Option Nat)
    (hsent : (UdpSender.send sender kernel payload now answer).1.sent = true) :
    (UdpSender.send sender kernel payload now answer).1.bytesSent = payload.length := by
  unfold UdpSender.send at hsent ⊢
  split
  · rename_i hguard
    rw [if_pos hguard] at hsent
    cases hsent
  · rename_i hguard
    rw [if_neg hguard] at hsent
    cases hfd : sender.socketFd with
    | none =>
        rw [hfd] at hsent
        cases hsent
    | some fd =>
        rw [hfd] at hsent
        cases answer with
        | none => cases hsent
        | some size => exact beq_iff_eq.mp hsent

theorem sentCount_concat (attempts : List SendAttempt) (datagram : Bytes) (sent : Bool) :
    sentCount (attempts ++ [⟨datagram, sent⟩]) =
      sentCount attempts + if sent then 1 else 0 := by
  cases sent <;> simp [sentCount]

theorem failedCount_concat (attempts : List SendAttempt) (datagram : Bytes) (sent : Bool) :
    failedCount (attempts ++ [⟨datagram, sent⟩]) =
      failedCount attempts + if sent then 0 else 1 := by
  cases sent <;> simp [failedCount]

theorem sentCount_add_failedCount (attempts : List SendAttempt) :
    sentCount attempts + failedCount attempts = attempts.length := by
  rw [List.length_eq_countP_add_countP (fun attempt : SendAttempt => attempt.sent)]
  simp [sentCount, failedCount]

theorem sentBytes_concat (attempts : List SendAttempt) (datagram : Bytes) (sent : Bool) :
    sentBytes (attempts ++ [⟨datagram, sent⟩]) =
      sentBytes attempts + if sent then datagram.length else 0 := by
  cases sent <;> simp [sentBytes]

variable {setup : GeneratorSetup} {pending : List Itch.Message} {builder : ItchMessageBuilder}
  {framer : MoldUdp64PacketFramer} {openAttempts attempts : List SendAttempt}

theorem FlowInv.length_made
    (hflow : FlowInv setup pending builder framer openAttempts attempts) :
    (made setup openAttempts.length attempts.length).length =
      (openAttempts ++ attempts).length := by
  have hlengths := congrArg List.length hflow.datagrams
  have hmessages := congrArg List.length (numberMessages_messages
    (UInt64.ofNat (startNumber setup.framer)) 0 (made setup openAttempts.length attempts.length))
  rw [List.length_map] at hmessages
  rw [List.length_map, List.length_map, numbered, hmessages] at hlengths
  exact hlengths.symm

/-- One more message, with its datagram. -/
theorem FlowInv.datagrams_concat
    (hflow : FlowInv setup pending builder framer openAttempts attempts) (opens events : Nat)
    {message : Itch.Message} (attempt : SendAttempt)
    (hmade : made setup opens events =
      made setup openAttempts.length attempts.length ++ [message])
    (hdecode : decodeMoldudp64ItchPacket attempt.datagram = .ok (singlePacket setup.framer.session
      ⟨UInt64.ofNat (startNumber setup.framer + (openAttempts ++ attempts).length), message⟩)) :
    (openAttempts ++ attempts ++ [attempt]).map
        (fun attempt => decodeMoldudp64ItchPacket attempt.datagram) =
      (numbered setup opens events).map
        (fun message => .ok (singlePacket setup.framer.session message)) := by
  have hnumbered : numbered setup opens events =
      numbered setup openAttempts.length attempts.length ++
        [⟨UInt64.ofNat (startNumber setup.framer + (openAttempts ++ attempts).length),
          message⟩] := by
    rw [numbered, hmade, numberMessages_concat, Nat.zero_add, hflow.length_made, UInt64.ofNat_add]
    rfl
  rw [hnumbered, List.map_append, hflow.datagrams, List.map_append, List.map_singleton,
    List.map_singleton, hdecode]

/-- A turn of the first loop: the message is framed, whether or not it is sent. -/
theorem FlowInv.openTurn {message : Itch.Message} {rest : List Itch.Message}
    (hflow : FlowInv setup (message :: rest) builder framer openAttempts attempts)
    (hconfig : setup.builder.Admissible)
    (hroom : startNumber setup.framer + (openAttempts ++ attempts).length + 1 ≤ 2 ^ 64) :
    (frameDataPacket framer [message]).1.isEmpty = false ∧
      ∀ sent, FlowInv setup rest builder (frameDataPacket framer [message]).2
        (openAttempts ++ [⟨(frameDataPacket framer [message]).1, sent⟩]) attempts := by
  have hnone : attempts = [] := by
    rcases hflow.phase with hnone | hdone
    · exact hnone
    · cases hdone
  subst hnone
  have hmem : message ∈ (ItchMessageBuilder.new setup.builder).sessionOpenMessages :=
    List.mem_of_mem_drop (hflow.remaining ▸ List.mem_cons_self)
  have haccepts := encoderAccepts_of_encodes
    (encodes_openMessages (new_wellFormed hconfig) message hmem)
  rcases frame_single hflow.number hroom haccepts with ⟨hframed, hframer, hdecode⟩
  rw [hflow.session] at hdecode
  refine ⟨hframed, fun sent => ?_⟩
  have hlength : (openAttempts ++
      [SendAttempt.mk (frameDataPacket framer [message]).1 sent]).length =
        openAttempts.length + 1 := List.length_append
  constructor
  · rw [hlength, ← List.drop_drop, ← hflow.remaining]
    rfl
  · exact Or.inl rfl
  · exact hflow.advanced
  · rw [hframer]
    exact hflow.session
  · rw [hframer]
    refine congrArg UInt64.ofNat ?_
    simp only [List.length_append, List.length_singleton, List.length_nil]
    omega
  · have hmade : made setup (openAttempts.length + 1) 0 =
        made setup openAttempts.length 0 ++ [message] := by
      rw [made, made, List.take_add, ← hflow.remaining]
      simp [ItchMessageBuilder.events]
    have hconcat := hflow.datagrams_concat (openAttempts.length + 1) 0
      ⟨(frameDataPacket framer [message]).1, sent⟩ hmade hdecode
    rw [List.append_nil] at hconcat
    rw [List.append_nil, hlength]
    exact hconcat

/-- A turn of the second loop. -/
theorem FlowInv.eventTurn (hflow : FlowInv setup pending builder framer openAttempts attempts)
    (hpending : pending = []) (hconfig : setup.builder.Admissible)
    (hroom : startNumber setup.framer + (openAttempts ++ attempts).length + 1 ≤ 2 ^ 64)
    (hreferences : setup.builder.firstOrderReferenceNumber.toNat + (attempts.length + 1) ≤
      2 ^ 64) :
    (frameDataPacket framer [builder.nextMarketEvent.1]).1.isEmpty = false ∧
      ∀ sent, FlowInv setup pending builder.nextMarketEvent.2
        (frameDataPacket framer [builder.nextMarketEvent.1]).2 openAttempts
        (attempts ++ [⟨(frameDataPacket framer [builder.nextMarketEvent.1]).1, sent⟩]) := by
  have haccepts : encoderAccepts builder.nextMarketEvent.1 = true := by
    rw [hflow.advanced]
    exact event_accepted hconfig hreferences
  rcases frame_single hflow.number hroom haccepts with ⟨hframed, hframer, hdecode⟩
  rw [hflow.session] at hdecode
  refine ⟨hframed, fun sent => ?_⟩
  have hlength : (attempts ++ [SendAttempt.mk
      (frameDataPacket framer [builder.nextMarketEvent.1]).1 sent]).length =
        attempts.length + 1 := List.length_append
  constructor
  · exact hflow.remaining
  · exact Or.inr hpending
  · rw [hlength, advance_succ, ← hflow.advanced]
  · rw [hframer]
    exact hflow.session
  · rw [hframer]
    refine congrArg UInt64.ofNat ?_
    simp only [List.length_append, List.length_singleton]
    omega
  · rw [← List.append_assoc, hlength]
    refine hflow.datagrams_concat _ _ _ ?_ hdecode
    rw [made, made, events_succ, ← hflow.advanced, List.append_assoc]

/-! ## Turns and runs -/

variable {state : GeneratorState}

theorem openTurn_inv (hinv : GeneratorInv setup state) (hconfig : setup.builder.Admissible)
    (hroom : startNumber setup.framer + (state.openAttempts ++ state.attempts).length + 1 ≤ 2 ^ 64)
    {message : Itch.Message} {rest : List Itch.Message} (hpending : state.pending = message :: rest)
    (answer : SendAnswer) : GeneratorInv setup (state.openTurn message rest answer) := by
  have hflow := hinv.flow
  rw [hpending] at hflow
  rcases hflow.openTurn hconfig hroom with ⟨hframed, hafter⟩
  rw [GeneratorState.openTurn]
  simp only [hframed, Bool.false_eq_true, if_false]
  generalize UdpSender.send state.sender state.kernel
    (frameDataPacket state.framer [message]).1 answer.now answer.size = result
  refine ⟨hafter _, ?_, hinv.sent, hinv.failed, hinv.bytes, hinv.limit, ?_⟩
  · rw [sentCount_concat, UInt64.ofNat_add, ← hinv.opened]
    cases result.1.sent <;> simp
  · intro hended
    have hcontra := (hinv.ended hended).1
    rw [hpending] at hcontra
    cases hcontra

theorem eventTurn_inv (hinv : GeneratorInv setup state) (hconfig : setup.builder.Admissible)
    (hroom : startNumber setup.framer + (state.openAttempts ++ state.attempts).length + 1 ≤ 2 ^ 64)
    (hreferences : setup.builder.firstOrderReferenceNumber.toNat + (state.attempts.length + 1) ≤
      2 ^ 64) (hpending : state.pending = []) (hgoing : state.stopRequested = false)
    (hless : state.messagesSent < setup.config.messageCount) (answer : SendAnswer) :
    GeneratorInv setup (state.eventTurn answer) := by
  have hended : state.ended = true → False := by
    intro hended
    rcases (hinv.ended hended).2 with hstop | hcount
    · rw [hgoing] at hstop
      cases hstop
    · exact UInt64.ne_of_lt hless hcount
  rcases hinv.flow.eventTurn hpending hconfig hroom hreferences with ⟨hframed, hafter⟩
  have hwhole := send_bytesSent state.sender state.kernel
    (frameDataPacket state.framer [state.builder.nextMarketEvent.1]).1 answer.now answer.size
  rw [GeneratorState.eventTurn]
  simp only [hframed, Bool.false_eq_true, if_false]
  generalize UdpSender.send state.sender state.kernel
    (frameDataPacket state.framer [state.builder.nextMarketEvent.1]).1 answer.now answer.size =
      result at hwhole ⊢
  have hnext := hafter result.1.sent
  rcases Bool.eq_false_or_eq_true result.1.sent with hsent | hsent
  · rw [if_pos hsent]
    refine ⟨hnext, hinv.opened, ?_, ?_, ?_, ?_, fun h => (hended h).elim⟩
    · rw [sentCount_concat, UInt64.ofNat_add, ← hinv.sent, if_pos hsent]
      rfl
    · rw [failedCount_concat, if_pos hsent]
      exact hinv.failed
    · rw [sentBytes_concat, UInt64.ofNat_add, ← hinv.bytes, if_pos hsent, hwhole hsent]
    · have hlt := UInt64.lt_iff_toNat_lt.mp hless
      have hbound := setup.config.messageCount.toNat_lt
      rw [UInt64.le_iff_toNat_le, UInt64.toNat_add]
      change (_ + 1) % 2 ^ 64 ≤ _
      omega
  · rw [if_neg (by rw [hsent]; exact Bool.false_ne_true)]
    refine ⟨hnext, hinv.opened, ?_, ?_, ?_, hinv.limit, fun h => (hended h).elim⟩
    · rw [sentCount_concat, hsent]
      exact hinv.sent
    · rw [failedCount_concat, UInt64.ofNat_add, ← hinv.failed, hsent]
      rfl
    · rw [sentBytes_concat, hsent]
      exact hinv.bytes

theorem step_inv (hinv : GeneratorInv setup state) (hconfig : setup.builder.Admissible)
    (hroom : startNumber setup.framer + (state.openAttempts ++ state.attempts).length + 1 ≤ 2 ^ 64)
    (hreferences : setup.builder.firstOrderReferenceNumber.toNat + (state.attempts.length + 1) ≤
      2 ^ 64) (answers : Nat → SendAnswer) (move : GeneratorMove) :
    GeneratorInv setup (state.step setup answers move) := by
  cases move with
  | signal =>
      exact ⟨hinv.flow, hinv.opened, hinv.sent, hinv.failed, hinv.bytes, hinv.limit,
        fun hended => ⟨(hinv.ended hended).1, Or.inl rfl⟩⟩
  | turn =>
      rw [step]
      split
      · rename_i message rest hpending
        exact openTurn_inv hinv hconfig hroom hpending _
      rename_i hpending
      split
      · rename_i hguard
        rw [Bool.and_eq_true, Bool.not_eq_true', decide_eq_true_iff] at hguard
        exact eventTurn_inv hinv hconfig hroom hreferences hpending hguard.1 hguard.2 _
      · rename_i hguard
        refine ⟨hinv.flow, hinv.opened, hinv.sent, hinv.failed, hinv.bytes, hinv.limit,
          fun _ => ⟨hpending, ?_⟩⟩
        rw [Bool.and_eq_true, Bool.not_eq_true', decide_eq_true_iff, not_and_or] at hguard
        rcases hguard with hstop | hcount
        · exact Or.inl (Bool.eq_true_of_not_eq_false hstop)
        · exact Or.inr (UInt64.le_antisymm hinv.limit (UInt64.not_lt.mp hcount))

/-- A move adds at most one attempt. -/
theorem step_length_le (answers : Nat → SendAnswer) (move : GeneratorMove) :
    ((state.step setup answers move).openAttempts ++
        (state.step setup answers move).attempts).length ≤
      (state.openAttempts ++ state.attempts).length + 1 := by
  cases move with
  | signal => exact Nat.le_succ _
  | turn =>
      rw [step]
      split
      · rw [GeneratorState.openTurn]
        dsimp only
        split
        · exact Nat.le_succ _
        · simp only [List.length_append, List.length_singleton]
          omega
      split
      · rw [GeneratorState.eventTurn]
        dsimp only
        split
        · exact Nat.le_succ _
        split <;> simp only [List.length_append, List.length_singleton] <;> omega
      · exact Nat.le_succ _

theorem start_inv {inetPton : String → Option UInt32} {kernel : Kernel} {answer : Option Nat}
    (hstart : start inetPton setup kernel answer = some state) :
    GeneratorInv setup state ∧ state.openAttempts ++ state.attempts = [] ∧
      state.ended = false := by
  rw [start] at hstart
  split at hstart
  · cases hstart
    refine ⟨⟨⟨rfl, Or.inl rfl, rfl, ?_, create_nextSequenceNumber setup.framer, ?_⟩, rfl, rfl, rfl,
      rfl, UInt64.zero_le, fun hended => by cases hended⟩, rfl, rfl⟩
    · rw [MoldUdp64PacketFramer.create]
      split <;> rfl
    · rfl
  · cases hstart

theorem run_inv (hinv : GeneratorInv setup state)
    (hempty : state.openAttempts ++ state.attempts = []) (hconfig : setup.builder.Admissible)
    (answers : Nat → SendAnswer) (moves : List GeneratorMove)
    (hroom : startNumber setup.framer + moves.length ≤ 2 ^ 64)
    (hreferences : setup.builder.firstOrderReferenceNumber.toNat + moves.length ≤ 2 ^ 64) :
    GeneratorInv setup (state.run setup answers moves) ∧
      ((state.run setup answers moves).openAttempts ++
        (state.run setup answers moves).attempts).length ≤ moves.length := by
  -- The moves bound the attempts, so neither kind of number is used up before the last move.
  induction moves using List.reverseRecOn with
  | nil =>
      refine ⟨hinv, ?_⟩
      rw [run, List.foldl_nil, hempty]
      exact Nat.le_refl _
  | append_singleton earlier move ih =>
      rw [List.length_append, List.length_singleton] at hroom hreferences
      rcases ih (by omega) (by omega) with ⟨hbefore, hlength⟩
      rw [run, List.foldl_append]
      change GeneratorInv setup ((state.run setup answers earlier).step setup answers move) ∧
        (((state.run setup answers earlier).step setup answers move).openAttempts ++
          ((state.run setup answers earlier).step setup answers move).attempts).length ≤ _
      have hattempts : (state.run setup answers earlier).attempts.length ≤ earlier.length := by
        rw [List.length_append] at hlength
        omega
      refine ⟨step_inv hbefore hconfig (by omega) (by omega) answers move, ?_⟩
      have hstep := @step_length_le setup (state.run setup answers earlier) answers move
      have hmoves : (earlier ++ [move]).length = earlier.length + 1 := List.length_append
      omega

/-- A turn ends the program when all is sent that is to be sent, and otherwise makes one
attempt. -/
theorem turn_cases (hinv : GeneratorInv setup state) (hconfig : setup.builder.Admissible)
    (hroom : startNumber setup.framer + (state.openAttempts ++ state.attempts).length + 1 ≤ 2 ^ 64)
    (hreferences : setup.builder.firstOrderReferenceNumber.toNat + (state.attempts.length + 1) ≤
      2 ^ 64) (answers : Nat → SendAnswer) :
    ((state.pending = [] ∧
        (state.stopRequested = true ∨ state.messagesSent = setup.config.messageCount)) ∧
      state.step setup answers .turn = { state with ended := true }) ∨
    (¬(state.pending = [] ∧
        (state.stopRequested = true ∨ state.messagesSent = setup.config.messageCount)) ∧
      (state.step setup answers .turn).ended = state.ended ∧
      ((state.step setup answers .turn).openAttempts ++
          (state.step setup answers .turn).attempts).length =
        (state.openAttempts ++ state.attempts).length + 1) := by
  rw [step]
  split
  · rename_i message rest hpending
    have hflow := hinv.flow
    rw [hpending] at hflow
    have hframed := (hflow.openTurn hconfig hroom).1
    refine Or.inr ⟨fun hdone => ?_, ?_⟩
    · rw [hpending] at hdone
      cases hdone.1
    · rw [GeneratorState.openTurn]
      simp only [hframed, Bool.false_eq_true, if_false, List.length_append,
        List.length_singleton]
      exact ⟨trivial, by omega⟩
  rename_i hpending
  split
  · rename_i hguard
    rw [Bool.and_eq_true, Bool.not_eq_true', decide_eq_true_iff] at hguard
    have hframed := (hinv.flow.eventTurn hpending hconfig hroom hreferences).1
    refine Or.inr ⟨?_, ?_⟩
    · rintro ⟨-, hstop | hcount⟩
      · rw [hguard.1] at hstop
        cases hstop
      · exact UInt64.ne_of_lt hguard.2 hcount
    · rw [GeneratorState.eventTurn]
      simp only [hframed, Bool.false_eq_true, if_false]
      split <;> exact ⟨rfl, by simp only [List.length_append, List.length_singleton]; omega⟩
  · rename_i hguard
    refine Or.inl ⟨⟨hpending, ?_⟩, rfl⟩
    rw [Bool.and_eq_true, Bool.not_eq_true', decide_eq_true_iff, not_and_or] at hguard
    rcases hguard with hstop | hcount
    · exact Or.inl (Bool.eq_true_of_not_eq_false hstop)
    · exact Or.inr (UInt64.le_antisymm hinv.limit (UInt64.not_lt.mp hcount))

/-- The moves of a run that worked, up to the turn that ended the program. -/
def WorkedFor (setup : GeneratorSetup) (answers : Nat → SendAnswer) (before : GeneratorState)
    (moves working rest : List GeneratorMove) : Prop :=
  moves = working ++ rest ∧ (before.run setup answers working).ended = false ∧
    (rest = [] ∨ ∃ later, rest = .turn :: later ∧
      (before.run setup answers (working ++ [.turn])).ended = true)

theorem run_concat (answers : Nat → SendAnswer) (earlier : List GeneratorMove)
    (move : GeneratorMove) :
    state.run setup answers (earlier ++ [move]) =
      (state.run setup answers earlier).step setup answers move := by
  rw [run, List.foldl_append]
  rfl

/-- An ended program makes no more attempts. -/
theorem step_ended (hinv : GeneratorInv setup state) (hconfig : setup.builder.Admissible)
    (hroom : startNumber setup.framer + (state.openAttempts ++ state.attempts).length + 1 ≤ 2 ^ 64)
    (hreferences : setup.builder.firstOrderReferenceNumber.toNat + (state.attempts.length + 1) ≤
      2 ^ 64) (hended : state.ended = true) (answers : Nat → SendAnswer) (move : GeneratorMove) :
    (state.step setup answers move).ended = true ∧
      (state.step setup answers move).openAttempts = state.openAttempts ∧
      (state.step setup answers move).attempts = state.attempts := by
  cases move with
  | signal => exact ⟨hended, rfl, rfl⟩
  | turn =>
      rcases turn_cases hinv hconfig hroom hreferences answers with ⟨-, hstep⟩ | ⟨hgoing, -⟩
      · rw [hstep]
        exact ⟨rfl, rfl, rfl⟩
      · exact absurd (hinv.ended hended) hgoing

/-- After a part of a run there is room for one more attempt. -/
theorem run_room (hinv : GeneratorInv setup state)
    (hempty : state.openAttempts ++ state.attempts = []) (hconfig : setup.builder.Admissible)
    (answers : Nat → SendAnswer) (earlier : List GeneratorMove)
    (hroom : startNumber setup.framer + (earlier.length + 1) ≤ 2 ^ 64)
    (hreferences : setup.builder.firstOrderReferenceNumber.toNat + (earlier.length + 1) ≤ 2 ^ 64) :
    let now := state.run setup answers earlier
    GeneratorInv setup now ∧
      startNumber setup.framer + (now.openAttempts ++ now.attempts).length + 1 ≤ 2 ^ 64 ∧
      setup.builder.firstOrderReferenceNumber.toNat + (now.attempts.length + 1) ≤ 2 ^ 64 := by
  intro now
  rcases run_inv hinv hempty hconfig answers earlier (by omega) (by omega) with ⟨hnow, hlength⟩
  change (now.openAttempts ++ now.attempts).length ≤ earlier.length at hlength
  refine ⟨hnow, by omega, ?_⟩
  rw [List.length_append] at hlength
  omega

/-- As many attempts as turns among the moves that worked. -/
structure Account (setup : GeneratorSetup) (answers : Nat → SendAnswer) (before : GeneratorState)
    (moves working rest : List GeneratorMove) : Prop where
  worked : WorkedFor setup answers before moves working rest
  ended : (before.run setup answers moves).ended = true ↔ rest ≠ []
  attempts : ((before.run setup answers moves).openAttempts ++
    (before.run setup answers moves).attempts).length = working.count .turn

/-- A program that has not ended worked all the time. -/
theorem account_of_going {answers : Nat → SendAnswer} {moves : List GeneratorMove}
    (hgoing : (state.run setup answers moves).ended = false)
    (hattempts : ((state.run setup answers moves).openAttempts ++
      (state.run setup answers moves).attempts).length = moves.count .turn) :
    Account setup answers state moves moves [] where
  worked := ⟨(List.append_nil _).symm, hgoing, Or.inl rfl⟩
  ended := by
    rw [hgoing]
    exact iff_of_false Bool.false_ne_true (fun hne => hne rfl)
  attempts := hattempts

section Account

variable {answers : Nat → SendAnswer} {earlier working rest : List GeneratorMove}

/-- One more move while the program is going. -/
theorem Account.going (haccount : Account setup answers state earlier working [])
    (hnow : GeneratorInv setup (state.run setup answers earlier))
    (hconfig : setup.builder.Admissible)
    (hroom : startNumber setup.framer + ((state.run setup answers earlier).openAttempts ++
      (state.run setup answers earlier).attempts).length + 1 ≤ 2 ^ 64)
    (hreferences : setup.builder.firstOrderReferenceNumber.toNat +
      ((state.run setup answers earlier).attempts.length + 1) ≤ 2 ^ 64) (move : GeneratorMove) :
    ∃ working rest, Account setup answers state (earlier ++ [move]) working rest := by
  have hcount := haccount.attempts
  rcases haccount.worked with ⟨hmoves, hgoing, -⟩
  rw [List.append_nil] at hmoves
  subst hmoves
  cases move with
  | signal =>
      refine ⟨earlier ++ [.signal], [], account_of_going ?_ ?_⟩
      · rw [run_concat]
        exact hgoing
      · rw [run_concat, List.count_append]
        exact hcount
  | turn =>
      rcases turn_cases hnow hconfig hroom hreferences answers with
        ⟨-, hstep⟩ | ⟨-, hsame, hmore⟩
      · have hrun : state.run setup answers (earlier ++ [.turn]) =
            { state.run setup answers earlier with ended := true } := by
          rw [run_concat, hstep]
        refine ⟨earlier, [.turn], ⟨⟨rfl, hgoing, Or.inr ⟨[], rfl, ?_⟩⟩, ?_, ?_⟩⟩
        · rw [hrun]
        · rw [hrun]
          exact iff_of_true rfl (List.cons_ne_nil _ _)
        · rw [hrun]
          exact hcount
      · refine ⟨earlier ++ [.turn], [], account_of_going ?_ ?_⟩
        · rw [run_concat]
          exact hsame.trans hgoing
        · rw [run_concat, hmore, hcount, List.count_append]
          rfl

/-- One more move after the program has ended. -/
theorem Account.past (haccount : Account setup answers state earlier working rest)
    (hne : rest ≠ []) (hnow : GeneratorInv setup (state.run setup answers earlier))
    (hconfig : setup.builder.Admissible)
    (hroom : startNumber setup.framer + ((state.run setup answers earlier).openAttempts ++
      (state.run setup answers earlier).attempts).length + 1 ≤ 2 ^ 64)
    (hreferences : setup.builder.firstOrderReferenceNumber.toNat +
      ((state.run setup answers earlier).attempts.length + 1) ≤ 2 ^ 64) (move : GeneratorMove) :
    Account setup answers state (earlier ++ [move]) working (rest ++ [move]) := by
  rcases haccount.worked with ⟨hmoves, hworking, hrest⟩
  rcases step_ended hnow hconfig hroom hreferences (haccount.ended.mpr hne) answers move with
    ⟨hstays, hopens, hevents⟩
  refine ⟨⟨?_, hworking, Or.inr ?_⟩, ?_, ?_⟩
  · rw [← List.append_assoc, ← hmoves]
  · rcases hrest with hnil | ⟨later, rfl, hend⟩
    · exact absurd hnil hne
    · exact ⟨later ++ [move], rfl, hend⟩
  · rw [run_concat]
    exact iff_of_true hstays (List.append_ne_nil_of_left_ne_nil hne _)
  · rw [run_concat, hopens, hevents]
    exact haccount.attempts

end Account

/-- Until the program ends every turn is an attempt, and it makes none afterwards. -/
theorem run_account (hinv : GeneratorInv setup state)
    (hempty : state.openAttempts ++ state.attempts = []) (hgoing : state.ended = false)
    (hconfig : setup.builder.Admissible) (answers : Nat → SendAnswer)
    (moves : List GeneratorMove) (hroom : startNumber setup.framer + moves.length ≤ 2 ^ 64)
    (hreferences : setup.builder.firstOrderReferenceNumber.toNat + moves.length ≤ 2 ^ 64) :
    ∃ working rest, Account setup answers state moves working rest := by
  induction moves using List.reverseRecOn with
  | nil => exact ⟨[], [], account_of_going hgoing (congrArg List.length hempty)⟩
  | append_singleton earlier move ih =>
      rw [List.length_append, List.length_singleton] at hroom hreferences
      rcases run_room hinv hempty hconfig answers earlier hroom hreferences with
        ⟨hnow, hroom', hreferences'⟩
      rcases ih (by omega) (by omega) with ⟨working, rest, haccount⟩
      by_cases hrest : rest = []
      · subst hrest
        exact haccount.going hnow hconfig hroom' hreferences' move
      · exact ⟨working, rest ++ [move],
          haccount.past hrest hnow hconfig hroom' hreferences' move⟩

/-- The first attempts are those of the session-open messages. -/
theorem FlowInv.length_openAttempts
    (hflow : FlowInv setup pending builder framer openAttempts attempts) :
    openAttempts.length = min (openAttempts ++ attempts).length
      (ItchMessageBuilder.new setup.builder).sessionOpenMessages.length := by
  have hlength := hflow.length_made
  have hremaining := congrArg List.length hflow.remaining
  rw [made, List.length_append, List.length_take, events_length, List.length_append] at hlength
  rw [List.length_drop] at hremaining
  rw [List.length_append]
  rcases hflow.phase with hnone | hdone
  · rw [hnone, List.length_nil]
    omega
  · rw [hdone, List.length_nil] at hremaining
    omega

end Turns

/-! ## What a receiver gets -/

/-- The datagrams that were sent. -/
def sentDatagrams (state : GeneratorState) : List Bytes :=
  ((state.openAttempts ++ state.attempts).filter (fun attempt => attempt.sent)).map
    (fun attempt => attempt.datagram)

theorem GeneratorInv.received {setup : GeneratorSetup} {state : GeneratorState}
    (hinv : GeneratorInv setup state) :
    ∃ received : List DecodedItchMessage, received.Sublist
        (numbered setup state.openAttempts.length state.attempts.length) ∧
      state.sentDatagrams.map decodeMoldudp64ItchPacket =
        received.map (fun message => .ok (singlePacket setup.framer.session message)) ∧
      received.length = sentCount state.openAttempts + sentCount state.attempts := by
  have hsublist : (state.sentDatagrams.map decodeMoldudp64ItchPacket).Sublist
      ((numbered setup state.openAttempts.length state.attempts.length).map
        (fun message => .ok (singlePacket setup.framer.session message))) := by
    rw [← hinv.flow.datagrams, sentDatagrams, List.map_map]
    exact List.filter_sublist.map _
  rcases List.sublist_map_iff.mp hsublist with ⟨received, hreceived, hmap⟩
  refine ⟨received, hreceived, hmap, ?_⟩
  have hlength := congrArg List.length hmap
  rw [List.length_map, List.length_map, sentDatagrams, List.length_map,
    ← List.countP_eq_length_filter, List.countP_append] at hlength
  exact hlength.symm

theorem mdGeneratorSetup_admissible : mdGeneratorSetup.builder.Admissible :=
  ⟨by decide +kernel, by decide, by decide, by decide, by decide +kernel⟩

/-- A received datagram is decoded and applied; one that does not decode changes nothing. -/
def receiveDatagram (applier : ItchReplayApplier) (datagram : Bytes) :
    ErrorCode × ItchReplayApplier :=
  match decodeMoldudp64ItchPacket datagram with
  | .ok packet => applier.applyPacket packet
  | .error code => (code, applier)

def receiveAll (applier : ItchReplayApplier) (datagrams : List Bytes) : ItchReplayApplier :=
  datagrams.foldl (fun current datagram => (receiveDatagram current datagram).2) applier

def receiveCodes (applier : ItchReplayApplier) (datagrams : List Bytes) : List ErrorCode :=
  runOutputs (fun current datagram => (receiveDatagram current datagram).2)
    (fun current datagram => (receiveDatagram current datagram).1) applier datagrams

/-- A packet with one message does what the message does, whether or not it is accepted. -/
theorem applyPacket_single {applier : ItchReplayApplier}
    (hvenue : Venue.isValidVenueId applier.venueId = true) (session : Moldudp64.Session)
    (message : DecodedItchMessage) :
    (applier.applyPacket (singlePacket session message)).1 = (applier.apply message).1 ∧
      (applier.applyPacket (singlePacket session message)).2.core =
        (applier.apply message).2.core := by
  have hpacket : applier.applyPacket (singlePacket session message) =
      applier.beginData.applyMessages [message] :=
    ItchReplayApplier.applyPacket_data hvenue rfl
  have hcongr := ItchReplayApplier.apply_congr
    (show applier.beginData.core = applier.core from rfl) message
  rw [hpacket, ItchReplayApplier.applyMessages]
  dsimp only
  split
  · exact hcongr
  · rename_i hok
    exact ⟨(not_not.mp hok).symm.trans hcongr.1, hcongr.2⟩

/-- Datagrams that carry one message each are applied like the messages. -/
theorem receive_singles {session : Moldudp64.Session} {datagrams : List Bytes}
    {messages : List DecodedItchMessage}
    (hdecode : datagrams.map decodeMoldudp64ItchPacket =
      messages.map (fun message => .ok (singlePacket session message)))
    {applier : ItchReplayApplier} (hvenue : Venue.isValidVenueId applier.venueId = true) :
    (receiveAll applier datagrams).core = (applier.applyAll messages).core ∧
      receiveCodes applier datagrams = applier.applyCodes messages := by
  induction messages generalizing datagrams applier with
  | nil =>
      rw [List.map_nil, List.map_eq_nil_iff] at hdecode
      subst hdecode
      exact ⟨rfl, rfl⟩
  | cons message rest ih =>
      rw [List.map_cons, List.map_eq_cons_iff] at hdecode
      rcases hdecode with ⟨datagram, others, rfl, hfirst, hothers⟩
      have hreceive : receiveDatagram applier datagram =
          applier.applyPacket (singlePacket session message) := by
        rw [receiveDatagram, hfirst]
      rcases applyPacket_single hvenue session message with ⟨hcode, hcore⟩
      rw [← hreceive] at hcode hcore
      -- The counts of packets differ from here on, and decide nothing.
      have hsame : (receiveDatagram applier datagram).2.venueId = applier.venueId :=
        (congrArg Prod.fst hcore).trans (applier.apply_venueId message)
      rcases ih hothers (hsame ▸ hvenue) with ⟨hall, hcodes⟩
      constructor
      · exact hall.trans (ItchReplayApplier.applyAll_congr hcore rest)
      · rw [receiveCodes, runOutputs, hcode]
        exact congrArg _ (hcodes.trans (ItchReplayApplier.applyCodes_congr hcore rest))

/-- The datagrams that got through carry one message each, and a receiver of them ends with the
directory and the books that these messages lead to, and returns their codes: a message that is
refused, by the kernel or by a book, keeps none of the others from being applied. -/
theorem generator_replay (inetPton : String → Option UInt32) (setup : GeneratorSetup)
    (kernel : Kernel) (answer : Option Nat) (answers : Nat → SendAnswer)
    (moves : List GeneratorMove) (before : GeneratorState) (applier : ItchReplayApplier)
    (hstart : start inetPton setup kernel answer = some before)
    (hconfig : setup.builder.Admissible)
    (hroom : startNumber setup.framer + moves.length ≤ 2 ^ 64)
    (hreferences : setup.builder.firstOrderReferenceNumber.toNat + moves.length ≤ 2 ^ 64)
    (hvenue : Venue.isValidVenueId applier.venueId = true) :
    let state := before.run setup answers moves
    ∃ received : List DecodedItchMessage, received.Sublist
        (numbered setup state.openAttempts.length state.attempts.length) ∧
      received.length = sentCount state.openAttempts + sentCount state.attempts ∧
      state.sentDatagrams.map decodeMoldudp64ItchPacket =
        received.map (fun message => .ok (singlePacket setup.framer.session message)) ∧
      (receiveAll applier state.sentDatagrams).core = (applier.applyAll received).core ∧
      receiveCodes applier state.sentDatagrams = applier.applyCodes received := by
  intro state
  rcases start_inv hstart with ⟨hbefore, hempty, -⟩
  rcases run_inv hbefore hempty hconfig answers moves hroom hreferences with ⟨hinv, -⟩
  rcases GeneratorInv.received hinv with ⟨received, hsublist, hdecode, hlength⟩
  exact ⟨received, hsublist, hlength, hdecode, receive_singles hdecode hvenue⟩

/-- Three session-open messages, of which the second gets through, and an event cut short. -/
theorem generator_replay_source :
    let answers : Nat → SendAnswer := fun n => ⟨0, if n % 2 = 0 then none else some 61⟩
    let moves := List.replicate 4 GeneratorMove.turn
    ∃ before, start (fun _ => some 0) mdGeneratorSetup ⟨∅, 0⟩ (some 3) = some before ∧
      ∃ received : List DecodedItchMessage, received.length = 1 ∧
        (before.run mdGeneratorSetup answers moves).sentDatagrams.map decodeMoldudp64ItchPacket =
          received.map (fun message =>
            .ok (singlePacket mdGeneratorSetup.framer.session message)) ∧
        receiveCodes (freshApplier 1) (before.run mdGeneratorSetup answers moves).sentDatagrams =
          (freshApplier 1).applyCodes received := by
  intro answers moves
  refine ⟨_, rfl, ?_⟩
  rcases generator_replay (fun _ => some 0) mdGeneratorSetup ⟨∅, 0⟩ (some 3) answers moves _
    (freshApplier 1) rfl mdGeneratorSetup_admissible (by decide) (by decide) (by decide) with
    ⟨received, -, hlength, hdecode, -, hcodes⟩
  exact ⟨received, hlength.trans (by decide +kernel), hdecode, hcodes⟩

end GeneratorState

end Fgep.Apps
