import Bumble.Outcome
import Bumble.ByteOrder

/-!
# The external HCI host (`bumble-transport/src/host.rs`)

A host-side adapter over a packet source and a packet sink.  A reader thread
feeds a channel; packets are moved from it to a pending queue and handed to the
device by `drain_host_events`.  Commands reach the sink on two paths: those of
the device are queued until the controller has answered the one before, and
`send_command` writes its command at once and waits for the answer.

The packets a call can find while it blocks are an argument of the model, as is
the number of packets it can look at before its deadline, and so is what the
sink answers to a write.
-/

namespace Bumble.Transport

/-! ## 1. Packets and states -/

structure Command where
  opCode : UInt16
  parameters : Bytes
deriving DecidableEq, Repr

/-- HCI packets as far as the host tells them apart; `ρ` are the return parameters of
    a command and `χ` all other packets. -/
inductive HciPacket (ρ χ : Type) where
  | command (command : Command)
  | commandComplete (numHciCommandPackets : UInt8) (commandOpcode : UInt16)
    (returnParameters : ρ)
  | commandStatus (status numHciCommandPackets : UInt8) (commandOpcode : UInt16)
  | vendor (data : Bytes)
  | other (packet : χ)
deriving DecidableEq, Repr

inductive ReaderMessage (ρ χ : Type) where
  | packet (packet : HciPacket ρ χ)
  | ended
  | failed (error : String)
deriving DecidableEq, Repr

inductive CommandResponse (ρ : Type) where
  | complete (numHciCommandPackets : UInt8) (returnParameters : ρ)
  | status (status numHciCommandPackets : UInt8)
deriving DecidableEq, Repr

inductive ExternalHostState where
  | running
  | ended
  | failed (message : String)
deriving DecidableEq, Repr

inductive ExternalHostActivity where
  | packet
  | timeout
  | ended
deriving DecidableEq, Repr

inductive HostError where
  | remote (message : String)
  | externalHostFailure (error : String)
deriving DecidableEq, Repr

inductive DirectCommandMode where
  | blocking
  | withoutResponse
deriving DecidableEq, Repr

/-- An operation code in the form of the messages. -/
def hexOpCode (opCode : UInt16) : String :=
  let digit (nibble : Nat) : Char := Char.ofNat (if nibble < 10 then 48 + nibble else 87 + nibble)
  "0x" ++ String.ofList [digit (opCode.toNat / 4096), digit (opCode.toNat / 256 % 16),
    digit (opCode.toNat / 16 % 16), digit (opCode.toNat % 16)]

def DirectCommandMode.busyMessage (mode : DirectCommandMode) (opCode : UInt16) : String :=
  match mode with
  | blocking => "cannot send blocking HCI command " ++ hexOpCode opCode ++
    " while Device command flow is busy"
  | withoutResponse => "cannot send HCI command " ++ hexOpCode opCode ++
    " without a response while Device command flow is busy"

/-- `connected` tells whether the reader thread can still send; `sink` is what was
    written. -/
structure ExternalHost (ρ χ : Type) where
  sink : List (HciPacket ρ χ)
  receiver : List (ReaderMessage ρ χ)
  connected : Bool
  pending : List (HciPacket ρ χ)
  deviceCommandQueue : List Command
  devicePendingCommand : Option UInt16
  deviceCommandCredit : Bool
  state : ExternalHostState
  failure : Option String
deriving DecidableEq, Repr

namespace ExternalHost

variable {ρ χ : Type}

def new : ExternalHost ρ χ := ⟨[], [], true, [], [], none, true, .running, none⟩

/-! ## 2. Writing -/

def fail (host : ExternalHost ρ χ) (message : String) : ExternalHost ρ χ :=
  { host with state := .failed message, failure := none }

def recordFailure (host : ExternalHost ρ χ) (error : String) : ExternalHost ρ χ :=
  { host with state := .failed error, failure := some error }

def failureError (host : ExternalHost ρ χ) (fallback : String) : HostError :=
  match host.state, host.failure with
  | .failed _, some error => .externalHostFailure error
  | .failed message, none => .remote message
  | .ended, _ => .remote "transport has ended"
  | .running, _ => .remote fallback

def controllerMessage (controllerId : Nat) : String :=
  "external host exposes controller 0, not controller " ++ toString controllerId

/-- `answer` is the error of the sink, if it has one. -/
def write (host : ExternalHost ρ χ) (controllerId : Nat) (packet : HciPacket ρ χ)
    (answer : Option String) : ExternalHost ρ χ × Bool :=
  if controllerId ≠ 0 then (host.fail (controllerMessage controllerId), false)
  else if host.state ≠ .running then (host, false)
  else
    match answer with
    | some error => (host.recordFailure error, false)
    | none => ({ host with sink := host.sink ++ [packet] }, true)

/-! ## 3. The command flow of the device -/

def dispatchNextDeviceCommand (host : ExternalHost ρ χ) (answer : Option String) :
    ExternalHost ρ χ :=
  if host.devicePendingCommand.isSome ∨ ¬ host.deviceCommandCredit then host
  else
    match host.deviceCommandQueue with
    | [] => host
    | command :: queue =>
      let host := { host with deviceCommandQueue := queue, deviceCommandCredit := false }
      match host.write 0 (.command command) answer with
      | (host, true) => { host with devicePendingCommand := some command.opCode }
      | (host, false) => host

def submitDeviceCommand (host : ExternalHost ρ χ) (controllerId : Nat) (command : Command)
    (answer : Option String) : ExternalHost ρ χ :=
  if controllerId ≠ 0 then host.fail (controllerMessage controllerId)
  else
    { host with
      deviceCommandQueue := host.deviceCommandQueue ++ [command] }.dispatchNextDeviceCommand
      answer

/-- The operation of both arms of `observe_device_command_flow` that are not `return`. -/
def observeCompletion (host : ExternalHost ρ χ) (completesCommand : Bool)
    (numHciCommandPackets : UInt8) (answer : Option String) : ExternalHost ρ χ :=
  let host := if completesCommand then { host with devicePendingCommand := none } else host
  let host := if numHciCommandPackets ≠ 0 then { host with deviceCommandCredit := true } else host
  host.dispatchNextDeviceCommand answer

def observeDeviceCommandFlow (host : ExternalHost ρ χ) (packet : HciPacket ρ χ)
    (answer : Option String) : ExternalHost ρ χ :=
  match packet with
  | .commandComplete numHciCommandPackets commandOpcode _ =>
    host.observeCompletion (commandOpcode ≠ 0) numHciCommandPackets answer
  | .commandStatus _ numHciCommandPackets _ =>
    host.observeCompletion true numHciCommandPackets answer
  | _ => host

def isDeviceCommandFlowEvent : HciPacket ρ χ → Bool
  | .commandComplete .. | .commandStatus .. => true
  | _ => false

/-! ## 4. Receiving -/

def receiveMessage (host : ExternalHost ρ χ) (message : ReaderMessage ρ χ) :
    Outcome (ExternalHost ρ χ) HostError ExternalHostActivity :=
  match message with
  | .packet packet => .ok { host with pending := host.pending ++ [packet] } .packet
  | .ended => .ok { host with state := .ended } .ended
  | .failed error => .fail (host.recordFailure error) (.externalHostFailure error)

/-- The loop of `collect_available` over the messages in the channel. -/
def collectLoop (host : ExternalHost ρ χ) : List (ReaderMessage ρ χ) → ExternalHost ρ χ
  | [] =>
    if host.connected then { host with receiver := [] }
    else { host with receiver := [], state := .ended }
  | .packet packet :: rest =>
    let next := { host with pending := host.pending ++ [packet] }
    if isDeviceCommandFlowEvent packet then { next with receiver := rest }
    else collectLoop next rest
  | .ended :: rest => { host with receiver := rest, state := .ended }
  | .failed error :: rest => { host.recordFailure error with receiver := rest }

def collectAvailable (host : ExternalHost ρ χ) : ExternalHost ρ χ :=
  if host.pending.any isDeviceCommandFlowEvent then host
  else if host.state = .running then host.collectLoop host.receiver
  else host

def waitForActivity (host : ExternalHost ρ χ) :
    Outcome (ExternalHost ρ χ) HostError ExternalHostActivity :=
  if host.pending ≠ [] then .ok host .packet
  else
    match host.state with
    | .ended => .ok host .ended
    | .failed _ => .fail host (host.failureError "transport reader failed")
    | .running =>
      match host.receiver with
      | message :: rest => { host with receiver := rest }.receiveMessage message
      | [] => if host.connected then .ok host .timeout else .ok { host with state := .ended } .ended

/-- The position of the first command flow event decides what is handed out: that event
    alone, the packets before it, or everything. -/
def drainPending (host : ExternalHost ρ χ) (answer : Option String) :
    ExternalHost ρ χ × List (HciPacket ρ χ) :=
  match host.pending.findIdx? isDeviceCommandFlowEvent with
  | some 0 =>
    match host.pending with
    | packet :: rest =>
      ({ host with pending := rest }.observeDeviceCommandFlow packet answer, [packet])
    | [] => (host, [])
  | some boundary =>
    ({ host with pending := host.pending.drop boundary }, host.pending.take boundary)
  | none => ({ host with pending := [] }, host.pending)

def drainHostEvents (host : ExternalHost ρ χ) (controllerId : Nat) (answer : Option String) :
    ExternalHost ρ χ × List (HciPacket ρ χ) :=
  if controllerId ≠ 0 then (host.fail (controllerMessage controllerId), [])
  else host.collectAvailable.drainPending answer

/-! ## 5. Direct commands -/

def beginDirectCommand (host : ExternalHost ρ χ) (command : Command) (mode : DirectCommandMode)
    (answer : Option String) : Outcome (ExternalHost ρ χ) HostError UInt16 :=
  let message := "failed to send HCI command " ++ hexOpCode command.opCode
  if host.state ≠ .running then .fail host (host.failureError message)
  else if host.devicePendingCommand.isSome ∨ host.deviceCommandQueue ≠ [] ∨
      ¬ host.deviceCommandCredit then
    .fail host (.remote (mode.busyMessage command.opCode))
  else
    match host.write 0 (.command command) answer with
    | (host, true) => .ok host command.opCode
    | (host, false) => .fail host (host.failureError message)

/-- The waiting loop of `send_command` and `send_vendor_command`: `take` tells the packet
    that ends it, `what` names the wait in its errors.  At most `patience` messages are
    looked at before the deadline. -/
def awaitPacket {α : Type} (take : List Bytes → HciPacket ρ χ → Option α)
    (timedOut transportEnded : String) :
    Nat → List Bytes → ExternalHost ρ χ → Outcome (ExternalHost ρ χ) HostError α
  | 0, _, host => .fail host (.remote timedOut)
  | patience + 1, asked, host =>
    match host.receiver with
    | [] =>
      if host.connected then .fail host (.remote timedOut)
      else .fail { host with state := .ended } (.remote transportEnded)
    | .packet packet :: rest =>
      match take asked packet with
      | some value => .ok { host with receiver := rest } value
      | none =>
        let asked := match packet with
          | .vendor data => asked ++ [data]
          | _ => asked
        awaitPacket take timedOut transportEnded patience asked
          { host with receiver := rest, pending := host.pending ++ [packet] }
    | .ended :: rest =>
      .fail { host with receiver := rest, state := .ended } (.remote transportEnded)
    | .failed error :: rest =>
      .fail { host.recordFailure error with receiver := rest } (.externalHostFailure error)

/-- The response in a Command Complete or Command Status event for the command. -/
def responseTo (opCode : UInt16) : HciPacket ρ χ → Option (CommandResponse ρ)
  | .commandComplete numHciCommandPackets commandOpcode returnParameters =>
    if commandOpcode = opCode then some (.complete numHciCommandPackets returnParameters) else none
  | .commandStatus status numHciCommandPackets commandOpcode =>
    if commandOpcode = opCode then some (.status status numHciCommandPackets) else none
  | _ => none

/-- `arrivals` are the messages that reach the channel during the call. -/
def sendCommand (host : ExternalHost ρ χ) (command : Command) (answer : Option String)
    (arrivals : List (ReaderMessage ρ χ)) (patience : Nat) :
    Outcome (ExternalHost ρ χ) HostError (CommandResponse ρ) :=
  (host.beginDirectCommand command .blocking answer).andThen fun host expectedOpcode =>
    awaitPacket (fun _ packet => responseTo expectedOpcode packet)
      ("timed out waiting for HCI command " ++ hexOpCode expectedOpcode)
      ("transport ended before response to HCI command " ++ hexOpCode expectedOpcode)
      patience [] { host with receiver := host.receiver ++ arrivals }

/-- The data of a vendor event that the caller's predicate accepts.  The predicate may keep
    a state, so it is given what it was asked before in this call. -/
def vendorResponse (matchesResponse : List Bytes → Bytes → Bool) (asked : List Bytes) :
    HciPacket ρ χ → Option Bytes
  | .vendor data => if matchesResponse asked data then some data else none
  | _ => none

def sendVendorCommand (host : ExternalHost ρ χ) (command : Command) (answer : Option String)
    (matchesResponse : List Bytes → Bytes → Bool) (arrivals : List (ReaderMessage ρ χ))
    (patience : Nat) : Outcome (ExternalHost ρ χ) HostError Bytes :=
  (host.beginDirectCommand command .blocking answer).andThen fun host expectedOpcode =>
    awaitPacket (vendorResponse matchesResponse)
      ("timed out waiting for vendor response to HCI command " ++ hexOpCode expectedOpcode)
      ("transport ended before vendor response to HCI command " ++ hexOpCode expectedOpcode)
      patience [] { host with receiver := host.receiver ++ arrivals }

def sendCommandWithoutResponse (host : ExternalHost ρ χ) (command : Command)
    (answer : Option String) : Outcome (ExternalHost ρ χ) HostError Unit :=
  (host.beginDirectCommand command .withoutResponse answer).andThen fun host _ => .ok host ()

end ExternalHost

/-! ## 6. Runs -/

inductive HostOp (ρ χ : Type) where
  | read (message : ReaderMessage ρ χ)
  | readerStops
  | waitForActivity
  | handleCommand (controllerId : Nat) (command : Command) (answer : Option String)
  | sendData (controllerId : Nat) (packet : χ) (answer : Option String)
  | drainHostEvents (controllerId : Nat) (answer : Option String)
  | sendCommand (command : Command) (answer : Option String)
    (arrivals : List (ReaderMessage ρ χ)) (patience : Nat)
  | sendVendorCommand (command : Command) (answer : Option String)
    (matchesResponse : List Bytes → Bytes → Bool) (arrivals : List (ReaderMessage ρ χ))
    (patience : Nat)
  | sendCommandWithoutResponse (command : Command) (answer : Option String)

/-- What an observer of the host, its source and its sink sees. -/
inductive HostEvent (ρ χ : Type) where
  | read (packet : HciPacket ρ χ)
  | submitted (command : Command)
  | wrote (byDevice : Bool) (command : Command)
  | drained (packets : List (HciPacket ρ χ))
  | responded (packet : HciPacket ρ χ)
  | gaveUp (opCode : UInt16)
deriving DecidableEq, Repr

variable {ρ χ : Type}

def ReaderMessage.packet? : ReaderMessage ρ χ → Option (HciPacket ρ χ)
  | .packet content => some content
  | _ => none

def HciPacket.command? : HciPacket ρ χ → Option Command
  | .command issued => some issued
  | _ => none

def packets (messages : List (ReaderMessage ρ χ)) : List (HciPacket ρ χ) :=
  messages.filterMap ReaderMessage.packet?

/-- The event a response to a command was taken from. -/
def CommandResponse.toPacket (opCode : UInt16) : CommandResponse ρ → HciPacket ρ χ
  | .complete numHciCommandPackets returnParameters =>
    .commandComplete numHciCommandPackets opCode returnParameters
  | .status code numHciCommandPackets => .commandStatus code numHciCommandPackets opCode

structure HostHistory (ρ χ : Type) where
  host : ExternalHost ρ χ
  trace : List (HostEvent ρ χ)

namespace HostHistory

def start : HostHistory ρ χ := ⟨.new, []⟩

/-- The commands that went to the sink between two states. -/
def written (before after : ExternalHost ρ χ) : List Command :=
  (after.sink.drop before.sink.length).filterMap HciPacket.command?

/-- What is observed of a direct command: that it was written, what arrived during the
    call and how the call ended.  A command that was not written has no further events. -/
def directEvents (command : Command) (before after : ExternalHost ρ χ)
    (arrivals : List (ReaderMessage ρ χ)) (outcome : Option (HciPacket ρ χ)) :
    List (HostEvent ρ χ) :=
  match written before after with
  | [] => []
  | _ => (written before after).map (.wrote false) ++ (packets arrivals).map .read ++
    (match outcome with
    | some packet => [.responded packet]
    | none => [.gaveUp command.opCode])

def step (history : HostHistory ρ χ) : HostOp ρ χ → HostHistory ρ χ
  | .read message =>
    ⟨{ history.host with receiver := history.host.receiver ++ [message] },
      history.trace ++ (packets [message]).map .read⟩
  | .readerStops => { history with host := { history.host with connected := false } }
  | .waitForActivity => { history with host := history.host.waitForActivity.state }
  | .handleCommand controllerId command answer =>
    let after := history.host.submitDeviceCommand controllerId command answer
    ⟨after, history.trace ++ (if controllerId = 0 then [.submitted command] else []) ++
      (written history.host after).map (.wrote true)⟩
  | .sendData controllerId packet answer =>
    { history with host := (history.host.write controllerId (.other packet) answer).1 }
  | .drainHostEvents controllerId answer =>
    let (after, drained) := history.host.drainHostEvents controllerId answer
    ⟨after, history.trace ++ [.drained drained] ++
      (written history.host after).map (.wrote true)⟩
  | .sendCommand command answer arrivals patience =>
    let call := history.host.sendCommand command answer arrivals patience
    ⟨call.state, history.trace ++ directEvents command history.host call.state arrivals
      (call.result.toOption.map (CommandResponse.toPacket command.opCode))⟩
  | .sendVendorCommand command answer matchesResponse arrivals patience =>
    let call := history.host.sendVendorCommand command answer matchesResponse arrivals patience
    ⟨call.state, history.trace ++ directEvents command history.host call.state arrivals
      (call.result.toOption.map HciPacket.vendor)⟩
  | .sendCommandWithoutResponse command answer =>
    let call := history.host.sendCommandWithoutResponse command answer
    ⟨call.state, history.trace ++ (written history.host call.state).map (.wrote false)⟩

def run (ops : List (HostOp ρ χ)) : HostHistory ρ χ := ops.foldl step start

end HostHistory

end Bumble.Transport
