import Bumble.AvrcpResponse
import Bumble.AvctpMessage
import Bumble.OrderedMap

/-!
# The AVRCP runtime (`bumble-avrcp/src/{lib,runtime}.rs`)

A runtime is controller and target at once: it reserves a transaction label for each command it
sends and keeps it until the response, and it answers the commands it receives through a
delegate.  Vendor PDUs are fragmented on their own, below AV/C frames, with one assembler for
commands and one for responses.
-/

namespace Bumble.Avrcp

open Avc (CommandType ResponseCode SubunitType OperationId StateFlag Frame FrameBody)
open Avctp (Message)

/-! ## 1. Vendor PDUs -/

inductive PacketType where
  | single
  | start
  | continue
  | end
deriving DecidableEq, Repr

def PacketType.toByte : PacketType → UInt8
  | single => 0
  | start => 1
  | .continue => 2
  | .end => 3

def PacketType.fromByte (value : UInt8) : PacketType :=
  if value &&& 3 = 0 then single
  else if value &&& 3 = 1 then start
  else if value &&& 3 = 2 then .continue
  else .end

structure VendorPdu where
  pduId : PduId
  packetType : PacketType
  parameters : Bytes
deriving DecidableEq, Repr

namespace VendorPdu

def fromBytes (bytes : Bytes) : Except Error VendorPdu :=
  match bytes with
  | pduId :: packetType :: high :: low :: parameters =>
    let declared := beToNat [high, low]
    if declared ≠ parameters.length then .error (.lengthMismatch declared parameters.length)
    else .ok ⟨pduId, PacketType.fromByte packetType, parameters⟩
  | _ => .error (.truncated "AVRCP PDU header")

def toBytes (pdu : VendorPdu) : Except Error Bytes :=
  if pdu.parameters.length < 65536 then
    .ok (pdu.pduId :: pdu.packetType.toByte
      :: (u16ToBe (UInt16.ofNat pdu.parameters.length) ++ pdu.parameters))
  else .error .parametersTooLong

end VendorPdu

structure PduAssembler where
  pending : Option (PduId × Bytes) := none
deriving DecidableEq, Repr

namespace PduAssembler

def accept (assembler : PduAssembler) (pdu : VendorPdu) : PduAssembler × Option (PduId × Bytes) :=
  match pdu.packetType with
  | .single => (⟨none⟩, some (pdu.pduId, pdu.parameters))
  | .start => (⟨some (pdu.pduId, pdu.parameters)⟩, none)
  | .continue =>
    match assembler.pending with
    | none => (assembler, none)
    | some (pendingId, parameters) =>
      if pendingId ≠ pdu.pduId then (⟨none⟩, none)
      else (⟨some (pendingId, parameters ++ pdu.parameters)⟩, none)
  | .end =>
    match assembler.pending with
    | none => (assembler, none)
    | some (pendingId, parameters) =>
      if pendingId ≠ pdu.pduId then (⟨none⟩, none)
      else (⟨none⟩, some (pendingId, parameters ++ pdu.parameters))

def push (assembler : PduAssembler) (bytes : Bytes) :
    Outcome PduAssembler Error (Option (PduId × Bytes)) :=
  match VendorPdu.fromBytes bytes with
  | .error error => .fail ⟨none⟩ error
  | .ok pdu => .ok (assembler.accept pdu).1 (assembler.accept pdu).2

end PduAssembler

/-- The packet type of the fragment at `index`. -/
def fragmentType (index chunkCount : Nat) : PacketType :=
  if index = 0 then .start else if index + 1 = chunkCount then .end else .continue

def fragmentPdu (pduId : PduId) (parameters : Bytes) (maxParameters : Nat) :
    Except Error (List VendorPdu) :=
  if maxParameters = 0 then .error .invalidFragmentSize
  else if parameters.length ≤ maxParameters then .ok [⟨pduId, .single, parameters⟩]
  else
    let chunkCount := (parameters.length + maxParameters - 1) / maxParameters
    .ok ((chunks maxParameters parameters).mapIdx fun index chunk =>
      ⟨pduId, fragmentType index chunkCount, chunk⟩)

/-! ## 2. Delegates -/

structure CommandReply where
  responseCode : ResponseCode
  response : Response
deriving DecidableEq, Repr

namespace CommandReply

def stable (response : Response) : CommandReply := ⟨ResponseCode.implementedOrStable, response⟩
def accepted (response : Response) : CommandReply := ⟨ResponseCode.accepted, response⟩
def interim (response : Response) : CommandReply := ⟨ResponseCode.interim, response⟩

end CommandReply

/-- The target behind a runtime. -/
class Delegate (δ : Type) where
  handleCommand : δ → Command → δ × Except StatusCode CommandReply
  onKeyEvent : δ → OperationId → Bool → Bytes → δ × Except ResponseCode Unit

structure BasicDelegate where
  supportedEvents : List EventId := []
  supportedCompanyIds : List UInt32 := [bluetoothSigCompanyId]
  supportedPlayerAppSettings :
    Std.ExtTreeMap ApplicationSettingAttributeId (List ApplicationSettingValue) := ∅
  playerAppSettings : Std.ExtTreeMap ApplicationSettingAttributeId ApplicationSettingValue := ∅
  volume : UInt8 := 0
  playbackStatus : PlayStatus := PlayStatus.stopped
  addressedPlayerId : UInt16 := 0
  uidCounter : UInt16 := 0
  currentTrackUid : UInt64 := Event.noTrack
  keyEvents : List (OperationId × Bool × Bytes) := []

namespace BasicDelegate

def currentEvent (delegate : BasicDelegate) (eventId : EventId) : Option Event :=
  match eventId with
  | EventId.volumeChanged => some (.volumeChanged delegate.volume)
  | EventId.playbackStatusChanged => some (.playbackStatusChanged delegate.playbackStatus)
  | EventId.nowPlayingContentChanged => some .nowPlayingContentChanged
  | EventId.playerApplicationSettingChanged =>
    some (.playerApplicationSettingChanged
      (delegate.playerAppSettings.toList.map fun entry => ⟨entry.1, entry.2⟩))
  | EventId.availablePlayersChanged => some .availablePlayersChanged
  | EventId.addressedPlayerChanged =>
    some (.addressedPlayerChanged delegate.addressedPlayerId delegate.uidCounter)
  | EventId.uidsChanged => some (.uidsChanged delegate.uidCounter)
  | EventId.trackChanged => some (.trackChanged delegate.currentTrackUid)
  | _ => none

/-- The reply to a command that the delegate does not support. -/
def notImplemented (command : Command) : CommandReply :=
  ⟨ResponseCode.notImplemented, .notImplemented command.pduId []⟩

/-- The current values of the settings with the given attributes, if all are known. -/
def currentSettings (delegate : BasicDelegate) :
    List ApplicationSettingAttributeId → Option (List PlayerApplicationSetting)
  | [] => some []
  | attributeId :: later => do
    let value ← delegate.playerAppSettings[attributeId]?
    let settings ← delegate.currentSettings later
    pure (⟨attributeId, value⟩ :: settings)

def handleCommand (delegate : BasicDelegate) (command : Command) :
    BasicDelegate × Except StatusCode CommandReply :=
  match command with
  | .getCapabilities capabilityId =>
    if capabilityId = CapabilityId.eventsSupported then
      (delegate, .ok (.stable (.getCapabilities capabilityId
        (delegate.supportedEvents.map .event))))
    else if capabilityId = CapabilityId.companyId then
      (delegate, .ok (.stable (.getCapabilities capabilityId
        (delegate.supportedCompanyIds.map .companyId))))
    else (delegate, .error StatusCode.invalidParameter)
  | .setAbsoluteVolume volume =>
    ({ delegate with volume }, .ok (.accepted (.setAbsoluteVolume volume)))
  | .getPlayStatus =>
    (delegate, .ok (.stable (.getPlayStatus Response.unavailable Response.unavailable
      delegate.playbackStatus)))
  | .listPlayerApplicationSettingAttributes =>
    (delegate, .ok (.stable (.listPlayerApplicationSettingAttributes
      delegate.supportedPlayerAppSettings.keys)))
  | .listPlayerApplicationSettingValues attributeId =>
    (delegate, .ok (.stable (.listPlayerApplicationSettingValues
      (delegate.supportedPlayerAppSettings[attributeId]?.getD []))))
  | .getCurrentPlayerApplicationSettingValue attributes =>
    match delegate.currentSettings attributes with
    | some settings =>
      (delegate, .ok (.stable (.getCurrentPlayerApplicationSettingValue settings)))
    | none => (delegate, .ok (notImplemented command))
  | .setPlayerApplicationSettingValue settings =>
    ({ delegate with
        playerAppSettings := settings.foldl (fun map setting =>
          map.insert setting.attributeId setting.value) delegate.playerAppSettings },
      .ok (.stable .setPlayerApplicationSettingValue))
  | .playItem _ _ _ => (delegate, .ok (.stable (.playItem StatusCode.operationCompleted)))
  | .registerNotification eventId _ =>
    if eventId ∉ delegate.supportedEvents then (delegate, .ok (notImplemented command))
    else
      match delegate.currentEvent eventId with
      | some event => (delegate, .ok (.interim (.registerNotification event)))
      | none => (delegate, .error StatusCode.invalidParameter)
  | _ => (delegate, .error StatusCode.invalidParameter)

def onKeyEvent (delegate : BasicDelegate) (operationId : OperationId) (pressed : Bool)
    (data : Bytes) : BasicDelegate × Except ResponseCode Unit :=
  ({ delegate with keyEvents := delegate.keyEvents ++ [(operationId, pressed, data)] }, .ok ())

instance : Delegate BasicDelegate where
  handleCommand := handleCommand
  onKeyEvent := onKeyEvent

end BasicDelegate

/-! ## 3. The runtime -/

inductive RuntimeEvent where
  | command (transactionLabel : UInt8) (commandType : CommandType) (command : Command)
  | response (transactionLabel : UInt8) (responseCode : ResponseCode) (response : Response)
  | passThroughCommand (transactionLabel : UInt8) (operationId : OperationId) (pressed : Bool)
      (data : Bytes)
  | passThroughResponse (transactionLabel : UInt8) (responseCode : ResponseCode)
      (operationId : OperationId) (pressed : Bool) (data : Bytes)
  | invalidPid (transactionLabel : UInt8)
  | send (message : Message)
deriving DecidableEq, Repr

inductive PendingKind where
  | vendor (pduId : PduId)
  | passThrough
deriving DecidableEq, Repr

structure Runtime (δ : Type) where
  delegate : δ
  maxVendorParameters : Nat
  freeLabels : Std.ExtTreeSet UInt8
  pending : Std.ExtTreeMap UInt8 PendingKind := ∅
  commandAssembler : PduAssembler := {}
  responseAssembler : PduAssembler := {}
  incomingCommand : Option (UInt8 × CommandType) := none
  incomingResponse : Option (UInt8 × ResponseCode) := none
  notificationListeners : Std.ExtTreeMap EventId UInt8 := ∅

namespace Runtime

variable {δ : Type}

/-- `(0..16).collect()`. -/
def allLabels : Std.ExtTreeSet UInt8 :=
  Std.ExtTreeSet.ofList ((List.range 16).map UInt8.ofNat)

def withDelegate (delegate : δ) (maxVendorParameters : Nat) : Runtime δ where
  delegate := delegate
  maxVendorParameters := maxVendorParameters
  freeLabels := allLabels

def reserveLabel (runtime : Runtime δ) (kind : PendingKind) : Outcome (Runtime δ) Error UInt8 :=
  match runtime.freeLabels.toList.head? with
  | none => .fail runtime .noTransactionLabels
  | some label =>
    .ok { runtime with
      freeLabels := runtime.freeLabels.erase label
      pending := runtime.pending.insert label kind } label

def releaseLabel (runtime : Runtime δ) (label : UInt8) : Runtime δ :=
  { runtime with
    pending := runtime.pending.erase label
    freeLabels := runtime.freeLabels.insert label }

/-- The AV/C octets of a frame, with the error of the runtime. -/
def frameBytes (frame : Frame) : Except Error Bytes := frame.toBytes.mapError .avc

/-- A vendor PDU in the envelope of the panel subunit. -/
def vendorMessage (message : UInt8 → UInt16 → Bytes → Message)
    (frame : SubunitType → UInt16 → FrameBody → Frame) (transactionLabel : UInt8)
    (pdu : VendorPdu) : Except Error Message := do
  let data ← pdu.toBytes
  let payload ← frameBytes
    (frame SubunitType.panel 0 (.vendorDependent bluetoothSigCompanyId data))
  pure (message transactionLabel avrcpPid payload)

def encodeCommand (maxVendorParameters : Nat) (transactionLabel : UInt8)
    (commandType : CommandType) (command : Command) : Except Error (List Message) := do
  let parameters ← command.toParameters
  let fragments ← fragmentPdu command.pduId parameters maxVendorParameters
  fragments.mapM (vendorMessage .command (.command commandType) transactionLabel)

def encodeResponse (maxVendorParameters : Nat) (transactionLabel : UInt8)
    (responseCode : ResponseCode) (response : Response) : Except Error (List Message) := do
  let parameters ← response.toParameters
  let fragments ← fragmentPdu response.pduId parameters maxVendorParameters
  fragments.mapM (vendorMessage .response (.response responseCode) transactionLabel)

def beginCommand (runtime : Runtime δ) (commandType : CommandType) (command : Command) :
    Outcome (Runtime δ) Error (List Message) :=
  (runtime.reserveLabel (.vendor command.pduId)).andThen fun runtime transactionLabel =>
    match encodeCommand runtime.maxVendorParameters transactionLabel commandType command with
    | .ok messages => .ok runtime messages
    | .error error => .fail (runtime.releaseLabel transactionLabel) error

def beginPassThrough (runtime : Runtime δ) (operationId : OperationId) (pressed : Bool)
    (data : Bytes) : Outcome (Runtime δ) Error Message :=
  (runtime.reserveLabel .passThrough).andThen fun runtime transactionLabel =>
    match frameBytes (.command CommandType.control SubunitType.panel 0
        (.passThrough (if pressed then .pressed else .released) operationId data)) with
    | .ok payload => .ok runtime (.command transactionLabel avrcpPid payload)
    | .error error => .fail (runtime.releaseLabel transactionLabel) error

def notify (runtime : Runtime δ) (event : Event) : Outcome (Runtime δ) Error (List Message) :=
  match runtime.notificationListeners[event.eventId]? with
  | none => .ok runtime []
  | some transactionLabel =>
    match encodeResponse runtime.maxVendorParameters transactionLabel ResponseCode.changed
        (.registerNotification event) with
    | .error error => .fail runtime error
    | .ok messages =>
      .ok { runtime with
        notificationListeners := runtime.notificationListeners.erase event.eventId } messages

def notImplementedFrame (runtime : Runtime δ) (transactionLabel : UInt8)
    (subunitType : SubunitType) (subunitId : UInt16) (body : FrameBody) :
    Outcome (Runtime δ) Error (List RuntimeEvent) :=
  match frameBytes (.response ResponseCode.notImplemented subunitType subunitId body) with
  | .ok payload => .ok runtime [.send (.response transactionLabel avrcpPid payload)]
  | .error error => .fail runtime error

/-- Whether an interim reply to a command makes the peer a listener. -/
def listen (runtime : Runtime δ) (transactionLabel : UInt8) (commandType : CommandType)
    (command : Command) (reply : CommandReply) : Runtime δ :=
  if commandType = CommandType.notify ∧ reply.responseCode = ResponseCode.interim then
    match command with
    | .registerNotification eventId _ =>
      { runtime with
        notificationListeners := runtime.notificationListeners.insert eventId transactionLabel }
    | _ => runtime
  else runtime

/-- The reply to a command, and the delegate after it. -/
def replyTo [Delegate δ] (delegate : δ) (commandType : CommandType) (command : Command) :
    δ × Except StatusCode CommandReply :=
  if commandType = CommandType.control ∨ commandType = CommandType.status
      ∨ commandType = CommandType.notify then Delegate.handleCommand delegate command
  else (delegate, .error StatusCode.invalidCommand)

/-- A status of the delegate is a rejection of the PDU. -/
def replyOr (pduId : PduId) : Except StatusCode CommandReply → CommandReply
  | .ok reply => reply
  | .error status => ⟨ResponseCode.rejected, .rejected pduId status⟩

def answerCommand [Delegate δ] (runtime : Runtime δ) (transactionLabel : UInt8)
    (commandType : CommandType) (pduId : PduId) (parameters : Bytes) :
    Outcome (Runtime δ) Error (List RuntimeEvent) :=
  match Command.fromParameters pduId parameters with
  | .error error => .fail runtime error
  | .ok command =>
    let (delegate, result) := replyTo runtime.delegate commandType command
    let runtime := { runtime with delegate }
    let reply := replyOr pduId result
    if reply.response.pduId ≠ pduId then
      .fail runtime (.mismatchedResponse pduId reply.response.pduId)
    else
      let runtime := runtime.listen transactionLabel commandType command reply
      match encodeResponse runtime.maxVendorParameters transactionLabel reply.responseCode
          reply.response with
      | .error error => .fail runtime error
      | .ok messages =>
        .ok runtime (.command transactionLabel commandType command :: messages.map .send)

def receiveCommandPdu [Delegate δ] (runtime : Runtime δ) (transactionLabel : UInt8)
    (commandType : CommandType) (data : Bytes) : Outcome (Runtime δ) Error (List RuntimeEvent) :=
  if runtime.incomingCommand ≠ none
      ∧ runtime.incomingCommand ≠ some (transactionLabel, commandType) then
    .fail { runtime with commandAssembler := ⟨none⟩, incomingCommand := none } .interleavedPdu
  else
    let pushed := runtime.commandAssembler.push data
    match pushed.result with
    | .error error =>
      .fail { runtime with commandAssembler := pushed.state, incomingCommand := none } error
    | .ok none =>
      .ok { runtime with
        commandAssembler := pushed.state
        incomingCommand := some (transactionLabel, commandType) } []
    | .ok (some (pduId, parameters)) =>
      { runtime with commandAssembler := pushed.state, incomingCommand := none }.answerCommand
        transactionLabel commandType pduId parameters

def handleCommandFrame [Delegate δ] (runtime : Runtime δ) (transactionLabel : UInt8)
    (frame : Frame) : Outcome (Runtime δ) Error (List RuntimeEvent) :=
  match frame with
  | .response _ _ _ _ => .fail runtime .wrongFrameKind
  | .command commandType subunitType subunitId body =>
    if ¬((subunitType = SubunitType.panel ∧ subunitId = 0)
        ∨ (subunitType = SubunitType.unit ∧ subunitId = 7)) then
      runtime.notImplementedFrame transactionLabel subunitType subunitId body
    else
      match body with
      | .vendorDependent companyId data =>
        if companyId ≠ bluetoothSigCompanyId ∨ subunitType ≠ SubunitType.panel ∨ subunitId ≠ 0 then
          .ok runtime []
        else runtime.receiveCommandPdu transactionLabel commandType data
      | .passThrough state operationId data =>
        let pressed := state = .pressed
        let (delegate, result) := Delegate.onKeyEvent runtime.delegate operationId pressed data
        let runtime := { runtime with delegate }
        let responseCode := match result with
          | .ok () => ResponseCode.accepted
          | .error code => code
        match frameBytes (.response responseCode subunitType subunitId
            (.passThrough state operationId data)) with
        | .error error => .fail runtime error
        | .ok payload =>
          .ok runtime [.passThroughCommand transactionLabel operationId pressed data,
            .send (.response transactionLabel avrcpPid payload)]
      | .raw opcode operands =>
        runtime.notImplementedFrame transactionLabel subunitType subunitId (.raw opcode operands)

/-- The response in a complete PDU with the expected id. -/
def decodeResponse (responseCode : ResponseCode) (pduId : PduId) (parameters : Bytes) :
    Except Error Response :=
  if responseCode = ResponseCode.rejected then
    match parameters with
    | [status] => .ok (.rejected pduId status)
    | _ => .error (.lengthMismatch 1 parameters.length)
  else if responseCode = ResponseCode.notImplemented then .ok (.notImplemented pduId parameters)
  else Response.fromParameters pduId parameters

def completeResponse (runtime : Runtime δ) (transactionLabel : UInt8)
    (responseCode : ResponseCode) (expected pduId : PduId) (parameters : Bytes) :
    Outcome (Runtime δ) Error (List RuntimeEvent) :=
  if pduId ≠ expected then
    .fail (runtime.releaseLabel transactionLabel) (.mismatchedResponse expected pduId)
  else
    match decodeResponse responseCode pduId parameters with
    | .error error => .fail runtime error
    | .ok response =>
      .ok (if responseCode ≠ ResponseCode.interim then runtime.releaseLabel transactionLabel
          else runtime)
        [.response transactionLabel responseCode response]

/-- A fragment of a vendor PDU that is a response. -/
def receiveResponsePdu (runtime : Runtime δ) (transactionLabel : UInt8)
    (responseCode : ResponseCode) (expected : PduId) (data : Bytes) :
    Outcome (Runtime δ) Error (List RuntimeEvent) :=
  if runtime.incomingResponse ≠ none
      ∧ runtime.incomingResponse ≠ some (transactionLabel, responseCode) then
    .fail { runtime with responseAssembler := ⟨none⟩, incomingResponse := none } .interleavedPdu
  else
    let pushed := runtime.responseAssembler.push data
    match pushed.result with
    | .error error =>
      .fail { runtime with responseAssembler := pushed.state, incomingResponse := none } error
    | .ok none =>
      .ok { runtime with
        responseAssembler := pushed.state
        incomingResponse := some (transactionLabel, responseCode) } []
    | .ok (some (pduId, parameters)) =>
      { runtime with responseAssembler := pushed.state, incomingResponse := none }.completeResponse
        transactionLabel responseCode expected pduId parameters

def expectedResponseCodes : List ResponseCode :=
  [ResponseCode.notImplemented, ResponseCode.accepted, ResponseCode.rejected,
    ResponseCode.implementedOrStable, ResponseCode.changed, ResponseCode.interim]

def handleResponseFrame (runtime : Runtime δ) (transactionLabel : UInt8) (frame : Frame) :
    Outcome (Runtime δ) Error (List RuntimeEvent) :=
  match runtime.pending[transactionLabel]? with
  | none => .fail runtime (.notPending transactionLabel)
  | some pending =>
    match frame with
    | .command _ _ _ _ => .fail runtime .wrongFrameKind
    | .response responseCode subunitType subunitId body =>
      if responseCode ∉ expectedResponseCodes then
        .fail runtime (.invalidField "AVRCP response code")
      else
        match pending, body with
        | .passThrough, .passThrough state operationId data =>
          .ok (runtime.releaseLabel transactionLabel)
            [.passThroughResponse transactionLabel responseCode operationId (state = .pressed) data]
        | .vendor expected, .vendorDependent companyId data =>
          if companyId ≠ bluetoothSigCompanyId ∨ subunitType ≠ SubunitType.panel
              ∨ subunitId ≠ 0 then .ok runtime []
          else runtime.receiveResponsePdu transactionLabel responseCode expected data
        | _, _ => .fail runtime .wrongFrameKind

def handleMessage [Delegate δ] (runtime : Runtime δ) (message : Message) :
    Outcome (Runtime δ) Error (List RuntimeEvent) :=
  if message.pid ≠ avrcpPid then .fail runtime (.wrongPid message.pid)
  else if ¬message.isCommand ∧ message.ipid then
    .ok (runtime.releaseLabel message.transactionLabel) [.invalidPid message.transactionLabel]
  else
    match Frame.fromBytes message.payload with
    | .error error => .fail runtime (.avc error)
    | .ok frame =>
      if message.isCommand then runtime.handleCommandFrame message.transactionLabel frame
      else runtime.handleResponseFrame message.transactionLabel frame

end Runtime

end Bumble.Avrcp
