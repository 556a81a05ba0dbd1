import Bumble.ClassicManager

/-!
# Human interface devices (`bumble-hid/src/lib.rs`)

The messages of the HID protocol, a device's delegate, and the requests of a
host that the device answers on the control channel.
-/

namespace Bumble.Hid

/-! ## 1. Codes -/

abbrev ReportType := UInt8

namespace ReportType

def otherReport : ReportType := 0x00
def inputReport : ReportType := 0x01
def outputReport : ReportType := 0x02
def featureReport : ReportType := 0x03

end ReportType

abbrev Handshake := UInt8

namespace Handshake

def successful : Handshake := 0x00
def errInvalidReportId : Handshake := 0x02
def errUnsupportedRequest : Handshake := 0x03
def errInvalidParameter : Handshake := 0x04
def errUnknown : Handshake := 0x0E

end Handshake

abbrev MessageType := UInt8

namespace MessageType

def handshake : MessageType := 0x00
def control : MessageType := 0x01
def getReport : MessageType := 0x04
def setReport : MessageType := 0x05
def getProtocol : MessageType := 0x06
def setProtocol : MessageType := 0x07
def data : MessageType := 0x0A

end MessageType

abbrev ProtocolMode := UInt8

abbrev ControlCommand := UInt8

namespace ControlCommand

def suspend : ControlCommand := 0x03
def exitSuspend : ControlCommand := 0x04
def virtualCableUnplug : ControlCommand := 0x05

end ControlCommand

abbrev GetSetReturn := UInt8

namespace GetSetReturn

def reportIdNotFound : GetSetReturn := 0x01
def errUnsupportedRequest : GetSetReturn := 0x02
def errInvalidParameter : GetSetReturn := 0x04
def success : GetSetReturn := 0xFF

end GetSetReturn

inductive Error where
  | truncated (field : String)
  | invalid (field : String)
  | trailingBytes (count : Nat)
  | channelNotOpen (cid : UInt16)
  | l2cap (error : L2cap.Error)
deriving DecidableEq, Repr

/-! ## 2. Messages -/

inductive Message where
  | handshake (result : Handshake)
  | control (command : ControlCommand)
  | getReport (reportType : ReportType) (reportId : UInt8) (bufferSize : Option UInt16)
  | setReport (reportType : ReportType) (data : Bytes)
  | getProtocol
  | setProtocol (mode : ProtocolMode)
  | data (reportType : ReportType) (data : Bytes)
  | unknown (messageType : MessageType) (parameter : UInt8) (data : Bytes)
deriving DecidableEq, Repr

namespace Message

def messageType : Message → MessageType
  | handshake _ => MessageType.handshake
  | control _ => MessageType.control
  | getReport .. => MessageType.getReport
  | setReport .. => MessageType.setReport
  | getProtocol => MessageType.getProtocol
  | setProtocol _ => MessageType.setProtocol
  | data .. => MessageType.data
  | unknown messageType .. => messageType

/-- The parameter of the header, and what follows the header. -/
def parts : Message → UInt8 × Bytes
  | handshake result => (result, [])
  | control command => (command, [])
  | getReport reportType reportId none => (reportType, [reportId])
  | getReport reportType reportId (some bufferSize) =>
    (0x08 ||| reportType,
      [reportId, UInt8.ofNat (bufferSize.toNat % 0x100), UInt8.ofNat (bufferSize.toNat / 0x100)])
  | setReport reportType body | data reportType body => (reportType, body)
  | getProtocol => (0, [])
  | setProtocol mode => (mode, [])
  | unknown _ parameter body => (parameter, body)

def toBytes (message : Message) : Except Error Bytes :=
  let (parameter, body) := message.parts
  if message.messageType > 0x0F ∨ parameter > 0x0F then
    .error (.invalid "HIDP header field")
  else .ok ((message.messageType <<< 4 ||| parameter) :: body)

end Message

def exactEmpty (data : Bytes) : Except Error Unit :=
  if data.isEmpty then .ok () else .error (.trailingBytes data.length)

/-- The rest of a Get Report message: a report ID, and a buffer size if the header says so. -/
def getReportFromBytes (parameter : UInt8) : Bytes → Except Error Message
  | [] => .error (.truncated "HIDP report ID")
  | reportId :: rest =>
    if parameter &&& 0x08 ≠ 0 then
      match rest with
      | low :: high :: trailing =>
        if trailing.isEmpty then
          .ok (.getReport (parameter &&& 3) reportId
            (some (UInt16.ofNat (low.toNat + 0x100 * high.toNat))))
        else .error (.trailingBytes trailing.length)
      | _ => .error (.truncated "HIDP report buffer size")
    else if rest.isEmpty then .ok (.getReport (parameter &&& 3) reportId none)
    else .error (.trailingBytes rest.length)

def Message.fromBytes : Bytes → Except Error Message
  | [] => .error (.truncated "HIDP header")
  | header :: body =>
    let messageType := header >>> 4
    let parameter := header &&& 0x0F
    if messageType = MessageType.handshake then do
      exactEmpty body
      return .handshake parameter
    else if messageType = MessageType.control then do
      exactEmpty body
      return .control parameter
    else if messageType = MessageType.getReport then getReportFromBytes parameter body
    else if messageType = MessageType.setReport then .ok (.setReport (parameter &&& 3) body)
    else if messageType = MessageType.getProtocol then do
      exactEmpty body
      return .getProtocol
    else if messageType = MessageType.setProtocol then do
      exactEmpty body
      return .setProtocol (parameter &&& 1)
    else if messageType = MessageType.data then .ok (.data (parameter &&& 3) body)
    else .ok (.unknown messageType parameter body)

/-! ## 3. A device -/

structure GetSetStatus where
  data : Bytes
  status : GetSetReturn
deriving DecidableEq, Repr

namespace GetSetStatus

def success (data : Bytes) : GetSetStatus := ⟨data, GetSetReturn.success⟩

def unsupported : GetSetStatus := ⟨[], GetSetReturn.errUnsupportedRequest⟩

end GetSetStatus

/-- What answers the requests, over a state of its own. -/
structure DeviceDelegate (δ : Type) where
  getReport : δ → UInt8 → ReportType → Option UInt16 → GetSetStatus × δ :=
    fun device _ _ _ => (.unsupported, device)
  setReport : δ → UInt8 → ReportType → Nat → Bytes → GetSetStatus × δ :=
    fun device _ _ _ _ => (.unsupported, device)
  getProtocol : δ → GetSetStatus × δ := fun device => (.unsupported, device)
  setProtocol : δ → ProtocolMode → GetSetStatus × δ := fun device _ => (.unsupported, device)

inductive DeviceEvent where
  | sendControl (message : Message)
  | controlData (reportType : ReportType) (data : Bytes)
  | suspend
  | exitSuspend
  | virtualCableUnplug
  | unsupported (message : Message)
deriving DecidableEq, Repr

structure DeviceRuntime (δ : Type) where
  delegate : DeviceDelegate δ
  device : δ
  controlPeerMtu : Nat

namespace DeviceRuntime

variable {δ : Type}

def reportResponse (controlPeerMtu : Nat) (reportType : ReportType) (reportId : UInt8)
    (result : GetSetStatus) : Message :=
  if result.status = GetSetReturn.success then
    if (reportId :: result.data).length < controlPeerMtu then
      .data reportType (reportId :: result.data)
    else .handshake Handshake.errInvalidParameter
  else if result.status = GetSetReturn.reportIdNotFound then
    .handshake Handshake.errInvalidReportId
  else if result.status = GetSetReturn.errInvalidParameter then
    .handshake Handshake.errInvalidParameter
  else if result.status = GetSetReturn.errUnsupportedRequest then
    .handshake Handshake.errUnsupportedRequest
  else .handshake Handshake.errUnknown

def setReportHandshake (result : GetSetStatus) : Handshake :=
  if result.status = GetSetReturn.success then Handshake.successful
  else if result.status = GetSetReturn.errInvalidParameter then Handshake.errInvalidParameter
  else if result.status = GetSetReturn.reportIdNotFound then Handshake.errInvalidReportId
  else Handshake.errUnsupportedRequest

def protocolResponse (result : GetSetStatus) : Message :=
  if result.status = GetSetReturn.success then .data ReportType.otherReport result.data
  else .handshake Handshake.errUnsupportedRequest

def setProtocolHandshake (result : GetSetStatus) : Handshake :=
  if result.status = GetSetReturn.success then Handshake.successful
  else Handshake.errUnsupportedRequest

/-- Dispatches a message of the control channel.  A call that fails has not reached the
delegate. -/
def handleMessage (runtime : DeviceRuntime δ) :
    Message → Except Error (List DeviceEvent × DeviceRuntime δ)
  | .getReport reportType reportId bufferSize =>
    let (result, device) :=
      runtime.delegate.getReport runtime.device reportId reportType bufferSize
    .ok ([.sendControl (reportResponse runtime.controlPeerMtu reportType reportId result)],
      { runtime with device })
  | .setReport _ [] => .error (.truncated "HIDP set-report ID")
  | .setReport reportType (reportId :: reportData) =>
    let (result, device) := runtime.delegate.setReport runtime.device reportId reportType
      (reportData.length + 1) reportData
    .ok ([.sendControl (.handshake (setReportHandshake result))], { runtime with device })
  | .getProtocol =>
    let (result, device) := runtime.delegate.getProtocol runtime.device
    .ok ([.sendControl (protocolResponse result)], { runtime with device })
  | .setProtocol mode =>
    let (result, device) := runtime.delegate.setProtocol runtime.device mode
    .ok ([.sendControl (.handshake (setProtocolHandshake result))], { runtime with device })
  | .data reportType data => .ok ([.controlData reportType data], runtime)
  | .control command =>
    if command = ControlCommand.suspend then .ok ([.suspend], runtime)
    else if command = ControlCommand.exitSuspend then .ok ([.exitSuspend], runtime)
    else if command = ControlCommand.virtualCableUnplug then
      .ok ([.virtualCableUnplug], runtime)
    else .ok ([.unsupported (.control command)], runtime)
  | message@(.handshake _) | message@(.unknown ..) =>
    .ok ([.unsupported message, .sendControl (.handshake Handshake.errUnsupportedRequest)],
      runtime)

def handleControl (runtime : DeviceRuntime δ) (bytes : Bytes) :
    Except Error (List DeviceEvent × DeviceRuntime δ) := do
  runtime.handleMessage (← Message.fromBytes bytes)

end DeviceRuntime

end Bumble.Hid
