import Bumble.ByteOrder

/-!
# AVDTP signalling messages (`bumble-avdtp/src/lib.rs`)

The signalling messages of the Audio/Video Distribution Transport Protocol with
their payload codec.  Stream endpoint identifiers travel in the upper six bits
of an octet, capabilities as a list of category, length and data.
-/

namespace Bumble.Avdtp

inductive Error where
  | truncated (what : String)
  | invalid (what : String)
  | capabilityLength
  | payloadTooLong
deriving DecidableEq, Repr

/-! ## 1. Open octet enumerations -/

structure SignalIdentifier where
  value : UInt8
deriving DecidableEq, Repr

namespace SignalIdentifier

def discover : SignalIdentifier := ⟨0x01⟩
def getCapabilities : SignalIdentifier := ⟨0x02⟩
def setConfiguration : SignalIdentifier := ⟨0x03⟩
def getConfiguration : SignalIdentifier := ⟨0x04⟩
def reconfigure : SignalIdentifier := ⟨0x05⟩
def «open» : SignalIdentifier := ⟨0x06⟩
def start : SignalIdentifier := ⟨0x07⟩
def close : SignalIdentifier := ⟨0x08⟩
def suspend : SignalIdentifier := ⟨0x09⟩
def abort : SignalIdentifier := ⟨0x0A⟩
def securityControl : SignalIdentifier := ⟨0x0B⟩
def getAllCapabilities : SignalIdentifier := ⟨0x0C⟩
def delayReport : SignalIdentifier := ⟨0x0D⟩

end SignalIdentifier

structure ErrorCode where
  value : UInt8
deriving DecidableEq, Repr

namespace ErrorCode

def badAcpSeid : ErrorCode := ⟨0x12⟩
def sepInUse : ErrorCode := ⟨0x13⟩
def badState : ErrorCode := ⟨0x31⟩

end ErrorCode

structure MediaType where
  value : UInt8
deriving DecidableEq, Repr

structure StreamEndpointType where
  value : UInt8
deriving DecidableEq, Repr

structure ServiceCategory where
  value : UInt8
deriving DecidableEq, Repr

def ServiceCategory.mediaCodec : ServiceCategory := ⟨0x07⟩

structure State where
  value : UInt8
deriving DecidableEq, Repr

namespace State

def idle : State := ⟨0x00⟩
def configured : State := ⟨0x01⟩
def «open» : State := ⟨0x02⟩
def streaming : State := ⟨0x03⟩

end State

inductive MessageType where
  | command
  | generalReject
  | responseAccept
  | responseReject
deriving DecidableEq, Repr

namespace MessageType

def toBits : MessageType → UInt8
  | command => 0
  | generalReject => 1
  | responseAccept => 2
  | responseReject => 3

def fromBits (value : UInt8) : MessageType :=
  if value &&& 3 = 0 then command
  else if value &&& 3 = 1 then generalReject
  else if value &&& 3 = 2 then responseAccept
  else responseReject

end MessageType

inductive PacketType where
  | single
  | start
  | «continue»
  | «end»
deriving DecidableEq, Repr

namespace PacketType

def toBits : PacketType → UInt8
  | single => 0
  | start => 1
  | «continue» => 2
  | «end» => 3

def fromBits (value : UInt8) : PacketType :=
  if value &&& 3 = 0 then single
  else if value &&& 3 = 1 then start
  else if value &&& 3 = 2 then «continue»
  else «end»

end PacketType

/-! ## 2. Endpoint descriptors and capabilities -/

structure EndpointInfo where
  seid : UInt8
  inUse : Bool
  mediaType : MediaType
  endpointType : StreamEndpointType
deriving DecidableEq, Repr

namespace EndpointInfo

def toBytes (info : EndpointInfo) : Bytes :=
  [(info.seid <<< 2) ||| (info.inUse.toUInt8 <<< 1),
    (info.mediaType.value <<< 4) ||| (info.endpointType.value <<< 3)]

def fromBytes : Bytes → Except Error EndpointInfo
  | p0 :: p1 :: _ =>
    .ok ⟨p0 >>> 2, p0 &&& 0x02 ≠ 0, ⟨p1 >>> 4⟩, ⟨(p1 >>> 3) &&& 1⟩⟩
  | _ => .error (.truncated "endpoint descriptor")

end EndpointInfo

inductive ServiceCapabilities where
  | mediaCodec (mediaType : MediaType) (mediaCodecType : UInt8) (mediaCodecInformation : Bytes)
  | other (category : ServiceCategory) (data : Bytes)
deriving DecidableEq, Repr

namespace ServiceCapabilities

def category : ServiceCapabilities → ServiceCategory
  | mediaCodec .. => .mediaCodec
  | other category _ => category

def data : ServiceCapabilities → Bytes
  | mediaCodec mediaType mediaCodecType mediaCodecInformation =>
    mediaType.value :: mediaCodecType :: mediaCodecInformation
  | other _ data => data

def parseOne (category : ServiceCategory) (data : Bytes) : Except Error ServiceCapabilities :=
  if category = .mediaCodec then
    match data with
    | d0 :: d1 :: rest => .ok (mediaCodec ⟨d0⟩ d1 rest)
    | _ => .error (.truncated "media codec capability")
  else .ok (other category data)

/-- The loop of `parse_all` from its current offset on. -/
def parseAll : Bytes → Except Error (List ServiceCapabilities)
  | [] => .ok []
  | [_] => .error (.truncated "capability header")
  | category :: length :: payload =>
    if length.toNat ≤ payload.length then do
      let capability ← parseOne ⟨category⟩ (payload.take length.toNat)
      let rest ← parseAll (payload.drop length.toNat)
      pure (capability :: rest)
    else .error .capabilityLength
termination_by payload => payload.length
decreasing_by
  simp only [List.length_drop, List.length_cons]
  omega

def serializeAll : List ServiceCapabilities → Except Error Bytes
  | [] => .ok []
  | capability :: rest =>
    if capability.data.length < 256 then do
      let payload ← serializeAll rest
      pure (capability.category.value :: UInt8.ofNat capability.data.length
        :: capability.data ++ payload)
    else .error .capabilityLength

end ServiceCapabilities

/-! ## 3. The messages -/

inductive Message where
  | discoverCommand
  | discoverResponse (endpoints : List EndpointInfo)
  | getCapabilitiesCommand (acpSeid : UInt8)
  | getCapabilitiesResponse (capabilities : List ServiceCapabilities)
  | getCapabilitiesReject (errorCode : ErrorCode)
  | getAllCapabilitiesCommand (acpSeid : UInt8)
  | getAllCapabilitiesResponse (capabilities : List ServiceCapabilities)
  | getAllCapabilitiesReject (errorCode : ErrorCode)
  | setConfigurationCommand (acpSeid intSeid : UInt8) (capabilities : List ServiceCapabilities)
  | setConfigurationResponse
  | setConfigurationReject (serviceCategory : ServiceCategory) (errorCode : ErrorCode)
  | getConfigurationCommand (acpSeid : UInt8)
  | getConfigurationResponse (capabilities : List ServiceCapabilities)
  | getConfigurationReject (errorCode : ErrorCode)
  | reconfigureCommand (acpSeid : UInt8) (capabilities : List ServiceCapabilities)
  | reconfigureResponse
  | reconfigureReject (serviceCategory : ServiceCategory) (errorCode : ErrorCode)
  | openCommand (acpSeid : UInt8)
  | openResponse
  | openReject (errorCode : ErrorCode)
  | startCommand (acpSeids : List UInt8)
  | startResponse
  | startReject (acpSeid : UInt8) (errorCode : ErrorCode)
  | closeCommand (acpSeid : UInt8)
  | closeResponse
  | closeReject (errorCode : ErrorCode)
  | suspendCommand (acpSeids : List UInt8)
  | suspendResponse
  | suspendReject (acpSeid : UInt8) (errorCode : ErrorCode)
  | abortCommand (acpSeid : UInt8)
  | abortResponse
  | securityControlCommand (acpSeid : UInt8) (data : Bytes)
  | securityControlResponse
  | securityControlReject (errorCode : ErrorCode)
  | generalReject
  | delayReportCommand (acpSeid : UInt8) (delay : UInt16)
  | delayReportResponse
  | delayReportReject (errorCode : ErrorCode)
  | unknown (signalIdentifier : SignalIdentifier) (messageType : MessageType) (payload : Bytes)
deriving DecidableEq, Repr

namespace Message

def signalIdentifier : Message → SignalIdentifier
  | discoverCommand | discoverResponse _ => .discover
  | getCapabilitiesCommand _ | getCapabilitiesResponse _ | getCapabilitiesReject _ =>
    .getCapabilities
  | getAllCapabilitiesCommand _ | getAllCapabilitiesResponse _ | getAllCapabilitiesReject _ =>
    .getAllCapabilities
  | setConfigurationCommand .. | setConfigurationResponse | setConfigurationReject .. =>
    .setConfiguration
  | getConfigurationCommand _ | getConfigurationResponse _ | getConfigurationReject _ =>
    .getConfiguration
  | reconfigureCommand .. | reconfigureResponse | reconfigureReject .. => .reconfigure
  | openCommand _ | openResponse | openReject _ => .open
  | startCommand _ | startResponse | startReject .. => .start
  | closeCommand _ | closeResponse | closeReject _ => .close
  | suspendCommand _ | suspendResponse | suspendReject .. => .suspend
  | abortCommand _ | abortResponse => .abort
  | securityControlCommand .. | securityControlResponse | securityControlReject _ =>
    .securityControl
  | generalReject => ⟨0⟩
  | delayReportCommand .. | delayReportResponse | delayReportReject _ => .delayReport
  | unknown signalIdentifier _ _ => signalIdentifier

def messageType : Message → MessageType
  | discoverCommand | getCapabilitiesCommand _ | getAllCapabilitiesCommand _
  | setConfigurationCommand .. | getConfigurationCommand _ | reconfigureCommand ..
  | openCommand _ | startCommand _ | closeCommand _ | suspendCommand _ | abortCommand _
  | securityControlCommand .. | delayReportCommand .. => .command
  | generalReject => .generalReject
  | discoverResponse _ | getCapabilitiesResponse _ | getAllCapabilitiesResponse _
  | setConfigurationResponse | getConfigurationResponse _ | reconfigureResponse
  | openResponse | startResponse | closeResponse | suspendResponse | abortResponse
  | securityControlResponse | delayReportResponse => .responseAccept
  | getCapabilitiesReject _ | getAllCapabilitiesReject _ | setConfigurationReject ..
  | getConfigurationReject _ | reconfigureReject .. | openReject _ | startReject ..
  | closeReject _ | suspendReject .. | securityControlReject _ | delayReportReject _ =>
    .responseReject
  | unknown _ messageType _ => messageType

end Message

def seid (value : UInt8) : UInt8 := value <<< 2

def parseSeid : Bytes → Except Error UInt8
  | value :: _ => .ok (value >>> 2)
  | [] => .error (.truncated "SEID")

def parseError : Bytes → Except Error ErrorCode
  | value :: _ => .ok ⟨value⟩
  | [] => .error (.truncated "error code")

/-! ## 4. Payloads -/

namespace Message

def payload : Message → Except Error Bytes
  | discoverCommand | setConfigurationResponse | reconfigureResponse | openResponse
  | startResponse | closeResponse | suspendResponse | abortResponse
  | securityControlResponse | generalReject | delayReportResponse => .ok []
  | discoverResponse endpoints => .ok (endpoints.flatMap EndpointInfo.toBytes)
  | getCapabilitiesCommand acpSeid | getAllCapabilitiesCommand acpSeid
  | getConfigurationCommand acpSeid | openCommand acpSeid | closeCommand acpSeid
  | abortCommand acpSeid => .ok [seid acpSeid]
  | getCapabilitiesResponse capabilities | getAllCapabilitiesResponse capabilities
  | getConfigurationResponse capabilities => ServiceCapabilities.serializeAll capabilities
  | getCapabilitiesReject errorCode | getAllCapabilitiesReject errorCode
  | getConfigurationReject errorCode | openReject errorCode | closeReject errorCode
  | securityControlReject errorCode | delayReportReject errorCode => .ok [errorCode.value]
  | setConfigurationCommand acpSeid intSeid capabilities => do
    let bytes ← ServiceCapabilities.serializeAll capabilities
    pure ([seid acpSeid, seid intSeid] ++ bytes)
  | setConfigurationReject serviceCategory errorCode
  | reconfigureReject serviceCategory errorCode =>
    .ok [serviceCategory.value, errorCode.value]
  | reconfigureCommand acpSeid capabilities => do
    let bytes ← ServiceCapabilities.serializeAll capabilities
    pure ([seid acpSeid] ++ bytes)
  | startCommand acpSeids | suspendCommand acpSeids => .ok (acpSeids.map seid)
  | startReject acpSeid errorCode | suspendReject acpSeid errorCode =>
    .ok [seid acpSeid, errorCode.value]
  | securityControlCommand acpSeid data => .ok (seid acpSeid :: data)
  | delayReportCommand acpSeid delay =>
    .ok [seid acpSeid, (delay >>> 8).toUInt8, delay.toUInt8]
  | unknown _ _ payload => .ok payload

/-- The endpoint descriptors of a payload of even length. -/
def parseEndpoints : Bytes → Except Error (List EndpointInfo)
  | p0 :: p1 :: payload => do
    let info ← EndpointInfo.fromBytes [p0, p1]
    let rest ← parseEndpoints payload
    pure (info :: rest)
  | _ => .ok []

/-- The arms of `parse` for `MessageType::Command`. -/
def parseCommand (signal : SignalIdentifier) (payload : Bytes) : Except Error Message :=
  if signal = .discover then .ok discoverCommand
  else if signal = .getCapabilities then (parseSeid payload).map getCapabilitiesCommand
  else if signal = .getAllCapabilities then (parseSeid payload).map getAllCapabilitiesCommand
  else if signal = .setConfiguration then
    match payload with
    | p0 :: p1 :: rest =>
      (ServiceCapabilities.parseAll rest).map (setConfigurationCommand (p0 >>> 2) (p1 >>> 2))
    | _ => .error (.truncated "set configuration")
  else if signal = .getConfiguration then (parseSeid payload).map getConfigurationCommand
  else if signal = .reconfigure then do
    let acpSeid ← parseSeid payload
    (ServiceCapabilities.parseAll (payload.drop 1)).map (reconfigureCommand acpSeid)
  else if signal = .open then (parseSeid payload).map openCommand
  else if signal = .start then .ok (startCommand (payload.map fun value : UInt8 => value >>> 2))
  else if signal = .close then (parseSeid payload).map closeCommand
  else if signal = .suspend then .ok (suspendCommand (payload.map fun value : UInt8 => value >>> 2))
  else if signal = .abort then (parseSeid payload).map abortCommand
  else if signal = .securityControl then do
    let acpSeid ← parseSeid payload
    pure (securityControlCommand acpSeid (payload.drop 1))
  else if signal = .delayReport then
    match payload with
    | p0 :: p1 :: p2 :: _ =>
      .ok (delayReportCommand (p0 >>> 2) (u16FromLe p2 p1))
    | _ => .error (.truncated "delay report")
  else .ok (unknown signal .command payload)

/-- The arms of `parse` for `MessageType::ResponseAccept`. -/
def parseAccept (signal : SignalIdentifier) (payload : Bytes) : Except Error Message :=
  if signal = .discover then
    if payload.length % 2 ≠ 0 then .error (.invalid "endpoint list length")
    else (parseEndpoints payload).map discoverResponse
  else if signal = .getCapabilities then
    (ServiceCapabilities.parseAll payload).map getCapabilitiesResponse
  else if signal = .getAllCapabilities then
    (ServiceCapabilities.parseAll payload).map getAllCapabilitiesResponse
  else if signal = .setConfiguration then .ok setConfigurationResponse
  else if signal = .getConfiguration then
    (ServiceCapabilities.parseAll payload).map getConfigurationResponse
  else if signal = .reconfigure then .ok reconfigureResponse
  else if signal = .open then .ok openResponse
  else if signal = .start then .ok startResponse
  else if signal = .close then .ok closeResponse
  else if signal = .suspend then .ok suspendResponse
  else if signal = .abort then .ok abortResponse
  else if signal = .securityControl then .ok securityControlResponse
  else if signal = .delayReport then .ok delayReportResponse
  else .ok (unknown signal .responseAccept payload)

def parsePair (payload : Bytes) (what : String) (build : UInt8 → UInt8 → Message) :
    Except Error Message :=
  match payload with
  | p0 :: p1 :: _ => .ok (build p0 p1)
  | _ => .error (.truncated what)

/-- The arms of `parse` for `MessageType::ResponseReject`. -/
def parseReject (signal : SignalIdentifier) (payload : Bytes) : Except Error Message :=
  if signal = .getCapabilities then (parseError payload).map getCapabilitiesReject
  else if signal = .getAllCapabilities then (parseError payload).map getAllCapabilitiesReject
  else if signal = .setConfiguration then
    parsePair payload "set configuration reject" fun p0 p1 => setConfigurationReject ⟨p0⟩ ⟨p1⟩
  else if signal = .getConfiguration then (parseError payload).map getConfigurationReject
  else if signal = .reconfigure then
    parsePair payload "reconfigure reject" fun p0 p1 => reconfigureReject ⟨p0⟩ ⟨p1⟩
  else if signal = .open then (parseError payload).map openReject
  else if signal = .start then
    parsePair payload "start reject" fun p0 p1 => startReject (p0 >>> 2) ⟨p1⟩
  else if signal = .close then (parseError payload).map closeReject
  else if signal = .suspend then
    parsePair payload "suspend reject" fun p0 p1 => suspendReject (p0 >>> 2) ⟨p1⟩
  else if signal = .securityControl then (parseError payload).map securityControlReject
  else if signal = .delayReport then (parseError payload).map delayReportReject
  else .ok (unknown signal .responseReject payload)

def parse (signal : SignalIdentifier) (messageType : MessageType) (payload : Bytes) :
    Except Error Message :=
  match messageType with
  | .command => parseCommand signal payload
  | .generalReject => .ok generalReject
  | .responseAccept => parseAccept signal payload
  | .responseReject => parseReject signal payload

end Message

end Bumble.Avdtp
