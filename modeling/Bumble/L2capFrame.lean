import Bumble.ByteOrder

/-!
# L2CAP frames (`bumble-l2cap/src/lib.rs`)

The basic PDU, the signaling control frames, the variable-length PSM and the
Classic configuration options, as the frame codec computes them.

A slice index out of range and a shift by the width of the type are panics in
the source, not error values; `Error.panic` marks a run that ends in one, so
that the absence of panics can be stated of these definitions.
-/

namespace Bumble.L2cap

/-- `Error::InvalidPacket`, and the mark of a run that panics. -/
inductive Error where
  | invalidPacket (message : String)
  | panic (reason : String)
deriving DecidableEq, Repr

/-! ## 1. Printing of channel identifiers -/

/-- The digits of `{value:#x}`. -/
def hexDigits (value : Nat) : String := String.ofList (Nat.toDigits 16 value)

/-- `{cid:#06x}`: `0x` and at least four digits. -/
def hexCid (cid : UInt16) : String :=
  let digits := Nat.toDigits 16 cid.toNat
  "0x" ++ String.ofList (List.replicate (4 - digits.length) '0' ++ digits)

/-! ## 2. Signaling codes and fixed channels -/

namespace Codes
def commandReject : UInt8 := 0x01
def connectionRequest : UInt8 := 0x02
def connectionResponse : UInt8 := 0x03
def configureRequest : UInt8 := 0x04
def configureResponse : UInt8 := 0x05
def disconnectionRequest : UInt8 := 0x06
def disconnectionResponse : UInt8 := 0x07
def echoRequest : UInt8 := 0x08
def echoResponse : UInt8 := 0x09
def informationRequest : UInt8 := 0x0A
def informationResponse : UInt8 := 0x0B
def connectionParameterUpdateRequest : UInt8 := 0x12
def connectionParameterUpdateResponse : UInt8 := 0x13
def leCreditBasedConnectionRequest : UInt8 := 0x14
def leCreditBasedConnectionResponse : UInt8 := 0x15
def leFlowControlCredit : UInt8 := 0x16
def creditBasedConnectionRequest : UInt8 := 0x17
def creditBasedConnectionResponse : UInt8 := 0x18
def creditBasedReconfigureRequest : UInt8 := 0x19
def creditBasedReconfigureResponse : UInt8 := 0x1A
end Codes

def l2capSignalingCid : UInt16 := 0x0001
def l2capLeSignalingCid : UInt16 := 0x0005

def connectionSuccessful : UInt16 := 0x0000
def connectionRefusedPsmNotSupported : UInt16 := 0x0002
def connectionRefusedNoResourcesAvailable : UInt16 := 0x0004

def configurationSuccess : UInt16 := 0x0000
def configurationUnacceptableParameters : UInt16 := 0x0001
def configurationUnknownOptions : UInt16 := 0x0003

def configurationOptionMtu : UInt8 := 0x01
def configurationOptionRetransmissionAndFlowControl : UInt8 := 0x04
def configurationOptionFcs : UInt8 := 0x05

/-! ## 3. Frame check sequence -/

/-- One bit of the shift register of `crc_16`. -/
def crc16Bit (crc : UInt16) : UInt16 :=
  if crc &&& 0x0001 ≠ 0 then (crc >>> 1) ^^^ 0xA001 else crc >>> 1

/-- One octet of `crc_16`: exclusive or, then eight shifts. -/
def crc16Byte (crc : UInt16) (byte : UInt8) : UInt16 :=
  (List.range 8).foldl (fun crc _ => crc16Bit crc) (crc ^^^ byte.toUInt16)

/-- CRC-16-IBM, reversed polynomial `0xA001`, initial value zero. -/
def crc16 (data : Bytes) : UInt16 := data.foldl crc16Byte 0x0000

/-! ## 4. Slices -/

/-- `data[index]`. -/
def indexByte (data : Bytes) (index : Nat) : Except Error UInt8 :=
  match data[index]? with
  | some byte => .ok byte
  | none => .error (.panic "index out of bounds")

/-- `le16(data, offset)`. -/
def le16 (data : Bytes) (offset : Nat) : Except Error UInt16 := do
  let low ← indexByte data offset
  let high ← indexByte data (offset + 1)
  return u16FromLe low high

/-- `need(payload, n)`. -/
def need (payload : Bytes) (n : Nat) : Except Error Unit :=
  if payload.length < n then
    .error (.invalidPacket s!"control frame payload too short: need {n}, have {payload.length}")
  else .ok ()

/-! ## 5. The variable-length PSM -/

/-- The `while rest != 0` loop of `serialize_psm`; a 32-bit value has at most
    two octets above the low sixteen bits. -/
def serializePsmRest : Nat → UInt32 → Bytes
  | 0, _ => []
  | fuel + 1, rest =>
    if rest = 0 then [] else (rest &&& 0xFF).toUInt8 :: serializePsmRest fuel (rest >>> 8)

/-- The low sixteen bits little-endian, then one octet per remaining eight. -/
def serializePsm (psm : UInt32) : Bytes :=
  u16ToLe (psm &&& 0xFFFF).toUInt16 ++ serializePsmRest 4 (psm >>> 16)

/-- The `while` loop of `parse_psm`: read on while the last octet is odd.  Each
    round consumes an octet, so `data.length` rounds are never exceeded. -/
def parsePsmLoop (data : Bytes) (offset : Nat) :
    Nat → Nat → UInt32 → Except Error (Nat × UInt32)
  | 0, psmLength, psm => .ok (offset + psmLength, psm)
  | fuel + 1, psmLength, psm => do
    let last ← indexByte data (offset + psmLength - 1)
    if last % 2 = 1 then
      if offset + psmLength ≥ data.length then
        .error (.invalidPacket "truncated PSM")
      else
        let byte ← indexByte data (offset + psmLength)
        if 8 * psmLength ≥ 32 then
          .error (.panic "attempt to shift left with overflow")
        else
          parsePsmLoop data offset fuel (psmLength + 1)
            (psm ||| byte.toUInt32 <<< UInt32.ofNat (8 * psmLength))
    else .ok (offset + psmLength, psm)

/-- Parse a PSM at `offset`: the next offset and the value. -/
def parsePsm (data : Bytes) (offset : Nat) : Except Error (Nat × UInt32) := do
  if offset + 2 > data.length then
    .error (.invalidPacket "not enough data for PSM")
  else
    let low ← indexByte data offset
    let high ← indexByte data (offset + 1)
    parsePsmLoop data offset (data.length + 1) 2 (low.toUInt32 ||| high.toUInt32 <<< 8)

/-! ## 6. The basic PDU -/

structure L2capPdu where
  cid : UInt16
  payload : Bytes
deriving DecidableEq, Repr

/-- The payload is cut at the length field, or at the end of the data. -/
def L2capPdu.fromBytes (data : Bytes) : Except Error L2capPdu :=
  match data with
  | l0 :: l1 :: c0 :: c1 :: rest =>
    .ok ⟨u16FromLe c0 c1, rest.take (u16FromLe l0 l1).toNat⟩
  | _ => .error (.invalidPacket "not enough data for L2CAP header")

/-- With the check sequence the length counts its two octets. -/
def L2capPdu.toBytes (pdu : L2capPdu) (withFcs : Bool) : Bytes :=
  let length := pdu.payload.length + if withFcs then 2 else 0
  let body := u16ToLe (UInt16.ofNat length) ++ u16ToLe pdu.cid ++ pdu.payload
  if withFcs then body ++ u16ToLe (crc16 body) else body

/-! ## 7. Signaling control frames -/

/-- An L2CAP signaling frame; `generic` keeps any other code. -/
inductive ControlFrame where
  | commandReject (identifier : UInt8) (reason : UInt16) (data : Bytes)
  | connectionRequest (identifier : UInt8) (psm : UInt32) (sourceCid : UInt16)
  | connectionResponse (identifier : UInt8) (destinationCid sourceCid result status : UInt16)
  | configureRequest (identifier : UInt8) (destinationCid flags : UInt16) (options : Bytes)
  | configureResponse (identifier : UInt8) (sourceCid flags result : UInt16) (options : Bytes)
  | disconnectionRequest (identifier : UInt8) (destinationCid sourceCid : UInt16)
  | disconnectionResponse (identifier : UInt8) (destinationCid sourceCid : UInt16)
  | echoRequest (identifier : UInt8) (data : Bytes)
  | echoResponse (identifier : UInt8) (data : Bytes)
  | informationRequest (identifier : UInt8) (infoType : UInt16)
  | informationResponse (identifier : UInt8) (infoType result : UInt16) (data : Bytes)
  | connectionParameterUpdateRequest (identifier : UInt8)
      (intervalMin intervalMax latency timeout : UInt16)
  | connectionParameterUpdateResponse (identifier : UInt8) (result : UInt16)
  | leCreditBasedConnectionRequest (identifier : UInt8)
      (lePsm sourceCid mtu mps initialCredits : UInt16)
  | leCreditBasedConnectionResponse (identifier : UInt8)
      (destinationCid mtu mps initialCredits result : UInt16)
  | leFlowControlCredit (identifier : UInt8) (cid credits : UInt16)
  | creditBasedConnectionRequest (identifier : UInt8)
      (spsm mtu mps initialCredits : UInt16) (sourceCid : List UInt16)
  | creditBasedConnectionResponse (identifier : UInt8)
      (mtu mps initialCredits result : UInt16) (destinationCid : List UInt16)
  | creditBasedReconfigureRequest (identifier : UInt8)
      (mtu mps : UInt16) (destinationCid : List UInt16)
  | creditBasedReconfigureResponse (identifier : UInt8) (result : UInt16)
  | generic (code identifier : UInt8) (payload : Bytes)
deriving DecidableEq, Repr

namespace ControlFrame

def code : ControlFrame → UInt8
  | commandReject .. => Codes.commandReject
  | connectionRequest .. => Codes.connectionRequest
  | connectionResponse .. => Codes.connectionResponse
  | configureRequest .. => Codes.configureRequest
  | configureResponse .. => Codes.configureResponse
  | disconnectionRequest .. => Codes.disconnectionRequest
  | disconnectionResponse .. => Codes.disconnectionResponse
  | echoRequest .. => Codes.echoRequest
  | echoResponse .. => Codes.echoResponse
  | informationRequest .. => Codes.informationRequest
  | informationResponse .. => Codes.informationResponse
  | connectionParameterUpdateRequest .. => Codes.connectionParameterUpdateRequest
  | connectionParameterUpdateResponse .. => Codes.connectionParameterUpdateResponse
  | leCreditBasedConnectionRequest .. => Codes.leCreditBasedConnectionRequest
  | leCreditBasedConnectionResponse .. => Codes.leCreditBasedConnectionResponse
  | leFlowControlCredit .. => Codes.leFlowControlCredit
  | creditBasedConnectionRequest .. => Codes.creditBasedConnectionRequest
  | creditBasedConnectionResponse .. => Codes.creditBasedConnectionResponse
  | creditBasedReconfigureRequest .. => Codes.creditBasedReconfigureRequest
  | creditBasedReconfigureResponse .. => Codes.creditBasedReconfigureResponse
  | generic code .. => code

def identifier : ControlFrame → UInt8
  | commandReject identifier .. | connectionRequest identifier ..
  | connectionResponse identifier .. | configureRequest identifier ..
  | configureResponse identifier .. | disconnectionRequest identifier ..
  | disconnectionResponse identifier .. | echoRequest identifier ..
  | echoResponse identifier .. | informationRequest identifier ..
  | informationResponse identifier .. | connectionParameterUpdateRequest identifier ..
  | connectionParameterUpdateResponse identifier ..
  | leCreditBasedConnectionRequest identifier ..
  | leCreditBasedConnectionResponse identifier .. | leFlowControlCredit identifier ..
  | creditBasedConnectionRequest identifier .. | creditBasedConnectionResponse identifier ..
  | creditBasedReconfigureRequest identifier .. | creditBasedReconfigureResponse identifier ..
  | generic _ identifier _ => identifier

def payload : ControlFrame → Bytes
  | commandReject _ reason data => u16ToLe reason ++ data
  | connectionRequest _ psm sourceCid => serializePsm psm ++ u16ToLe sourceCid
  | connectionResponse _ destinationCid sourceCid result status =>
    u16ToLe destinationCid ++ u16ToLe sourceCid ++ u16ToLe result ++ u16ToLe status
  | configureRequest _ destinationCid flags options =>
    u16ToLe destinationCid ++ u16ToLe flags ++ options
  | configureResponse _ sourceCid flags result options =>
    u16ToLe sourceCid ++ u16ToLe flags ++ u16ToLe result ++ options
  | disconnectionRequest _ destinationCid sourceCid
  | disconnectionResponse _ destinationCid sourceCid =>
    u16ToLe destinationCid ++ u16ToLe sourceCid
  | echoRequest _ data | echoResponse _ data => data
  | informationRequest _ infoType => u16ToLe infoType
  | informationResponse _ infoType result data => u16ToLe infoType ++ u16ToLe result ++ data
  | connectionParameterUpdateRequest _ intervalMin intervalMax latency timeout =>
    u16ToLe intervalMin ++ u16ToLe intervalMax ++ u16ToLe latency ++ u16ToLe timeout
  | connectionParameterUpdateResponse _ result => u16ToLe result
  | leCreditBasedConnectionRequest _ lePsm sourceCid mtu mps initialCredits =>
    u16ToLe lePsm ++ u16ToLe sourceCid ++ u16ToLe mtu ++ u16ToLe mps ++ u16ToLe initialCredits
  | leCreditBasedConnectionResponse _ destinationCid mtu mps initialCredits result =>
    u16ToLe destinationCid ++ u16ToLe mtu ++ u16ToLe mps ++ u16ToLe initialCredits ++
      u16ToLe result
  | leFlowControlCredit _ cid credits => u16ToLe cid ++ u16ToLe credits
  | creditBasedConnectionRequest _ spsm mtu mps initialCredits sourceCid =>
    u16ToLe spsm ++ u16ToLe mtu ++ u16ToLe mps ++ u16ToLe initialCredits ++
      sourceCid.flatMap u16ToLe
  | creditBasedConnectionResponse _ mtu mps initialCredits result destinationCid =>
    u16ToLe mtu ++ u16ToLe mps ++ u16ToLe initialCredits ++ u16ToLe result ++
      destinationCid.flatMap u16ToLe
  | creditBasedReconfigureRequest _ mtu mps destinationCid =>
    u16ToLe mtu ++ u16ToLe mps ++ destinationCid.flatMap u16ToLe
  | creditBasedReconfigureResponse _ result => u16ToLe result
  | generic _ _ payload => payload

/-- Code, identifier, length of the payload as 16 bits, payload. -/
def toBytes (frame : ControlFrame) : Bytes :=
  frame.code :: frame.identifier :: u16ToLe (UInt16.ofNat frame.payload.length) ++ frame.payload

end ControlFrame

/-- The `chunks_exact(2)` of `read_cid_list`. -/
def cidChunks : Bytes → List UInt16
  | low :: high :: rest => u16FromLe low high :: cidChunks rest
  | _ => []

/-- `read_cid_list`: octets to 16-bit identifiers, an odd length refused. -/
def readCidList (data : Bytes) : Except Error (List UInt16) :=
  if data.length % 2 ≠ 0 then .error (.invalidPacket "CID list has an odd byte length")
  else .ok (cidChunks data)

namespace ControlFrame

/-- The typed part of `from_bytes`, on the payload cut at the length field. -/
def fromPayload (code identifier : UInt8) (payload : Bytes) : Except Error ControlFrame :=
  if code = Codes.commandReject then do
    need payload 2
    return commandReject identifier (← le16 payload 0) (payload.drop 2)
  else if code = Codes.connectionRequest then do
    let (offset, psm) ← parsePsm payload 0
    if offset + 2 > payload.length then
      .error (.invalidPacket "truncated Connection_Request")
    else
      return connectionRequest identifier psm (← le16 payload offset)
  else if code = Codes.connectionResponse then do
    need payload 8
    return connectionResponse identifier (← le16 payload 0) (← le16 payload 2)
      (← le16 payload 4) (← le16 payload 6)
  else if code = Codes.configureRequest then do
    need payload 4
    return configureRequest identifier (← le16 payload 0) (← le16 payload 2) (payload.drop 4)
  else if code = Codes.configureResponse then do
    need payload 6
    return configureResponse identifier (← le16 payload 0) (← le16 payload 2)
      (← le16 payload 4) (payload.drop 6)
  else if code = Codes.disconnectionRequest then do
    need payload 4
    return disconnectionRequest identifier (← le16 payload 0) (← le16 payload 2)
  else if code = Codes.disconnectionResponse then do
    need payload 4
    return disconnectionResponse identifier (← le16 payload 0) (← le16 payload 2)
  else if code = Codes.echoRequest then
    .ok (echoRequest identifier payload)
  else if code = Codes.echoResponse then
    .ok (echoResponse identifier payload)
  else if code = Codes.informationRequest then do
    need payload 2
    return informationRequest identifier (← le16 payload 0)
  else if code = Codes.informationResponse then do
    need payload 4
    return informationResponse identifier (← le16 payload 0) (← le16 payload 2) (payload.drop 4)
  else if code = Codes.connectionParameterUpdateRequest then do
    need payload 8
    return connectionParameterUpdateRequest identifier (← le16 payload 0) (← le16 payload 2)
      (← le16 payload 4) (← le16 payload 6)
  else if code = Codes.connectionParameterUpdateResponse then do
    need payload 2
    return connectionParameterUpdateResponse identifier (← le16 payload 0)
  else if code = Codes.leCreditBasedConnectionRequest then do
    need payload 10
    return leCreditBasedConnectionRequest identifier (← le16 payload 0) (← le16 payload 2)
      (← le16 payload 4) (← le16 payload 6) (← le16 payload 8)
  else if code = Codes.leCreditBasedConnectionResponse then do
    need payload 10
    return leCreditBasedConnectionResponse identifier (← le16 payload 0) (← le16 payload 2)
      (← le16 payload 4) (← le16 payload 6) (← le16 payload 8)
  else if code = Codes.leFlowControlCredit then do
    need payload 4
    return leFlowControlCredit identifier (← le16 payload 0) (← le16 payload 2)
  else if code = Codes.creditBasedConnectionRequest then do
    need payload 8
    return creditBasedConnectionRequest identifier (← le16 payload 0) (← le16 payload 2)
      (← le16 payload 4) (← le16 payload 6) (← readCidList (payload.drop 8))
  else if code = Codes.creditBasedConnectionResponse then do
    need payload 8
    return creditBasedConnectionResponse identifier (← le16 payload 0) (← le16 payload 2)
      (← le16 payload 4) (← le16 payload 6) (← readCidList (payload.drop 8))
  else if code = Codes.creditBasedReconfigureRequest then do
    need payload 4
    return creditBasedReconfigureRequest identifier (← le16 payload 0) (← le16 payload 2)
      (← readCidList (payload.drop 4))
  else if code = Codes.creditBasedReconfigureResponse then do
    need payload 2
    return creditBasedReconfigureResponse identifier (← le16 payload 0)
  else .ok (generic code identifier payload)

/-- Parse a signaling frame; octets after the declared length are ignored. -/
def fromBytes (pdu : Bytes) : Except Error ControlFrame :=
  match pdu with
  | code :: identifier :: l0 :: l1 :: rest =>
    fromPayload code identifier (rest.take (u16FromLe l0 l1).toNat)
  | _ => .error (.invalidPacket "not enough data for control frame")

end ControlFrame

/-! ## 8. Information capabilities -/

/-- The local values returned to an Information Request. -/
structure InformationCapabilities where
  connectionlessMtu : UInt16 := 1024
  extendedFeatures : UInt32 := 0
  fixedChannels : UInt64 := (1 : UInt64) <<< 1 ||| (1 : UInt64) <<< 5
deriving DecidableEq, Repr

/-- `InformationCapabilities::response`. -/
def InformationCapabilities.response (information : InformationCapabilities)
    (identifier : UInt8) (infoType : UInt16) : ControlFrame :=
  if infoType = 0x0001 then
    .informationResponse identifier infoType 0 (u16ToLe information.connectionlessMtu)
  else if infoType = 0x0002 then
    .informationResponse identifier infoType 0 (u32ToLe information.extendedFeatures)
  else if infoType = 0x0003 then
    .informationResponse identifier infoType 0 (u64ToLe information.fixedChannels)
  else .informationResponse identifier infoType 1 []

structure InformationResponse where
  identifier : UInt8
  infoType : UInt16
  result : UInt16
  data : Bytes
deriving DecidableEq, Repr

/-! ## 9. Classic configuration options -/

/-- One type/length/value entry; bit 7 of the wire type is the hint. -/
structure ConfigurationOption where
  optionType : UInt8
  hint : Bool
  value : Bytes
deriving DecidableEq, Repr

/-- `ConfigurationOption::new`. -/
def ConfigurationOption.new (optionType : UInt8) (value : Bytes) : ConfigurationOption :=
  ⟨optionType &&& 0x7f, false, value⟩

/-- `encode_configuration_options`. -/
def encodeConfigurationOptions : List ConfigurationOption → Except Error Bytes
  | [] => .ok []
  | option :: options =>
    if option.value.length > 255 then
      .error (.invalidPacket "configuration option is too long")
    else do
      let rest ← encodeConfigurationOptions options
      return (option.optionType ||| if option.hint then 0x80 else 0) ::
        UInt8.ofNat option.value.length :: option.value ++ rest

/-- The `while !data.is_empty()` loop of `decode_configuration_options`: every
    round consumes at least the two header octets. -/
def decodeConfigurationOptionsLoop : Nat → Bytes → Except Error (List ConfigurationOption)
  | 0, _ => .ok []
  | _ + 1, [] => .ok []
  | _ + 1, [_] => .error (.invalidPacket "truncated configuration option header")
  | fuel + 1, rawType :: length :: rest =>
    if rest.length < length.toNat then
      .error (.invalidPacket "truncated configuration option value")
    else do
      let options ← decodeConfigurationOptionsLoop fuel (rest.drop length.toNat)
      return ⟨rawType &&& 0x7f, rawType &&& 0x80 ≠ 0, rest.take length.toNat⟩ :: options

/-- `decode_configuration_options`: a truncated entry is refused. -/
def decodeConfigurationOptions (data : Bytes) : Except Error (List ConfigurationOption) :=
  decodeConfigurationOptionsLoop (data.length + 1) data

end Bumble.L2cap
