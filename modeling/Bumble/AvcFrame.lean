import Bumble.OctetReader

/-!
# AV/C command and response frames (`bumble-avc/src/lib.rs`)

A frame is a command or a response to a subunit, with an operation and its operands.
The first octet tells the two apart: categories below eight are commands.
-/

namespace Bumble.Avc

inductive Error where
  | truncated (text : String)
  | invalid (text : String)
  | operandTooLong
deriving DecidableEq, Repr

abbrev SubunitType := UInt8

def SubunitType.panel : SubunitType := 0x09
def SubunitType.extended : SubunitType := 0x1E
def SubunitType.unit : SubunitType := 0x1F

abbrev OperationCode := UInt8

def OperationCode.vendorDependent : OperationCode := 0x00
def OperationCode.passThrough : OperationCode := 0x7C

abbrev CommandType := UInt8

def CommandType.control : CommandType := 0x00
def CommandType.status : CommandType := 0x01
def CommandType.specificInquiry : CommandType := 0x02
def CommandType.notify : CommandType := 0x03
def CommandType.generalInquiry : CommandType := 0x04

abbrev ResponseCode := UInt8

def ResponseCode.notImplemented : ResponseCode := 0x08
def ResponseCode.accepted : ResponseCode := 0x09
def ResponseCode.rejected : ResponseCode := 0x0A
def ResponseCode.inTransition : ResponseCode := 0x0B
def ResponseCode.implementedOrStable : ResponseCode := 0x0C
def ResponseCode.changed : ResponseCode := 0x0D
def ResponseCode.interim : ResponseCode := 0x0F

abbrev OperationId := UInt8

inductive StateFlag where
  | pressed
  | released
deriving DecidableEq, Repr

inductive FrameBody where
  | raw (opcode : OperationCode) (operands : Bytes)
  | vendorDependent (companyId : UInt32) (data : Bytes)
  | passThrough (state : StateFlag) (operationId : OperationId) (data : Bytes)
deriving DecidableEq, Repr

namespace FrameBody

def opcode : FrameBody → OperationCode
  | raw opcode _ => opcode
  | vendorDependent _ _ => OperationCode.vendorDependent
  | passThrough _ _ _ => OperationCode.passThrough

def operands : FrameBody → Except Error Bytes
  | raw _ operands => .ok operands
  | vendorDependent companyId data =>
    if companyId > 0xFFFFFF then .error (.invalid "AV/C company ID")
    else .ok ((u32ToBe companyId).drop 1 ++ data)
  | passThrough state operationId data =>
    if data.length < 256 then
      let flag : UInt8 := match state with
        | .pressed => 0
        | .released => 0x80
      .ok ((flag ||| (operationId &&& 0x7F)) :: UInt8.ofNat data.length :: data)
    else .error .operandTooLong

def parse (opcode : OperationCode) (operands : Bytes) : Except Error FrameBody :=
  if opcode = OperationCode.vendorDependent then
    match operands with
    | first :: second :: third :: data =>
      .ok (vendorDependent (UInt32.ofNat (beToNat [0, first, second, third])) data)
    | _ => .error (.truncated "vendor-dependent company ID")
  else if opcode = OperationCode.passThrough then
    match operands with
    | flags :: length :: data =>
      if length.toNat ≤ data.length then
        .ok (passThrough (if flags &&& 0x80 = 0 then .pressed else .released) (flags &&& 0x7F)
          (data.take length.toNat))
      else .error (.truncated "pass-through operation data")
    | _ => .error (.truncated "pass-through operands")
  else .ok (raw opcode operands)

end FrameBody

inductive Frame where
  | command (commandType : CommandType) (subunitType : SubunitType) (subunitId : UInt16)
      (body : FrameBody)
  | response (responseCode : ResponseCode) (subunitType : SubunitType) (subunitId : UInt16)
      (body : FrameBody)
deriving DecidableEq, Repr

namespace Frame

/-- The subunit id of a frame and what follows it, from the low bits of the second
octet and the octets after it. -/
def parseSubunitId (encodedId : UInt8) (later : Bytes) : Except Error (UInt16 × Bytes) :=
  if encodedId ≤ 4 ∨ encodedId = 7 then .ok (encodedId.toUInt16, later)
  else if encodedId = 5 then
    match later with
    | [] => .error (.truncated "extended subunit ID")
    | extension :: later =>
      if extension = 0 then .error (.invalid "reserved extended subunit ID")
      else if extension = 0xFF then
        match later with
        | [] => .error (.truncated "double-extended subunit ID")
        | second :: later => .ok (259 + second.toUInt16, later)
      else .ok (5 + extension.toUInt16, later)
  else .error (.invalid "reserved subunit ID")

def fromBytes (data : Bytes) : Except Error Frame :=
  match data with
  | first :: second :: third :: later =>
    if first >>> 4 ≠ 0 then .error (.invalid "AV/C reserved header bits")
    else
      let category := first &&& 0x0F
      let subunitType : SubunitType := second >>> 3
      if subunitType = SubunitType.extended then
        .error (.invalid "extended subunit type unsupported")
      else do
        let (subunitId, rest) ← parseSubunitId (second &&& 7) (third :: later)
        match rest with
        | [] => .error (.truncated "AV/C opcode")
        | opcode :: operands =>
          let body ← FrameBody.parse opcode operands
          if category < 8 then pure (command category subunitType subunitId body)
          else pure (response category subunitType subunitId body)
  | _ => .error (.truncated "AV/C frame")

def subunitBytes (subunitType : SubunitType) (subunitId : UInt16) : Except Error Bytes :=
  if subunitId ≤ 4 ∨ subunitId = 7 then .ok [(subunitType <<< 3) ||| subunitId.toUInt8]
  else if subunitId ≤ 259 then .ok [(subunitType <<< 3) ||| 5, (subunitId - 5).toUInt8]
  else if subunitId ≤ 514 then .ok [(subunitType <<< 3) ||| 5, 0xFF, (subunitId - 259).toUInt8]
  else .error (.invalid "AV/C subunit ID")

/-- The fields of a frame, with the category that its first octet carries. -/
def fields : Frame → UInt8 × SubunitType × UInt16 × FrameBody
  | command commandType subunitType subunitId body => (commandType, subunitType, subunitId, body)
  | response responseCode subunitType subunitId body =>
    (responseCode, subunitType, subunitId, body)

def toBytes (frame : Frame) : Except Error Bytes :=
  let (category, subunitType, subunitId, body) := frame.fields
  if category > 0x0F ∨ subunitType > 0x1F ∨ subunitType = SubunitType.extended then
    .error (.invalid "AV/C header field")
  else do
    let subunit ← subunitBytes subunitType subunitId
    let operands ← body.operands
    pure (category :: subunit ++ body.opcode :: operands)

end Frame

end Bumble.Avc
