import Bumble.ByteOrder

/-!
# UUIDs and ATT PDUs (`bumble/src/uuid.rs`, `bumble-att/src/lib.rs`)

A UUID has two, four or sixteen octets and is compared in its 128-bit expansion.
A PDU is its op code with the fields of its kind.
-/

namespace Bumble

/-! ## 1. UUIDs -/

/-- The octets in front of a short UUID in its expansion. -/
def baseUuidLe : Bytes := [0xFB, 0x34, 0x9B, 0x5F, 0x80, 0x00, 0x00, 0x80, 0x00, 0x10, 0x00, 0x00]

structure Uuid where
  bytes : Bytes
  width : bytes.length = 2 ∨ bytes.length = 4 ∨ bytes.length = 16
deriving DecidableEq, Repr

namespace Uuid

def from16Bits (value : UInt16) : Uuid := ⟨u16ToLe value, .inl rfl⟩

def fromBytes (bytes : Bytes) : Except String Uuid :=
  if h : bytes.length = 2 ∨ bytes.length = 4 ∨ bytes.length = 16 then .ok ⟨bytes, h⟩
  else .error "invalid argument: only 2, 4 and 16 bytes are allowed"

theorem fromBytes_bytes (uuid : Uuid) : fromBytes uuid.bytes = .ok uuid :=
  dif_pos uuid.width

theorem bytes_of_fromBytes {bytes : Bytes} {uuid : Uuid}
    (hparse : fromBytes bytes = .ok uuid) : uuid.bytes = bytes := by
  rw [fromBytes] at hparse
  split at hparse
  · cases hparse
    rfl
  · cases hparse

def uuid128Bytes (uuid : Uuid) : Bytes :=
  if uuid.bytes.length = 2 then baseUuidLe ++ uuid.bytes ++ [0, 0]
  else if uuid.bytes.length = 4 then baseUuidLe ++ uuid.bytes
  else uuid.bytes

def toBytes (uuid : Uuid) (force128 : Bool) : Bytes :=
  if force128 then uuid.uuid128Bytes else uuid.bytes

/-- `PartialEq`: a short UUID equals its expansion. -/
def same (uuid other : Uuid) : Bool := uuid.uuid128Bytes == other.uuid128Bytes

end Uuid

namespace Att

/-! ## 2. PDUs -/

namespace Codes

@[match_pattern] def attErrorResponse : UInt8 := 0x01
@[match_pattern] def attExchangeMtuRequest : UInt8 := 0x02
@[match_pattern] def attExchangeMtuResponse : UInt8 := 0x03
@[match_pattern] def attFindInformationRequest : UInt8 := 0x04
@[match_pattern] def attFindInformationResponse : UInt8 := 0x05
@[match_pattern] def attFindByTypeValueRequest : UInt8 := 0x06
@[match_pattern] def attFindByTypeValueResponse : UInt8 := 0x07
@[match_pattern] def attReadByTypeRequest : UInt8 := 0x08
@[match_pattern] def attReadByTypeResponse : UInt8 := 0x09
@[match_pattern] def attReadRequest : UInt8 := 0x0A
@[match_pattern] def attReadResponse : UInt8 := 0x0B
@[match_pattern] def attReadBlobRequest : UInt8 := 0x0C
@[match_pattern] def attReadBlobResponse : UInt8 := 0x0D
@[match_pattern] def attReadMultipleRequest : UInt8 := 0x0E
@[match_pattern] def attReadMultipleResponse : UInt8 := 0x0F
@[match_pattern] def attReadByGroupTypeRequest : UInt8 := 0x10
@[match_pattern] def attReadByGroupTypeResponse : UInt8 := 0x11
@[match_pattern] def attWriteRequest : UInt8 := 0x12
@[match_pattern] def attWriteResponse : UInt8 := 0x13
@[match_pattern] def attPrepareWriteRequest : UInt8 := 0x16
@[match_pattern] def attPrepareWriteResponse : UInt8 := 0x17
@[match_pattern] def attExecuteWriteRequest : UInt8 := 0x18
@[match_pattern] def attExecuteWriteResponse : UInt8 := 0x19
@[match_pattern] def attHandleValueNotification : UInt8 := 0x1B
@[match_pattern] def attHandleValueIndication : UInt8 := 0x1D
@[match_pattern] def attHandleValueConfirmation : UInt8 := 0x1E
@[match_pattern] def attReadMultipleVariableRequest : UInt8 := 0x20
@[match_pattern] def attReadMultipleVariableResponse : UInt8 := 0x21
@[match_pattern] def attWriteCommand : UInt8 := 0x52
@[match_pattern] def attSignedWriteCommand : UInt8 := 0xD2

end Codes

inductive AttPdu where
  | errorResponse (requestOpcodeInError : UInt8) (attributeHandleInError : UInt16)
      (errorCode : UInt8)
  | exchangeMtuRequest (clientRxMtu : UInt16)
  | exchangeMtuResponse (serverRxMtu : UInt16)
  | findInformationRequest (startingHandle endingHandle : UInt16)
  | findInformationResponse (format : UInt8) (informationData : Bytes)
  | findByTypeValueRequest (startingHandle endingHandle : UInt16) (attributeType : Uuid)
      (attributeValue : Bytes)
  | findByTypeValueResponse (handlesInformationList : Bytes)
  | readRequest (attributeHandle : UInt16)
  | readResponse (attributeValue : Bytes)
  | readBlobRequest (attributeHandle valueOffset : UInt16)
  | readBlobResponse (partAttributeValue : Bytes)
  | readMultipleRequest (setOfHandles : List UInt16)
  | readMultipleResponse (setOfValues : Bytes)
  | readByTypeRequest (startingHandle endingHandle : UInt16) (attributeType : Uuid)
  | readByTypeResponse (length : UInt8) (attributeDataList : Bytes)
  | readByGroupTypeRequest (startingHandle endingHandle : UInt16) (attributeGroupType : Uuid)
  | readByGroupTypeResponse (length : UInt8) (attributeDataList : Bytes)
  | readMultipleVariableRequest (setOfHandles : List UInt16)
  | readMultipleVariableResponse (lengthValueTuples : List (UInt16 × Bytes))
  | writeRequest (attributeHandle : UInt16) (attributeValue : Bytes)
  | writeResponse
  | writeCommand (attributeHandle : UInt16) (attributeValue : Bytes)
  | signedWriteCommand (attributeHandle : UInt16) (attributeValue : Bytes) (signCounter : UInt32)
      (signature : Vector UInt8 8)
  | prepareWriteRequest (attributeHandle valueOffset : UInt16) (partAttributeValue : Bytes)
  | prepareWriteResponse (attributeHandle valueOffset : UInt16) (partAttributeValue : Bytes)
  | executeWriteRequest (flags : UInt8)
  | executeWriteResponse
  | handleValueNotification (attributeHandle : UInt16) (attributeValue : Bytes)
  | handleValueIndication (attributeHandle : UInt16) (attributeValue : Bytes)
  | handleValueConfirmation
  | generic (opCode : UInt8) (payload : Bytes)
deriving DecidableEq, Repr

namespace AttPdu

def opCode : AttPdu → UInt8
  | errorResponse .. => Codes.attErrorResponse
  | exchangeMtuRequest .. => Codes.attExchangeMtuRequest
  | exchangeMtuResponse .. => Codes.attExchangeMtuResponse
  | findInformationRequest .. => Codes.attFindInformationRequest
  | findInformationResponse .. => Codes.attFindInformationResponse
  | findByTypeValueRequest .. => Codes.attFindByTypeValueRequest
  | findByTypeValueResponse .. => Codes.attFindByTypeValueResponse
  | readRequest .. => Codes.attReadRequest
  | readResponse .. => Codes.attReadResponse
  | readBlobRequest .. => Codes.attReadBlobRequest
  | readBlobResponse .. => Codes.attReadBlobResponse
  | readMultipleRequest .. => Codes.attReadMultipleRequest
  | readMultipleResponse .. => Codes.attReadMultipleResponse
  | readByTypeRequest .. => Codes.attReadByTypeRequest
  | readByTypeResponse .. => Codes.attReadByTypeResponse
  | readByGroupTypeRequest .. => Codes.attReadByGroupTypeRequest
  | readByGroupTypeResponse .. => Codes.attReadByGroupTypeResponse
  | readMultipleVariableRequest .. => Codes.attReadMultipleVariableRequest
  | readMultipleVariableResponse .. => Codes.attReadMultipleVariableResponse
  | writeRequest .. => Codes.attWriteRequest
  | writeResponse => Codes.attWriteResponse
  | writeCommand .. => Codes.attWriteCommand
  | signedWriteCommand .. => Codes.attSignedWriteCommand
  | prepareWriteRequest .. => Codes.attPrepareWriteRequest
  | prepareWriteResponse .. => Codes.attPrepareWriteResponse
  | executeWriteRequest .. => Codes.attExecuteWriteRequest
  | executeWriteResponse => Codes.attExecuteWriteResponse
  | handleValueNotification .. => Codes.attHandleValueNotification
  | handleValueIndication .. => Codes.attHandleValueIndication
  | handleValueConfirmation => Codes.attHandleValueConfirmation
  | generic opCode _ => opCode

end AttPdu

end Att

end Bumble
