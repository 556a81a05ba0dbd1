import Bumble.GattListing

/-!
# A GATT server's answers (`bumble-gatt/src/lib.rs`)

`onRequestWithContext` is the server: it turns a request that arrives on a bearer into
an answer and a new state.  Every kind of request has its own function; the message
authentication code of signed writes is a parameter.
-/

namespace Bumble.Gatt

open Att

/-! ## 1. Signed writes -/

/-- `aes_cmac`: the code of the data under the key. -/
abbrev Cmac := Bytes → Vector UInt8 16 → Vector UInt8 16

section Signatures

variable (cmac : Cmac)

def signedData (attributeHandle : UInt16) (attributeValue : Bytes) (signCounter : UInt32) : Bytes :=
  Codes.attSignedWriteCommand :: (u16ToLe attributeHandle ++ attributeValue ++ u32ToLe signCounter)

def signedWriteSignature (csrk : Vector UInt8 16) (attributeHandle : UInt16)
    (attributeValue : Bytes) (signCounter : UInt32) : Vector UInt8 8 :=
  (cmac (signedData attributeHandle attributeValue signCounter) csrk).take 8

/-- The verifier with the counter it has accepted, unless it does not accept the command.  The
    octets of the two signatures are compared by the bits in which they differ. -/
def SignedWriteVerifier.verify (verifier : SignedWriteVerifier) :
    AttPdu → Option SignedWriteVerifier
  | .signedWriteCommand attributeHandle attributeValue signCounter signature =>
    if verifier.lastCounter.any fun last => decide (signCounter ≤ last) then none
    else
      let expected := signedWriteSignature cmac verifier.csrk attributeHandle
        attributeValue signCounter
      let difference := (signature.toList.zip expected.toList).foldl
        (fun difference (actual, expected) => difference ||| (actual ^^^ expected)) (0 : UInt8)
      if difference ≠ 0 then none
      else some { verifier with lastCounter := some signCounter }
  | _ => none

end Signatures

/-! ## 2. Reading and writing one attribute -/

/-- A part written over a value at an offset, which may make it longer. -/
def overwrite (value : Bytes) (offset : Nat) (part : Bytes) : Bytes :=
  value.take offset ++ part ++ value.drop (offset + part.length)

namespace GattServer

def find (server : GattServer) (handle : UInt16) : Option Attribute :=
  server.attributes.find? fun attr => attr.handle == handle

/-- The server with changed attributes, which keep their handles. -/
def mapAttributes (server : GattServer) (f : Attribute → Attribute)
    (hhandle : ∀ attr, (f attr).handle = attr.handle) : GattServer :=
  { server with
    attributes := server.attributes.map f
    ascending := by
      rw [List.pairwise_map]
      refine server.ascending.imp ?_
      intro first second hlt
      rwa [hhandle, hhandle] }

/-- The attribute of a handle gets a new value; no other one has its handle. -/
def setValue (server : GattServer) (handle : UInt16) (value : Bytes) : GattServer :=
  server.mapAttributes
    (fun attr => if attr.handle = handle then { attr with value := value } else attr)
    (by
      intro attr
      split <;> rfl)

def writeValue (server : GattServer) (attr : Attribute) (context : AccessContext) (value : Bytes) :
    Except UInt8 GattServer :=
  match attr.dynamicValue with
  | some dynamic => (dynamic.write server.subscriptions context value).map fun subscriptions =>
      { server with subscriptions := subscriptions }
  | none => .ok (server.setValue attr.handle value)

/-- The MTU of a bearer; `set_max_mtu` and the negotiation keep it at 23 or above. -/
def negotiatedMtu (server : GattServer) (bearerId : UInt64) : UInt16 :=
  server.negotiatedMtus[bearerId]?.getD attDefaultMtu

/-- The value behind a handle, or the code of the error to answer with. -/
def readHandle (server : GattServer) (context : AccessContext) (handle : UInt16) :
    Except UInt8 Bytes :=
  match server.find handle with
  | some attr => attr.readIn server.subscriptions context
  | none => .error attAttributeNotFoundError

/-- The attribute behind a handle that the context may write, or the code of the error. -/
def writable (server : GattServer) (context : AccessContext) (handle : UInt16) :
    Except UInt8 Attribute :=
  match server.find handle with
  | some attr => (checkWriteAccess attr.permissions context).map fun _ => attr
  | none => .error attAttributeNotFoundError

/-! ## 3. Requests that read -/

def readRequest (server : GattServer) (attributeHandle : UInt16)
    (context : AccessContext) : AttPdu :=
  match server.readHandle context attributeHandle with
  | .ok value => .readResponse (value.take ((server.negotiatedMtu context.bearerId).toNat - 1))
  | .error code => error Codes.attReadRequest attributeHandle code

def readBlobRequest (server : GattServer) (attributeHandle valueOffset : UInt16)
    (context : AccessContext) : AttPdu :=
  match server.readHandle context attributeHandle with
  | .ok value =>
    if valueOffset.toNat > value.length then
      error Codes.attReadBlobRequest attributeHandle attInvalidOffsetError
    else
      .readBlobResponse ((value.drop valueOffset.toNat).take
        ((server.negotiatedMtu context.bearerId).toNat - 1))
  | .error code => error Codes.attReadBlobRequest attributeHandle code

/-- The loop over the handles of a Read Multiple Request, with the octets that are left. -/
def readMultipleLoop (server : GattServer) (context : AccessContext) (mtu : Nat) :
    Nat → Bytes → List UInt16 → AttPdu
  | _, values, [] => .readMultipleResponse values
  | remaining, values, handle :: handles =>
    match server.readHandle context handle with
    | .error code => error Codes.attReadMultipleRequest handle code
    | .ok value =>
      let part := value.take (min (mtu - 1) 251)
      if part.length > remaining then .readMultipleResponse values
      else readMultipleLoop server context mtu (remaining - part.length) (values ++ part) handles

/-- The same with the length of each value in front of what there is room for. -/
def readMultipleVariableLoop (server : GattServer) (context : AccessContext) (mtu : Nat) :
    Nat → List (UInt16 × Bytes) → List UInt16 → AttPdu
  | _, tuples, [] => .readMultipleVariableResponse tuples
  | remaining, tuples, handle :: handles =>
    match server.readHandle context handle with
    | .error code => error Codes.attReadMultipleVariableRequest handle code
    | .ok value =>
      let part := value.take (min (mtu - 3) 251)
      if part.length + 2 > remaining then .readMultipleVariableResponse tuples
      else readMultipleVariableLoop server context mtu (remaining - (part.length + 2))
        (tuples ++ [(UInt16.ofNat (min value.length 65535), part)]) handles

def readMultiple (server : GattServer) (handles : List UInt16) (variableLength : Bool)
    (context : AccessContext) : AttPdu :=
  let mtu := (server.negotiatedMtu context.bearerId).toNat
  if variableLength then readMultipleVariableLoop server context mtu (mtu - 1) [] handles
  else readMultipleLoop server context mtu (mtu - 1) [] handles

def findInformation (server : GattServer) (startingHandle endingHandle : UInt16) : AttPdu :=
  let attrs := server.attributes.filter fun attr =>
    decide (attr.handle ≥ startingHandle) && decide (attr.handle ≤ endingHandle)
  match attrs with
  | [] => error Codes.attFindInformationRequest startingHandle attAttributeNotFoundError
  | first :: _ =>
    let uuidLen := (first.typeUuid.toBytes false).length
    .findInformationResponse (if uuidLen = 2 then 1 else 2)
      ((attrs.takeWhile fun attr => (attr.typeUuid.toBytes false).length == uuidLen).flatMap
        fun attr => u16ToLe attr.handle ++ attr.typeUuid.toBytes false)

/-- The handles of the groups whose value is the given one, or the first error. -/
def groupsOfValue (server : GattServer) (context : AccessContext) (attributeValue : Bytes) :
    List Attribute → Except (UInt16 × UInt8) Bytes
  | [] => .ok []
  | attr :: attrs =>
    match attr.readIn server.subscriptions context with
    | .error code => .error (attr.handle, code)
    | .ok value => do
      let list ← groupsOfValue server context attributeValue attrs
      return if value = attributeValue then
        u16ToLe attr.handle ++ u16ToLe attr.endGroupHandle ++ list else list

def findByTypeValue (server : GattServer) (startingHandle endingHandle : UInt16)
    (attributeType : Uuid) (attributeValue : Bytes) (context : AccessContext) : AttPdu :=
  match groupsOfValue server context attributeValue
      (server.matching startingHandle endingHandle attributeType) with
  | .error (handle, code) => error Codes.attFindByTypeValueRequest handle code
  | .ok [] => error Codes.attFindByTypeValueRequest startingHandle attAttributeNotFoundError
  | .ok list => .findByTypeValueResponse list

/-! ## 4. Requests that write -/

def writeRequest (server : GattServer) (attributeHandle : UInt16) (attributeValue : Bytes)
    (context : AccessContext) : GattServer × AttPdu :=
  match server.writable context attributeHandle with
  | .error code => (server, error Codes.attWriteRequest attributeHandle code)
  | .ok attr =>
    match server.writeValue attr context attributeValue with
    | .ok server => (server, .writeResponse)
    | .error code => (server, error Codes.attWriteRequest attributeHandle code)

/-- A write without an answer, which may be refused. -/
def applyCommand (server : GattServer) (attributeHandle : UInt16) (attributeValue : Bytes)
    (context : AccessContext) : GattServer :=
  match server.writable context attributeHandle with
  | .error _ => server
  | .ok attr => ((server.writeValue attr context attributeValue).toOption).getD server

def writeCommand (server : GattServer) (attributeHandle : UInt16) (attributeValue : Bytes)
    (context : AccessContext) : GattServer × AttPdu :=
  (server.applyCommand attributeHandle attributeValue context, .handleValueConfirmation)

def signedWriteCommand (cmac : Cmac) (server : GattServer) (attributeHandle : UInt16)
    (attributeValue : Bytes) (signCounter : UInt32) (signature : Vector UInt8 8)
    (context : AccessContext) : GattServer × AttPdu :=
  match server.signedWriteVerifier.bind fun verifier =>
      verifier.verify cmac
        (.signedWriteCommand attributeHandle attributeValue signCounter signature) with
  | some verifier =>
    (({ server with signedWriteVerifier := some verifier } : GattServer).applyCommand
      attributeHandle
      attributeValue { context with authenticated := true }, .handleValueConfirmation)
  | none => (server, .handleValueConfirmation)

def prepareWriteRequest (server : GattServer) (attributeHandle valueOffset : UInt16)
    (partAttributeValue : Bytes) (context : AccessContext) : GattServer × AttPdu :=
  match server.writable context attributeHandle with
  | .error code => (server, error Codes.attPrepareWriteRequest attributeHandle code)
  | .ok attr =>
    if attr.dynamicValue.isSome then
      (server, error Codes.attPrepareWriteRequest attributeHandle attAttributeNotLongError)
    else
      let queue := server.preparedWrites[context.bearerId]?.getD []
      ({ server with
          preparedWrites := server.preparedWrites.insert context.bearerId
            (queue ++ [(attributeHandle, valueOffset, partAttributeValue)]) },
        .prepareWriteResponse attributeHandle valueOffset partAttributeValue)

def stagePart (server : GattServer) (context : AccessContext)
    (staged : Std.ExtTreeMap UInt16 Bytes) (write : UInt16 × UInt16 × Bytes) :
    Except (UInt16 × UInt8) (Std.ExtTreeMap UInt16 Bytes) :=
  let (handle, offset, part) := write
  match server.writable context handle with
  | .error code => .error (handle, code)
  | .ok attr =>
    if attr.dynamicValue.isSome then .error (handle, attAttributeNotLongError)
    else
      match staged[handle]? with
      | none => .error (handle, attAttributeNotFoundError)
      | some value =>
        if offset.toNat > value.length then .error (handle, attInvalidOffsetError)
        else .ok (staged.insert handle (overwrite value offset.toNat part))

def executeWrites (server : GattServer) (flags : UInt8) (context : AccessContext) :
    GattServer × AttPdu :=
  if flags = 0 then
    ({ server with preparedWrites := server.preparedWrites.erase context.bearerId },
      .executeWriteResponse)
  else if flags ≠ 1 then (server, error Codes.attExecuteWriteRequest 0 attInvalidPduError)
  else
    let preparedWrites := server.preparedWrites[context.bearerId]?.getD []
    let cleared : GattServer :=
      { server with preparedWrites := server.preparedWrites.erase context.bearerId }
    let staged := server.attributes.foldl
      (fun staged attr => staged.insert attr.handle attr.value) ∅
    match preparedWrites.foldlM (cleared.stagePart context) staged with
    | .error (handle, code) => (cleared, error Codes.attExecuteWriteRequest handle code)
    | .ok staged =>
      (cleared.mapAttributes
        (fun attr => { attr with value := staged[attr.handle]?.getD attr.value }) (fun _ => rfl),
        .executeWriteResponse)

/-! ## 5. The server -/

def exchangeMtuRequest (server : GattServer) (clientRxMtu : UInt16) (context : AccessContext) :
    GattServer × AttPdu :=
  ({ server with
      negotiatedMtus := server.negotiatedMtus.insert context.bearerId
        (max (min clientRxMtu server.mtu) attDefaultMtu) },
    .exchangeMtuResponse server.mtu)

def onRequestWithContext (cmac : Cmac) (server : GattServer) (request : AttPdu)
    (context : AccessContext) : GattServer × AttPdu :=
  match request with
  | .exchangeMtuRequest clientRxMtu => server.exchangeMtuRequest clientRxMtu context
  | .readRequest attributeHandle => (server, server.readRequest attributeHandle context)
  | .readBlobRequest attributeHandle valueOffset =>
    (server, server.readBlobRequest attributeHandle valueOffset context)
  | .readMultipleRequest setOfHandles => (server, server.readMultiple setOfHandles false context)
  | .readMultipleVariableRequest setOfHandles =>
      (server, server.readMultiple setOfHandles true context)
  | .writeRequest attributeHandle attributeValue =>
    server.writeRequest attributeHandle attributeValue context
  | .readByGroupTypeRequest startingHandle endingHandle attributeGroupType =>
    (server, server.readByGroupType startingHandle endingHandle attributeGroupType context)
  | .readByTypeRequest startingHandle endingHandle attributeType =>
    (server, server.readByType startingHandle endingHandle attributeType context)
  | .findInformationRequest startingHandle endingHandle =>
    (server, server.findInformation startingHandle endingHandle)
  | .findByTypeValueRequest startingHandle endingHandle attributeType attributeValue =>
    (server, server.findByTypeValue startingHandle endingHandle attributeType
      attributeValue context)
  | .writeCommand attributeHandle attributeValue =>
    server.writeCommand attributeHandle attributeValue context
  | .signedWriteCommand attributeHandle attributeValue signCounter signature =>
    server.signedWriteCommand cmac attributeHandle attributeValue signCounter signature context
  | .prepareWriteRequest attributeHandle valueOffset partAttributeValue =>
    server.prepareWriteRequest attributeHandle valueOffset partAttributeValue context
  | .executeWriteRequest flags => server.executeWrites flags context
  | other => (server, error other.opCode 0 attRequestNotSupportedError)

def setMaxMtu (server : GattServer) (mtu : UInt16) : Bool × GattServer :=
  if mtu < attDefaultMtu then (false, server) else (true, { server with mtu := mtu })

def removeBearer (server : GattServer) (bearerId : UInt64) : GattServer :=
  { server with
    negotiatedMtus := server.negotiatedMtus.erase bearerId
    preparedWrites := server.preparedWrites.erase bearerId
    subscriptions := fun bearer handle =>
      if bearer = bearerId then none else server.subscriptions bearer handle }

def setSignedWriteKey (server : GattServer) (csrk : Vector UInt8 16) (lastCounter : Option UInt32) :
    GattServer :=
  { server with signedWriteVerifier := some ⟨csrk, lastCounter⟩ }

def setAttributeValue (server : GattServer) (handle : UInt16) (value : Bytes) :
    Except DatabaseError GattServer :=
  match server.find handle with
  | some _ => .ok (server.setValue handle value)
  | none => .error (.unknownAttribute handle)

end GattServer

end Bumble.Gatt
