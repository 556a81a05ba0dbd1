import Bumble.SdpPdu
import Mathlib.Data.List.Sort

/-!
# The SDP server (`bumble-sdp/src/service.rs`)

The server answers one request at a time.  An answer that is longer than a response is cut
into chunks; what is left of it is kept until a request with a continuation state asks for
it.
-/

namespace Bumble.Sdp

structure ServiceAttribute where
  id : UInt16
  value : DataElement

namespace ServiceAttribute

mutual

/-- Whether a value is the UUID or a sequence that contains it; alternatives are not
    searched. -/
def isUuidInValue (uuid : Uuid) : DataElement → Bool
  | .uuid candidate => candidate.same uuid
  | .sequence elements => isUuidInElements uuid elements
  | .nil | .unsignedInteger .. | .signedInteger .. | .textString _ | .boolean _
  | .alternative _ | .url _ => false

def isUuidInElements (uuid : Uuid) : List DataElement → Bool
  | [] => false
  | element :: elements => isUuidInValue uuid element || isUuidInElements uuid elements

end

end ServiceAttribute

structure ServiceRecord where
  handle : UInt32
  attributes : List ServiceAttribute

inductive CurrentResponse where
  | bytes (left : Bytes)
  | handles (total : UInt16) (remaining : List UInt32)

/-- What the check at the top of every handler finds. -/
inductive Continuation where
  | error (errorCode : UInt16)
  | continue
  | fresh

structure SdpServer where
  records : List ServiceRecord
  currentResponse : Option CurrentResponse
  mtu : UInt16

namespace ErrorCode

def invalidServiceRecordHandle : UInt16 := 0x0002
def invalidRequestSyntax : UInt16 := 0x0003
def invalidContinuationState : UInt16 := 0x0005

end ErrorCode

def serverContinuationState : Bytes := [0x01, 0x00]

def sequenceElements (element : DataElement) : List DataElement :=
  match element with
  | .sequence elements => elements
  | _ => []

namespace SdpServer

def new (mtu : UInt16) : SdpServer := ⟨[], none, mtu⟩

def addService (server : SdpServer) (handle : UInt32) (attributes : List ServiceAttribute) :
    SdpServer :=
  { server with records := server.records ++ [⟨handle, attributes⟩] }

/-! ## 1. Searching -/

def patternUuids (pattern : DataElement) : List Uuid :=
  (sequenceElements pattern).filterMap fun element =>
    match element with
    | .uuid uuid => some uuid
    | _ => none

/-- The records with any of the UUIDs of the pattern in a value. -/
def matchServices (server : SdpServer) (pattern : DataElement) : List ServiceRecord :=
  server.records.filter fun record =>
    (patternUuids pattern).any fun uuid =>
      record.attributes.any fun attr => ServiceAttribute.isUuidInValue uuid attr.value

/-- The ids that a selector covers, from the first to the last: a range for an integer of four
    octets, one id for any other. -/
def selectorRange (selector : DataElement) : Option (UInt16 × UInt16) :=
  match selector with
  | .unsignedInteger value size =>
    if size = 4 then
      some (UInt16.ofNat (value.toNat / 65536), UInt16.ofNat (value.toNat % 65536))
    else some (UInt16.ofNat value.toNat, UInt16.ofNat value.toNat)
  | _ => none

def selectedBy (service : List ServiceAttribute) (selector : DataElement) :
    List ServiceAttribute :=
  match selectorRange selector with
  | some (first, last) => service.filter fun attr => first ≤ attr.id ∧ attr.id ≤ last
  | none => []

/-- The stable sort by id of what the selectors select, one after the other. -/
def selectedAttributes (service : List ServiceAttribute) (attributeIds : List DataElement) :
    List ServiceAttribute :=
  (attributeIds.flatMap (selectedBy service)).insertionSort fun attr other => attr.id ≤ other.id

def attributeElements (attributes : List ServiceAttribute) : List DataElement :=
  attributes.flatMap fun attr => [.unsignedInteger16 attr.id, attr.value]

def getServiceAttributes (service : List ServiceAttribute) (attributeIds : List DataElement) :
    DataElement :=
  .sequence (attributeElements (selectedAttributes service attributeIds))

/-! ## 2. Chunks -/

def checkContinuation (server : SdpServer) (continuationState : Bytes) :
    SdpServer × Continuation :=
  if continuationState.length > 1 then
    if server.currentResponse.isNone ∨ continuationState ≠ serverContinuationState then
      (server, .error ErrorCode.invalidContinuationState)
    else (server, .continue)
  else ({ server with currentResponse := none }, .fresh)

/-- The next octets of an answer and the continuation state that goes with them. -/
def nextBytePayload (server : SdpServer) (maximumSize : Nat) : SdpServer × Bytes × Bytes :=
  match server.currentResponse with
  | some (.bytes buffer) =>
    if buffer.length > maximumSize then
      ({ server with currentResponse := some (.bytes (buffer.drop maximumSize)) },
        buffer.take maximumSize, serverContinuationState)
    else ({ server with currentResponse := none }, buffer, [0])
  | some (.handles ..) | none => (server, [], [0])

def attributeByteCap (server : SdpServer) (requested : UInt16) : Nat :=
  min (server.mtu.toNat - 9) requested.toNat

/-- `unwrap_or_default`. -/
def bytesOrEmpty (result : Except Error Bytes) : Bytes :=
  match result with
  | .ok bytes => bytes
  | .error _ => []

/-! ## 3. Requests -/

/-- The answer to a service search attribute request, in full. -/
def searchAttributeResponse (server : SdpServer) (pattern attributeIds : DataElement) : Bytes :=
  let lists := (server.matchServices pattern).map fun record =>
    getServiceAttributes record.attributes (sequenceElements attributeIds)
  bytesOrEmpty (DataElement.toBytes
    (.sequence (lists.filter fun list => !(sequenceElements list).isEmpty)))

def onServiceSearchAttribute (server : SdpServer) (transactionId : UInt16)
    (pattern : DataElement) (maximumAttributeByteCount : UInt16) (attributeIds : DataElement)
    (continuationState : Bytes) : SdpServer × SdpPdu :=
  let respond (server : SdpServer) : SdpServer × SdpPdu :=
    let (server, payload, continuation) :=
      server.nextBytePayload (server.attributeByteCap maximumAttributeByteCount)
    (server, .serviceSearchAttributeResponse transactionId payload continuation)
  match server.checkContinuation continuationState with
  | (server, .error errorCode) => (server, .errorResponse transactionId errorCode)
  | (server, .fresh) =>
    respond { server with
      currentResponse := some (.bytes (server.searchAttributeResponse pattern attributeIds)) }
  | (server, .continue) => respond server

def onServiceAttribute (server : SdpServer) (transactionId : UInt16)
    (serviceRecordHandle : UInt32) (maximumAttributeByteCount : UInt16)
    (attributeIds : DataElement) (continuationState : Bytes) : SdpServer × SdpPdu :=
  let respond (server : SdpServer) : SdpServer × SdpPdu :=
    let (server, payload, continuation) :=
      server.nextBytePayload (server.attributeByteCap maximumAttributeByteCount)
    (server, .serviceAttributeResponse transactionId payload continuation)
  match server.checkContinuation continuationState with
  | (server, .error errorCode) => (server, .errorResponse transactionId errorCode)
  | (server, .fresh) =>
    match server.records.find? fun record => record.handle = serviceRecordHandle with
    | some record =>
      respond { server with
        currentResponse := some (.bytes (bytesOrEmpty
          (getServiceAttributes record.attributes (sequenceElements attributeIds)).toBytes)) }
    | none => (server, .errorResponse transactionId ErrorCode.invalidServiceRecordHandle)
  | (server, .continue) => respond server

/-- The next handles of a search; the total and what is left stay, even when nothing is. -/
def nextHandles (server : SdpServer) (transactionId : UInt16) : SdpServer × SdpPdu :=
  match server.currentResponse with
  | some (.handles total remaining) =>
    let maxCount := (server.mtu.toNat - 11) / 4
    let remainingAfter := remaining.drop maxCount
    ({ server with currentResponse := some (.handles total remainingAfter) },
      .serviceSearchResponse transactionId total (remaining.take maxCount)
        (if remainingAfter.isEmpty then [0] else serverContinuationState))
  | some (.bytes _) | none =>
    (server, .errorResponse transactionId ErrorCode.invalidContinuationState)

def onServiceSearch (server : SdpServer) (transactionId : UInt16) (pattern : DataElement)
    (maximumServiceRecordCount : UInt16) (continuationState : Bytes) : SdpServer × SdpPdu :=
  match server.checkContinuation continuationState with
  | (server, .error errorCode) => (server, .errorResponse transactionId errorCode)
  | (server, .fresh) =>
    let handles := (server.matchServices pattern).map ServiceRecord.handle
    nextHandles { server with
      currentResponse := some (.handles (UInt16.ofNat handles.length)
        (handles.take maximumServiceRecordCount.toNat)) } transactionId
  | (server, .continue) => server.nextHandles transactionId

def handleRequest (server : SdpServer) (request : SdpPdu) : SdpServer × SdpPdu :=
  match request with
  | .serviceSearchAttributeRequest transactionId pattern maximum ids continuationState =>
    server.onServiceSearchAttribute transactionId pattern maximum ids continuationState
  | .serviceAttributeRequest transactionId handle maximum ids continuationState =>
    server.onServiceAttribute transactionId handle maximum ids continuationState
  | .serviceSearchRequest transactionId pattern maximum continuationState =>
    server.onServiceSearch transactionId pattern maximum continuationState
  | .errorResponse .. | .serviceSearchResponse .. | .serviceAttributeResponse ..
  | .serviceSearchAttributeResponse .. =>
    (server, .errorResponse request.transactionId ErrorCode.invalidRequestSyntax)

end SdpServer

end Bumble.Sdp
