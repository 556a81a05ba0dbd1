import Bumble.LeAudio

/-!
# Audio Stream Control Service (`bumble-profiles/src/ascs.rs`)

The operations a client writes, the responses and the status of an endpoint.  Server and client
write and read the status with code of their own.
-/

namespace Bumble.Ascs

open OctetReader Profiles LeAudio
open Profiles.Reader
  (exact_u8 exact_u16 exact_u24 exact_codingFormat exact_lengthPrefixed finish_iff)
open Hci (CodingFormat)

namespace Reader

export Profiles.Reader (u8 u16 u24 codingFormat lengthPrefixed finish)

end Reader

/-! ## 1. Operations -/

inductive AseOpcode where
  | configCodec
  | configQos
  | enable
  | receiverStartReady
  | disable
  | receiverStopReady
  | updateMetadata
  | release
deriving DecidableEq, Repr

def AseOpcode.toU8 : AseOpcode → UInt8
  | configCodec => 0x01
  | configQos => 0x02
  | enable => 0x03
  | receiverStartReady => 0x04
  | disable => 0x05
  | receiverStopReady => 0x06
  | updateMetadata => 0x07
  | release => 0x08

def AseOpcode.tryFrom (value : UInt8) : Except Error AseOpcode :=
  match value with
  | 0x01 => .ok configCodec
  | 0x02 => .ok configQos
  | 0x03 => .ok enable
  | 0x04 => .ok receiverStartReady
  | 0x05 => .ok disable
  | 0x06 => .ok receiverStopReady
  | 0x07 => .ok updateMetadata
  | 0x08 => .ok release
  | _ => .error (.invalidValue s!"unknown ASE opcode 0x{hexUpper 2 value.toNat}")

structure ConfigCodecParameters where
  aseId : UInt8
  targetLatency : UInt8
  targetPhy : UInt8
  codecId : CodingFormat
  codecSpecificConfiguration : Bytes
deriving DecidableEq, Repr

structure ConfigQosParameters where
  aseId : UInt8
  cigId : UInt8
  cisId : UInt8
  sduInterval : UInt32
  framing : UInt8
  phy : UInt8
  maxSdu : UInt16
  retransmissionNumber : UInt8
  maxTransportLatency : UInt16
  presentationDelay : UInt32
deriving DecidableEq, Repr

structure AseMetadataParameters where
  aseId : UInt8
  metadata : Bytes
deriving DecidableEq, Repr

inductive AseOperation where
  | configCodec (parameters : List ConfigCodecParameters)
  | configQos (parameters : List ConfigQosParameters)
  | enable (parameters : List AseMetadataParameters)
  | receiverStartReady (aseIds : Bytes)
  | disable (aseIds : Bytes)
  | receiverStopReady (aseIds : Bytes)
  | updateMetadata (parameters : List AseMetadataParameters)
  | release (aseIds : Bytes)
deriving DecidableEq, Repr

def ConfigCodecParameters.toBytes (parameter : ConfigCodecParameters) : Except Error Bytes := do
  let configuration ← pushLengthPrefixed parameter.codecSpecificConfiguration
    "codec-specific configuration"
  pure ([parameter.aseId] ++ ([parameter.targetLatency] ++ ([parameter.targetPhy] ++
    (parameter.codecId.toBytes ++ configuration))))

def ConfigQosParameters.toBytes (parameter : ConfigQosParameters) : Except Error Bytes := do
  requireU24 "SDU interval" parameter.sduInterval
  requireU24 "presentation delay" parameter.presentationDelay
  pure ([parameter.aseId] ++ ([parameter.cigId] ++ ([parameter.cisId] ++
    (u24ToLe parameter.sduInterval ++ ([parameter.framing] ++ ([parameter.phy] ++
      (u16ToLe parameter.maxSdu ++ ([parameter.retransmissionNumber] ++
        (u16ToLe parameter.maxTransportLatency ++ u24ToLe parameter.presentationDelay)))))))))

def AseMetadataParameters.toBytes (parameter : AseMetadataParameters) : Except Error Bytes := do
  let metadata ← pushLengthPrefixed parameter.metadata "ASE metadata"
  pure ([parameter.aseId] ++ metadata)

def aseIdToBytes (aseId : UInt8) : Except Error Bytes := .ok [aseId]

namespace ConfigCodecParameters

def read (size : Nat) : OctetReader Error ConfigCodecParameters := do
  let aseId ← Reader.u8 size "ASE ID"
  let targetLatency ← Reader.u8 size "target latency"
  let targetPhy ← Reader.u8 size "target PHY"
  let codecId ← Reader.codingFormat size "coding format"
  let codecSpecificConfiguration ← Reader.lengthPrefixed size "codec-specific configuration"
  pure ⟨aseId, targetLatency, targetPhy, codecId, codecSpecificConfiguration⟩

end ConfigCodecParameters

namespace ConfigQosParameters

def read (size : Nat) : OctetReader Error ConfigQosParameters := do
  let aseId ← Reader.u8 size "ASE ID"
  let cigId ← Reader.u8 size "CIG ID"
  let cisId ← Reader.u8 size "CIS ID"
  let sduInterval ← Reader.u24 size "SDU interval"
  let framing ← Reader.u8 size "framing"
  let phy ← Reader.u8 size "PHY"
  let maxSdu ← Reader.u16 size "maximum SDU"
  let retransmissionNumber ← Reader.u8 size "retransmission number"
  let maxTransportLatency ← Reader.u16 size "maximum transport latency"
  let presentationDelay ← Reader.u24 size "presentation delay"
  pure ⟨aseId, cigId, cisId, sduInterval, framing, phy, maxSdu, retransmissionNumber,
    maxTransportLatency, presentationDelay⟩

end ConfigQosParameters

namespace AseMetadataParameters

def read (size : Nat) : OctetReader Error AseMetadataParameters := do
  let aseId ← Reader.u8 size "ASE ID"
  let metadata ← Reader.lengthPrefixed size "ASE metadata"
  pure ⟨aseId, metadata⟩

end AseMetadataParameters

namespace AseOperation

def opcode : AseOperation → AseOpcode
  | configCodec _ => .configCodec
  | configQos _ => .configQos
  | enable _ => .enable
  | receiverStartReady _ => .receiverStartReady
  | disable _ => .disable
  | receiverStopReady _ => .receiverStopReady
  | updateMetadata _ => .updateMetadata
  | release _ => .release

/-- The parameters or identifiers of an opcode, so many. -/
def readEntries (size : Nat) (opcode : AseOpcode) (count : Nat) : OctetReader Error AseOperation :=
  match opcode with
  | .configCodec => do
    let parameters ← replicate (ConfigCodecParameters.read size) count
    pure (configCodec parameters)
  | .configQos => do
    let parameters ← replicate (ConfigQosParameters.read size) count
    pure (configQos parameters)
  | .enable => do
    let parameters ← replicate (AseMetadataParameters.read size) count
    pure (enable parameters)
  | .updateMetadata => do
    let parameters ← replicate (AseMetadataParameters.read size) count
    pure (updateMetadata parameters)
  | .receiverStartReady => do
    let aseIds ← replicate (Reader.u8 size "ASE ID") count
    pure (receiverStartReady aseIds)
  | .disable => do
    let aseIds ← replicate (Reader.u8 size "ASE ID") count
    pure (disable aseIds)
  | .receiverStopReady => do
    let aseIds ← replicate (Reader.u8 size "ASE ID") count
    pure (receiverStopReady aseIds)
  | .release => do
    let aseIds ← replicate (Reader.u8 size "ASE ID") count
    pure (release aseIds)

def fromBytes (data : Bytes) : Except Error AseOperation :=
  Reader.finish (do
    let octet ← Reader.u8 data.length "ASE opcode"
    let opcode ← lift (AseOpcode.tryFrom octet)
    let count ← Reader.u8 data.length "ASE count"
    readEntries data.length opcode count.toNat) "ASE operation" data

/-- The number of the entries and they, which may be 255 at most. -/
def entries {α : Type} (encode : α → Except Error Bytes) (values : List α) : Except Error Bytes :=
  counted (.invalidValue "ASE operation has over 255 entries") encode values

def parameters : AseOperation → Except Error Bytes
  | configCodec parameters => entries ConfigCodecParameters.toBytes parameters
  | configQos parameters => entries ConfigQosParameters.toBytes parameters
  | enable parameters | updateMetadata parameters =>
      entries AseMetadataParameters.toBytes parameters
  | receiverStartReady aseIds | disable aseIds | receiverStopReady aseIds | release aseIds =>
    entries aseIdToBytes aseIds

def toBytes (operation : AseOperation) : Except Error Bytes := do
  let parameters ← operation.parameters
  pure ([operation.opcode.toU8] ++ parameters)

end AseOperation

/-! ## 2. Responses -/

structure AseResponse where
  aseId : UInt8
  code : UInt8
  reason : UInt8
deriving DecidableEq, Repr

structure AseControlResponse where
  opcode : AseOpcode
  responses : List AseResponse
deriving DecidableEq, Repr

def AseResponse.read (size : Nat) : OctetReader Error AseResponse := do
  let aseId ← Reader.u8 size "response ASE ID"
  let code ← Reader.u8 size "response code"
  let reason ← Reader.u8 size "response reason"
  pure ⟨aseId, code, reason⟩

def AseResponse.toBytes (response : AseResponse) : Except Error Bytes :=
  .ok ([response.aseId] ++ ([response.code] ++ [response.reason]))

namespace AseControlResponse

def fromBytes (data : Bytes) : Except Error AseControlResponse :=
  Reader.finish (do
    let octet ← Reader.u8 data.length "response opcode"
    let opcode ← lift (AseOpcode.tryFrom octet)
    let count ← Reader.u8 data.length "response count"
    let responses ← replicate (AseResponse.read data.length) count.toNat
    pure ⟨opcode, responses⟩) "ASE control response" data

def toBytes (response : AseControlResponse) : Except Error Bytes := do
  let responses ← counted (.invalidValue "ASE response has over 255 entries") AseResponse.toBytes
    response.responses
  pure ([response.opcode.toU8] ++ responses)

end AseControlResponse

/-! ## 3. Endpoints -/

inductive AudioRole where
  | sink
  | source
deriving DecidableEq, Repr

namespace AseState

def idle : UInt8 := 0x00
def codecConfigured : UInt8 := 0x01
def qosConfigured : UInt8 := 0x02
def enabling : UInt8 := 0x03
def streaming : UInt8 := 0x04
def disabling : UInt8 := 0x05
def releasing : UInt8 := 0x06

end AseState

structure AseQosConfiguration where
  cigId : UInt8
  cisId : UInt8
  sduInterval : UInt32
  framing : UInt8
  phy : UInt8
  maxSdu : UInt16
  retransmissionNumber : UInt8
  maxTransportLatency : UInt16
  presentationDelay : UInt32
deriving DecidableEq, Repr

structure AseEndpoint where
  aseId : UInt8
  role : AudioRole
  state : UInt8
  preferredFraming : UInt8
  preferredPhy : UInt8
  preferredRetransmissionNumber : UInt8
  preferredMaxTransportLatency : UInt16
  supportedPresentationDelayMin : UInt32
  supportedPresentationDelayMax : UInt32
  preferredPresentationDelayMin : UInt32
  preferredPresentationDelayMax : UInt32
  codecId : CodingFormat
  codecSpecificConfiguration : Bytes
  qos : AseQosConfiguration
  metadata : Metadata
deriving DecidableEq, Repr

def unknownState {α : Type} (state : UInt8) : Except Error α :=
  .error (.invalidValue s!"unknown ASE state 0x{hexUpper 2 state.toNat}")

namespace AseEndpoint

/-- What the value of an endpoint says behind the state. -/
def details (endpoint : AseEndpoint) : Except Error Bytes :=
  if endpoint.state = AseState.codecConfigured then do
    requireU24 "supported presentation delay minimum" endpoint.supportedPresentationDelayMin
    requireU24 "supported presentation delay maximum" endpoint.supportedPresentationDelayMax
    requireU24 "preferred presentation delay minimum" endpoint.preferredPresentationDelayMin
    requireU24 "preferred presentation delay maximum" endpoint.preferredPresentationDelayMax
    let configuration ← pushLengthPrefixed endpoint.codecSpecificConfiguration
      "ASE codec configuration"
    pure ([endpoint.preferredFraming] ++ ([endpoint.preferredPhy] ++
      ([endpoint.preferredRetransmissionNumber] ++ (u16ToLe endpoint.preferredMaxTransportLatency ++
        (u24ToLe endpoint.supportedPresentationDelayMin ++
          (u24ToLe endpoint.supportedPresentationDelayMax ++
            (u24ToLe endpoint.preferredPresentationDelayMin ++
              (u24ToLe endpoint.preferredPresentationDelayMax ++
                (endpoint.codecId.toBytes ++ configuration)))))))))
  else if endpoint.state = AseState.qosConfigured then do
    requireU24 "SDU interval" endpoint.qos.sduInterval
    requireU24 "presentation delay" endpoint.qos.presentationDelay
    pure ([endpoint.qos.cigId] ++ ([endpoint.qos.cisId] ++ (u24ToLe endpoint.qos.sduInterval ++
      ([endpoint.qos.framing] ++ ([endpoint.qos.phy] ++ (u16ToLe endpoint.qos.maxSdu ++
        ([endpoint.qos.retransmissionNumber] ++ (u16ToLe endpoint.qos.maxTransportLatency ++
          u24ToLe endpoint.qos.presentationDelay))))))))
  else if endpoint.state = AseState.enabling ∨ endpoint.state = AseState.streaming ∨
      endpoint.state = AseState.disabling then do
    let metadata ← endpoint.metadata.toBytes
    let metadata ← pushLengthPrefixed metadata "ASE metadata"
    pure ([endpoint.qos.cigId] ++ ([endpoint.qos.cisId] ++ metadata))
  else if endpoint.state = AseState.idle ∨ endpoint.state = AseState.releasing then .ok []
  else unknownState endpoint.state

def value (endpoint : AseEndpoint) : Except Error Bytes := do
  let details ← endpoint.details
  pure ([endpoint.aseId] ++ ([endpoint.state] ++ details))

end AseEndpoint

inductive AseStatusDetails where
  | none
  | codecConfigured (preferredFraming preferredPhy preferredRetransmissionNumber : UInt8)
      (preferredMaxTransportLatency : UInt16)
      (supportedPresentationDelayMin supportedPresentationDelayMax preferredPresentationDelayMin
        preferredPresentationDelayMax : UInt32)
      (codecId : CodingFormat) (codecSpecificConfiguration : Bytes)
  | qosConfigured (qos : AseQosConfiguration)
  | metadata (cigId cisId : UInt8) (metadata : Metadata)
deriving DecidableEq, Repr

structure AseStatus where
  aseId : UInt8
  state : UInt8
  details : AseStatusDetails
deriving DecidableEq, Repr

namespace AseStatus

def readCodecConfigured (size : Nat) : OctetReader Error AseStatusDetails := do
  let preferredFraming ← Reader.u8 size "preferred framing"
  let preferredPhy ← Reader.u8 size "preferred PHY"
  let preferredRetransmissionNumber ← Reader.u8 size "preferred retransmission number"
  let preferredMaxTransportLatency ← Reader.u16 size "preferred maximum transport latency"
  let supportedPresentationDelayMin ← Reader.u24 size "supported presentation delay minimum"
  let supportedPresentationDelayMax ← Reader.u24 size "supported presentation delay maximum"
  let preferredPresentationDelayMin ← Reader.u24 size "preferred presentation delay minimum"
  let preferredPresentationDelayMax ← Reader.u24 size "preferred presentation delay maximum"
  let codecId ← Reader.codingFormat size "coding format"
  let codecSpecificConfiguration ← Reader.lengthPrefixed size "ASE codec configuration"
  pure (.codecConfigured preferredFraming preferredPhy preferredRetransmissionNumber
    preferredMaxTransportLatency supportedPresentationDelayMin supportedPresentationDelayMax
    preferredPresentationDelayMin preferredPresentationDelayMax codecId codecSpecificConfiguration)

def readQosConfigured (size : Nat) : OctetReader Error AseStatusDetails := do
  let cigId ← Reader.u8 size "CIG ID"
  let cisId ← Reader.u8 size "CIS ID"
  let sduInterval ← Reader.u24 size "SDU interval"
  let framing ← Reader.u8 size "framing"
  let phy ← Reader.u8 size "PHY"
  let maxSdu ← Reader.u16 size "maximum SDU"
  let retransmissionNumber ← Reader.u8 size "retransmission number"
  let maxTransportLatency ← Reader.u16 size "maximum transport latency"
  let presentationDelay ← Reader.u24 size "presentation delay"
  pure (.qosConfigured ⟨cigId, cisId, sduInterval, framing, phy, maxSdu, retransmissionNumber,
    maxTransportLatency, presentationDelay⟩)

def readMetadata (size : Nat) : OctetReader Error AseStatusDetails := do
  let cigId ← Reader.u8 size "CIG ID"
  let cisId ← Reader.u8 size "CIS ID"
  let octets ← Reader.lengthPrefixed size "ASE metadata"
  let metadata ← lift (Metadata.fromBytes octets)
  pure (.metadata cigId cisId metadata)

def readDetails (size : Nat) (state : UInt8) : OctetReader Error AseStatusDetails :=
  if state = AseState.idle ∨ state = AseState.releasing then pure .none
  else if state = AseState.codecConfigured then readCodecConfigured size
  else if state = AseState.qosConfigured then readQosConfigured size
  else if state = AseState.enabling ∨ state = AseState.streaming ∨ state = AseState.disabling then
    readMetadata size
  else lift (unknownState state)

def fromBytes (data : Bytes) : Except Error AseStatus :=
  Reader.finish (do
    let aseId ← Reader.u8 data.length "ASE ID"
    let state ← Reader.u8 data.length "ASE state"
    let details ← readDetails data.length state
    pure ⟨aseId, state, details⟩) "ASE status" data

end AseStatus

def AseEndpoint.status (endpoint : AseEndpoint) : AseStatus where
  aseId := endpoint.aseId
  state := endpoint.state
  details :=
    if endpoint.state = AseState.codecConfigured then
      .codecConfigured endpoint.preferredFraming endpoint.preferredPhy
        endpoint.preferredRetransmissionNumber endpoint.preferredMaxTransportLatency
        endpoint.supportedPresentationDelayMin endpoint.supportedPresentationDelayMax
        endpoint.preferredPresentationDelayMin endpoint.preferredPresentationDelayMax
        endpoint.codecId endpoint.codecSpecificConfiguration
    else if endpoint.state = AseState.qosConfigured then .qosConfigured endpoint.qos
    else if endpoint.state = AseState.enabling ∨ endpoint.state = AseState.streaming ∨
        endpoint.state = AseState.disabling then
      .metadata endpoint.qos.cigId endpoint.qos.cisId endpoint.metadata
    else .none

/-! ## 4. The formats -/

theorem exact_configCodecParameters (size : Nat) :
    Exact (ConfigCodecParameters.read size) fun parameter octets =>
      parameter.toBytes = .ok octets := by
  refine ((exact_u8 size _).bind fun aseId => (exact_u8 size _).bind fun targetLatency =>
    (exact_u8 size _).bind fun targetPhy => (exact_codingFormat size _).bind fun codecId =>
    (exact_lengthPrefixed size _).map _).congr ?_
  rintro ⟨aseId, targetLatency, targetPhy, codecId, configuration⟩ octets
  simp [Then, ConfigCodecParameters.toBytes, bind_eq_ok_iff, pushLengthPrefixed_eq_ok, pure,
    Except.pure, @eq_comm _ octets]

theorem exact_configQosParameters (size : Nat) :
    Exact (ConfigQosParameters.read size) fun parameter octets =>
      parameter.toBytes = .ok octets := by
  refine ((exact_u8 size _).bind fun aseId => (exact_u8 size _).bind fun cigId =>
    (exact_u8 size _).bind fun cisId => (exact_u24 size _).bind fun sduInterval =>
    (exact_u8 size _).bind fun framing => (exact_u8 size _).bind fun phy =>
    (exact_u16 size _).bind fun maxSdu => (exact_u8 size _).bind fun retransmissionNumber =>
    (exact_u16 size _).bind fun maxTransportLatency => (exact_u24 size _).map _).congr ?_
  rintro ⟨⟩ octets
  simp [Then, ConfigQosParameters.toBytes, bind_eq_ok_iff, exists_requireU24_eq_ok, pure,
    Except.pure, and_assoc, @eq_comm _ octets]

theorem exact_aseMetadataParameters (size : Nat) :
    Exact (AseMetadataParameters.read size) fun parameter octets =>
      parameter.toBytes = .ok octets := by
  refine ((exact_u8 size _).bind fun aseId => (exact_lengthPrefixed size _).map _).congr ?_
  rintro ⟨aseId, metadata⟩ octets
  simp [Then, AseMetadataParameters.toBytes, bind_eq_ok_iff, pushLengthPrefixed_eq_ok, pure,
    Except.pure, @eq_comm _ octets]

theorem exact_aseId (size : Nat) :
    Exact (Reader.u8 size "ASE ID") fun aseId octets => aseIdToBytes aseId = .ok octets := by
  refine (exact_u8 size _).congr ?_
  intro aseId octets
  rw [aseIdToBytes, Except.ok.injEq, eq_comm]

theorem exact_aseResponse (size : Nat) :
    Exact (AseResponse.read size) fun response octets => response.toBytes = .ok octets := by
  refine ((exact_u8 size _).bind fun aseId => (exact_u8 size _).bind fun code =>
    (exact_u8 size _).map _).congr ?_
  rintro ⟨aseId, code, reason⟩ octets
  simp [Then, AseResponse.toBytes, @eq_comm _ octets]

theorem AseOpcode.tryFrom_iff {value : UInt8} {opcode : AseOpcode} :
    tryFrom value = .ok opcode ↔ value = opcode.toU8 := by
  constructor
  · intro htry
    unfold tryFrom at htry
    split at htry <;> cases htry <;> rfl
  · rintro rfl
    cases opcode <;> rfl

namespace AseOperation

/-- What stands for an operation behind its opcode. -/
def Stands (opcode : AseOpcode) (operation : AseOperation) (octets : Bytes) : Prop :=
  operation.opcode = opcode ∧ operation.parameters = .ok octets

theorem exact_entries (size : Nat) (opcode : AseOpcode) :
    Exact (do
      let count ← Reader.u8 size "ASE count"
      readEntries size opcode count.toNat) (Stands opcode) := by
  have hcount := exact_u8 size "ASE count"
  cases opcode with
  | configCodec =>
    refine (exact_countedMap hcount (exact_configCodecParameters size) configCodec).congr ?_
    rintro ⟨⟩ octets <;> simp [Stands, AseOperation.opcode, parameters, entries, counted_eq_ok]
  | configQos =>
    refine (exact_countedMap hcount (exact_configQosParameters size) configQos).congr ?_
    rintro ⟨⟩ octets <;> simp [Stands, AseOperation.opcode, parameters, entries, counted_eq_ok]
  | enable =>
    refine (exact_countedMap hcount (exact_aseMetadataParameters size) enable).congr ?_
    rintro ⟨⟩ octets <;> simp [Stands, AseOperation.opcode, parameters, entries, counted_eq_ok]
  | updateMetadata =>
    refine (exact_countedMap hcount (exact_aseMetadataParameters size) updateMetadata).congr ?_
    rintro ⟨⟩ octets <;> simp [Stands, AseOperation.opcode, parameters, entries, counted_eq_ok]
  | receiverStartReady =>
    refine (exact_countedMap hcount (exact_aseId size) receiverStartReady).congr ?_
    rintro ⟨⟩ octets <;> simp [Stands, AseOperation.opcode, parameters, entries, counted_eq_ok]
  | disable =>
    refine (exact_countedMap hcount (exact_aseId size) disable).congr ?_
    rintro ⟨⟩ octets <;> simp [Stands, AseOperation.opcode, parameters, entries, counted_eq_ok]
  | receiverStopReady =>
    refine (exact_countedMap hcount (exact_aseId size) receiverStopReady).congr ?_
    rintro ⟨⟩ octets <;> simp [Stands, AseOperation.opcode, parameters, entries, counted_eq_ok]
  | release =>
    refine (exact_countedMap hcount (exact_aseId size) release).congr ?_
    rintro ⟨⟩ octets <;> simp [Stands, AseOperation.opcode, parameters, entries, counted_eq_ok]

theorem fromBytes_iff (data : Bytes) (operation : AseOperation) :
    fromBytes data = .ok operation ↔ operation.toBytes = .ok data := by
  have hexact := (exact_u8 data.length "ASE opcode").bind fun octet =>
    (exact_lift (AseOpcode.tryFrom octet)).bind (exact_entries data.length)
  rw [fromBytes, finish_iff _ hexact, toBytes, bind_eq_ok_iff]
  constructor
  · rintro ⟨octet, _, _, rfl, ⟨opcode, _, octets, ⟨hopcode, rfl⟩, ⟨rfl, hparameters⟩, rfl⟩, rfl⟩
    refine ⟨_, hparameters, ?_⟩
    rw [AseOpcode.tryFrom_iff.mp hopcode]
    rfl
  · rintro ⟨octets, hparameters, hdata⟩
    cases hdata
    exact ⟨_, _, octets, rfl, ⟨operation.opcode, [], octets, ⟨AseOpcode.tryFrom_iff.mpr rfl, rfl⟩,
      ⟨rfl, hparameters⟩, rfl⟩, rfl⟩

end AseOperation

theorem AseControlResponse.fromBytes_iff (data : Bytes) (response : AseControlResponse) :
    fromBytes data = .ok response ↔ response.toBytes = .ok data := by
  have hexact := (exact_u8 data.length "response opcode").bind fun octet =>
    (exact_lift (AseOpcode.tryFrom octet)).bind fun opcode =>
      exact_countedMap (exact_u8 data.length "response count") (exact_aseResponse data.length)
        (AseControlResponse.mk opcode)
  rw [fromBytes, finish_iff _ hexact, toBytes, bind_eq_ok_iff]
  constructor
  · rintro ⟨octet, _, _, rfl,
      ⟨opcode, _, octets, ⟨hopcode, rfl⟩, ⟨responses, hresponses, rfl⟩, rfl⟩,
      rfl⟩
    refine ⟨_, counted_eq_ok.mpr hresponses, ?_⟩
    rw [AseOpcode.tryFrom_iff.mp hopcode]
    rfl
  · rintro ⟨octets, hresponses, hdata⟩
    cases hdata
    exact ⟨_, _, octets, rfl, ⟨response.opcode, [], octets, ⟨AseOpcode.tryFrom_iff.mpr rfl, rfl⟩,
      ⟨response.responses, counted_eq_ok.mp hresponses, rfl⟩, rfl⟩, rfl⟩

/-! ## 5. The status of an endpoint -/

namespace AseStatus

variable (size : Nat) {endpoint : AseEndpoint} {octets : Bytes}

theorem reads_codecConfigured (hstate : endpoint.state = AseState.codecConfigured)
    (hdetails : endpoint.details = .ok octets) :
    Reads (readCodecConfigured size) octets endpoint.status.details := by
  rw [AseEndpoint.details, if_pos hstate] at hdetails
  simp only [bind_eq_ok_iff, pushLengthPrefixed_eq_ok] at hdetails
  obtain ⟨⟨⟩, hsupportedMin, ⟨⟩, hsupportedMax, ⟨⟩, hpreferredMin, ⟨⟩, hpreferredMax, configuration,
    hconfiguration, hoctets⟩ := hdetails
  cases hoctets
  refine ((exact_u8 size _).bind fun framing => (exact_u8 size _).bind fun phy =>
    (exact_u8 size _).bind fun retransmissionNumber => (exact_u16 size _).bind fun latency =>
    (exact_u24 size _).bind fun supportedMin => (exact_u24 size _).bind fun supportedMax =>
    (exact_u24 size _).bind fun preferredMin => (exact_u24 size _).bind fun preferredMax =>
    (exact_codingFormat size _).bind fun codecId => (exact_lengthPrefixed size _).map _).reads ?_
  simp [Then, AseEndpoint.status, hstate, requireU24_eq_ok.mp hsupportedMin,
    requireU24_eq_ok.mp hsupportedMax, requireU24_eq_ok.mp hpreferredMin,
    requireU24_eq_ok.mp hpreferredMax, hconfiguration]

theorem reads_qosConfigured (hstate : endpoint.state = AseState.qosConfigured)
    (hdetails : endpoint.details = .ok octets) :
    Reads (readQosConfigured size) octets endpoint.status.details := by
  have hcodec : endpoint.state ≠ AseState.codecConfigured := by
    rw [hstate]
    decide
  have hstatus : endpoint.status.details = .qosConfigured endpoint.qos :=
    (if_neg hcodec).trans (if_pos hstate)
  rw [AseEndpoint.details, if_neg hcodec, if_pos hstate] at hdetails
  obtain ⟨⟨⟩, hinterval, hdetails⟩ := except_bind_eq_ok hdetails
  obtain ⟨⟨⟩, hdelay, hoctets⟩ := except_bind_eq_ok hdetails
  cases hoctets
  refine ((exact_u8 size _).bind fun cigId => (exact_u8 size _).bind fun cisId =>
    (exact_u24 size _).bind fun sduInterval => (exact_u8 size _).bind fun framing =>
    (exact_u8 size _).bind fun phy => (exact_u16 size _).bind fun maxSdu =>
    (exact_u8 size _).bind fun retransmissionNumber => (exact_u16 size _).bind
    fun maxTransportLatency => (exact_u24 size _).map _).reads ?_
  have hinterval := requireU24_eq_ok.mp hinterval
  have hdelay := requireU24_eq_ok.mp hdelay
  rw [hstatus]
  generalize endpoint.qos = qos at *
  cases qos
  simp [Then, hinterval, hdelay]

theorem exact_metadata :
    Exact (readMetadata size) fun details octets => ∃ cigId cisId metadata text,
      metadata.toBytes = .ok text ∧ details = .metadata cigId cisId metadata ∧
      ∃ prefixed, LengthPrefixed text prefixed ∧ octets = [cigId] ++ ([cisId] ++ prefixed) := by
  refine ((exact_u8 size _).bind fun cigId => (exact_u8 size _).bind fun cisId =>
    (exact_lengthPrefixed size _).bind fun text =>
      (exact_lift (Metadata.fromBytes text)).map _).congr ?_
  intro details octets
  constructor
  · rintro ⟨cigId, _, _, rfl, ⟨cisId, _, _, rfl, ⟨text, prefixed, _, hprefixed,
      ⟨metadata, ⟨hmetadata, rfl⟩, rfl⟩, rfl⟩, rfl⟩, rfl⟩
    refine ⟨cigId, cisId, metadata, text, Metadata.fromBytes_iff.mp hmetadata, rfl, prefixed,
      hprefixed, ?_⟩
    rw [List.append_nil]
  · rintro ⟨cigId, cisId, metadata, text, hmetadata, rfl, prefixed, hprefixed, rfl⟩
    exact ⟨cigId, _, _, rfl, ⟨cisId, _, _, rfl, ⟨text, prefixed, [], hprefixed,
      ⟨metadata, ⟨Metadata.fromBytes_iff.mpr hmetadata, rfl⟩, rfl⟩, (List.append_nil _).symm⟩, rfl⟩,
      rfl⟩

theorem reads_metadata (hstate : endpoint.state = AseState.enabling ∨
      endpoint.state = AseState.streaming ∨ endpoint.state = AseState.disabling)
    (hdetails : endpoint.details = .ok octets) :
    Reads (readMetadata size) octets endpoint.status.details := by
  have hcodec : endpoint.state ≠ AseState.codecConfigured := by
    rcases hstate with heq | heq | heq <;> rw [heq] <;> decide
  have hqos : endpoint.state ≠ AseState.qosConfigured := by
    rcases hstate with heq | heq | heq <;> rw [heq] <;> decide
  have hstatus : endpoint.status.details =
      .metadata endpoint.qos.cigId endpoint.qos.cisId endpoint.metadata :=
    (if_neg hcodec).trans ((if_neg hqos).trans (if_pos hstate))
  rw [AseEndpoint.details, if_neg hcodec, if_neg hqos, if_pos hstate] at hdetails
  obtain ⟨text, htext, hdetails⟩ := except_bind_eq_ok hdetails
  obtain ⟨octets', hprefixed, hoctets⟩ := except_bind_eq_ok hdetails
  cases hoctets
  rw [hstatus]
  exact (exact_metadata size).reads ⟨_, _, _, text, htext, rfl, octets',
    pushLengthPrefixed_eq_ok.mp hprefixed, rfl⟩

theorem reads_details (hdetails : endpoint.details = .ok octets) :
    Reads (readDetails size endpoint.state) octets endpoint.status.details := by
  rw [readDetails]
  split
  · next hidle =>
    have hcodec : endpoint.state ≠ AseState.codecConfigured := by
      rcases hidle with heq | heq <;> rw [heq] <;> decide
    have hqos : endpoint.state ≠ AseState.qosConfigured := by
      rcases hidle with heq | heq <;> rw [heq] <;> decide
    have hstreaming : ¬ (endpoint.state = AseState.enabling ∨ endpoint.state = AseState.streaming ∨
        endpoint.state = AseState.disabling) := by
      rcases hidle with heq | heq <;> rw [heq] <;> decide
    have hstatus : endpoint.status.details = .none :=
      (if_neg hcodec).trans ((if_neg hqos).trans (if_neg hstreaming))
    rw [AseEndpoint.details, if_neg hcodec, if_neg hqos, if_neg hstreaming,
      if_pos hidle] at hdetails
    cases hdetails
    rw [hstatus]
    exact reads_pure _
  · next hidle =>
    split
    · next hcodec => exact reads_codecConfigured size hcodec hdetails
    next hcodec =>
    split
    · next hqos => exact reads_qosConfigured size hqos hdetails
    next hqos =>
    split
    · next hstreaming => exact reads_metadata size hstreaming hdetails
    next hstreaming =>
    rw [AseEndpoint.details, if_neg hcodec, if_neg hqos, if_neg hstreaming,
      if_neg hidle] at hdetails
    cases hdetails

theorem fromBytes_value {value : Bytes} (hvalue : endpoint.value = .ok value) :
    fromBytes value = .ok endpoint.status := by
  obtain ⟨octets, hdetails, hvalue⟩ := except_bind_eq_ok hvalue
  cases hvalue
  rw [fromBytes, Reader.finish]
  refine Reads.run ?_ _
  refine Reads.bind ((exact_u8 _ _).reads rfl) (Reads.bind ((exact_u8 _ _).reads rfl) ?_)
  exact (reads_details _ hdetails).map _

end AseStatus

/-- **The wire models of ASCS.**  What is accepted as an operation or a response is written again as
    the same octets, and what is written is read again as the same value.  A client reads from the
    value of an endpoint the status the endpoint has. -/
theorem ascs_codecs_inverse :
    (∀ (data : Bytes) (operation : AseOperation),
      AseOperation.fromBytes data = .ok operation ↔ operation.toBytes = .ok data) ∧
    (∀ (data : Bytes) (response : AseControlResponse),
      AseControlResponse.fromBytes data = .ok response ↔ response.toBytes = .ok data) ∧
    ∀ (endpoint : AseEndpoint) (value : Bytes),
      endpoint.value = .ok value → AseStatus.fromBytes value = .ok endpoint.status :=
  ⟨AseOperation.fromBytes_iff, AseControlResponse.fromBytes_iff,
    fun _ _ hvalue => AseStatus.fromBytes_value hvalue⟩

/-- An endpoint that has been enabled with a streaming context. -/
def enablingEndpoint : AseEndpoint where
  aseId := 1
  role := .sink
  state := AseState.enabling
  preferredFraming := 0
  preferredPhy := 0
  preferredRetransmissionNumber := 13
  preferredMaxTransportLatency := 100
  supportedPresentationDelayMin := 0
  supportedPresentationDelayMax := 0
  preferredPresentationDelayMin := 0
  preferredPresentationDelayMax := 0
  codecId := ⟨0x06, 0, 0⟩
  codecSpecificConfiguration := []
  qos := ⟨2, 3, 0, 0, 0, 0, 0, 0, 0⟩
  metadata := ⟨[⟨0x02, [0x04, 0x00]⟩]⟩

theorem enablingEndpoint_read :
    AseStatus.fromBytes [1, 3, 2, 3, 4, 3, 0x02, 0x04, 0x00] =
      .ok ⟨1, 3, .metadata 2 3 ⟨[⟨0x02, [0x04, 0x00]⟩]⟩⟩ :=
  ascs_codecs_inverse.2.2 enablingEndpoint _ rfl

end Bumble.Ascs
