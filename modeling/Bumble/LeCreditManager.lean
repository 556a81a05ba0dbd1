import Bumble.LeCreditChannel
import Bumble.OrderedMap

/-!
# The manager of one LE link (`bumble-l2cap/src/le_credit.rs`)

Servers, channels and the requests that wait for a response, kept in ordered
maps, and the handlers of every signaling frame.  A call that fails keeps what
it had already done, as in the source.
-/

namespace Bumble.LeCredit

open Bumble.L2cap (Error L2capPdu ControlFrame InformationCapabilities InformationResponse hexCid
  l2capLeSignalingCid)

/-! ## 1. Constants -/

def dynamicCidRangeStart : UInt16 := 0x0040
def dynamicCidRangeEnd : UInt16 := 0x007F
def psmDynamicRangeStart : UInt16 := 0x0080
def psmDynamicRangeEnd : UInt16 := 0x00FF
def creditBasedConnectionMaxChannels : Nat := 5

def leConnectionSuccessful : UInt16 := 0x0000
def leConnectionRefusedPsmNotSupported : UInt16 := 0x0002
def leConnectionRefusedNoResources : UInt16 := 0x0004
def leConnectionRefusedSourceCidAlreadyAllocated : UInt16 := 0x000A
def leConnectionRefusedUnacceptableParameters : UInt16 := 0x000B

def creditBasedConnectionAllSuccessful : UInt16 := 0x0000
def creditBasedConnectionRefusedSpsmNotSupported : UInt16 := 0x0002
def creditBasedConnectionRefusedNoResources : UInt16 := 0x0004
def creditBasedConnectionRefusedInvalidSourceCid : UInt16 := 0x0009
def creditBasedConnectionRefusedSourceCidAlreadyAllocated : UInt16 := 0x000A
def creditBasedConnectionRefusedUnacceptableParameters : UInt16 := 0x000B
def creditBasedConnectionRefusedInvalidParameters : UInt16 := 0x000C

def creditBasedReconfigurationSuccessful : UInt16 := 0x0000
def creditBasedReconfigurationFailedMtuReduction : UInt16 := 0x0001
def creditBasedReconfigurationFailedMpsReduction : UInt16 := 0x0002
def creditBasedReconfigurationFailedInvalidCids : UInt16 := 0x0003
def creditBasedReconfigurationFailedUnacceptableParameters : UInt16 := 0x0004

/-- `start..=end` over 16-bit words. -/
def wordRange (first last : UInt16) : List UInt16 :=
  (List.range (last.toNat + 1 - first.toNat)).map fun offset => UInt16.ofNat (first.toNat + offset)

/-- `sort_unstable`, `dedup` and a comparison of the lengths. -/
def hasDuplicates (cids : List UInt16) : Bool := !decide cids.Nodup

def cidInRange (cid : UInt16) : Bool := dynamicCidRangeStart ≤ cid ∧ cid ≤ dynamicCidRangeEnd

def unknownCid (cid : UInt16) : Error := .invalidPacket s!"unknown LE CID {hexCid cid}"

/-! ## 2. The manager -/

structure PendingConnection where
  psm : UInt16
  sourceCid : UInt16
  spec : LeCreditBasedChannelSpec
deriving DecidableEq, Repr

structure PendingEnhancedConnection where
  psm : UInt16
  sourceCids : List UInt16
  spec : LeCreditBasedChannelSpec
deriving DecidableEq, Repr

structure PendingReconfiguration where
  sourceCids : List UInt16
  mtu : UInt16
  mps : UInt16
deriving DecidableEq, Repr

structure LeCreditChannelManager where
  servers : Std.ExtTreeMap UInt16 LeCreditBasedChannelSpec := ∅
  channels : Std.ExtTreeMap UInt16 LeCreditBasedChannel := ∅
  pending : Std.ExtTreeMap UInt8 PendingConnection := ∅
  pendingEnhanced : Std.ExtTreeMap UInt8 PendingEnhancedConnection := ∅
  pendingReconfigurations : Std.ExtTreeMap UInt8 PendingReconfiguration := ∅
  connectionResults : Std.ExtTreeMap UInt16 UInt16 := ∅
  reconfigurationResults : Std.ExtTreeMap UInt8 UInt16 := ∅
  acceptedChannels : List UInt16 := []
  outbound : List L2capPdu := []
  information : InformationCapabilities := {}
  informationResponses : List InformationResponse := []
  identifier : UInt8 := 0

abbrev ManagerCall (α : Type) := Outcome LeCreditChannelManager Error α

namespace LeCreditChannelManager

/-- `LeCreditChannelManager::new`. -/
def new : LeCreditChannelManager := {}

def withInformationCapabilities (information : InformationCapabilities) :
    LeCreditChannelManager := { information }

/-! ### Identifiers, queues and CIDs -/

/-- The identifier after `identifier`: zero is skipped. -/
def identifierAfter (identifier : UInt8) : UInt8 :=
  if identifier + 1 = 0 then 1 else identifier + 1

/-- `next_identifier`: the new identifier is also the one that is returned. -/
def nextIdentifier (manager : LeCreditChannelManager) : UInt8 × LeCreditChannelManager :=
  let identifier := identifierAfter manager.identifier
  (identifier, { manager with identifier })

def queueControl (manager : LeCreditChannelManager) (frame : ControlFrame) :
    LeCreditChannelManager :=
  { manager with outbound := manager.outbound ++ [⟨l2capLeSignalingCid, frame.toBytes⟩] }

def cidIsReserved (manager : LeCreditChannelManager) (cid : UInt16) : Bool :=
  manager.channels.contains cid ||
    OrderedMap.anyValue manager.pending (fun pending => pending.sourceCid = cid) ||
    OrderedMap.anyValue manager.pendingEnhanced (fun pending => pending.sourceCids.contains cid)

def allocateCid (manager : LeCreditChannelManager) : Except Error UInt16 :=
  match (wordRange dynamicCidRangeStart dynamicCidRangeEnd).find?
      (fun cid => !manager.cidIsReserved cid) with
  | some cid => .ok cid
  | none => .error (.invalidPacket "no free LE CID")

def allocateCids (manager : LeCreditChannelManager) (count : Nat) : Except Error (List UInt16) :=
  let cids := ((wordRange dynamicCidRangeStart dynamicCidRangeEnd).filter
    (fun cid => !manager.cidIsReserved cid)).take count
  if cids.length ≠ count then .error (.invalidPacket "no free LE CIDs") else .ok cids

def destinationInUse (manager : LeCreditChannelManager) (cid : UInt16) : Bool :=
  OrderedMap.anyValue manager.channels fun channel => channel.destinationCid = cid

/-- The grants that `flush_channel` announces, one identifier for each. -/
def queueGrants (manager : LeCreditChannelManager) (cid : UInt16) :
    List UInt16 → LeCreditChannelManager
  | [] => manager
  | credits :: grants =>
    let (identifier, manager) := manager.nextIdentifier
    (manager.queueControl (.leFlowControlCredit identifier cid credits)).queueGrants cid grants

def flushChannel (manager : LeCreditChannelManager) (sourceCid : UInt16) : ManagerCall Unit :=
  match manager.channels[sourceCid]? with
  | none => .fail manager (unknownCid sourceCid)
  | some channel =>
    let drained := { channel with outboundPdus := [], pendingCreditGrants := [] }
    let manager := { manager with
      channels := manager.channels.insert sourceCid drained
      outbound := manager.outbound ++
        channel.outboundPdus.map (L2capPdu.mk channel.destinationCid) }
    .ok (manager.queueGrants channel.sourceCid channel.pendingCreditGrants) ()

/-- A channel's method called through `channels.get_mut`, with its error. -/
def withChannel (manager : LeCreditChannelManager) (sourceCid : UInt16)
    (method : LeCreditBasedChannel → ChannelCall Unit) : ManagerCall Unit :=
  match manager.channels[sourceCid]? with
  | none => .fail manager (unknownCid sourceCid)
  | some channel =>
    let call := method channel
    ⟨{ manager with channels := manager.channels.insert sourceCid call.state }, call.result⟩

/-! ### Servers and requests -/

def requestInformation (manager : LeCreditChannelManager) (infoType : UInt16) :
    UInt8 × LeCreditChannelManager :=
  let (identifier, manager) := manager.nextIdentifier
  (identifier, manager.queueControl (.informationRequest identifier infoType))

def registerServer (manager : LeCreditChannelManager) (spec : LeCreditBasedChannelSpec) :
    ManagerCall UInt16 :=
  match spec.validate with
  | .error error => .fail manager error
  | .ok _ =>
    let chosen : Except Error UInt16 :=
      match spec.psm with
      | some psm => if psm = 0 then .error (.invalidPacket "LE PSM cannot be zero") else .ok psm
      | none =>
        match (wordRange psmDynamicRangeStart psmDynamicRangeEnd).find?
            (fun candidate => !manager.servers.contains candidate) with
        | some psm => .ok psm
        | none => .error (.invalidPacket "no free LE PSM")
    match chosen with
    | .error error => .fail manager error
    | .ok psm =>
      if manager.servers.contains psm then
        .fail manager (.invalidPacket s!"LE PSM {hexCid psm} is already in use")
      else
        .ok { manager with servers := manager.servers.insert psm { spec with psm := some psm } } psm

def unregisterServer (manager : LeCreditChannelManager) (psm : UInt16) :
    Bool × LeCreditChannelManager :=
  (manager.servers.contains psm, { manager with servers := manager.servers.erase psm })

def connect (manager : LeCreditChannelManager) (psm : UInt16) (spec : LeCreditBasedChannelSpec) :
    ManagerCall UInt16 :=
  if psm = 0 then .fail manager (.invalidPacket "LE PSM cannot be zero")
  else
    match spec.validate with
    | .error error => .fail manager error
    | .ok _ =>
      match manager.allocateCid with
      | .error error => .fail manager error
      | .ok sourceCid =>
        let manager := { manager with
          connectionResults := manager.connectionResults.erase sourceCid }
        let (identifier, manager) := manager.nextIdentifier
        let manager := { manager with
          pending := manager.pending.insert identifier
            ⟨psm, sourceCid, { spec with psm := some psm }⟩ }
        .ok (manager.queueControl (.leCreditBasedConnectionRequest identifier psm sourceCid
          spec.mtu spec.mps spec.maxCredits)) sourceCid

def connectEnhanced (manager : LeCreditChannelManager) (psm : UInt16)
    (spec : LeCreditBasedChannelSpec) (count : Nat) : ManagerCall (List UInt16) :=
  if psm = 0 then .fail manager (.invalidPacket "SPSM cannot be zero")
  else if ¬ (1 ≤ count ∧ count ≤ creditBasedConnectionMaxChannels) then
    .fail manager (.invalidPacket "enhanced channel count must be between 1 and 5")
  else
    match spec.validate with
    | .error error => .fail manager error
    | .ok _ =>
      match manager.allocateCids count with
      | .error error => .fail manager error
      | .ok sourceCids =>
        let manager := { manager with
          connectionResults := sourceCids.foldl (·.erase ·) manager.connectionResults }
        let (identifier, manager) := manager.nextIdentifier
        let manager := { manager with
          pendingEnhanced := manager.pendingEnhanced.insert identifier
            ⟨psm, sourceCids, { spec with psm := some psm }⟩ }
        .ok (manager.queueControl (.creditBasedConnectionRequest identifier psm spec.mtu spec.mps
          spec.maxCredits sourceCids)) sourceCids

/-- The `for source_cid in source_cids` loop of `reconfigure`: the peer's CIDs. -/
def reconfigureDestinations (manager : LeCreditChannelManager) (count : Nat) (mtu mps : UInt16) :
    List UInt16 → Except Error (List UInt16)
  | [] => .ok []
  | sourceCid :: rest =>
    match manager.channels[sourceCid]? with
    | none => .error (unknownCid sourceCid)
    | some channel => do
      channel.ensureConnected
      if mtu < channel.mtu then
        .error (.invalidPacket "reconfiguration cannot reduce MTU")
      else if count > 1 ∧ mps < channel.mps then
        .error (.invalidPacket "multi-channel reconfiguration cannot reduce MPS")
      else
        let destinations ← manager.reconfigureDestinations count mtu mps rest
        return channel.destinationCid :: destinations

def reconfigure (manager : LeCreditChannelManager) (sourceCids : List UInt16) (mtu mps : UInt16) :
    ManagerCall UInt8 :=
  if sourceCids.isEmpty ∨ sourceCids.length > creditBasedConnectionMaxChannels then
    .fail manager (.invalidPacket "reconfiguration requires between 1 and 5 channels")
  else
    match validateMtuMps mtu mps with
    | .error error => .fail manager error
    | .ok () =>
      if hasDuplicates sourceCids then
        .fail manager (.invalidPacket "reconfiguration contains duplicate CIDs")
      else
        match manager.reconfigureDestinations sourceCids.length mtu mps sourceCids with
        | .error error => .fail manager error
        | .ok destinationCids =>
          let (identifier, manager) := manager.nextIdentifier
          let manager := { manager with
            pendingReconfigurations :=
              manager.pendingReconfigurations.insert identifier ⟨sourceCids, mtu, mps⟩ }
          .ok (manager.queueControl
            (.creditBasedReconfigureRequest identifier mtu mps destinationCids)) identifier

/-! ### Channels -/

def send (manager : LeCreditChannelManager) (sourceCid : UInt16) (data : Bytes) :
    ManagerCall Unit :=
  (manager.withChannel sourceCid (·.write data)).andThen fun manager _ =>
    manager.flushChannel sourceCid

def setReadingPaused (manager : LeCreditChannelManager) (sourceCid : UInt16) (paused : Bool) :
    ManagerCall Unit :=
  (manager.withChannel sourceCid fun channel =>
    if paused then channel.pauseReading else channel.resumeReading).andThen fun manager _ =>
  manager.flushChannel sourceCid

def disconnect (manager : LeCreditChannelManager) (sourceCid : UInt16) : ManagerCall Unit :=
  match manager.channels[sourceCid]? with
  | none => .fail manager (unknownCid sourceCid)
  | some channel =>
    match channel.ensureConnected with
    | .error error => .fail manager error
    | .ok () =>
      let manager := { manager with
        channels := manager.channels.insert sourceCid channel.beginDisconnect }
      let (identifier, manager) := manager.nextIdentifier
      .ok (manager.queueControl
        (.disconnectionRequest identifier channel.destinationCid sourceCid)) ()

def abort (manager : LeCreditChannelManager) (sourceCid : UInt16) :
    Bool × LeCreditChannelManager :=
  match manager.channels[sourceCid]? with
  | none => (false, manager)
  | some channel =>
    if channel.abortable then
      (true, { manager with channels := manager.channels.erase sourceCid })
    else (false, manager)

def pollOutbound (manager : LeCreditChannelManager) :
    Option (L2capPdu × LeCreditChannelManager) :=
  match manager.outbound with
  | [] => none
  | pdu :: outbound => some (pdu, { manager with outbound })

def pollAcceptedChannel (manager : LeCreditChannelManager) :
    Option (UInt16 × LeCreditChannelManager) :=
  match manager.acceptedChannels with
  | [] => none
  | cid :: acceptedChannels => some (cid, { manager with acceptedChannels })

def pollInformationResponse (manager : LeCreditChannelManager) :
    Option (InformationResponse × LeCreditChannelManager) :=
  match manager.informationResponses with
  | [] => none
  | response :: informationResponses => some (response, { manager with informationResponses })

/-! ### Connection signaling -/

def queueConnectionResponse (manager : LeCreditChannelManager) (identifier : UInt8)
    (destinationCid : UInt16) (spec : LeCreditBasedChannelSpec) (initialCredits result : UInt16) :
    LeCreditChannelManager :=
  manager.queueControl (.leCreditBasedConnectionResponse identifier destinationCid spec.mtu
    spec.mps initialCredits result)

def queueEnhancedConnectionResponse (manager : LeCreditChannelManager) (identifier : UInt8)
    (spec : LeCreditBasedChannelSpec) (initialCredits result : UInt16)
    (destinationCids : List UInt16) : LeCreditChannelManager :=
  manager.queueControl (.creditBasedConnectionResponse identifier spec.mtu spec.mps
    initialCredits result destinationCids)

def onConnectionRequest (manager : LeCreditChannelManager) (identifier : UInt8)
    (psm remoteCid peerMtu peerMps credits : UInt16) : ManagerCall Unit :=
  match manager.servers[psm]? with
  | none =>
    .ok (manager.queueConnectionResponse identifier 0 {} 0 leConnectionRefusedPsmNotSupported) ()
  | some spec =>
    if manager.destinationInUse remoteCid then
      .ok (manager.queueConnectionResponse identifier 0 spec 0
        leConnectionRefusedSourceCidAlreadyAllocated) ()
    else if peerMtu < connectionMinMtu ∨ ¬ mpsInRange peerMps then
      .ok (manager.queueConnectionResponse identifier 0 spec 0
        leConnectionRefusedUnacceptableParameters) ()
    else
      match manager.allocateCid with
      | .error _ =>
        .ok (manager.queueConnectionResponse identifier 0 spec 0
          leConnectionRefusedNoResources) ()
      | .ok localCid =>
        match LeCreditBasedChannel.connected psm localCid remoteCid spec peerMtu
          peerMps credits with
        | .error error => .fail manager error
        | .ok channel =>
          let manager := { manager with
            channels := manager.channels.insert localCid channel
            acceptedChannels := manager.acceptedChannels ++ [localCid] }
          .ok (manager.queueConnectionResponse identifier localCid spec spec.maxCredits
            leConnectionSuccessful) ()

def onConnectionResponse (manager : LeCreditChannelManager) (identifier : UInt8)
    (destinationCid peerMtu peerMps credits result : UInt16) : ManagerCall Unit :=
  match manager.pending[identifier]? with
  | none =>
    .fail manager (.invalidPacket s!"unknown LE connection response ID {identifier.toNat}")
  | some pending =>
    let manager := { manager with
      pending := manager.pending.erase identifier
      connectionResults := manager.connectionResults.insert pending.sourceCid result }
    if result ≠ leConnectionSuccessful then .ok manager ()
    else if destinationCid = 0 then
      .fail manager (.invalidPacket "successful response has zero destination CID")
    else
      match LeCreditBasedChannel.connected pending.psm pending.sourceCid destinationCid
          pending.spec peerMtu peerMps credits with
      | .error error => .fail manager error
      | .ok channel =>
        .ok { manager with channels := manager.channels.insert pending.sourceCid channel } ()

/-- The `map(..).collect()` over pairs of CIDs: the first error, or all channels. -/
def connectAll (psm : UInt16) (spec : LeCreditBasedChannelSpec) (peerMtu peerMps credits : UInt16) :
    List (UInt16 × UInt16) → Except Error (List LeCreditBasedChannel)
  | [] => .ok []
  | (sourceCid, destinationCid) :: rest => do
    let channel ← LeCreditBasedChannel.connected psm sourceCid destinationCid spec peerMtu peerMps
      credits
    let channels ← connectAll psm spec peerMtu peerMps credits rest
    return channel :: channels

/-- Insert a list of channels under the CIDs they are paired with. -/
def insertAll (channels : Std.ExtTreeMap UInt16 LeCreditBasedChannel) :
    List (UInt16 × LeCreditBasedChannel) → Std.ExtTreeMap UInt16 LeCreditBasedChannel
  | [] => channels
  | (cid, channel) :: rest => insertAll (channels.insert cid channel) rest

def onEnhancedConnectionRequest (manager : LeCreditChannelManager) (identifier : UInt8)
    (psm peerMtu peerMps credits : UInt16) (remoteCids : List UInt16) : ManagerCall Unit :=
  match manager.servers[psm]? with
  | none =>
    .ok (manager.queueEnhancedConnectionResponse identifier {} 0
      creditBasedConnectionRefusedSpsmNotSupported []) ()
  | some spec =>
    if remoteCids.isEmpty ∨ remoteCids.length > creditBasedConnectionMaxChannels then
      .ok (manager.queueEnhancedConnectionResponse identifier spec 0
        creditBasedConnectionRefusedInvalidParameters []) ()
    else if hasDuplicates remoteCids ∨ remoteCids.any (fun cid => !cidInRange cid) then
      .ok (manager.queueEnhancedConnectionResponse identifier spec 0
        creditBasedConnectionRefusedInvalidSourceCid []) ()
    else if remoteCids.any manager.destinationInUse then
      .ok (manager.queueEnhancedConnectionResponse identifier spec 0
        creditBasedConnectionRefusedSourceCidAlreadyAllocated []) ()
    else
      match validateMtuMps peerMtu peerMps with
      | .error _ =>
        .ok (manager.queueEnhancedConnectionResponse identifier spec 0
          creditBasedConnectionRefusedUnacceptableParameters []) ()
      | .ok () =>
        match manager.allocateCids remoteCids.length with
        | .error _ =>
          .ok (manager.queueEnhancedConnectionResponse identifier spec 0
            creditBasedConnectionRefusedNoResources []) ()
        | .ok localCids =>
          match connectAll psm spec peerMtu peerMps credits (localCids.zip remoteCids) with
          | .error error => .fail manager error
          | .ok channels =>
            let manager := { manager with
              channels := insertAll manager.channels (localCids.zip channels)
              acceptedChannels := manager.acceptedChannels ++ localCids }
            .ok (manager.queueEnhancedConnectionResponse identifier spec spec.maxCredits
              creditBasedConnectionAllSuccessful localCids) ()

def onEnhancedConnectionResponse (manager : LeCreditChannelManager) (identifier : UInt8)
    (peerMtu peerMps credits result : UInt16) (destinationCids : List UInt16) :
    ManagerCall Unit :=
  match manager.pendingEnhanced[identifier]? with
  | none =>
    .fail manager (.invalidPacket s!"unknown enhanced connection response ID {identifier.toNat}")
  | some pending =>
    let manager := { manager with
      pendingEnhanced := manager.pendingEnhanced.erase identifier
      connectionResults :=
        pending.sourceCids.foldl (·.insert · result) manager.connectionResults }
    if result ≠ creditBasedConnectionAllSuccessful then .ok manager ()
    else if destinationCids.length ≠ pending.sourceCids.length then
      .fail manager (.invalidPacket "enhanced response CID count mismatch")
    else
      match validateMtuMps peerMtu peerMps with
      | .error error => .fail manager error
      | .ok () =>
        if hasDuplicates destinationCids ∨
            destinationCids.any (fun cid => !cidInRange cid || manager.destinationInUse cid) then
          .fail manager (.invalidPacket "enhanced response contains invalid destination CIDs")
        else
          match connectAll pending.psm pending.spec peerMtu peerMps credits
              (pending.sourceCids.zip destinationCids) with
          | .error error => .fail manager error
          | .ok channels =>
            .ok { manager with
              channels := insertAll manager.channels (pending.sourceCids.zip channels) } ()

/-! ### Reconfiguration -/

/-- The checks of `on_reconfigure_request`, in their order. -/
def reconfigureResult (manager : LeCreditChannelManager) (mtu mps : UInt16)
    (destinationCids : List UInt16) : UInt16 :=
  if destinationCids.isEmpty ∨ destinationCids.length > creditBasedConnectionMaxChannels then
    creditBasedReconfigurationFailedInvalidCids
  else if hasDuplicates destinationCids ∨ destinationCids.any (fun cid =>
      match manager.channels[cid]? with
      | none => true
      | some channel => channel.state ≠ .connected) then
    creditBasedReconfigurationFailedInvalidCids
  else
    match validateMtuMps mtu mps with
    | .error _ => creditBasedReconfigurationFailedUnacceptableParameters
    | .ok () =>
      if destinationCids.any (fun cid =>
          match manager.channels[cid]? with
          | none => false
          | some channel => mtu < channel.peerMtu) then
        creditBasedReconfigurationFailedMtuReduction
      else if destinationCids.length > 1 ∧ destinationCids.any (fun cid =>
          match manager.channels[cid]? with
          | none => false
          | some channel => mps < channel.peerMps) then
        creditBasedReconfigurationFailedMpsReduction
      else creditBasedReconfigurationSuccessful

/-- `get_mut` and a method that cannot fail, for each CID of a list. -/
def modifyAll (channels : Std.ExtTreeMap UInt16 LeCreditBasedChannel)
    (method : LeCreditBasedChannel → LeCreditBasedChannel) :
    List UInt16 → Std.ExtTreeMap UInt16 LeCreditBasedChannel
  | [] => channels
  | cid :: rest => modifyAll (channels.modify cid method) method rest

def onReconfigureRequest (manager : LeCreditChannelManager) (identifier : UInt8)
    (mtu mps : UInt16) (destinationCids : List UInt16) : ManagerCall Unit :=
  let result := manager.reconfigureResult mtu mps destinationCids
  let manager :=
    if result = creditBasedReconfigurationSuccessful then
      { manager with
        channels := modifyAll manager.channels (·.reconfigurePeer mtu mps) destinationCids }
    else manager
  .ok (manager.queueControl (.creditBasedReconfigureResponse identifier result)) ()

/-- The `for source_cid in pending.source_cids` loop: it stops at a CID that has
    no channel. -/
def reconfigureLocals (manager : LeCreditChannelManager) (mtu mps : UInt16) :
    List UInt16 → ManagerCall Unit
  | [] => .ok manager ()
  | sourceCid :: rest =>
    match manager.channels[sourceCid]? with
    | none => .fail manager (unknownCid sourceCid)
    | some channel =>
      ({ manager with
        channels := manager.channels.insert sourceCid (channel.reconfigureLocal mtu mps)
        } : LeCreditChannelManager).reconfigureLocals mtu mps rest

def onReconfigureResponse (manager : LeCreditChannelManager) (identifier : UInt8)
    (result : UInt16) : ManagerCall Unit :=
  match manager.pendingReconfigurations[identifier]? with
  | none =>
    .fail manager (.invalidPacket
      s!"unknown credit-based reconfiguration response ID {identifier.toNat}")
  | some pending =>
    let manager := { manager with
      pendingReconfigurations := manager.pendingReconfigurations.erase identifier
      reconfigurationResults := manager.reconfigurationResults.insert identifier result }
    if result = creditBasedReconfigurationSuccessful then
      manager.reconfigureLocals pending.mtu pending.mps pending.sourceCids
    else .ok manager ()

/-! ### Disconnection, credits and information -/

def onDisconnectionRequest (manager : LeCreditChannelManager) (identifier : UInt8)
    (destinationCid sourceCid : UInt16) : ManagerCall Unit :=
  match manager.channels[destinationCid]? with
  | none =>
    .fail manager (.invalidPacket s!"unknown disconnect CID {hexCid destinationCid}")
  | some channel =>
    if channel.destinationCid ≠ sourceCid then
      .fail manager (.invalidPacket "disconnect CID pair mismatch")
    else
      .ok ({ manager with channels := manager.channels.erase destinationCid }.queueControl
        (.disconnectionResponse identifier destinationCid sourceCid)) ()

def onDisconnectionResponse (manager : LeCreditChannelManager)
    (destinationCid sourceCid : UInt16) : ManagerCall Unit :=
  match manager.channels[sourceCid]? with
  | none => .ok manager ()
  | some channel =>
    if channel.destinationCid ≠ destinationCid ∨ channel.state ≠ .disconnecting then
      .fail manager (.invalidPacket "unexpected disconnect response")
    else .ok { manager with channels := manager.channels.erase sourceCid } ()

/-- The first channel, in the order of the source CIDs, with this destination. -/
def findByDestination (manager : LeCreditChannelManager) (cid : UInt16) : Option UInt16 :=
  OrderedMap.findKey manager.channels fun channel => channel.destinationCid = cid

def onFlowControlCredit (manager : LeCreditChannelManager) (cid credits : UInt16) :
    ManagerCall Unit :=
  match manager.findByDestination cid with
  | none => .fail manager (.invalidPacket s!"unknown credit CID {hexCid cid}")
  | some sourceCid =>
    (manager.withChannel sourceCid (·.addCredits credits)).andThen fun manager _ =>
      manager.flushChannel sourceCid

def processControl (manager : LeCreditChannelManager) : ControlFrame → ManagerCall Unit
  | .leCreditBasedConnectionRequest identifier lePsm sourceCid mtu mps initialCredits =>
    manager.onConnectionRequest identifier lePsm sourceCid mtu mps initialCredits
  | .leCreditBasedConnectionResponse identifier destinationCid mtu mps initialCredits result =>
    manager.onConnectionResponse identifier destinationCid mtu mps initialCredits result
  | .creditBasedConnectionRequest identifier spsm mtu mps initialCredits sourceCid =>
    manager.onEnhancedConnectionRequest identifier spsm mtu mps initialCredits sourceCid
  | .creditBasedConnectionResponse identifier mtu mps initialCredits result destinationCid =>
    manager.onEnhancedConnectionResponse identifier mtu mps initialCredits result destinationCid
  | .creditBasedReconfigureRequest identifier mtu mps destinationCid =>
    manager.onReconfigureRequest identifier mtu mps destinationCid
  | .creditBasedReconfigureResponse identifier result =>
    manager.onReconfigureResponse identifier result
  | .leFlowControlCredit _ cid credits => manager.onFlowControlCredit cid credits
  | .disconnectionRequest identifier destinationCid sourceCid =>
    manager.onDisconnectionRequest identifier destinationCid sourceCid
  | .disconnectionResponse _ destinationCid sourceCid =>
    manager.onDisconnectionResponse destinationCid sourceCid
  | .echoRequest identifier data => .ok (manager.queueControl (.echoResponse identifier data)) ()
  | .informationRequest identifier infoType =>
    .ok (manager.queueControl (manager.information.response identifier infoType)) ()
  | .informationResponse identifier infoType result data =>
    .ok { manager with
      informationResponses :=
        manager.informationResponses ++ [⟨identifier, infoType, result, data⟩] } ()
  | .commandReject .. | .connectionRequest .. | .connectionResponse .. | .configureRequest ..
  | .configureResponse .. | .echoResponse .. | .connectionParameterUpdateRequest ..
  | .connectionParameterUpdateResponse .. | .generic .. => .ok manager ()

/-- The data branch of `process_pdu`. -/
def processData (manager : LeCreditChannelManager) (sourceCid : UInt16) (payload : Bytes) :
    ManagerCall Unit :=
  (manager.withChannel sourceCid (·.receivePdu payload)).andThen fun manager _ =>
    manager.flushChannel sourceCid

def processPdu (manager : LeCreditChannelManager) (pdu : L2capPdu) : ManagerCall Unit :=
  if pdu.cid = l2capLeSignalingCid then
    match ControlFrame.fromBytes pdu.payload with
    | .error error => .fail manager error
    | .ok frame => manager.processControl frame
  else manager.processData pdu.cid pdu.payload

end LeCreditChannelManager

/-! ## 3. The public calls -/

/-- The calls a user can make on a channel through `channel_mut`. -/
inductive ChannelOp where
  | write (data : Bytes)
  | addCredits (credits : UInt16)
  | receivePdu (pdu : Bytes)
  | pollOutboundPdu
  | pollCreditGrant
  | popReceived
  | pauseReading
  | resumeReading
  | disconnect
  | abort

def ChannelOp.apply (op : ChannelOp) (channel : LeCreditBasedChannel) : LeCreditBasedChannel :=
  match op with
  | write data => (channel.write data).state
  | addCredits credits => (channel.addCredits credits).state
  | receivePdu pdu => (channel.receivePdu pdu).state
  | pollOutboundPdu => { channel with outboundPdus := channel.outboundPdus.tail }
  | pollCreditGrant => { channel with pendingCreditGrants := channel.pendingCreditGrants.tail }
  | popReceived => { channel with receivedSdus := channel.receivedSdus.tail }
  | pauseReading => channel.pauseReading.state
  | resumeReading => channel.resumeReading.state
  | disconnect => channel.disconnect.state
  | abort => channel.abort

/-- Every public call of the manager that changes it, and every PDU. -/
inductive ManagerOp where
  | registerServer (spec : LeCreditBasedChannelSpec)
  | unregisterServer (psm : UInt16)
  | requestInformation (infoType : UInt16)
  | connect (psm : UInt16) (spec : LeCreditBasedChannelSpec)
  | connectEnhanced (psm : UInt16) (spec : LeCreditBasedChannelSpec) (count : Nat)
  | reconfigure (sourceCids : List UInt16) (mtu mps : UInt16)
  | channelMut (sourceCid : UInt16) (op : ChannelOp)
  | send (sourceCid : UInt16) (data : Bytes)
  | setReadingPaused (sourceCid : UInt16) (paused : Bool)
  | disconnect (sourceCid : UInt16)
  | abort (sourceCid : UInt16)
  | pollOutbound
  | drainOutbound
  | pollAcceptedChannel
  | pollInformationResponse
  | drainInformationResponses
  | processPdu (pdu : L2capPdu)

namespace ManagerOp

open LeCreditChannelManager in
def apply (op : ManagerOp) (manager : LeCreditChannelManager) : LeCreditChannelManager :=
  match op with
  | registerServer spec => (manager.registerServer spec).state
  | unregisterServer psm => (manager.unregisterServer psm).2
  | requestInformation infoType => (manager.requestInformation infoType).2
  | connect psm spec => (manager.connect psm spec).state
  | connectEnhanced psm spec count => (manager.connectEnhanced psm spec count).state
  | reconfigure sourceCids mtu mps => (manager.reconfigure sourceCids mtu mps).state
  | channelMut sourceCid op =>
    { manager with channels := manager.channels.modify sourceCid op.apply }
  | send sourceCid data => (manager.send sourceCid data).state
  | setReadingPaused sourceCid paused => (manager.setReadingPaused sourceCid paused).state
  | disconnect sourceCid => (manager.disconnect sourceCid).state
  | abort sourceCid => (manager.abort sourceCid).2
  | pollOutbound => { manager with outbound := manager.outbound.tail }
  | drainOutbound => { manager with outbound := [] }
  | pollAcceptedChannel => { manager with acceptedChannels := manager.acceptedChannels.tail }
  | pollInformationResponse =>
    { manager with informationResponses := manager.informationResponses.tail }
  | drainInformationResponses => { manager with informationResponses := [] }
  | processPdu pdu => (manager.processPdu pdu).state

end ManagerOp

/-- The manager after a list of calls, whatever they return. -/
def LeCreditChannelManager.runOps (manager : LeCreditChannelManager) (ops : List ManagerOp) :
    LeCreditChannelManager :=
  ops.foldl (fun manager op => op.apply manager) manager

/-- Every call of the run meets the condition in the state it is made in. -/
def OpsMeet (condition : LeCreditChannelManager → ManagerOp → Prop) :
    LeCreditChannelManager → List ManagerOp → Prop
  | _, [] => True
  | manager, op :: ops => condition manager op ∧ OpsMeet condition (op.apply manager) ops

instance decidableOpsMeet (condition : LeCreditChannelManager → ManagerOp → Prop)
    [∀ manager op, Decidable (condition manager op)] :
    (manager : LeCreditChannelManager) → (ops : List ManagerOp) →
      Decidable (OpsMeet condition manager ops)
  | _, [] => .isTrue trivial
  | manager, op :: ops =>
    have := decidableOpsMeet condition (op.apply manager) ops
    inferInstanceAs (Decidable (_ ∧ _))

/-- **The run rule.**  What every call of the run keeps holds after the run. -/
theorem runOps_invariant {I : LeCreditChannelManager → Prop}
    {condition : LeCreditChannelManager → ManagerOp → Prop}
    (hstep : ∀ manager op, I manager → condition manager op → I (op.apply manager))
    (ops : List ManagerOp) : ∀ {manager : LeCreditChannelManager}, I manager →
      OpsMeet condition manager ops → I (manager.runOps ops) := by
  induction ops with
  | nil =>
    intro manager hmanager _
    exact hmanager
  | cons op ops ih =>
    intro manager hmanager hmeet
    exact ih (hstep manager op hmanager hmeet.1) hmeet.2

end Bumble.LeCredit
