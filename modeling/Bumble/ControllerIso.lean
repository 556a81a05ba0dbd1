import Bumble.ControllerLinks

/-!
# Isochronous streams and LL control PDUs (`bumble-controller/src/lib.rs`)

The commands for connected and broadcast isochronous streams, the establishment
of a BIG synchronisation, and the PDUs that controllers exchange over an LE
connection.
-/

namespace Bumble.Controller

open Bumble.Smp (Address Octets)

/-! ## 1. Connected isochronous streams -/

/-- A link of a CIG that is bound to no ACL connection yet. -/
def CisLink.configured (cigId cisId : UInt8) (handle : Nat) : CisLink :=
  { cigId := cigId, cisId := cisId, handle := handle, aclSelf := none, aclPeer := none }

def u16ToLe (value : Nat) : Bytes :=
  [UInt8.ofNat (value % 0x100), UInt8.ofNat (value / 0x100)]

/-- A central's CIG: what it had goes, and every CIS gets a handle. -/
def handleSetCigParameters (controller : Controller) (cigId : UInt8) (cisIds : List UInt8) :
    Option Controller := do
  let kept := controller.centralCisLinks.filter (·.cigId ≠ cigId)
  let (handles, controller) ← controller.allocateHandles cisIds.length
  let controller := { controller with
    centralCisLinks := kept ++ List.zipWith (CisLink.configured cigId) cisIds handles }
  return controller.complete hciLeSetCigParametersCommand
    (.raw ([hciSuccess, cigId, UInt8.ofNat handles.length] ++ handles.flatMap u16ToLe))

def handleRemoveCig (controller : Controller) (cigId : UInt8) : Controller :=
  let kept := controller.centralCisLinks.filter (·.cigId ≠ cigId)
  let status := if kept.length < controller.centralCisLinks.length then hciSuccess
    else invalidCommandParameters
  { controller with centralCisLinks := kept }.complete hciLeRemoveCigCommand
    (.leRemoveCig status cigId)

/-- Binds a CIS to the endpoints of an ACL connection. -/
def CisLink.bind (selfAddress peerAddress : Address) (link : CisLink) : CisLink :=
  { link with aclSelf := some selfAddress, aclPeer := some peerAddress }

/-- A central binds each CIS to its ACL connection and asks the peer for it.  At the first
handle that is unknown it stops, and what it has done stays. -/
def handleCreateCis (controller : Controller) : List (Nat × Nat) → Controller
  | [] => controller.commandStatus hciLeCreateCisCommand hciSuccess
  | (cisHandle, aclHandle) :: rest =>
    match controller.connectionByHandle aclHandle with
    | none => controller.commandStatus hciLeCreateCisCommand invalidCommandParameters
    | some connection =>
      match controller.centralCisLinks.find? (·.handle = cisHandle) with
      | none => controller.commandStatus hciLeCreateCisCommand invalidCommandParameters
      | some link =>
        let controller := { controller with
          centralCisLinks := updateFirst (·.handle = cisHandle)
            (CisLink.bind connection.selfAddress connection.peerAddress)
            controller.centralCisLinks }
        let controller := controller.queueLl connection.selfAddress connection.peerAddress
          (.cisReq link.cigId link.cisId)
        controller.handleCreateCis rest

/-- A link that the peripheral may still answer for: its endpoints. -/
def CisLink.endpoints (link : CisLink) : Option (Address × Address) :=
  link.aclSelf.bind fun aclSelf => link.aclPeer.map fun aclPeer => (aclSelf, aclPeer)

def handleAcceptCisRequest (controller : Controller) (connectionHandle : Nat) : Controller :=
  match controller.peripheralCisLinks.find? (·.handle = connectionHandle) with
  | none => controller.commandStatus hciLeAcceptCisRequestCommand invalidCommandParameters
  | some link =>
    match link.endpoints with
    | none =>
      controller.commandStatus hciLeAcceptCisRequestCommand invalidCommandParameters
    | some (aclSelf, aclPeer) =>
      (controller.queueLl aclSelf aclPeer (.cisRsp link.cigId link.cisId)).commandStatus
        hciLeAcceptCisRequestCommand hciSuccess

def handleRejectCisRequest (controller : Controller) (connectionHandle : Nat)
    (reason : UInt8) : Controller :=
  match controller.peripheralCisLinks.find? (·.handle = connectionHandle) with
  | none => controller.ack hciLeRejectCisRequestCommand invalidCommandParameters
  | some link =>
    match link.endpoints with
    | none => controller.ack hciLeRejectCisRequestCommand invalidCommandParameters
    | some (aclSelf, aclPeer) =>
      let controller := { controller with
        peripheralCisLinks := controller.peripheralCisLinks.eraseP
          (·.handle = connectionHandle) }
      (controller.queueLl aclSelf aclPeer (.cisReject link.cigId link.cisId reason)).ack
        hciLeRejectCisRequestCommand hciSuccess

/-- A peer's central asks for a CIS: a link is recorded, and the host is asked. -/
def onLeCisRequest (controller : Controller) (aclSelf aclPeer : Address) (aclHandle : Nat)
    (cigId cisId : UInt8) : Option Controller := do
  let (handle, controller) ← controller.allocateHandle
  let link := CisLink.bind aclSelf aclPeer (CisLink.configured cigId cisId handle)
  let controller := { controller with
    peripheralCisLinks := controller.peripheralCisLinks ++ [link] }
  return controller.push (.cisRequest aclHandle handle cigId cisId)

/-- Reports a CIS as established.  It is found by its identifiers. -/
def onLeCisEstablished (controller : Controller) (cigId cisId : UInt8) : Controller :=
  match (controller.centralCisLinks ++ controller.peripheralCisLinks).find?
      (CisLink.named cigId cisId) with
  | some link => controller.push (.cisEstablished hciSuccess link.handle le1mPhy le1mPhy)
  | none => controller

def onLeCisEstablishmentFailed (controller : Controller) (cigId cisId : UInt8)
    (status : UInt8) : Controller :=
  match controller.centralCisLinks.find? (CisLink.named cigId cisId) with
  | some link => controller.push (.cisEstablished status link.handle 0 0)
  | none => controller

/-! ## 2. Broadcast isochronous streams -/

structure CreateBig where
  bigHandle : UInt8
  advertisingHandle : UInt8
  numBis : UInt8
  sduInterval : Nat
  maxSdu : Nat
  maxTransportLatency : Nat
  rtn : Nat
  phy : UInt8
  packing : UInt8
  framing : UInt8
  encryption : UInt8
  broadcastCode : Octets 16
deriving DecidableEq, Repr

/-- The broadcaster and the advertising set of a train that may carry a BIG. -/
def periodicAdvertising (controller : Controller) (advertisingHandle : UInt8) :
    Option (Address × UInt8) := do
  let advertising ← controller.settings.extendedAdvertisingSets.find?
    (·.handle = advertisingHandle)
  let parameters ← advertising.parameters
  let address ← advertising.address controller.publicAddress
  if advertising.enabled && advertising.periodicEnabled then
    some (address, parameters.advertisingSid)
  else none

def CreateBig.refused (big : CreateBig) (controller : Controller) : Bool :=
  big.bigHandle > 0xEF
    || controller.bigs.any (·.handle = big.bigHandle)
    || controller.bigSyncs.any (·.handle = big.bigHandle)
    || !(1 ≤ big.numBis && big.numBis ≤ 31)
    || !(0xFF ≤ big.sduInterval && big.sduInterval ≤ 0x00FFFFFF)
    || big.maxSdu = 0
    || big.maxSdu > 0x0FFF
    || !(5 ≤ big.maxTransportLatency && big.maxTransportLatency ≤ 4000)
    || big.rtn > 0x1E
    || big.phy = 0
    || big.phy &&& ~~~(0x07 : UInt8) ≠ 0
    || big.packing > 1
    || big.framing > 1
    || big.encryption > 1

def broadcasterLinks (broadcaster : Address) (advertisingSid : UInt8) (handles : List Nat) :
    List BisLink :=
  handles.zipIdx.map fun (handle, index) =>
    { bisIndex := UInt8.ofNat (index + 1)
      handle := handle
      broadcasterAddress := broadcaster
      advertisingSid := advertisingSid
      role := .broadcaster }

def selectedBigPhy (physMask : UInt8) : UInt8 :=
  if physMask &&& 0x01 ≠ 0 then 1 else if physMask &&& 0x02 ≠ 0 then 2 else 3

def handleCreateBig (controller : Controller) (big : CreateBig) : Option Controller :=
  match controller.periodicAdvertising big.advertisingHandle with
  | none =>
    some (controller.commandStatus hciLeCreateBigCommand invalidCommandParameters)
  | some (broadcaster, advertisingSid) =>
    if big.refused controller then
      some (controller.commandStatus hciLeCreateBigCommand invalidCommandParameters)
    else do
      let (handles, controller) ← controller.allocateHandles big.numBis.toNat
      let created : Big :=
        { handle := big.bigHandle
          advertisingHandle := big.advertisingHandle
          sduInterval := big.sduInterval
          maxSdu := big.maxSdu
          maxTransportLatency := big.maxTransportLatency
          rtn := big.rtn
          phy := big.phy
          framing := big.framing
          encrypted := big.encryption ≠ 0
          broadcastCode := big.broadcastCode
          bisLinks := broadcasterLinks broadcaster advertisingSid handles }
      let info := { created.info with phy := selectedBigPhy created.info.phy }
      let controller := { controller with bigs := controller.bigs ++ [created] }
      return (controller.commandStatus hciLeCreateBigCommand hciSuccess).push
        (.createBigComplete hciSuccess big.bigHandle big.sduInterval info handles)

def handleTerminateBig (controller : Controller) (bigHandle reason : UInt8) : Controller :=
  match controller.bigs.find? (·.handle = bigHandle) with
  | none =>
    controller.commandStatus hciLeTerminateBigCommand unknownConnectionIdentifierError
  | some big =>
    let terminations := big.bisLinks.head?.toList.map fun link =>
      (link.broadcasterAddress, link.advertisingSid, reason)
    let controller := { controller with
      bigs := controller.bigs.eraseP (·.handle = bigHandle)
      outboundBigTerminations := controller.outboundBigTerminations ++ terminations }
    (controller.commandStatus hciLeTerminateBigCommand hciSuccess).push
      (.terminateBigComplete bigHandle reason)

structure BigCreateSync where
  bigHandle : UInt8
  syncHandle : Nat
  encryption : UInt8
  broadcastCode : Octets 16
  mse : UInt8
  bigSyncTimeout : Nat
  bis : List UInt8
deriving DecidableEq, Repr

def BigCreateSync.refused (sync : BigCreateSync) (controller : Controller) : Bool :=
  sync.bigHandle > 0xEF
    || controller.pendingBigSync.isSome
    || controller.bigSyncs.any (·.handle = sync.bigHandle)
    || controller.bigs.any (·.handle = sync.bigHandle)
    || !controller.settings.periodicSyncs.any (·.handle = sync.syncHandle)
    || sync.bis.isEmpty
    || sync.bis.length > 31
    || sync.bis.any (fun index => !(1 ≤ index && index ≤ 31))
    || !sync.bis.Nodup
    || sync.encryption > 1
    || sync.mse > 0x1F
    || !(0x000A ≤ sync.bigSyncTimeout && sync.bigSyncTimeout ≤ 0x4000)

def handleBigCreateSync (controller : Controller) (sync : BigCreateSync) : Controller :=
  if sync.refused controller then
    controller.commandStatus hciLeBigCreateSyncCommand invalidCommandParameters
  else
    { controller with
      pendingBigSync := some
        { bigHandle := sync.bigHandle
          syncHandle := sync.syncHandle
          encrypted := sync.encryption ≠ 0
          broadcastCode := sync.broadcastCode
          bis := sync.bis } }.commandStatus hciLeBigCreateSyncCommand hciSuccess

/-- Drops the synchronisations with a property and reports them as lost. -/
def loseBigSyncs (controller : Controller) (lost : BigSync → Bool) (reason : UInt8) :
    Controller :=
  { controller with bigSyncs := controller.bigSyncs.filter (!lost ·) }.pushAll
    ((controller.bigSyncs.filter lost).map fun sync : BigSync => .bigSyncLost sync.handle reason)

def handleBigTerminateSync (controller : Controller) (bigHandle : UInt8) : Controller :=
  let kept := controller.bigSyncs.filter (·.handle ≠ bigHandle)
  let terminated := { controller with bigSyncs := kept }
  if kept.length = controller.bigSyncs.length then
    terminated.ack hciLeBigTerminateSyncCommand unknownConnectionIdentifierError
  else
    (terminated.ack hciLeBigTerminateSyncCommand hciSuccess).push
      (.bigSyncLost bigHandle 0x16)

/-- Ends a periodic synchronisation, and with it the BIG synchronisations on its train. -/
def handlePeriodicAdvertisingTerminateSync (controller : Controller) (syncHandle : Nat) :
    Controller :=
  let kept := controller.settings.periodicSyncs.filter (·.handle ≠ syncHandle)
  if kept.length = controller.settings.periodicSyncs.length then
    controller.ack hciLePeriodicAdvertisingTerminateSyncCommand
      unknownConnectionIdentifierError
  else
    ({ controller with settings := { controller.settings with periodicSyncs := kept } }.ack
        hciLePeriodicAdvertisingTerminateSyncCommand hciSuccess).loseBigSyncs
      (·.syncHandle = syncHandle) 0x16

def onBigTerminated (controller : Controller) (broadcaster : Address) (advertisingSid : UInt8)
    (reason : UInt8) : Controller :=
  controller.loseBigSyncs
    (fun sync => sync.bisLinks.head?.any fun link =>
      link.broadcasterAddress = broadcaster && link.advertisingSid = advertisingSid)
    reason

/-- The BIS a receiver has asked for, one handle each. -/
def receiverLinks (broadcaster : Address) (advertisingSid : UInt8) (bis : List UInt8)
    (handles : List Nat) : List BisLink :=
  List.zipWith
    (fun bisIndex handle =>
      { bisIndex := bisIndex
        handle := handle
        broadcasterAddress := broadcaster
        advertisingSid := advertisingSid
        role := .synchronizedReceiver })
    bis handles

/-- The pending synchronisation, when it waits for the train this comes from. -/
def awaitedBigSync (controller : Controller) (addressType : UInt8) (address : Address)
    (advertisingSid : UInt8) : Option PendingBigSync := do
  let pending ← controller.pendingBigSync
  let sync ← controller.settings.periodicSyncs.find? (·.handle = pending.syncHandle)
  if sync.advertisingSid = advertisingSid && sync.advertiserAddressType = addressType
      && sync.advertiserAddress = address then some pending
  else none

def PendingBigSync.validBis (pending : PendingBigSync) (info : BigInfo) : Bool :=
  pending.bis.all fun index => index.toNat ≤ info.numBis

def PendingBigSync.validCode (pending : PendingBigSync) (info : BigInfo) : Bool :=
  pending.encrypted = info.encrypted
    && (!info.encrypted || pending.broadcastCode = info.broadcastCode)

def tryEstablishBigSync (controller : Controller) (addressType : UInt8) (address : Address)
    (advertisingSid : UInt8) (info : BigInfo) : Option Controller :=
  match controller.awaitedBigSync addressType address advertisingSid with
  | none => some controller
  | some pending =>
    let controller := { controller with pendingBigSync := none }
    if !pending.validBis info then
      some (controller.push
        (.bigSyncEstablished invalidCommandParameters pending.bigHandle none []))
    else if !pending.validCode info then
      some (controller.push (.bigSyncEstablished micFailureError pending.bigHandle none []))
    else do
      let (handles, controller) ← controller.allocateHandles pending.bis.length
      let sync : BigSync :=
        { handle := pending.bigHandle
          syncHandle := pending.syncHandle
          bisLinks := receiverLinks address advertisingSid pending.bis handles }
      let controller := { controller with bigSyncs := controller.bigSyncs ++ [sync] }
      return controller.push
        (.bigSyncEstablished hciSuccess pending.bigHandle (some info) handles)

/-! ## 3. LL control PDUs -/

def onLeEncrypted (controller : Controller) (connectionHandle : Nat) : Controller :=
  controller.push (.encryptionChange hciSuccess connectionHandle 1)

def handleEnableEncryption (controller : Controller) (connectionHandle : Nat)
    (randomNumber : Octets 8) (encryptedDiversifier : UInt16) (longTermKey : Octets 16) :
    Controller :=
  match controller.connectionByHandle connectionHandle with
  | none => controller.commandStatus hciLeEnableEncryptionCommand invalidCommandParameters
  | some connection =>
    let controller := controller.queueLl connection.selfAddress connection.peerAddress
      (.encReq randomNumber encryptedDiversifier longTermKey)
    (controller.commandStatus hciLeEnableEncryptionCommand hciSuccess).onLeEncrypted
      connectionHandle

def handleReadRemoteFeatures (controller : Controller) (connectionHandle : Nat) : Controller :=
  match controller.connectionByHandle connectionHandle with
  | none =>
    controller.commandStatus hciLeReadRemoteFeaturesCommand invalidCommandParameters
  | some connection =>
    (controller.commandStatus hciLeReadRemoteFeaturesCommand hciSuccess).queueLl
      connection.selfAddress connection.peerAddress
      (if connection.role = roleCentral then .featureReq controller.settings.localLeFeatures
        else .peripheralFeatureReq controller.settings.localLeFeatures)

/-- A PDU for one of this controller's LE connections: the first with the sender. -/
def onLlControlPdu (controller : Controller) (sender : Address) (pdu : LlPdu) :
    Option Controller :=
  match controller.connections.find? (·.peerAddress = sender) with
  | none => some controller
  | some connection =>
    match pdu with
    | .encReq .. => some (controller.onLeEncrypted connection.handle)
    | .featureReq _ | .peripheralFeatureReq _ =>
      some (controller.queueLl connection.selfAddress sender
        (.featureRsp controller.settings.localLeFeatures))
    | .featureRsp featureSet =>
      some (controller.push
        (.leReadRemoteFeaturesComplete hciSuccess connection.handle featureSet))
    | .cisReq cigId cisId =>
      controller.onLeCisRequest connection.selfAddress sender connection.handle cigId cisId
    | .cisRsp cigId cisId =>
      some ((controller.onLeCisEstablished cigId cisId).queueLl connection.selfAddress sender
        (.cisInd cigId cisId))
    | .cisInd cigId cisId => some (controller.onLeCisEstablished cigId cisId)
    | .cisReject cigId cisId errorCode =>
      some (controller.onLeCisEstablishmentFailed cigId cisId errorCode)
    | .cisTerminateInd cigId cisId errorCode =>
      some (controller.onLeCisDisconnected cigId cisId errorCode)
    | .terminateInd errorCode =>
      some (controller.onPeerDisconnect connection.selfAddress sender .leAcl errorCode)

end Bumble.Controller
