import Bumble.SmpPairing

/-!
# State of a controller (`bumble-controller/src/lib.rs`, `ll.rs`, `lmp.rs`)

The links a software controller holds, the control PDUs it exchanges and the
events it reports, as far as links are concerned.  Handles and roles are `u16`
and `u8` values as natural numbers; the counter that gives out handles is the
only place where their width matters (`allocateHandle`).  Advertising, periodic
synchronisation and the other settings stand together in `Settings`; the PHY of a
connection and the data paths of a stream, which no link handling reads, are left
out.
-/

namespace Bumble.Controller

open Bumble.Smp (Address Octets)

/-! ## 1. Constants -/

def hciSuccess : UInt8 := 0x00
def unknownConnectionIdentifierError : UInt8 := 0x02
def commandDisallowedError : UInt8 := 0x0C
def invalidCommandParameters : UInt8 := 0x12
def roleChangeNotAllowedError : UInt8 := 0x21
def micFailureError : UInt8 := 0x3D

def roleCentral : Nat := 0
def rolePeripheral : Nat := 1

def addressTypePublic : UInt8 := 0

def linkTypeSco : UInt8 := 0x00
def linkTypeAcl : UInt8 := 0x01
def linkTypeEsco : UInt8 := 0x02
def airModeCvsd : UInt8 := 0x02
def airModeTransparent : UInt8 := 0x03

def le1mPhy : UInt8 := 1

def hciCreateConnectionCommand : UInt16 := 0x0405
def hciDisconnectCommand : UInt16 := 0x0406
def hciAcceptConnectionRequestCommand : UInt16 := 0x0409
def hciSetConnectionEncryptionCommand : UInt16 := 0x0413
def hciRemoteNameRequestCommand : UInt16 := 0x0419
def hciReadRemoteSupportedFeaturesCommand : UInt16 := 0x041B
def hciReadRemoteExtendedFeaturesCommand : UInt16 := 0x041C
def hciAcceptSynchronousConnectionRequestCommand : UInt16 := 0x0429
def hciRejectSynchronousConnectionRequestCommand : UInt16 := 0x042A
def hciEnhancedSetupSynchronousConnectionCommand : UInt16 := 0x043D
def hciEnhancedAcceptSynchronousConnectionRequestCommand : UInt16 := 0x043E
def hciSwitchRoleCommand : UInt16 := 0x080B
def hciResetCommand : UInt16 := 0x0C03
def hciLeCreateConnectionCommand : UInt16 := 0x200D
def hciLeCreateConnectionCancelCommand : UInt16 := 0x200E
def hciLeReadRemoteFeaturesCommand : UInt16 := 0x2016
def hciLeEnableEncryptionCommand : UInt16 := 0x2019
def hciLePeriodicAdvertisingTerminateSyncCommand : UInt16 := 0x2046
def hciLeSetCigParametersCommand : UInt16 := 0x2062
def hciLeCreateCisCommand : UInt16 := 0x2064
def hciLeRemoveCigCommand : UInt16 := 0x2065
def hciLeAcceptCisRequestCommand : UInt16 := 0x2066
def hciLeRejectCisRequestCommand : UInt16 := 0x2067
def hciLeCreateBigCommand : UInt16 := 0x2068
def hciLeTerminateBigCommand : UInt16 := 0x206A
def hciLeBigCreateSyncCommand : UInt16 := 0x206B
def hciLeBigTerminateSyncCommand : UInt16 := 0x206C

/-! ## 2. Links -/

structure Connection where
  handle : Nat
  role : Nat
  /-- Whether a Classic connection permits a role switch that its peer asks for. -/
  classicAllowRoleSwitch : Bool
  selfAddress : Address
  peerAddress : Address
deriving DecidableEq, Repr

structure SynchronousConnection where
  handle : Nat
  aclHandle : Nat
  selfAddress : Address
  peerAddress : Address
  linkType : UInt8
  airMode : UInt8
deriving DecidableEq, Repr

inductive ConnectionKind where
  | leAcl
  | classicAcl
  | synchronous
  | iso (cigId cisId : UInt8)
deriving DecidableEq, Repr

inductive BisRole where
  | broadcaster
  | synchronizedReceiver
deriving DecidableEq, Repr

structure BisLink where
  bisIndex : UInt8
  handle : Nat
  broadcasterAddress : Address
  advertisingSid : UInt8
  role : BisRole
deriving DecidableEq, Repr

structure Big where
  handle : UInt8
  advertisingHandle : UInt8
  sduInterval : Nat
  maxSdu : Nat
  maxTransportLatency : Nat
  rtn : Nat
  phy : UInt8
  framing : UInt8
  encrypted : Bool
  broadcastCode : Octets 16
  bisLinks : List BisLink
deriving DecidableEq, Repr

structure BigSync where
  handle : UInt8
  syncHandle : Nat
  bisLinks : List BisLink
deriving DecidableEq, Repr

structure PendingBigSync where
  bigHandle : UInt8
  syncHandle : Nat
  encrypted : Bool
  broadcastCode : Octets 16
  bis : List UInt8
deriving DecidableEq, Repr

structure BigInfo where
  numBis : Nat
  nse : Nat
  isoInterval : Nat
  bn : Nat
  pto : Nat
  irc : Nat
  maxPdu : Nat
  sduInterval : Nat
  maxSdu : Nat
  transportLatencyBig : Nat
  phy : UInt8
  framing : UInt8
  encrypted : Bool
  broadcastCode : Octets 16
deriving DecidableEq, Repr

def Big.info (big : Big) : BigInfo where
  numBis := big.bisLinks.length % 0x100
  nse := min (big.rtn + 1) 0xFF
  isoInterval := min (max (big.sduInterval / 1250) 4) 3200
  bn := 1
  pto := 0
  irc := min (big.rtn + 1) 0xFF
  maxPdu := big.maxSdu
  sduInterval := big.sduInterval
  maxSdu := big.maxSdu
  transportLatencyBig := big.maxTransportLatency * 1000
  phy := big.phy
  framing := big.framing
  encrypted := big.encrypted
  broadcastCode := big.broadcastCode

/-- A CIS.  The endpoints are those of the ACL connection that carries it; a link of a
central that is bound to none has none. -/
structure CisLink where
  cigId : UInt8
  cisId : UInt8
  handle : Nat
  aclSelf : Option Address
  aclPeer : Option Address
deriving DecidableEq, Repr

structure PendingConnection where
  peerAddress : Address
  peerAddressType : UInt8
  ownAddressType : UInt8
deriving DecidableEq, Repr

inductive ClassicRoleSwitchPurpose where
  | acceptConnection
  | switchRoleCommand (requestedRole : Nat)
deriving DecidableEq, Repr

structure PendingClassicRoleSwitch where
  peerAddress : Address
  purpose : ClassicRoleSwitchPurpose
deriving DecidableEq, Repr

/-! ## 3. Control PDUs -/

inductive LlPdu where
  | encReq (rand : Octets 8) (ediv : UInt16) (ltk : Octets 16)
  | featureReq (featureSet : Octets 8)
  | peripheralFeatureReq (featureSet : Octets 8)
  | featureRsp (featureSet : Octets 8)
  | cisReq (cigId cisId : UInt8)
  | cisRsp (cigId cisId : UInt8)
  | cisInd (cigId cisId : UInt8)
  | cisReject (cigId cisId : UInt8) (errorCode : UInt8)
  | cisTerminateInd (cigId cisId : UInt8) (errorCode : UInt8)
  | terminateInd (errorCode : UInt8)
deriving DecidableEq, Repr

inductive ClassicPdu where
  | hostConnectionReq
  | accepted
  | rejected (reason : UInt8)
  | switchReq
  | switchAccepted
  | switchRejected (reason : UInt8)
  | nameReq
  | nameRes (name : Bytes)
  | featuresReq
  | featuresRes (features : Octets 8)
  | featuresReqExt (pageNumber : UInt8) (features : Octets 8)
  | featuresResExt (pageNumber maxPageNumber : UInt8) (features : Octets 8)
  | encryptionModeReq (enable : Bool)
  | synchronousConnectionReq (linkType airMode : UInt8)
  | synchronousConnectionAccepted (linkType airMode : UInt8)
  | synchronousConnectionRejected (reason : UInt8)
  | synchronousDetach (errorCode : UInt8)
  | detach (errorCode : UInt8)
deriving DecidableEq, Repr

/-! ## 4. Events -/

inductive ReturnParameters where
  | status (status : UInt8)
  | raw (data : Bytes)
  | leRemoveCig (status cigId : UInt8)
deriving DecidableEq, Repr

/-- Events for the host.  The timing parameters of a connection and of a CIS, which
are placeholders in the source, are left out. -/
inductive Event where
  | commandStatus (status : UInt8) (commandOpcode : UInt16)
  | commandComplete (commandOpcode : UInt16) (returnParameters : ReturnParameters)
  | leConnectionComplete (status : UInt8) (connectionHandle role : Nat)
      (peerAddressType : UInt8) (peerAddress : Address)
  | leReadRemoteFeaturesComplete (status : UInt8) (connectionHandle : Nat)
      (leFeatures : Octets 8)
  | cisRequest (aclConnectionHandle cisConnectionHandle : Nat) (cigId cisId : UInt8)
  | cisEstablished (status : UInt8) (connectionHandle : Nat) (phyCToP phyPToC : UInt8)
  | createBigComplete (status bigHandle : UInt8) (bigSyncDelay : Nat) (info : BigInfo)
      (connectionHandle : List Nat)
  | terminateBigComplete (bigHandle reason : UInt8)
  | bigSyncEstablished (status bigHandle : UInt8) (info : Option BigInfo)
      (connectionHandle : List Nat)
  | bigSyncLost (bigHandle reason : UInt8)
  | encryptionChange (status : UInt8) (connectionHandle : Nat) (encryptionEnabled : UInt8)
  | connectionRequest (bdAddr : Address) (linkType : UInt8)
  | connectionComplete (status : UInt8) (connectionHandle : Nat) (bdAddr : Address)
  | roleChange (status : UInt8) (bdAddr : Address) (newRole : Nat)
  | remoteNameRequestComplete (status : UInt8) (bdAddr : Address) (remoteName : Bytes)
  | readRemoteSupportedFeaturesComplete (status : UInt8) (connectionHandle : Nat)
      (lmpFeatures : Octets 8)
  | readRemoteExtendedFeaturesComplete (status : UInt8) (connectionHandle : Nat)
      (pageNumber maximumPageNumber : UInt8) (extendedLmpFeatures : Octets 8)
  | synchronousConnectionComplete (status : UInt8) (connectionHandle : Nat) (bdAddr : Address)
      (linkType airMode : UInt8)
  | disconnectionComplete (status : UInt8) (connectionHandle : Nat) (reason : UInt8)
deriving DecidableEq, Repr

/-! ## 5. The controller -/

structure ExtendedAdvertisingParameters where
  ownAddressType : UInt8
  advertisingSid : UInt8
deriving DecidableEq, Repr

structure ExtendedAdvertisingSet where
  handle : UInt8
  parameters : Option ExtendedAdvertisingParameters
  enabled : Bool
  randomAddress : Option Address
  periodicEnabled : Bool
deriving DecidableEq, Repr

def ExtendedAdvertisingSet.address (advertising : ExtendedAdvertisingSet)
    (publicAddress : Address) : Option Address :=
  advertising.parameters.bind fun parameters =>
    if parameters.ownAddressType = addressTypePublic then some publicAddress
    else advertising.randomAddress

structure PeriodicSync where
  handle : Nat
  advertisingSid : UInt8
  advertiserAddressType : UInt8
  advertiserAddress : Address
deriving DecidableEq, Repr

/-- What link handling reads of the state that other commands keep. -/
structure Settings where
  name : Bytes
  randomAddress : Address
  extendedAdvertisingSets : List ExtendedAdvertisingSet
  periodicSyncs : List PeriodicSync
  lmpFeaturePages : List (Octets 8)
  localLeFeatures : Octets 8
deriving DecidableEq, Repr

end Bumble.Controller

namespace Bumble

open Bumble.Smp (Address Octets)
open Bumble.Controller

structure Controller where
  publicAddress : Address
  settings : Settings
  connections : List Connection
  initiating : Option PendingConnection
  nextHandle : Nat
  hostQueue : List Controller.Event
  /-- LL PDUs for a peer: the sender's own address, the receiver's, the PDU. -/
  outboundLl : List (Address × Address × LlPdu)
  centralCisLinks : List CisLink
  peripheralCisLinks : List CisLink
  bigs : List Big
  bigSyncs : List BigSync
  pendingBigSync : Option PendingBigSync
  outboundBigTerminations : List (Address × UInt8 × UInt8)
  classicConnections : List Connection
  classicAllowRoleSwitch : Bool
  pendingClassicRoleSwitches : List PendingClassicRoleSwitch
  synchronousConnections : List SynchronousConnection
  outboundClassic : List (Address × Address × ClassicPdu)
deriving DecidableEq, Repr

namespace Controller

/-- The pages of LMP features a controller starts with. -/
def lmpFeaturePages : List (Octets 8) :=
  [#v[0x00, 0x00, 0x00, 0x00, 0x60, 0x00, 0x00, 0x80], Vector.replicate 8 0,
    Vector.replicate 8 0, Vector.replicate 8 0]

def localLeFeatures : Octets 8 := #v[0x00, 0x10, 0x00, 0xF0, 0, 0x40, 0, 0]

def new (name : Bytes) (publicAddress : Address) : Controller where
  publicAddress := publicAddress
  settings :=
    { name := name
      randomAddress := ⟨Vector.replicate 6 0, 0x01⟩
      extendedAdvertisingSets := []
      periodicSyncs := []
      lmpFeaturePages := lmpFeaturePages
      localLeFeatures := localLeFeatures }
  connections := []
  initiating := none
  nextHandle := 1
  hostQueue := []
  outboundLl := []
  centralCisLinks := []
  peripheralCisLinks := []
  bigs := []
  bigSyncs := []
  pendingBigSync := none
  outboundBigTerminations := []
  classicConnections := []
  classicAllowRoleSwitch := true
  pendingClassicRoleSwitches := []
  synchronousConnections := []
  outboundClassic := []

/-! ## 6. Queues and the handle counter -/

def push (controller : Controller) (event : Event) : Controller :=
  { controller with hostQueue := controller.hostQueue ++ [event] }

def pushAll (controller : Controller) (events : List Event) : Controller :=
  { controller with hostQueue := controller.hostQueue ++ events }

def commandStatus (controller : Controller) (commandOpcode : UInt16) (status : UInt8) :
    Controller :=
  controller.push (.commandStatus status commandOpcode)

def complete (controller : Controller) (commandOpcode : UInt16)
    (returnParameters : ReturnParameters) : Controller :=
  controller.push (.commandComplete commandOpcode returnParameters)

def ack (controller : Controller) (commandOpcode : UInt16) (status : UInt8) : Controller :=
  controller.complete commandOpcode (.status status)

def queueLl (controller : Controller) (selfAddress peerAddress : Address) (pdu : LlPdu) :
    Controller :=
  { controller with outboundLl := controller.outboundLl ++ [(selfAddress, peerAddress, pdu)] }

def queueClassic (controller : Controller) (selfAddress peerAddress : Address)
    (pdu : ClassicPdu) : Controller :=
  { controller with
    outboundClassic := controller.outboundClassic ++ [(selfAddress, peerAddress, pdu)] }

def pushDisconnectionComplete (controller : Controller) (connectionHandle : Nat)
    (reason : UInt8) : Controller :=
  controller.push (.disconnectionComplete hciSuccess connectionHandle reason)

/-- The next handle.  Adding to a counter that is at its end panics where overflow is
checked; a build without the checks goes on from zero, and the runs end here before that. -/
def allocateHandle (controller : Controller) : Option (Nat × Controller) :=
  if controller.nextHandle = 0xFFFF then none
  else some (controller.nextHandle, { controller with nextHandle := controller.nextHandle + 1 })

def allocateHandles (controller : Controller) : Nat → Option (List Nat × Controller)
  | 0 => some ([], controller)
  | count + 1 => do
    let (handle, controller) ← controller.allocateHandle
    let (handles, controller) ← controller.allocateHandles count
    return (handle :: handles, controller)

def connectionByHandle (controller : Controller) (handle : Nat) : Option Connection :=
  controller.connections.find? fun connection => connection.handle = handle

/-- The first Classic connection with a peer, established or not. -/
def classicConnectionWith (controller : Controller) (peer : Address) : Option Connection :=
  controller.classicConnections.find? fun connection => connection.peerAddress = peer

end Controller

end Bumble
