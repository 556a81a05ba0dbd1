import Bumble.ControllerIso
import Bumble.ControllerClassic

/-!
# Commands, calls and runs of a controller (`bumble-controller/src/lib.rs`)

`Command` has the HCI commands that concern links.  Every other command, and
every advertising PDU, changes the settings at most and reports to the host;
`Call.configure` stands for any of them.  A call that overflows the handle
counter panics, and a run ends there.
-/

namespace Bumble.Controller

open Bumble.Smp (Address Octets)

/-! ## 1. Commands -/

inductive Command where
  | reset
  | disconnect (connectionHandle : Nat) (reason : UInt8)
  | leCreateConnection (commandOpcode : UInt16) (connection : PendingConnection)
  | leCreateConnectionCancel
  | leEnableEncryption (connectionHandle : Nat) (randomNumber : Octets 8)
      (encryptedDiversifier : UInt16) (longTermKey : Octets 16)
  | leReadRemoteFeatures (connectionHandle : Nat)
  | lePeriodicAdvertisingTerminateSync (syncHandle : Nat)
  | leSetCigParameters (cigId : UInt8) (cisId : List UInt8)
  | leRemoveCig (cigId : UInt8)
  | leCreateCis (cisConnectionHandle aclConnectionHandle : List Nat)
  | leAcceptCisRequest (connectionHandle : Nat)
  | leRejectCisRequest (connectionHandle : Nat) (reason : UInt8)
  | leCreateBig (big : CreateBig)
  | leTerminateBig (bigHandle reason : UInt8)
  | leBigCreateSync (sync : BigCreateSync)
  | leBigTerminateSync (bigHandle : UInt8)
  | setConnectionEncryption (connectionHandle : Nat) (encryptionEnable : UInt8)
  | createConnection (bdAddr : Address) (allowRoleSwitch : UInt8)
  | acceptConnectionRequest (bdAddr : Address) (role : Nat)
  | switchRole (bdAddr : Address) (role : Nat)
  | remoteNameRequest (bdAddr : Address)
  | readRemoteSupportedFeatures (connectionHandle : Nat)
  | readRemoteExtendedFeatures (connectionHandle : Nat) (pageNumber : UInt8)
  | enhancedSetupSynchronousConnection (connectionHandle : Nat) (codingFormat : UInt8)
  | enhancedAcceptSynchronousConnectionRequest (bdAddr : Address) (codingFormat : UInt8)
  | acceptSynchronousConnectionRequest (bdAddr : Address)
  | rejectSynchronousConnectionRequest (bdAddr : Address) (reason : UInt8)
deriving DecidableEq, Repr

/-- Everything that belongs to a link goes; the handle counter, the queues and the role
switches that are asked for stay. -/
def reset (controller : Controller) : Controller :=
  { controller with
    settings := { controller.settings with
      extendedAdvertisingSets := []
      periodicSyncs := []
      lmpFeaturePages := lmpFeaturePages
      localLeFeatures := localLeFeatures }
    bigs := []
    bigSyncs := []
    pendingBigSync := none
    outboundBigTerminations := []
    centralCisLinks := []
    peripheralCisLinks := []
    connections := []
    classicConnections := []
    synchronousConnections := []
    initiating := none }.ack hciResetCommand hciSuccess

def handleLeCreateConnection (controller : Controller) (commandOpcode : UInt16)
    (connection : PendingConnection) : Controller :=
  if controller.initiating.isSome then
    controller.commandStatus commandOpcode commandDisallowedError
  else { controller with initiating := some connection }.commandStatus commandOpcode hciSuccess

def handleCommand (controller : Controller) : Command → Option Controller
  | .reset => some controller.reset
  | .disconnect connectionHandle reason =>
    some (controller.requestDisconnect connectionHandle reason).2
  | .leCreateConnection commandOpcode connection =>
    some (controller.handleLeCreateConnection commandOpcode connection)
  | .leCreateConnectionCancel => some ({ controller with initiating := none }.ack
      hciLeCreateConnectionCancelCommand hciSuccess)
  | .leEnableEncryption connectionHandle randomNumber encryptedDiversifier longTermKey =>
    some (controller.handleEnableEncryption connectionHandle randomNumber encryptedDiversifier
      longTermKey)
  | .leReadRemoteFeatures connectionHandle =>
    some (controller.handleReadRemoteFeatures connectionHandle)
  | .lePeriodicAdvertisingTerminateSync syncHandle =>
    some (controller.handlePeriodicAdvertisingTerminateSync syncHandle)
  | .leSetCigParameters cigId cisId => controller.handleSetCigParameters cigId cisId
  | .leRemoveCig cigId => some (controller.handleRemoveCig cigId)
  | .leCreateCis cisConnectionHandle aclConnectionHandle =>
    some (controller.handleCreateCis (cisConnectionHandle.zip aclConnectionHandle))
  | .leAcceptCisRequest connectionHandle =>
    some (controller.handleAcceptCisRequest connectionHandle)
  | .leRejectCisRequest connectionHandle reason =>
    some (controller.handleRejectCisRequest connectionHandle reason)
  | .leCreateBig big => controller.handleCreateBig big
  | .leTerminateBig bigHandle reason => some (controller.handleTerminateBig bigHandle reason)
  | .leBigCreateSync sync => some (controller.handleBigCreateSync sync)
  | .leBigTerminateSync bigHandle => some (controller.handleBigTerminateSync bigHandle)
  | .setConnectionEncryption connectionHandle encryptionEnable =>
    some (controller.handleSetClassicEncryption connectionHandle encryptionEnable)
  | .createConnection bdAddr allowRoleSwitch =>
    some (controller.handleCreateConnection bdAddr allowRoleSwitch)
  | .acceptConnectionRequest bdAddr role => controller.handleAcceptConnectionRequest bdAddr role
  | .switchRole bdAddr role => some (controller.handleSwitchRole bdAddr role)
  | .remoteNameRequest bdAddr => some (controller.handleRemoteNameRequest bdAddr)
  | .readRemoteSupportedFeatures connectionHandle =>
    some (controller.handleReadRemoteSupportedFeatures connectionHandle)
  | .readRemoteExtendedFeatures connectionHandle pageNumber =>
    some (controller.handleReadRemoteExtendedFeatures connectionHandle pageNumber)
  | .enhancedSetupSynchronousConnection connectionHandle codingFormat =>
    some (controller.handleSetupSynchronousConnection connectionHandle linkTypeEsco
      (airModeForCodingFormat codingFormat))
  | .enhancedAcceptSynchronousConnectionRequest bdAddr codingFormat =>
    controller.handleAcceptSynchronousConnection
      hciEnhancedAcceptSynchronousConnectionRequestCommand bdAddr
      (airModeForCodingFormat codingFormat)
  | .acceptSynchronousConnectionRequest bdAddr =>
    controller.handleAcceptSynchronousConnection
      hciAcceptSynchronousConnectionRequestCommand bdAddr airModeCvsd
  | .rejectSynchronousConnectionRequest bdAddr reason =>
    some (controller.handleRejectSynchronousConnection bdAddr reason)

/-! ## 2. Calls and runs -/

inductive Call where
  | command (command : Command)
  /-- Any other command or advertising PDU: new settings, and reports. -/
  | configure (settings : Settings) (reports : List Event)
  | setClassicAllowRoleSwitch (allow : Bool)
  | connectAsCentralTo (linkPeerAddress reportedPeerAddress : Address)
      (reportedPeerAddressType : UInt8)
  | connectAsPeripheralAt (selfAddress centralAddress : Address) (centralAddressType : UInt8)
  | onLlControlPdu (sender : Address) (pdu : LlPdu)
  | onClassicPdu (sender : Address) (pdu : ClassicPdu)
  | onPeerDisconnect (selfAddress peerAddress : Address) (kind : ConnectionKind)
      (reason : UInt8)
  | onPeriodicAdvertisingPdu (addressType : UInt8) (address : Address)
      (advertisingSid : UInt8) (info : BigInfo)
  | onBigTerminated (broadcaster : Address) (advertisingSid reason : UInt8)
  | drainHostEvents
  | takeOutbound
deriving DecidableEq, Repr

/-- One call, `none` where it panics. -/
def step (controller : Controller) : Call → Option Controller
  | .command command => controller.handleCommand command
  | .configure settings reports => some ({ controller with settings := settings }.pushAll reports)
  | .setClassicAllowRoleSwitch allow => some { controller with classicAllowRoleSwitch := allow }
  | .connectAsCentralTo linkPeerAddress reportedPeerAddress reportedPeerAddressType =>
    controller.connectAsCentralTo linkPeerAddress reportedPeerAddress reportedPeerAddressType
  | .connectAsPeripheralAt selfAddress centralAddress centralAddressType =>
    controller.connectAsPeripheralAt selfAddress centralAddress centralAddressType
  | .onLlControlPdu sender pdu => controller.onLlControlPdu sender pdu
  | .onClassicPdu sender pdu => controller.onClassicPdu sender pdu
  | .onPeerDisconnect selfAddress peerAddress kind reason =>
    some (controller.onPeerDisconnect selfAddress peerAddress kind reason)
  | .onPeriodicAdvertisingPdu addressType address advertisingSid info =>
    controller.tryEstablishBigSync addressType address advertisingSid info
  | .onBigTerminated broadcaster advertisingSid reason =>
    some (controller.onBigTerminated broadcaster advertisingSid reason)
  | .drainHostEvents => some { controller with hostQueue := [] }
  | .takeOutbound => some
      { controller with outboundLl := [], outboundClassic := [], outboundBigTerminations := [] }

def run (controller : Controller) (calls : List Call) : Option Controller :=
  calls.foldlM step controller

@[simp] theorem run_nil (controller : Controller) : controller.run [] = some controller := rfl

theorem run_cons (controller : Controller) (call : Call) (calls : List Call) :
    controller.run (call :: calls) = (controller.step call).bind fun next => next.run calls :=
  List.foldlM_cons

end Bumble.Controller
