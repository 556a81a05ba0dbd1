import Bumble.ControllerLinks

/-!
# Classic links (`bumble-controller/src/lib.rs`)

The commands for Classic ACL and synchronous connections, role switches, and the
LMP PDUs that controllers exchange for them.  A connection is found by the
address of its peer; until it is established its handle is zero.
-/

namespace Bumble.Controller

open Bumble.Smp (Address Octets)

/-! ## 1. Reports -/

def pushClassicConnectionComplete (controller : Controller) (handle : Nat) (bdAddr : Address) :
    Controller :=
  controller.push (.connectionComplete hciSuccess handle bdAddr)

def pushClassicConnectionFailure (controller : Controller) (status : UInt8)
    (bdAddr : Address) : Controller :=
  controller.push (.connectionComplete status 0 bdAddr)

def pushRoleChange (controller : Controller) (status : UInt8) (bdAddr : Address)
    (newRole : Nat) : Controller :=
  controller.push (.roleChange status bdAddr newRole)

def pushSynchronousConnectionComplete (controller : Controller) (handle : Nat)
    (bdAddr : Address) (linkType airMode : UInt8) : Controller :=
  controller.push (.synchronousConnectionComplete hciSuccess handle bdAddr linkType airMode)

/-! ## 2. ACL connections and roles -/

def Connection.ofPeer (peer : Address) (connection : Connection) : Bool :=
  connection.peerAddress = peer

/-- A connection with this peer that is not established yet. -/
def Connection.pendingOf (peer : Address) (connection : Connection) : Bool :=
  connection.peerAddress = peer && connection.handle = 0

def Connection.withHandle (handle : Nat) (connection : Connection) : Connection :=
  { connection with handle := handle }

def Connection.withRole (role : Nat) (connection : Connection) : Connection :=
  { connection with role := role }

/-- Puts a connection that is not established into the table. -/
def pushClassicConnection (controller : Controller) (role : Nat) (allowRoleSwitch : Bool)
    (peer : Address) : Controller :=
  { controller with
    classicConnections := controller.classicConnections ++
      [{ handle := 0
         role := role
         classicAllowRoleSwitch := allowRoleSwitch
         selfAddress := controller.publicAddress
         peerAddress := peer }] }

def handleCreateConnection (controller : Controller) (bdAddr : Address)
    (allowRoleSwitch : UInt8) : Controller :=
  ((controller.pushClassicConnection roleCentral (allowRoleSwitch ≠ 0) bdAddr).commandStatus
      hciCreateConnectionCommand hciSuccess).queueClassic
    controller.publicAddress bdAddr .hostConnectionReq

/-- Establishes the first connection with the peer and tells the peer. -/
def completeClassicAccept (controller : Controller) (bdAddr : Address) : Option Controller :=
  match controller.classicConnectionWith bdAddr with
  | none => some controller
  | some _ => do
    let (handle, controller) ← controller.allocateHandle
    let controller := { controller with
      classicConnections := updateFirst (Connection.ofPeer bdAddr) (Connection.withHandle handle)
        controller.classicConnections }
    return (controller.pushClassicConnectionComplete handle bdAddr).queueClassic
      controller.publicAddress bdAddr .accepted

/-- Asks the peer to switch roles, and records what for. -/
def requestRoleSwitch (controller : Controller) (bdAddr : Address)
    (purpose : ClassicRoleSwitchPurpose) : Controller :=
  let pending : PendingClassicRoleSwitch := { peerAddress := bdAddr, purpose := purpose }
  { controller with
    pendingClassicRoleSwitches :=
      controller.pendingClassicRoleSwitches ++ [pending] }.queueClassic
    controller.publicAddress bdAddr .switchReq

def handleAcceptConnectionRequest (controller : Controller) (bdAddr : Address) (role : Nat) :
    Option Controller :=
  if role > rolePeripheral then
    some (controller.commandStatus hciAcceptConnectionRequestCommand
      invalidCommandParameters)
  else
    match controller.classicConnectionWith bdAddr with
    | none => some (controller.commandStatus hciAcceptConnectionRequestCommand
        unknownConnectionIdentifierError)
    | some _ =>
      let controller := controller.commandStatus hciAcceptConnectionRequestCommand hciSuccess
      if role = roleCentral then some (controller.requestRoleSwitch bdAddr .acceptConnection)
      else controller.completeClassicAccept bdAddr

def handleSwitchRole (controller : Controller) (bdAddr : Address) (role : Nat) : Controller :=
  if role > rolePeripheral then
    controller.commandStatus hciSwitchRoleCommand invalidCommandParameters
  else
    match controller.classicConnections.find? (fun connection =>
        connection.peerAddress = bdAddr && connection.handle ≠ 0) with
    | none => controller.commandStatus hciSwitchRoleCommand commandDisallowedError
    | some connection =>
      let controller := controller.commandStatus hciSwitchRoleCommand hciSuccess
      if connection.role = role then
        controller.pushRoleChange hciSuccess bdAddr connection.role
      else controller.requestRoleSwitch bdAddr (.switchRoleCommand role)

def handleRemoteNameRequest (controller : Controller) (bdAddr : Address) : Controller :=
  (controller.commandStatus hciRemoteNameRequestCommand hciSuccess).queueClassic
    controller.publicAddress bdAddr .nameReq

def handleReadRemoteSupportedFeatures (controller : Controller) (connectionHandle : Nat) :
    Controller :=
  match controller.classicConnections.find? (·.handle = connectionHandle) with
  | none => controller.commandStatus hciReadRemoteSupportedFeaturesCommand
      invalidCommandParameters
  | some connection =>
    (controller.commandStatus hciReadRemoteSupportedFeaturesCommand hciSuccess).queueClassic
      connection.selfAddress connection.peerAddress .featuresReq

/-- A page of LMP features; there is nothing on a page that does not exist. -/
def featurePage (controller : Controller) (pageNumber : UInt8) : Octets 8 :=
  controller.settings.lmpFeaturePages.getD pageNumber.toNat (Vector.replicate 8 0)

def handleReadRemoteExtendedFeatures (controller : Controller) (connectionHandle : Nat)
    (pageNumber : UInt8) : Controller :=
  match controller.classicConnections.find? (·.handle = connectionHandle) with
  | none => controller.commandStatus hciReadRemoteExtendedFeaturesCommand
      unknownConnectionIdentifierError
  | some connection =>
    (controller.commandStatus hciReadRemoteExtendedFeaturesCommand hciSuccess).queueClassic
      connection.selfAddress connection.peerAddress
      (.featuresReqExt pageNumber (controller.featurePage pageNumber))

def handleSetClassicEncryption (controller : Controller) (connectionHandle : Nat)
    (encryptionEnable : UInt8) : Controller :=
  match controller.classicConnections.find? (·.handle = connectionHandle) with
  | none => controller.commandStatus hciSetConnectionEncryptionCommand
      unknownConnectionIdentifierError
  | some connection =>
    if encryptionEnable > 1 then
      controller.commandStatus hciSetConnectionEncryptionCommand invalidCommandParameters
    else
      ((controller.commandStatus hciSetConnectionEncryptionCommand hciSuccess).push
          (.encryptionChange hciSuccess connectionHandle encryptionEnable)).queueClassic
        connection.selfAddress connection.peerAddress
        (.encryptionModeReq (encryptionEnable ≠ 0))

/-! ## 3. Synchronous connections -/

def SynchronousConnection.pendingOf (peer : Address) (connection : SynchronousConnection) :
    Bool :=
  connection.peerAddress = peer && connection.handle = 0

def SynchronousConnection.establishedWith (peer : Address)
    (connection : SynchronousConnection) : Bool :=
  connection.peerAddress = peer && connection.handle ≠ 0

/-- The air mode for the coding format of an enhanced command. -/
def airModeForCodingFormat (codingFormat : UInt8) : UInt8 :=
  if codingFormat = airModeCvsd then airModeCvsd else airModeTransparent

def handleSetupSynchronousConnection (controller : Controller) (aclHandle : Nat)
    (linkType airMode : UInt8) : Controller :=
  match controller.classicConnections.find? (·.handle = aclHandle) with
  | none => controller.commandStatus hciEnhancedSetupSynchronousConnectionCommand
      unknownConnectionIdentifierError
  | some acl =>
    if controller.synchronousConnections.any
        (SynchronousConnection.establishedWith acl.peerAddress) then
      controller.commandStatus hciEnhancedSetupSynchronousConnectionCommand
        invalidCommandParameters
    else
      let connection : SynchronousConnection :=
        { handle := 0
          aclHandle := aclHandle
          selfAddress := acl.selfAddress
          peerAddress := acl.peerAddress
          linkType := linkType
          airMode := airMode }
      let controller := { controller with
        synchronousConnections := controller.synchronousConnections ++ [connection] }
      (controller.commandStatus hciEnhancedSetupSynchronousConnectionCommand
        hciSuccess).queueClassic acl.selfAddress acl.peerAddress
        (.synchronousConnectionReq linkType airMode)

def handleAcceptSynchronousConnection (controller : Controller) (commandOpcode : UInt16)
    (bdAddr : Address) (requestedAirMode : UInt8) : Option Controller :=
  match controller.synchronousConnections.find? (SynchronousConnection.pendingOf bdAddr) with
  | none => some (controller.commandStatus commandOpcode unknownConnectionIdentifierError)
  | some connection => do
    let (handle, controller) ← controller.allocateHandle
    let controller := { controller with
      synchronousConnections := updateFirst (SynchronousConnection.pendingOf bdAddr)
        (fun connection => { connection with handle := handle, airMode := requestedAirMode })
        controller.synchronousConnections }
    return ((controller.commandStatus commandOpcode hciSuccess).pushSynchronousConnectionComplete
        handle bdAddr connection.linkType requestedAirMode).queueClassic
      connection.selfAddress connection.peerAddress
      (.synchronousConnectionAccepted connection.linkType requestedAirMode)

def handleRejectSynchronousConnection (controller : Controller) (bdAddr : Address)
    (reason : UInt8) : Controller :=
  match controller.synchronousConnections.find? (SynchronousConnection.pendingOf bdAddr) with
  | none => controller.commandStatus hciRejectSynchronousConnectionRequestCommand
      unknownConnectionIdentifierError
  | some connection =>
    let controller := { controller with
      synchronousConnections := controller.synchronousConnections.eraseP
        (SynchronousConnection.pendingOf bdAddr) }
    (controller.commandStatus hciRejectSynchronousConnectionRequestCommand
      hciSuccess).queueClassic connection.selfAddress connection.peerAddress
      (.synchronousConnectionRejected reason)

/-! ## 4. LMP PDUs -/

def otherRole (role : Nat) : Nat := if role = roleCentral then rolePeripheral else roleCentral

def onSwitchReq (controller : Controller) (sender : Address) : Controller :=
  match controller.classicConnectionWith sender with
  | none => controller
  | some connection =>
    if connection.classicAllowRoleSwitch then
      let newRole := otherRole connection.role
      ({ controller with
          classicConnections := updateFirst (Connection.ofPeer sender)
            (Connection.withRole newRole) controller.classicConnections }.pushRoleChange
          hciSuccess sender newRole).queueClassic controller.publicAddress sender .switchAccepted
    else
      controller.queueClassic controller.publicAddress sender
        (.switchRejected roleChangeNotAllowedError)

/-- The role switch that an answer of the peer is taken for: the oldest with it. -/
def pendingSwitchWith (controller : Controller) (peer : Address) :
    Option PendingClassicRoleSwitch :=
  controller.pendingClassicRoleSwitches.find? fun pending => pending.peerAddress = peer

def dropPendingSwitch (controller : Controller) (peer : Address) : Controller :=
  { controller with
    pendingClassicRoleSwitches := controller.pendingClassicRoleSwitches.eraseP
      fun pending => pending.peerAddress = peer }

/-- Sets the role of the first connection with the peer and reports it. -/
def takeRole (controller : Controller) (peer : Address) (role : Nat) : Controller :=
  { controller with
    classicConnections := updateFirst (Connection.ofPeer peer) (Connection.withRole role)
      controller.classicConnections }.pushRoleChange hciSuccess peer role

def onSwitchAccepted (controller : Controller) (sender : Address) : Option Controller :=
  match controller.pendingSwitchWith sender with
  | none => some controller
  | some pending =>
    let controller := controller.dropPendingSwitch sender
    match pending.purpose with
    | .acceptConnection =>
      (controller.takeRole sender roleCentral).completeClassicAccept sender
    | .switchRoleCommand requestedRole => some (controller.takeRole sender requestedRole)

def onSwitchRejected (controller : Controller) (sender : Address) (reason : UInt8) :
    Controller :=
  match controller.pendingSwitchWith sender with
  | none => controller
  | some pending =>
    let controller := controller.dropPendingSwitch sender
    match pending.purpose with
    | .acceptConnection =>
      let controller := controller.pushClassicConnectionFailure reason sender
      { controller with
        classicConnections := controller.classicConnections.filter
          (!Connection.ofPeer sender ·) }.queueClassic controller.publicAddress sender
        (.rejected reason)
    | .switchRoleCommand _ =>
      controller.pushRoleChange reason sender
        (((controller.classicConnectionWith sender).map (·.role)).getD roleCentral)

def onAccepted (controller : Controller) (sender : Address) : Option Controller :=
  match controller.classicConnections.find? (Connection.pendingOf sender) with
  | none => some controller
  | some _ => do
    let (handle, controller) ← controller.allocateHandle
    return { controller with
      classicConnections := updateFirst (Connection.pendingOf sender)
        (Connection.withHandle handle)
        controller.classicConnections }.pushClassicConnectionComplete handle sender

def onRejected (controller : Controller) (sender : Address) (reason : UInt8) : Controller :=
  match controller.classicConnections.find? (Connection.pendingOf sender) with
  | none => controller
  | some _ =>
    { controller with
      classicConnections := controller.classicConnections.eraseP
        (Connection.pendingOf sender) }.pushClassicConnectionFailure reason sender

/-- What is done for the first connection with the sender, if there is one. -/
def forConnectionWith (controller : Controller) (sender : Address)
    (event : Connection → Event) : Controller :=
  match controller.classicConnectionWith sender with
  | none => controller
  | some connection => controller.push (event connection)

def onSynchronousConnectionReq (controller : Controller) (sender : Address)
    (linkType airMode : UInt8) : Controller :=
  match controller.classicConnectionWith sender with
  | none => controller
  | some acl =>
    let connection : SynchronousConnection :=
      { handle := 0
        aclHandle := acl.handle
        selfAddress := controller.publicAddress
        peerAddress := sender
        linkType := linkType
        airMode := airMode }
    { controller with
      synchronousConnections := controller.synchronousConnections ++ [connection] }.push
        (.connectionRequest sender linkType)

def onSynchronousConnectionAccepted (controller : Controller) (sender : Address)
    (linkType airMode : UInt8) : Option Controller :=
  match controller.synchronousConnections.find? (SynchronousConnection.pendingOf sender) with
  | none => some controller
  | some _ => do
    let (handle, controller) ← controller.allocateHandle
    return { controller with
      synchronousConnections := updateFirst (SynchronousConnection.pendingOf sender)
        (fun connection =>
          { connection with handle := handle, linkType := linkType, airMode := airMode })
        controller.synchronousConnections }.pushSynchronousConnectionComplete
      handle sender linkType airMode

def onSynchronousConnectionRejected (controller : Controller) (sender : Address)
    (reason : UInt8) : Controller :=
  match controller.synchronousConnections.find? (SynchronousConnection.pendingOf sender) with
  | none => controller
  | some connection =>
    { controller with
      synchronousConnections := controller.synchronousConnections.eraseP
        (SynchronousConnection.pendingOf sender) }.push
      (.synchronousConnectionComplete reason 0 sender connection.linkType connection.airMode)

def onSynchronousDetach (controller : Controller) (sender : Address) (errorCode : UInt8) :
    Controller :=
  match controller.synchronousConnections.find?
      (SynchronousConnection.establishedWith sender) with
  | none => controller
  | some connection =>
    { controller with
      synchronousConnections := controller.synchronousConnections.eraseP
        (SynchronousConnection.establishedWith sender) }.pushDisconnectionComplete
      connection.handle errorCode

def onDetach (controller : Controller) (sender : Address) (errorCode : UInt8) : Controller :=
  match controller.classicConnectionWith sender with
  | none => controller
  | some connection =>
    let controller := { controller with
      classicConnections := controller.classicConnections.eraseP (Connection.ofPeer sender) }
    let (dependentHandles, controller) :=
      controller.removeSynchronousForPeer connection.selfAddress connection.peerAddress
    controller.pushDisconnections dependentHandles connection.handle errorCode

/-- A name in the field of 248 octets: cut, or filled with zeros. -/
def nameField (name : Bytes) : Bytes := (name ++ List.replicate 248 0).take 248

def onClassicPdu (controller : Controller) (sender : Address) : ClassicPdu → Option Controller
  | .hostConnectionReq =>
    some ((controller.pushClassicConnection rolePeripheral controller.classicAllowRoleSwitch
      sender).push (.connectionRequest sender linkTypeAcl))
  | .accepted => controller.onAccepted sender
  | .rejected reason => some (controller.onRejected sender reason)
  | .switchReq => some (controller.onSwitchReq sender)
  | .switchAccepted => controller.onSwitchAccepted sender
  | .switchRejected reason => some (controller.onSwitchRejected sender reason)
  | .nameReq => some (controller.queueClassic controller.publicAddress sender
      (.nameRes (nameField controller.settings.name)))
  | .nameRes name =>
    some (controller.push (.remoteNameRequestComplete hciSuccess sender (nameField name)))
  | .featuresReq => some (controller.queueClassic controller.publicAddress sender
      (.featuresRes (controller.featurePage 0)))
  | .featuresRes features => some (controller.forConnectionWith sender fun connection =>
      .readRemoteSupportedFeaturesComplete hciSuccess connection.handle features)
  | .featuresReqExt pageNumber _ => some (controller.queueClassic controller.publicAddress sender
      (.featuresResExt pageNumber
        (UInt8.ofNat (controller.settings.lmpFeaturePages.length - 1))
        (controller.featurePage pageNumber)))
  | .featuresResExt pageNumber maxPageNumber features =>
    some (controller.forConnectionWith sender fun connection =>
      .readRemoteExtendedFeaturesComplete hciSuccess connection.handle pageNumber maxPageNumber
        features)
  | .encryptionModeReq enable => some (controller.forConnectionWith sender fun connection =>
      .encryptionChange hciSuccess connection.handle (if enable then 1 else 0))
  | .synchronousConnectionReq linkType airMode =>
    some (controller.onSynchronousConnectionReq sender linkType airMode)
  | .synchronousConnectionAccepted linkType airMode =>
    controller.onSynchronousConnectionAccepted sender linkType airMode
  | .synchronousConnectionRejected reason =>
    some (controller.onSynchronousConnectionRejected sender reason)
  | .synchronousDetach errorCode => some (controller.onSynchronousDetach sender errorCode)
  | .detach errorCode => some (controller.onDetach sender errorCode)

end Bumble.Controller
