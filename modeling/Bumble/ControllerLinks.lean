import Bumble.ControllerState
import Bumble.FirstMatch

/-!
# Setting up and taking down links (`bumble-controller/src/lib.rs`)

LE connections on both sides, and the disconnection of any kind of link: at the
host's request, and when the peer has dropped it.
-/

namespace Bumble.Controller

open Bumble.Smp (Address)

/-! ## 1. LE connections -/

/-- Puts an LE connection into the table and reports it. -/
def pushConnectionComplete (controller : Controller) (connection : Connection)
    (reportedPeerAddress : Address) (peerAddressType : UInt8) : Controller :=
  controller.push (.leConnectionComplete hciSuccess connection.handle connection.role
    peerAddressType reportedPeerAddress)

/-- Completes the pending connection, if there is one, as the central. -/
def connectAsCentralTo (controller : Controller) (linkPeerAddress reportedPeerAddress : Address)
    (reportedPeerAddressType : UInt8) : Option Controller :=
  match controller.initiating with
  | none => some controller
  | some pending => do
    let (handle, controller) ← { controller with initiating := none }.allocateHandle
    let connection : Connection :=
      { handle := handle
        role := roleCentral
        classicAllowRoleSwitch := false
        selfAddress := if pending.ownAddressType = addressTypePublic then
          controller.publicAddress else controller.settings.randomAddress
        peerAddress := linkPeerAddress }
    let controller := controller.pushConnectionComplete connection reportedPeerAddress
      reportedPeerAddressType
    return { controller with connections := controller.connections ++ [connection] }

/-- Accepts an incoming connection as the peripheral. -/
def connectAsPeripheralAt (controller : Controller) (selfAddress centralAddress : Address)
    (centralAddressType : UInt8) : Option Controller := do
  let (handle, controller) ← controller.allocateHandle
  let connection : Connection :=
    { handle := handle
      role := rolePeripheral
      classicAllowRoleSwitch := false
      selfAddress := selfAddress
      peerAddress := centralAddress }
  let controller := controller.pushConnectionComplete connection centralAddress centralAddressType
  return { controller with connections := controller.connections ++ [connection] }

/-! ## 2. Taking links down -/

def CisLink.boundTo (selfAddress peerAddress : Address) (link : CisLink) : Bool :=
  link.aclSelf = some selfAddress && link.aclPeer = some peerAddress

def CisLink.named (cigId cisId : UInt8) (link : CisLink) : Bool :=
  link.cigId = cigId && link.cisId = cisId

/-- A central keeps the handle of a CIS that goes down. -/
def CisLink.unbind (link : CisLink) : CisLink :=
  { link with aclSelf := none, aclPeer := none }

/-- Takes every synchronous link with the peer away, and tells the handles. -/
def removeSynchronousForPeer (controller : Controller) (selfAddress peerAddress : Address) :
    List Nat × Controller :=
  let ofPeer := fun connection : SynchronousConnection =>
    connection.selfAddress = selfAddress && connection.peerAddress = peerAddress
  (((controller.synchronousConnections.filter ofPeer).filter (·.handle ≠ 0)).map (·.handle),
    { controller with
      synchronousConnections := controller.synchronousConnections.filter (!ofPeer ·) })

/-- Takes every CIS of an ACL connection down, and tells the handles. -/
def disconnectCisForAcl (controller : Controller) (selfAddress peerAddress : Address) :
    List Nat × Controller :=
  let bound := CisLink.boundTo selfAddress peerAddress
  ((controller.centralCisLinks.filter bound).map (·.handle) ++
      (controller.peripheralCisLinks.filter bound).map (·.handle),
    { controller with
      centralCisLinks :=
        controller.centralCisLinks.map fun link => if bound link then link.unbind else link
      peripheralCisLinks := controller.peripheralCisLinks.filter (!bound ·) })

def disconnectCisForPeer (controller : Controller) (selfAddress peerAddress : Address)
    (cigId cisId : UInt8) : Option (Nat × Controller) :=
  let matching := fun link : CisLink =>
    link.named cigId cisId && link.boundTo selfAddress peerAddress
  match controller.centralCisLinks.find? matching with
  | some link => some (link.handle,
      { controller with
        centralCisLinks := updateFirst matching CisLink.unbind controller.centralCisLinks })
  | none =>
    (controller.peripheralCisLinks.find? matching).map fun link =>
      (link.handle, { controller with
        peripheralCisLinks := controller.peripheralCisLinks.eraseP matching })

/-- A terminated CIS: a link of a peripheral goes, one of a central keeps its handle. -/
def onLeCisDisconnected (controller : Controller) (cigId cisId : UInt8) (reason : UInt8) :
    Controller :=
  match controller.peripheralCisLinks.find? (CisLink.named cigId cisId) with
  | some link =>
    { controller with
      peripheralCisLinks :=
        controller.peripheralCisLinks.eraseP (CisLink.named cigId cisId) }.pushDisconnectionComplete
      link.handle reason
  | none =>
    match controller.centralCisLinks.find? (CisLink.named cigId cisId) with
    | some link =>
      { controller with
        centralCisLinks := updateFirst (CisLink.named cigId cisId) CisLink.unbind
          controller.centralCisLinks }.pushDisconnectionComplete link.handle reason
    | none => controller

/-- Reports a lost link and the links that were carried by it. -/
def pushDisconnections (controller : Controller) (dependentHandles : List Nat) (handle : Nat)
    (reason : UInt8) : Controller :=
  controller.pushAll ((dependentHandles ++ [handle]).map
    fun handle => Event.disconnectionComplete hciSuccess handle reason)

/-- The host disconnects a handle.  The first kind of link that has it is taken down. -/
def requestDisconnect (controller : Controller) (handle : Nat) (reason : UInt8) :
    Bool × Controller :=
  let controller := controller.commandStatus hciDisconnectCommand hciSuccess
  match controller.connections.find? (·.handle = handle) with
  | some connection =>
    let controller := { controller with
      connections := controller.connections.eraseP (·.handle = handle) }
    let (dependentHandles, controller) :=
      controller.disconnectCisForAcl connection.selfAddress connection.peerAddress
    let controller := controller.queueLl connection.selfAddress connection.peerAddress
      (.terminateInd reason)
    (true, controller.pushDisconnections dependentHandles handle reason)
  | none =>
  match controller.classicConnections.find? (·.handle = handle) with
  | some connection =>
    let controller := { controller with
      classicConnections := controller.classicConnections.eraseP (·.handle = handle) }
    let (dependentHandles, controller) :=
      controller.removeSynchronousForPeer connection.selfAddress connection.peerAddress
    let controller := controller.queueClassic connection.selfAddress connection.peerAddress
      (.detach reason)
    (true, controller.pushDisconnections dependentHandles handle reason)
  | none =>
  match controller.synchronousConnections.find? (·.handle = handle) with
  | some connection =>
    let controller := { controller with
      synchronousConnections := controller.synchronousConnections.eraseP (·.handle = handle) }
    let controller := controller.queueClassic connection.selfAddress connection.peerAddress
      (.synchronousDetach reason)
    (true, controller.pushDisconnectionComplete handle reason)
  | none =>
  match (controller.centralCisLinks ++ controller.peripheralCisLinks).find? (·.handle = handle) with
  | some link =>
    match link.aclSelf, link.aclPeer with
    | some aclSelf, some aclPeer =>
      let controller := controller.queueLl aclSelf aclPeer
        (.cisTerminateInd link.cigId link.cisId reason)
      (true, controller.onLeCisDisconnected link.cigId link.cisId reason)
    | _, _ => (true, controller)
  | none => (false, controller)

/-- The link that a peer has dropped, taken out of its table, with its handle and the
handles of the links it carried. -/
def takeDropped (controller : Controller) (selfAddress peerAddress : Address)
    (kind : ConnectionKind) : Option (Nat × List Nat × Controller) :=
  let between := fun connection : Connection =>
    connection.selfAddress = selfAddress && connection.peerAddress = peerAddress
  match kind with
  | .leAcl =>
    (controller.connections.find? between).map fun connection =>
      (connection.handle, { controller with
        connections := controller.connections.eraseP between }.disconnectCisForAcl
          selfAddress peerAddress)
  | .classicAcl =>
    (controller.classicConnections.find? between).map fun connection =>
      (connection.handle, { controller with
        classicConnections := controller.classicConnections.eraseP between
        }.removeSynchronousForPeer selfAddress peerAddress)
  | .synchronous =>
    let betweenThese := fun connection : SynchronousConnection =>
      connection.selfAddress = selfAddress && connection.peerAddress = peerAddress
    (controller.synchronousConnections.find? betweenThese).map fun connection =>
      (connection.handle, [], { controller with
        synchronousConnections := controller.synchronousConnections.eraseP betweenThese })
  | .iso cigId cisId =>
    (controller.disconnectCisForPeer selfAddress peerAddress cigId cisId).map
      fun (handle, controller) => (handle, [], controller)

def onPeerDisconnect (controller : Controller) (selfAddress peerAddress : Address)
    (kind : ConnectionKind) (reason : UInt8) : Controller :=
  match controller.takeDropped selfAddress peerAddress kind with
  | some (handle, dependentHandles, controller) =>
    controller.pushDisconnections dependentHandles handle reason
  | none => controller

end Bumble.Controller
