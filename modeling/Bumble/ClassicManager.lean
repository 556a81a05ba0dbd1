import Bumble.ClassicChannel
import Bumble.OrderedMap

/-!
# The manager of Classic channels (`bumble-l2cap/src/classic.rs`)

Servers and channels in ordered maps, the handlers of the signaling frames and
the data path, with and without retransmission.  A call that fails keeps what
it had already done, as in the source.  Channels are never removed.
-/

namespace Bumble.Classic

open Bumble.L2cap (Error L2capPdu ControlFrame ConfigurationOption InformationCapabilities
  InformationResponse hexCid hexDigits l2capSignalingCid encodeConfigurationOptions
  decodeConfigurationOptions configurationSuccess connectionSuccessful
  connectionRefusedPsmNotSupported connectionRefusedNoResourcesAvailable)
open Bumble.Ertm (ErtmEngine EngineCall)

/-! ## 1. The manager -/

structure ChannelManager where
  servers : Std.ExtTreeMap UInt32 ChannelSpec := ∅
  channels : Std.ExtTreeMap UInt16 ClassicChannel := ∅
  acceptedChannels : List UInt16 := []
  outbound : List L2capPdu := []
  information : InformationCapabilities := {}
  informationResponses : List InformationResponse := []
  identifier : UInt8 := 0

abbrev ManagerCall (α : Type) := Outcome ChannelManager Error α

def channelNotFound (cid : UInt16) : Error :=
  .invalidPacket s!"channel not found for CID {hexCid cid}"

def notUsingErtm : Error := .invalidPacket "channel is not using ERTM"

namespace ChannelManager

def withInformationCapabilities (information : InformationCapabilities) : ChannelManager :=
  { information }

/-! ### Identifiers, queues and CIDs -/

def nextIdentifier (manager : ChannelManager) : UInt8 × ChannelManager :=
  let identifier := if manager.identifier + 1 = 0 then 1 else manager.identifier + 1
  (identifier, { manager with identifier })

def queueControl (manager : ChannelManager) (frame : ControlFrame) : ChannelManager :=
  { manager with outbound := manager.outbound ++ [⟨l2capSignalingCid, frame.toBytes⟩] }

/-- The `find` over the CIDs from `cid` on. -/
def allocateCidLoop (manager : ChannelManager) : Nat → UInt16 → Option UInt16
  | 0, _ => none
  | fuel + 1, cid =>
    if manager.channels.contains cid then manager.allocateCidLoop fuel (cid + 1) else some cid

def allocateCid (manager : ChannelManager) : Except Error UInt16 :=
  match manager.allocateCidLoop
      (l2capAclUDynamicCidRangeEnd.toNat + 1 - l2capAclUDynamicCidRangeStart.toNat)
      l2capAclUDynamicCidRangeStart with
  | some cid => .ok cid
  | none => .error (.invalidPacket "no free Classic CID")

/-- The `find` over every other PSM from `psm` on. -/
def allocatePsmLoop (manager : ChannelManager) : Nat → UInt32 → Option UInt32
  | 0, _ => none
  | fuel + 1, psm =>
    if (validatePsm psm).isOk && !manager.servers.contains psm then some psm
    else manager.allocatePsmLoop fuel (psm + 2)

/-! ### Servers and outgoing channels -/

def requestInformation (manager : ChannelManager) (infoType : UInt16) : UInt8 × ChannelManager :=
  let (identifier, manager) := manager.nextIdentifier
  (identifier, manager.queueControl (.informationRequest identifier infoType))

def registerServerWithSpec (manager : ChannelManager) (psm : Option UInt32) (spec : ChannelSpec) :
    ManagerCall UInt32 :=
  let chosen : Except Error UInt32 :=
    match psm with
    | some psm => (validatePsm psm).map fun _ => psm
    | none =>
      match manager.allocatePsmLoop
          ((l2capPsmDynamicRangeEnd.toNat - l2capPsmDynamicRangeStart.toNat) / 2 + 1)
          l2capPsmDynamicRangeStart with
      | some psm => .ok psm
      | none => .error (.invalidPacket "no free Classic PSM")
  match chosen with
  | .error error => .fail manager error
  | .ok psm =>
    if manager.servers.contains psm then
      .fail manager (.invalidPacket s!"PSM 0x{hexDigits psm.toNat} is already in use")
    else .ok { manager with servers := manager.servers.insert psm spec } psm

def registerServer (manager : ChannelManager) (psm : Option UInt32) (spec : ClassicChannelSpec) :
    ManagerCall UInt32 :=
  match validateSpec spec with
  | .error error => .fail manager error
  | .ok () => manager.registerServerWithSpec psm (.basic spec)

def registerErtmServer (manager : ChannelManager) (psm : Option UInt32) (spec : ErtmChannelSpec) :
    ManagerCall UInt32 :=
  match validateErtmSpec spec with
  | .error error => .fail manager error
  | .ok () => manager.registerServerWithSpec psm (.ertm spec)

def unregisterServer (manager : ChannelManager) (psm : UInt32) : Bool × ChannelManager :=
  (manager.servers.contains psm, { manager with servers := manager.servers.erase psm })

def connectWithSpec (manager : ChannelManager) (psm : UInt32) (spec : ChannelSpec) :
    ManagerCall UInt16 :=
  match manager.allocateCid with
  | .error error => .fail manager error
  | .ok sourceCid =>
    let (identifier, manager) := manager.nextIdentifier
    let manager := { manager with
      channels := manager.channels.insert sourceCid (.newOutgoing psm sourceCid spec) }
    .ok (manager.queueControl (.connectionRequest identifier psm sourceCid)) sourceCid

def connect (manager : ChannelManager) (psm : UInt32) (spec : ClassicChannelSpec) :
    ManagerCall UInt16 :=
  match validatePsm psm with
  | .error error => .fail manager error
  | .ok () =>
    match validateSpec spec with
    | .error error => .fail manager error
    | .ok () => manager.connectWithSpec psm (.basic spec)

def connectErtm (manager : ChannelManager) (psm : UInt32) (spec : ErtmChannelSpec) :
    ManagerCall UInt16 :=
  match validatePsm psm with
  | .error error => .fail manager error
  | .ok () =>
    match validateErtmSpec spec with
    | .error error => .fail manager error
    | .ok () => manager.connectWithSpec psm (.ertm spec)

/-! ### Data -/

/-- The `for frame in frames` loop of `flush_ertm`: it stops at a frame that is
    too large for its check sequence, and the frames behind it are gone. -/
def queueFrames (manager : ChannelManager) (destinationCid : UInt16) (fcsEnabled : Bool) :
    List Bytes → ManagerCall Unit
  | [] => .ok manager ()
  | frame :: rest =>
    match (if fcsEnabled then appendFcs destinationCid frame else .ok frame) with
    | .error error => .fail manager error
    | .ok payload =>
      ({ manager with outbound := manager.outbound ++ [⟨destinationCid, payload⟩] } :
        ChannelManager).queueFrames destinationCid fcsEnabled rest

def flushErtm (manager : ChannelManager) (localCid : UInt16) : ManagerCall Unit :=
  match manager.channels[localCid]? with
  | none => .fail manager (channelNotFound localCid)
  | some channel =>
    match channel.ertm with
    | none => .fail manager notUsingErtm
    | some engine =>
      let drained := { channel with
        ertm := some { engine with outbound := [], received := [] }
        received := channel.received ++ engine.received }
      ({ manager with channels := manager.channels.insert localCid drained } :
        ChannelManager).queueFrames channel.destinationCid channel.fcsEnabled engine.outbound

/-- An engine's method called through `channels.get_mut`, and the flush after
    it when it returned normally. -/
def callEngine (manager : ChannelManager) (cid : UInt16) (channel : ClassicChannel)
    (call : EngineCall Unit) : ManagerCall Unit :=
  let manager := { manager with
    channels := manager.channels.insert cid { channel with ertm := some call.state } }
  match call.result with
  | .error error => .fail manager error
  | .ok () => manager.flushErtm cid

/-- The loop of `tick` over the CIDs that had an engine. -/
def tickLoop (manager : ChannelManager) (ticks : UInt32) : List UInt16 → ManagerCall Unit
  | [] => .ok manager ()
  | cid :: rest =>
    match manager.channels[cid]? with
    | none => .fail manager (.panic "channel was just enumerated")
    | some channel =>
      match channel.ertm with
      | none => .fail manager (.panic "ERTM engine was just checked")
      | some engine =>
        (manager.callEngine cid channel (engine.tick ticks)).andThen fun manager _ =>
          manager.tickLoop ticks rest

def tick (manager : ChannelManager) (ticks : UInt32) : ManagerCall Unit :=
  manager.tickLoop ticks
    ((manager.channels.toList.filter fun entry => entry.2.ertm.isSome).map (·.1))

def setReceiverBusy (manager : ChannelManager) (sourceCid : UInt16) (busy : Bool) :
    ManagerCall Unit :=
  match manager.channels[sourceCid]? with
  | none => .fail manager (channelNotFound sourceCid)
  | some channel =>
    match channel.ertm with
    | none => .fail manager notUsingErtm
    | some engine => manager.callEngine sourceCid channel (engine.setReceiverBusy busy)

def send (manager : ChannelManager) (sourceCid : UInt16) (sdu : Bytes) : ManagerCall Unit :=
  match manager.channels[sourceCid]? with
  | none => .fail manager (channelNotFound sourceCid)
  | some channel =>
    if channel.state ≠ .open_ then .fail manager (.invalidPacket "channel not open")
    else
      match channel.ertm with
      | some engine => manager.callEngine sourceCid channel (engine.sendSdu sdu)
      | none =>
        if sdu.length > channel.peerMtu.toNat then
          .fail manager (.invalidPacket s!"SDU exceeds peer MTU {channel.peerMtu.toNat}")
        else
          .ok { manager with outbound := manager.outbound ++ [⟨channel.destinationCid, sdu⟩] } ()

/-- The data branch of `process_pdu`. -/
def processData (manager : ChannelManager) (localCid : UInt16) (payload : Bytes) :
    ManagerCall Unit :=
  match manager.channels[localCid]? with
  | none => .fail manager (channelNotFound localCid)
  | some channel =>
    if channel.state ≠ .open_ then
      .fail manager (.invalidPacket s!"channel {hexCid localCid} is not open")
    else
      match channel.ertm with
      | some engine =>
        match (if channel.fcsEnabled then verifyAndStripFcs localCid payload else .ok payload) with
        | .error error => .fail manager error
        | .ok frame => manager.callEngine localCid channel (engine.receiveFrame frame)
      | none =>
        if payload.length > channel.mtu.toNat then
          .fail manager (.invalidPacket s!"incoming SDU exceeds channel MTU {channel.mtu.toNat}")
        else
          .ok { manager with
            channels := manager.channels.insert localCid
              { channel with received := channel.received ++ [payload] } } ()

def disconnect (manager : ChannelManager) (sourceCid : UInt16) : ManagerCall Unit :=
  match manager.channels[sourceCid]? with
  | none => .fail manager (channelNotFound sourceCid)
  | some channel =>
    if channel.state ≠ .open_ then .fail manager (.invalidPacket "channel not open")
    else
      let manager := { manager with
        channels := manager.channels.insert sourceCid { channel with state := .waitDisconnect } }
      let (identifier, manager) := manager.nextIdentifier
      .ok (manager.queueControl
        (.disconnectionRequest identifier channel.destinationCid sourceCid)) ()

/-! ### Signaling -/

def queueConfigureRequest (manager : ChannelManager) (localCid : UInt16) : ManagerCall Unit :=
  match manager.channels[localCid]? with
  | none => .fail manager (channelNotFound localCid)
  | some channel =>
    let (identifier, manager) := manager.nextIdentifier
    match encodeConfigurationOptions (configureOptions channel.spec) with
    | .error error => .fail manager error
    | .ok options =>
      .ok (manager.queueControl
        (.configureRequest identifier channel.destinationCid 0 options)) ()

def maybeOpen (manager : ChannelManager) (localCid : UInt16) : ChannelManager :=
  match manager.channels[localCid]? with
  | none => manager
  | some channel =>
    if channel.peerConfigurationReceived ∧ channel.configurationResponseReceived ∧
        channel.state = .configuring then
      if channel.incoming ∧ ¬ channel.openAnnounced then
        { manager with
          channels := manager.channels.insert localCid
            { channel with state := .open_, openAnnounced := true }
          acceptedChannels := manager.acceptedChannels ++ [localCid] }
      else
        { manager with
          channels := manager.channels.insert localCid { channel with state := .open_ } }
    else manager

def onConnectionRequest (manager : ChannelManager) (identifier : UInt8) (psm : UInt32)
    (remoteCid : UInt16) : ManagerCall Unit :=
  match manager.servers[psm]? with
  | none =>
    .ok (manager.queueControl (.connectionResponse identifier 0 remoteCid
      connectionRefusedPsmNotSupported 0)) ()
  | some spec =>
    match manager.allocateCid with
    | .error _ =>
      .ok (manager.queueControl (.connectionResponse identifier 0 remoteCid
        connectionRefusedNoResourcesAvailable 0)) ()
    | .ok localCid =>
      let manager := { manager with
        channels := manager.channels.insert localCid
          (.newIncoming psm localCid remoteCid spec) }
      (manager.queueControl (.connectionResponse identifier localCid remoteCid
        connectionSuccessful 0)).queueConfigureRequest localCid

def onConnectionResponse (manager : ChannelManager) (destinationCid sourceCid result : UInt16) :
    ManagerCall Unit :=
  match manager.channels[sourceCid]? with
  | none =>
    .fail manager (.invalidPacket s!"connection response for unknown CID {hexCid sourceCid}")
  | some channel =>
    if channel.state ≠ .waitConnectResponse then
      .fail manager (.invalidPacket "connection response in invalid state")
    else if result ≠ connectionSuccessful then
      .ok { manager with
        channels := manager.channels.insert sourceCid
          { channel with connectionResult := some result, state := .closed } } ()
    else
      ({ manager with
        channels := manager.channels.insert sourceCid
          { channel with connectionResult := some result, destinationCid, state := .configuring }
        } : ChannelManager).queueConfigureRequest sourceCid

def onConfigureRequest (manager : ChannelManager) (identifier : UInt8) (localCid flags : UInt16)
    (encodedOptions : Bytes) : ManagerCall Unit :=
  match decodeConfigurationOptions encodedOptions with
  | .error error => .fail manager error
  | .ok options =>
    match manager.channels[localCid]? with
    | none =>
      .fail manager (.invalidPacket s!"configuration request for unknown CID {hexCid localCid}")
    | some channel =>
      let call := channel.onConfigureOptions flags options
      let manager := { manager with channels := manager.channels.insert localCid call.state }
      match call.result with
      | .error error => .fail manager error
      | .ok (result, responseOptions) =>
        match encodeConfigurationOptions responseOptions with
        | .error error => .fail manager error
        | .ok encoded =>
          .ok ((manager.queueControl (.configureResponse identifier channel.destinationCid 0 result
            encoded)).maybeOpen localCid) ()

def onConfigureResponse (manager : ChannelManager) (localCid result : UInt16) : ManagerCall Unit :=
  match manager.channels[localCid]? with
  | none =>
    .fail manager (.invalidPacket s!"configuration response for unknown CID {hexCid localCid}")
  | some channel =>
    let channel :=
      if result = configurationSuccess then
        { channel with configurationResponseReceived := true }
      else { channel with connectionResult := some result, state := .closed }
    .ok (({ manager with channels := manager.channels.insert localCid channel } :
      ChannelManager).maybeOpen localCid) ()

def onDisconnectionRequest (manager : ChannelManager) (identifier : UInt8)
    (localCid remoteCid : UInt16) : ManagerCall Unit :=
  match manager.channels[localCid]? with
  | none =>
    .fail manager (.invalidPacket s!"disconnection request for unknown CID {hexCid localCid}")
  | some channel =>
    if channel.destinationCid ≠ remoteCid then
      .fail manager (.invalidPacket "disconnection CID mismatch")
    else
      let manager := { manager with
        channels := manager.channels.insert localCid { channel with state := .closed } }
      .ok (manager.queueControl (.disconnectionResponse identifier localCid remoteCid)) ()

def onDisconnectionResponse (manager : ChannelManager) (destinationCid sourceCid : UInt16) :
    ManagerCall Unit :=
  match manager.channels[sourceCid]? with
  | none =>
    .fail manager (.invalidPacket s!"disconnection response for unknown CID {hexCid sourceCid}")
  | some channel =>
    if channel.destinationCid ≠ destinationCid then
      .fail manager (.invalidPacket "disconnection CID mismatch")
    else
      .ok { manager with
        channels := manager.channels.insert sourceCid { channel with state := .closed } } ()

def processControl (manager : ChannelManager) : ControlFrame → ManagerCall Unit
  | .connectionRequest identifier psm sourceCid =>
    manager.onConnectionRequest identifier psm sourceCid
  | .connectionResponse _ destinationCid sourceCid result _ =>
    manager.onConnectionResponse destinationCid sourceCid result
  | .configureRequest identifier destinationCid flags options =>
    manager.onConfigureRequest identifier destinationCid flags options
  | .configureResponse _ sourceCid _ result _ => manager.onConfigureResponse sourceCid result
  | .disconnectionRequest identifier destinationCid sourceCid =>
    manager.onDisconnectionRequest identifier destinationCid sourceCid
  | .disconnectionResponse _ destinationCid sourceCid =>
    manager.onDisconnectionResponse destinationCid sourceCid
  | .echoRequest identifier data => .ok (manager.queueControl (.echoResponse identifier data)) ()
  | .informationRequest identifier infoType =>
    .ok (manager.queueControl (manager.information.response identifier infoType)) ()
  | .informationResponse identifier infoType result data =>
    .ok { manager with
      informationResponses :=
        manager.informationResponses ++ [⟨identifier, infoType, result, data⟩] } ()
  | .commandReject .. | .echoResponse .. | .connectionParameterUpdateRequest ..
  | .connectionParameterUpdateResponse .. | .leCreditBasedConnectionRequest ..
  | .leCreditBasedConnectionResponse .. | .leFlowControlCredit ..
  | .creditBasedConnectionRequest .. | .creditBasedConnectionResponse ..
  | .creditBasedReconfigureRequest .. | .creditBasedReconfigureResponse ..
  | .generic .. => .ok manager ()

def processPdu (manager : ChannelManager) (pdu : L2capPdu) : ManagerCall Unit :=
  if pdu.cid = l2capSignalingCid then
    match ControlFrame.fromBytes pdu.payload with
    | .error error => .fail manager error
    | .ok frame => manager.processControl frame
  else manager.processData pdu.cid pdu.payload

def processBytes (manager : ChannelManager) (bytes : Bytes) : ManagerCall Unit :=
  match L2capPdu.fromBytes bytes with
  | .error error => .fail manager error
  | .ok pdu => manager.processPdu pdu

end ChannelManager

/-! ## 2. The public calls -/

/-- Every public call that changes the manager, and every PDU. -/
inductive ClassicOp where
  | registerServer (psm : Option UInt32) (spec : ClassicChannelSpec)
  | registerErtmServer (psm : Option UInt32) (spec : ErtmChannelSpec)
  | unregisterServer (psm : UInt32)
  | requestInformation (infoType : UInt16)
  | pollInformationResponse
  | drainInformationResponses
  | connect (psm : UInt32) (spec : ClassicChannelSpec)
  | connectErtm (psm : UInt32) (spec : ErtmChannelSpec)
  | popReceived (sourceCid : UInt16)
  | pollAcceptedChannel
  | pollOutbound
  | drainOutbound
  | tick (ticks : UInt32)
  | setReceiverBusy (sourceCid : UInt16) (busy : Bool)
  | processPdu (pdu : L2capPdu)
  | processBytes (bytes : Bytes)
  | send (sourceCid : UInt16) (sdu : Bytes)
  | disconnect (sourceCid : UInt16)

namespace ClassicOp

def apply (op : ClassicOp) (manager : ChannelManager) : ChannelManager :=
  match op with
  | registerServer psm spec => (manager.registerServer psm spec).state
  | registerErtmServer psm spec => (manager.registerErtmServer psm spec).state
  | unregisterServer psm => (manager.unregisterServer psm).2
  | requestInformation infoType => (manager.requestInformation infoType).2
  | pollInformationResponse =>
    { manager with informationResponses := manager.informationResponses.tail }
  | drainInformationResponses => { manager with informationResponses := [] }
  | connect psm spec => (manager.connect psm spec).state
  | connectErtm psm spec => (manager.connectErtm psm spec).state
  | popReceived sourceCid =>
    { manager with
      channels := manager.channels.modify sourceCid fun channel =>
        { channel with received := channel.received.tail } }
  | pollAcceptedChannel => { manager with acceptedChannels := manager.acceptedChannels.tail }
  | pollOutbound => { manager with outbound := manager.outbound.tail }
  | drainOutbound => { manager with outbound := [] }
  | tick ticks => (manager.tick ticks).state
  | setReceiverBusy sourceCid busy => (manager.setReceiverBusy sourceCid busy).state
  | processPdu pdu => (manager.processPdu pdu).state
  | processBytes bytes => (manager.processBytes bytes).state
  | send sourceCid sdu => (manager.send sourceCid sdu).state
  | disconnect sourceCid => (manager.disconnect sourceCid).state

def pdu? : ClassicOp → Option L2capPdu
  | processPdu pdu => some pdu
  | processBytes bytes => (L2capPdu.fromBytes bytes).toOption
  | _ => none

def frame? (op : ClassicOp) : Option ControlFrame :=
  op.pdu?.bind fun pdu =>
    if pdu.cid = l2capSignalingCid then (ControlFrame.fromBytes pdu.payload).toOption else none

end ClassicOp

/-- The manager after a list of calls, whatever they return. -/
def ChannelManager.runOps (manager : ChannelManager) (ops : List ClassicOp) : ChannelManager :=
  ops.foldl (fun manager op => op.apply manager) manager

end Bumble.Classic
