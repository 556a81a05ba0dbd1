import Bumble.AclFragments
import Bumble.L2capFrame
import Bumble.PacketQueue

/-!
# The packet queues of a device (`bumble-host/src/lib.rs`)

A device keeps a Classic ACL queue and, when the controller announces separate
pools, an LE ACL queue and an ISO queue.  Sends put packets into them, completions
and disconnections take them out, and the handle tables decide which queue a
packet belongs to.  Every event with a part in this has its own branch; any other
packet of the controller may only make its handler send L2CAP payloads.
-/

namespace Bumble.Host

open Bumble.Hci (AclDataPacket fragmentL2capPdu)
open Bumble.L2cap (L2capPdu)

/-! ## 1. The state -/

structure IsoDataPacket where
  connectionHandle : UInt16
  pbFlag : UInt8
  tsFlag : UInt8
  dataTotalLength : UInt16
  timeStamp : Option UInt32
  packetSequenceNumber : Option UInt16
  isoSduLength : Option UInt16
  packetStatusFlag : Option UInt8
  isoSduFragment : Bytes
  deriving DecidableEq, Repr

/-- The two calls of the link that take packets, with its own state. -/
structure LinkPort (L : Type) where
  sendAclPacket : L → AclDataPacket → L × Bool
  sendIsoPacket : L → IsoDataPacket → L × Bool

structure ControllerBufferInfo where
  dataPacketLength : UInt16
  totalNumDataPackets : UInt16
  deriving DecidableEq, Repr

def acceptingPort : LinkPort Unit where
  sendAclPacket _ _ := ((), true)
  sendIsoPacket _ _ := ((), true)

/-- A separate pool of the controller: its packet length is set with its queue. -/
structure PacketPool (α : Type) where
  dataPacketLength : Nat
  queue : DataPacketQueue α

def PacketPool.onQueue {α : Type} (f : DataPacketQueue α → DataPacketQueue α)
    (pool : PacketPool α) : PacketPool α :=
  { pool with queue := f pool.queue }

/-- The queues of a device and the tables that route packets to them; of a
connection only its handle is kept. -/
structure HostQueues (L : Type) where
  link : L
  controllerReady : Bool := true
  leConnections : Std.ExtTreeSet UInt16 := ∅
  classicConnections : Std.ExtTreeSet UInt16 := ∅
  synchronousConnections : List UInt16 := []
  cisLinks : Std.ExtTreeSet UInt16 := ∅
  bisDirections : Std.ExtTreeMap UInt16 UInt8 := ∅
  bigs : Std.ExtTreeMap UInt8 (List UInt16) := ∅
  bigSyncs : Std.ExtTreeMap UInt8 (List UInt16) := ∅
  isoSequenceNumbers : Std.ExtTreeMap UInt16 UInt16 := ∅
  aclDataPacketLength : Nat := 27
  aclPacketQueue : DataPacketQueue AclDataPacket := { maxInFlight := 64 }
  leAclPool : Option (PacketPool AclDataPacket) := none
  isoPool : Option (PacketPool IsoDataPacket) := none

/-! ## 2. Sending -/

/-- The loop of the flush functions: what is ready is sent, and a packet the link
refuses is completed at once. -/
def flushLoop {L α : Type} (send : L → α → L × Bool) (handleOf : α → UInt16) :
    Nat → L → DataPacketQueue α → Bool → L × DataPacketQueue α × Bool
  | 0, link, queue, success => (link, queue, success)
  | fuel + 1, link, queue, success =>
    match queue.pollReady with
    | (queue, none) => (link, queue, success)
    | (queue, some packet) =>
      let sent := send link packet
      if sent.2 then flushLoop send handleOf fuel sent.1 queue success
      else
        flushLoop send handleOf fuel sent.1 (queue.onPacketsCompleted 1 (handleOf packet)).state
          false

def flushQueue {L α : Type} (send : L → α → L × Bool) (handleOf : α → UInt16) (link : L)
    (queue : DataPacketQueue α) : L × DataPacketQueue α × Bool :=
  flushLoop send handleOf (queue.packets.length + 1) link queue true

namespace HostQueues

variable {L : Type}

def flushAclQueue (port : LinkPort L) (device : HostQueues L) : HostQueues L × Bool :=
  let classic := flushQueue port.sendAclPacket AclDataPacket.connectionHandle device.link
    device.aclPacketQueue
  let device := { device with link := classic.1, aclPacketQueue := classic.2.1 }
  match device.leAclPool with
  | none => (device, classic.2.2)
  | some pool =>
    let le := flushQueue port.sendAclPacket AclDataPacket.connectionHandle device.link pool.queue
    ({ device with link := le.1, leAclPool := some { pool with queue := le.2.1 } },
      classic.2.2 && le.2.2)

def flushIsoQueue (port : LinkPort L) (device : HostQueues L) : HostQueues L × Bool :=
  match device.isoPool with
  | none => (device, true)
  | some pool =>
    let iso := flushQueue port.sendIsoPacket IsoDataPacket.connectionHandle device.link pool.queue
    ({ device with link := iso.1, isoPool := some { pool with queue := iso.2.1 } }, iso.2.2)

/-- The LE pool, for a handle of an LE connection. -/
def separateLePool (device : HostQueues L) (handle : UInt16) :
    Option (PacketPool AclDataPacket) :=
  if handle ∈ device.leConnections then device.leAclPool else none

def enqueueAll {α : Type} (handle : UInt16) (packets : List α) (queue : DataPacketQueue α) :
    DataPacketQueue α :=
  packets.foldl (fun queue packet => queue.enqueue packet handle) queue

def sendL2capOnHandle (port : LinkPort L) (device : HostQueues L) (handle cid : UInt16)
    (payload : Bytes) : HostQueues L × Bool :=
  let frame := (L2capPdu.mk cid payload).toBytes false
  match device.separateLePool handle with
  | some pool =>
    match fragmentL2capPdu handle 0 pool.dataPacketLength frame false with
    | .error _ => (device, false)
    | .ok fragments =>
      flushAclQueue port { device with
        leAclPool := some { pool with queue := enqueueAll handle fragments pool.queue } }
  | none =>
    match fragmentL2capPdu handle 0 device.aclDataPacketLength frame false with
    | .error _ => (device, false)
    | .ok fragments =>
      flushAclQueue port { device with
        aclPacketQueue := enqueueAll handle fragments device.aclPacketQueue }

def defaultIsoPacketLength : Nat := 960
def sduInfoLength : Nat := 4

def isoFragments (isoHandle sequence : UInt16) (packetLength : Nat) (sdu : Bytes) :
    Nat → Nat → List IsoDataPacket
  | 0, _ => []
  | fuel + 1, offset =>
    let first : Bool := offset = 0
    let information := if first then sduInfoLength else 0
    let stop := min (offset + (packetLength - information)) sdu.length
    let last : Bool := stop = sdu.length
    let fragment := (sdu.drop offset).take (stop - offset)
    let packet : IsoDataPacket :=
      { connectionHandle := isoHandle
        pbFlag :=
          match first, last with
          | true, true => 0b10
          | true, false => 0b00
          | false, true => 0b11
          | false, false => 0b01
        tsFlag := 0
        dataTotalLength := UInt16.ofNat (fragment.length + information)
        timeStamp := none
        packetSequenceNumber := if first then some sequence else none
        isoSduLength := if first then some (UInt16.ofNat sdu.length) else none
        packetStatusFlag := if first then some 0 else none
        isoSduFragment := fragment }
    packet :: if last then [] else isoFragments isoHandle sequence packetLength sdu fuel stop

/-- Hand packets to the link one by one, up to the first it refuses. -/
def sendDirectly (port : LinkPort L) : L → List IsoDataPacket → L × Bool
  | link, [] => (link, true)
  | link, packet :: packets =>
    let sent := port.sendIsoPacket link packet
    if sent.2 then sendDirectly port sent.1 packets else (sent.1, false)

def canSendIso (device : HostQueues L) (isoHandle : UInt16) : Bool :=
  isoHandle ∈ device.cisLinks || device.bisDirections[isoHandle]? = some 0

def sendIsoSdu (port : LinkPort L) (device : HostQueues L) (isoHandle : UInt16) (sdu : Bytes) :
    HostQueues L × Bool :=
  if !device.canSendIso isoHandle || sdu.length > 0x0FFF then (device, false)
  else
    let packetLength := (device.isoPool.map (·.dataPacketLength)).getD defaultIsoPacketLength
    if packetLength ≤ sduInfoLength then (device, false)
    else
      let sequence := device.isoSequenceNumbers[isoHandle]?.getD 0
      let packets := isoFragments isoHandle sequence packetLength sdu (sdu.length + 1) 0
      let started := { device with
        isoSequenceNumbers := device.isoSequenceNumbers.insert isoHandle sequence }
      let numbers := device.isoSequenceNumbers.insert isoHandle (sequence + 1)
      match device.isoPool with
      | some pool =>
        flushIsoQueue port { device with
          isoPool := some { pool with queue := enqueueAll isoHandle packets pool.queue }
          isoSequenceNumbers := numbers }
      | none =>
        let sent := sendDirectly port device.link packets
        if sent.2 then ({ device with link := sent.1, isoSequenceNumbers := numbers }, true)
        else ({ started with link := sent.1 }, false)

/-! ## 3. Events -/

structure L2capSend where
  handle : UInt16
  cid : UInt16
  payload : Bytes
  deriving DecidableEq, Repr

/-- The packets of the controller with a part in the queues.  The handler of any
`other` packet sends a list of L2CAP payloads, possibly none. -/
inductive HostEvent where
  | resetComplete (status : UInt8)
  | leConnectionComplete (status : UInt8) (connectionHandle : UInt16)
  | connectionComplete (status : UInt8) (connectionHandle : UInt16)
  | synchronousConnectionComplete (status : UInt8) (connectionHandle : UInt16)
  | cisEstablished (status : UInt8) (connectionHandle : UInt16)
  | createBigComplete (status bigHandle : UInt8) (connectionHandle : List UInt16)
  | terminateBigComplete (bigHandle : UInt8)
  | bigSyncEstablished (status bigHandle : UInt8) (connectionHandle : List UInt16)
  | bigSyncLost (bigHandle : UInt8)
  | disconnectionComplete (status : UInt8) (connectionHandle : UInt16)
  | numberOfCompletedPackets (connectionHandles numCompletedPackets : List UInt16)
  | readBufferSize (status : UInt8) (dataPacketLength totalNumDataPackets : UInt16)
  | leReadBufferSize (status : UInt8) (dataPacketLength : UInt16) (totalNumDataPackets : UInt8)
  | leReadBufferSizeV2 (status : UInt8) (dataPacketLength : UInt16)
      (totalNumDataPackets : UInt8) (isoDataPacketLength : UInt16)
      (totalNumIsoDataPackets : UInt8)
  | other (sends : List L2capSend)
  deriving DecidableEq, Repr

/-- A pool is usable only with a packet length and a packet count. -/
def usablePool {α : Type} (dataPacketLength totalNumDataPackets : Nat) : Option (PacketPool α) :=
  if dataPacketLength ≠ 0 ∧ totalNumDataPackets ≠ 0 then
    some ⟨dataPacketLength, { maxInFlight := totalNumDataPackets }⟩
  else none

def clearBisHandle (device : HostQueues L) (handle : UInt16) : HostQueues L :=
  { device with
    bisDirections := device.bisDirections.erase handle
    isoSequenceNumbers := device.isoSequenceNumbers.erase handle }

/-- The BIS handles of a new stream, with their direction. -/
def addBisHandles (device : HostQueues L) (direction : UInt8) (handles : List UInt16) :
    HostQueues L :=
  handles.foldl (fun device handle => { device with
    bisDirections := device.bisDirections.insert handle direction
    isoSequenceNumbers := device.isoSequenceNumbers.insertIfNew handle 0 }) device

/-- The completed packets of one handle, in the queue its tables select. -/
def packetsCompleted (device : HostQueues L) (handle : UInt16) (count : Nat) : HostQueues L :=
  if handle ∈ device.cisLinks ∨ handle ∈ device.bisDirections then
    { device with
      isoPool := device.isoPool.map (.onQueue fun queue =>
        (queue.onPacketsCompleted count handle).state) }
  else if handle ∈ device.leConnections ∧ device.leAclPool.isSome then
    { device with
      leAclPool := device.leAclPool.map (.onQueue fun queue =>
        (queue.onPacketsCompleted count handle).state) }
  else
    { device with
      aclPacketQueue := (device.aclPacketQueue.onPacketsCompleted count handle).state }

/-- The end of a connection: its tables forget it and its packets leave the queues. -/
def disconnected (device : HostQueues L) (handle : UInt16) : HostQueues L :=
  { device with
    leConnections := device.leConnections.erase handle
    classicConnections := device.classicConnections.erase handle
    synchronousConnections := device.synchronousConnections.filter (· ≠ handle)
    cisLinks := device.cisLinks.erase handle
    isoSequenceNumbers := device.isoSequenceNumbers.erase handle
    aclPacketQueue := (device.aclPacketQueue.flush handle).1
    leAclPool := device.leAclPool.map (.onQueue fun queue => (queue.flush handle).1)
    isoPool := device.isoPool.map (.onQueue fun queue => (queue.flush handle).1) }

def sendAll (port : LinkPort L) (device : HostQueues L) (sends : List L2capSend) : HostQueues L :=
  sends.foldl (fun device send =>
    (sendL2capOnHandle port device send.handle send.cid send.payload).1) device

/-- One packet of `poll`, while the controller is ready. -/
def handleEvent (port : LinkPort L) (device : HostQueues L) : HostEvent → HostQueues L
  | .resetComplete status => { device with controllerReady := status = 0 }
  | .leConnectionComplete status handle =>
    if status = 0 then { device with leConnections := device.leConnections.insert handle }
    else device
  | .connectionComplete status handle =>
    if status = 0 then
      { device with classicConnections := device.classicConnections.insert handle }
    else device
  | .synchronousConnectionComplete status handle =>
    if status = 0 then
      { device with synchronousConnections := device.synchronousConnections ++ [handle] }
    else device
  | .cisEstablished status handle =>
    if status = 0 then
      { device with
        cisLinks := device.cisLinks.insert handle
        isoSequenceNumbers := device.isoSequenceNumbers.insertIfNew handle 0 }
    else device
  | .createBigComplete status bigHandle handles =>
    if status = 0 then
      { device.addBisHandles 0 handles with bigs := device.bigs.insert bigHandle handles }
    else { device with bigs := device.bigs.erase bigHandle }
  | .terminateBigComplete bigHandle =>
    (device.bigs[bigHandle]?.getD []).foldl clearBisHandle
      { device with bigs := device.bigs.erase bigHandle }
  | .bigSyncEstablished status bigHandle handles =>
    if status = 0 then
      { device.addBisHandles 1 handles with bigSyncs := device.bigSyncs.insert bigHandle handles }
    else { device with bigSyncs := device.bigSyncs.erase bigHandle }
  | .bigSyncLost bigHandle =>
    (device.bigSyncs[bigHandle]?.getD []).foldl clearBisHandle
      { device with bigSyncs := device.bigSyncs.erase bigHandle }
  | .disconnectionComplete status handle =>
    if status = 0 then device.disconnected handle else device
  | .numberOfCompletedPackets handles counts =>
    let completed := (handles.zip counts).foldl
      (fun device entry => device.packetsCompleted entry.1 entry.2.toNat) device
    ((completed.flushAclQueue port).1.flushIsoQueue port).1
  | .readBufferSize status length count =>
    if status = 0 ∧ length ≠ 0 ∧ count ≠ 0 then
      { device with
        aclDataPacketLength := length.toNat
        aclPacketQueue := { maxInFlight := count.toNat } }
    else device
  | .leReadBufferSize status length count =>
    if status = 0 then { device with leAclPool := usablePool length.toNat count.toNat }
    else device
  | .leReadBufferSizeV2 status length count isoLength isoCount =>
    if status = 0 then
      { device with
        leAclPool := usablePool length.toNat count.toNat
        isoPool := usablePool isoLength.toNat isoCount.toNat }
    else device
  | .other sends => sendAll port device sends

/-- One packet of `poll`; until the controller is ready only the answer to a reset counts. -/
def pollEvent (port : LinkPort L) (device : HostQueues L) (event : HostEvent) : HostQueues L :=
  if device.controllerReady then device.handleEvent port event
  else
    match event with
    | .resetComplete status => device.handleEvent port (.resetComplete status)
    | _ => device

def poll (port : LinkPort L) (device : HostQueues L) (events : List HostEvent) : HostQueues L :=
  events.foldl (pollEvent port) device

/-! ## 4. Other calls -/

def idlePools (device : HostQueues L) : Bool :=
  device.aclPacketQueue.pending = 0 &&
    !(device.leAclPool.any fun pool => pool.queue.pending ≠ 0) &&
    !(device.isoPool.any fun pool => pool.queue.pending ≠ 0)

def poolOf {α : Type} (info : Option ControllerBufferInfo) : Option (PacketPool α) :=
  info.bind fun buffer => usablePool buffer.dataPacketLength.toNat buffer.totalNumDataPackets.toNat

def configureControllerPacketPools (device : HostQueues L)
    (classicAcl leAcl iso : Option ControllerBufferInfo) : HostQueues L × Bool :=
  if device.idlePools then
    let classic : PacketPool AclDataPacket := (poolOf classicAcl).getD ⟨27, { maxInFlight := 64 }⟩
    ({ device with
        aclDataPacketLength := classic.dataPacketLength
        aclPacketQueue := classic.queue
        leAclPool := poolOf leAcl
        isoPool := poolOf iso }, true)
  else (device, false)

def setAclDataPacketLength (device : HostQueues L) (length : Nat) : HostQueues L × Bool :=
  if length = 0 ∨ length > 65535 then (device, false)
  else ({ device with aclDataPacketLength := length }, true)

def setAclMaxInFlight (device : HostQueues L) (count : Nat) : HostQueues L × Bool :=
  if device.aclPacketQueue.pending ≠ 0 then (device, false)
  else
    match DataPacketQueue.new count with
    | .error _ => (device, false)
    | .ok queue => ({ device with aclPacketQueue := queue }, true)

/-- Flush all host-side connection state; the streams of a BIG keep their tables. -/
def flush (device : HostQueues L) : HostQueues L :=
  let gone : UInt16 → Bool := fun handle =>
    handle ∈ device.leConnections || handle ∈ device.classicConnections ||
      handle ∈ device.cisLinks || handle ∈ device.synchronousConnections
  { device with
    leConnections := ∅
    classicConnections := ∅
    synchronousConnections := []
    cisLinks := ∅
    isoSequenceNumbers := device.isoSequenceNumbers.filter fun handle _ => !gone handle
    aclPacketQueue := device.aclPacketQueue.flushAll.1
    leAclPool := device.leAclPool.map (.onQueue fun queue => queue.flushAll.1)
    isoPool := device.isoPool.map (.onQueue fun queue => queue.flushAll.1) }

def clearHostInitializationState (device : HostQueues L) : HostQueues L :=
  { device with
    aclDataPacketLength := 27
    aclPacketQueue := { maxInFlight := 64 }
    leAclPool := none
    isoPool := none }

/-- A reset, which flushes first when the host was in use. -/
def reset (device : HostQueues L) (inUse : Bool) : HostQueues L :=
  let flushed := if inUse then device.flush else device
  { flushed.clearHostInitializationState with controllerReady := false }

/-- A call on the device that can reach its queues. -/
inductive HostCall where
  | poll (events : List HostEvent)
  | sendL2capOnHandle (send : L2capSend)
  | sendIsoSdu (isoHandle : UInt16) (sdu : Bytes)
  | configureControllerPacketPools (classicAcl leAcl iso : Option ControllerBufferInfo)
  | setAclDataPacketLength (length : Nat)
  | setAclMaxInFlight (count : Nat)
  | flush
  | reset (inUse : Bool)
  deriving DecidableEq, Repr

def apply (port : LinkPort L) (device : HostQueues L) : HostCall → HostQueues L
  | .poll events => device.poll port events
  | .sendL2capOnHandle send =>
    (device.sendL2capOnHandle port send.handle send.cid send.payload).1
  | .sendIsoSdu isoHandle sdu => (device.sendIsoSdu port isoHandle sdu).1
  | .configureControllerPacketPools classicAcl leAcl iso =>
    (device.configureControllerPacketPools classicAcl leAcl iso).1
  | .setAclDataPacketLength length => (device.setAclDataPacketLength length).1
  | .setAclMaxInFlight count => (device.setAclMaxInFlight count).1
  | .flush => device.flush
  | .reset inUse => device.reset inUse

def run (port : LinkPort L) (device : HostQueues L) (calls : List HostCall) : HostQueues L :=
  calls.foldl (apply port) device

end HostQueues

end Bumble.Host
