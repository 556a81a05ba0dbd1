import Bumble.OctetReader
import Bumble.Chunks
import Bumble.Outcome

/-!
# AVCTP messages (`bumble-avctp/src/lib.rs`)

A message is cut into packets that fit the MTU: a single packet, or a start packet with
the number of packets, continue packets and an end packet.  The assembler keeps the message in
progress; it drops what does not belong to it and never returns an error.
-/

namespace Bumble.Avctp

inductive Error where
  | invalid (text : String)
  | payloadTooLong
deriving DecidableEq, Repr

inductive PacketType where
  | single
  | start
  | continue
  | end
deriving DecidableEq, Repr

def PacketType.toBits : PacketType → UInt8
  | single => 0
  | start => 1
  | .continue => 2
  | .end => 3

def PacketType.fromBits (value : UInt8) : PacketType :=
  if value &&& 3 = 0 then single
  else if value &&& 3 = 1 then start
  else if value &&& 3 = 2 then .continue
  else .end

structure Message where
  transactionLabel : UInt8
  isCommand : Bool
  ipid : Bool
  pid : UInt16
  payload : Bytes
deriving DecidableEq, Repr

namespace Message

def command (transactionLabel : UInt8) (pid : UInt16) (payload : Bytes) : Message :=
  ⟨transactionLabel, true, false, pid, payload⟩

def response (transactionLabel : UInt8) (pid : UInt16) (payload : Bytes) : Message :=
  ⟨transactionLabel, false, false, pid, payload⟩

/-! ## 1. Fragmentation -/

def headerOctet (transactionLabel : UInt8) (packetType : PacketType) (isCommand ipid : Bool) :
    UInt8 :=
  (transactionLabel <<< 4) ||| (packetType.toBits <<< 2) ||| ((!isCommand).toUInt8 <<< 1)
    ||| ipid.toUInt8

def header (message : Message) (packetType : PacketType) : Except Error UInt8 :=
  if message.transactionLabel > 0x0F ∨ (message.isCommand ∧ message.ipid) then
    .error (.invalid "AVCTP flags")
  else .ok (headerOctet message.transactionLabel packetType message.isCommand message.ipid)

def continuationPdus (message : Message) : List Bytes → Except Error (List Bytes)
  | [] => .ok []
  | chunk :: later => do
    let header ← message.header (if later = [] then .end else .continue)
    let pdus ← message.continuationPdus later
    pure ((header :: (u16ToBe message.pid ++ chunk)) :: pdus)

def encodePdus (message : Message) (mtu : Nat) : Except Error (List Bytes) :=
  if mtu < 4 then .error (.invalid "AVCTP MTU")
  else if message.payload.length + 3 ≤ mtu then do
    let header ← message.header .single
    pure [header :: (u16ToBe message.pid ++ message.payload)]
  else
    let startCapacity := mtu - 4
    let continuationCapacity := mtu - 3
    let continuationCount := (message.payload.length - startCapacity + continuationCapacity - 1)
      / continuationCapacity
    let packetCount := 1 + continuationCount
    if packetCount < 256 then do
      let header ← message.header .start
      let pdus ← message.continuationPdus
        (chunks continuationCapacity (message.payload.drop startCapacity))
      pure ((header :: UInt8.ofNat packetCount
        :: (u16ToBe message.pid ++ message.payload.take startCapacity)) :: pdus)
    else .error .payloadTooLong

end Message

/-! ## 2. Reassembly -/

structure PendingMessage where
  transactionLabel : UInt8
  isCommand : Bool
  ipid : Bool
  pid : UInt16
  expectedPackets : UInt8
  receivedPackets : UInt8
  payload : Bytes
deriving DecidableEq, Repr

structure MessageAssembler where
  pending : Option PendingMessage := none
deriving DecidableEq, Repr

namespace MessageAssembler

/-- The branch of `push` for continue and end packets with a message in progress. -/
def pushContinuation (pending : PendingMessage) (transactionLabel : UInt8) (isCommand ipid : Bool)
    (pid : UInt16) (last : Bool) (fragment : Bytes) : MessageAssembler × Option Message :=
  if pending.transactionLabel ≠ transactionLabel ∨ pending.isCommand ≠ isCommand
      ∨ pending.ipid ≠ ipid ∨ pending.pid ≠ pid then (⟨none⟩, none)
  else
    let pending := { pending with
      receivedPackets := saturatingSucc pending.receivedPackets
      payload := pending.payload ++ fragment }
    if pending.receivedPackets > pending.expectedPackets then (⟨none⟩, none)
    else if last then
      if pending.receivedPackets ≠ pending.expectedPackets then (⟨none⟩, none)
      else (⟨none⟩, some ⟨transactionLabel, isCommand, ipid, pid, pending.payload⟩)
    else (⟨some pending⟩, none)

/-- A packet with the fields of its first octet and what follows it. -/
def pushPacket (assembler : MessageAssembler) (transactionLabel : UInt8) (isCommand ipid : Bool)
    (packetType : PacketType) (body : Bytes) : MessageAssembler × Option Message :=
  match packetType, body with
  | .single, high :: low :: payload =>
    (⟨none⟩, some ⟨transactionLabel, isCommand, ipid, UInt16.ofNat (beToNat [high, low]), payload⟩)
  | .start, count :: high :: low :: payload =>
    if count < 2 then (assembler, none)
    else
      (⟨some ⟨transactionLabel, isCommand, ipid, UInt16.ofNat (beToNat [high, low]), count, 1,
        payload⟩⟩, none)
  | .continue, high :: low :: fragment =>
    match assembler.pending with
    | none => (assembler, none)
    | some pending =>
      pushContinuation pending transactionLabel isCommand ipid
        (UInt16.ofNat (beToNat [high, low])) false fragment
  | .end, high :: low :: fragment =>
    match assembler.pending with
    | none => (assembler, none)
    | some pending =>
      pushContinuation pending transactionLabel isCommand ipid
        (UInt16.ofNat (beToNat [high, low])) true fragment
  | _, _ => (assembler, none)

def push (assembler : MessageAssembler) (pdu : Bytes) : MessageAssembler × Option Message :=
  match pdu with
  | [] => (assembler, none)
  | header :: body =>
    let isCommand : Bool := header &&& 0x02 = 0
    let ipid : Bool := header &&& 0x01 ≠ 0
    if isCommand ∧ ipid then (⟨none⟩, none)
    else
      assembler.pushPacket (header >>> 4) isCommand ipid (PacketType.fromBits (header >>> 2)) body

/-- The messages that a list of packets completes, and the assembler after it. -/
def pushAll (assembler : MessageAssembler) : List Bytes → MessageAssembler × List Message
  | [] => (assembler, [])
  | pdu :: pdus =>
    let (next, message) := assembler.push pdu
    let (last, messages) := next.pushAll pdus
    (last, message.toList ++ messages)

end MessageAssembler

end Bumble.Avctp
