import Bumble.AvdtpMessage
import Bumble.Chunks
import Bumble.Outcome

/-!
# AVDTP fragmentation and reassembly (`bumble-avdtp/src/lib.rs`)

A message that does not fit the MTU is cut into a start packet, which carries the
number of packets, continue packets and an end packet.  The assembler keeps the
message in progress and gives out what it parses from it at the end packet.
-/

namespace Bumble.Avdtp

/-! ## 1. Fragmentation -/

def packetHeader (transactionLabel : UInt8) (packetType : PacketType)
    (messageType : MessageType) : UInt8 :=
  (transactionLabel <<< 4) ||| (packetType.toBits <<< 2) ||| messageType.toBits

def continuationPdus (transactionLabel : UInt8) (messageType : MessageType)
    (chunks : List Bytes) : List Bytes :=
  chunks.mapIdx fun index chunk =>
    packetHeader transactionLabel (if index + 1 = chunks.length then .end else .continue)
      messageType :: chunk

def Message.encodePdus (message : Message) (transactionLabel : UInt8) (mtu : Nat) :
    Except Error (List Bytes) :=
  if transactionLabel > 0x0F ∨ mtu < 3 then .error (.invalid "transaction label or MTU")
  else do
    let payload ← message.payload
    let signal := message.signalIdentifier.value &&& 0x3F
    if payload.length + 2 ≤ mtu then
      pure [packetHeader transactionLabel .single message.messageType :: signal :: payload]
    else
      let startCapacity := mtu - 3
      let continuationCapacity := mtu - 1
      if startCapacity = 0 ∨ continuationCapacity = 0 then .error (.invalid "MTU")
      else
        let remainder := payload.length - startCapacity
        let packetCount := 1 + (remainder + continuationCapacity - 1) / continuationCapacity
        if packetCount < 256 then
          pure ((packetHeader transactionLabel .start message.messageType :: signal
              :: UInt8.ofNat packetCount :: payload.take startCapacity)
            :: continuationPdus transactionLabel message.messageType
              (chunks continuationCapacity (payload.drop startCapacity)))
        else .error .payloadTooLong

/-! ## 2. Reassembly -/

structure PendingMessage where
  transactionLabel : UInt8
  messageType : MessageType
  signalIdentifier : SignalIdentifier
  expectedPackets : UInt8
  receivedPackets : UInt8
  payload : Bytes
deriving DecidableEq, Repr

structure MessageAssembler where
  pending : Option PendingMessage
deriving DecidableEq, Repr

namespace MessageAssembler

/-- The branch of `push` for continue and end packets with a message in progress. -/
def pushContinuation (pending : PendingMessage) (transactionLabel : UInt8)
    (messageType : MessageType) (last : Bool) (fragment : Bytes) :
    Outcome MessageAssembler Error (Option (UInt8 × Message)) :=
  if pending.transactionLabel ≠ transactionLabel ∨ pending.messageType ≠ messageType then
    .ok ⟨some pending⟩ none
  else
    let pending := { pending with
      receivedPackets := saturatingSucc pending.receivedPackets
      payload := pending.payload ++ fragment }
    if pending.receivedPackets > pending.expectedPackets then .ok ⟨none⟩ none
    else if last then
      if pending.receivedPackets ≠ pending.expectedPackets then .ok ⟨none⟩ none
      else
        match Message.parse pending.signalIdentifier pending.messageType pending.payload with
        | .ok message => .ok ⟨none⟩ (some (transactionLabel, message))
        | .error error => .fail ⟨none⟩ error
    else .ok ⟨some pending⟩ none

def push (assembler : MessageAssembler) (pdu : Bytes) :
    Outcome MessageAssembler Error (Option (UInt8 × Message)) :=
  match pdu with
  | [] => .ok assembler none
  | header :: body =>
    let transactionLabel := header >>> 4
    let messageType := MessageType.fromBits header
    match PacketType.fromBits (header >>> 2) with
    | .single =>
      match body with
      | [] => .ok assembler none
      | signal :: payload =>
        match Message.parse ⟨signal &&& 0x3F⟩ messageType payload with
        | .ok message => .ok ⟨none⟩ (some (transactionLabel, message))
        | .error error => .fail ⟨none⟩ error
    | .start =>
      match body with
      | signal :: count :: payload =>
        if count < 2 then .ok assembler none
        else
          .ok ⟨some ⟨transactionLabel, messageType, ⟨signal &&& 0x3F⟩, count, 1, payload⟩⟩ none
      | _ => .ok assembler none
    | .continue =>
      match assembler.pending with
      | none => .ok assembler none
      | some pending => pushContinuation pending transactionLabel messageType false body
    | .end =>
      match assembler.pending with
      | none => .ok assembler none
      | some pending => pushContinuation pending transactionLabel messageType true body

/-- What pushing a list of PDUs returns, one result for each. -/
def pushAll (assembler : MessageAssembler) :
    List Bytes → List (Except Error (Option (UInt8 × Message)))
  | [] => []
  | pdu :: pdus => (assembler.push pdu).result :: (assembler.push pdu).state.pushAll pdus

end MessageAssembler

end Bumble.Avdtp
