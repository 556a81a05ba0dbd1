import Bumble.ByteOrder
import Bumble.Chunks
import Bumble.Outcome

/-!
# ACL packets and their L2CAP PDUs (`bumble-hci/src/packet.rs`)

A PDU that is longer than a controller's buffer is cut into ACL packets: a start
packet, which says in its first two octets how long the PDU is, and continuation
packets.  The assembler of a connection puts them together again.
-/

namespace Bumble.Hci

inductive Error where
  | invalidPacket (message : String)
deriving DecidableEq, Repr

structure AclDataPacket where
  connectionHandle : UInt16
  pbFlag : UInt8
  bcFlag : UInt8
  dataTotalLength : UInt16
  data : Bytes
deriving DecidableEq, Repr

def hciAclPbFirstNonFlushable : UInt8 := 0b00
def hciAclPbContinuation : UInt8 := 0b01
def hciAclPbFirstFlushable : UInt8 := 0b10

/-! ## 1. Fragments -/

/-- The length of a PDU with its header, read from the first two octets. -/
def declaredLength (data : Bytes) : Nat := (u16FromLe (data.getD 0 0) (data.getD 1 0)).toNat + 4

def startFlag (flushable : Bool) : UInt8 :=
  if flushable then hciAclPbFirstFlushable else hciAclPbFirstNonFlushable

/-- The packet of the piece at `index`. -/
def fragmentPacket (connectionHandle : UInt16) (bcFlag : UInt8) (flushable : Bool) (index : Nat)
    (data : Bytes) : AclDataPacket where
  connectionHandle := connectionHandle
  pbFlag := if index = 0 then startFlag flushable else hciAclPbContinuation
  bcFlag := bcFlag
  dataTotalLength := UInt16.ofNat data.length
  data := data

def fragmentL2capPdu (connectionHandle : UInt16) (bcFlag : UInt8) (maxFragmentSize : Nat)
    (pdu : Bytes) (flushable : Bool) : Except Error (List AclDataPacket) :=
  if maxFragmentSize = 0 ∨ maxFragmentSize > 65535 then
    .error (.invalidPacket "ACL fragment size must be between 1 and 65535")
  else if pdu.length < 4 then .error (.invalidPacket "truncated L2CAP PDU")
  else if declaredLength pdu ≠ pdu.length then
    .error (.invalidPacket s!"L2CAP PDU length {pdu.length} != {declaredLength pdu}")
  else .ok ((chunks maxFragmentSize pdu).mapIdx (fragmentPacket connectionHandle bcFlag flushable))

/-! ## 2. The assembler -/

structure AclDataPacketAssembler where
  connectionHandle : Option UInt16 := none
  currentData : Bytes := []
  expectedLength : Option Nat := none
deriving DecidableEq, Repr

/-- What a fed packet leaves and returns: the PDU it completes. -/
abbrev FeedCall := Outcome AclDataPacketAssembler Error (Option Bytes)

namespace AclDataPacketAssembler

def new : AclDataPacketAssembler := {}

/-- `reset` clears all fields. -/
def reset (_ : AclDataPacketAssembler) : AclDataPacketAssembler := {}

def isAssembling (assembler : AclDataPacketAssembler) : Bool := assembler.expectedLength.isSome

/-- The end of `feed`, with the PDU's length. -/
def complete (assembler : AclDataPacketAssembler) (expected : Nat) : FeedCall :=
  if assembler.currentData.length < expected then .ok assembler none
  else if assembler.currentData.length > expected then
    .fail assembler.reset (.invalidPacket "ACL data exceeds declared L2CAP PDU length")
  else
    .ok { assembler with connectionHandle := none, currentData := [], expectedLength := none }
      (some assembler.currentData)

def feed (assembler : AclDataPacketAssembler) (packet : AclDataPacket) : FeedCall :=
  if packet.dataTotalLength.toNat ≠ packet.data.length then
    .fail assembler (.invalidPacket "ACL packet data_total_length mismatch")
  else if packet.pbFlag = hciAclPbFirstNonFlushable ∨ packet.pbFlag = hciAclPbFirstFlushable then
    if packet.data.length < 2 then
      .fail assembler.reset (.invalidPacket "first ACL fragment lacks L2CAP length")
    else
      ({ connectionHandle := some packet.connectionHandle
         currentData := packet.data
         expectedLength := some (declaredLength packet.data) } : AclDataPacketAssembler).complete
        (declaredLength packet.data)
  else if packet.pbFlag = hciAclPbContinuation then
    match assembler.expectedLength with
    | none => .fail assembler (.invalidPacket "ACL continuation without a start")
    | some expected =>
      if assembler.connectionHandle ≠ some packet.connectionHandle then
        .fail assembler.reset (.invalidPacket "ACL continuation changed connection handle")
      else
        { assembler with currentData := assembler.currentData ++ packet.data }.complete expected
  else
    .fail assembler.reset
      (.invalidPacket s!"invalid ACL packet boundary flag {packet.pbFlag.toNat}")

/-- The assembler after a list of packets, and what each of them returned. -/
def feedAll (assembler : AclDataPacketAssembler) :
    List AclDataPacket → AclDataPacketAssembler × List (Except Error (Option Bytes))
  | [] => (assembler, [])
  | packet :: packets =>
    let call := assembler.feed packet
    let (last, results) := feedAll call.state packets
    (last, call.result :: results)

end AclDataPacketAssembler

end Bumble.Hci
