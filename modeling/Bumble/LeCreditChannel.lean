import Bumble.L2capFrame
import Bumble.Outcome

/-!
# One LE credit-based channel (`bumble-l2cap/src/le_credit.rs`)

Segmentation, reassembly and credit accounting of a connected channel, function
by function.  PDUs and credit grants are left in queues that the manager drains.
-/

namespace Bumble.LeCredit

open Bumble.L2cap (Error)

/-! ## 1. Limits -/

def connectionMinMtu : UInt16 := 23
def connectionMinMps : UInt16 := 23
def connectionMaxMps : UInt16 := 65533
def connectionDefaultMtu : UInt16 := 2048
def connectionDefaultMps : UInt16 := 2048
def connectionDefaultInitialCredits : UInt16 := 256

structure LeCreditBasedChannelSpec where
  psm : Option UInt16 := none
  mtu : UInt16 := connectionDefaultMtu
  mps : UInt16 := connectionDefaultMps
  maxCredits : UInt16 := connectionDefaultInitialCredits
deriving DecidableEq, Repr

def mpsInRange (mps : UInt16) : Bool := connectionMinMps ≤ mps ∧ mps ≤ connectionMaxMps

def LeCreditBasedChannelSpec.validate (spec : LeCreditBasedChannelSpec) :
    Except Error LeCreditBasedChannelSpec :=
  if spec.maxCredits = 0 then .error (.invalidPacket "max credits out of range")
  else if spec.mtu < connectionMinMtu then .error (.invalidPacket "MTU out of range")
  else if ¬ mpsInRange spec.mps then .error (.invalidPacket "MPS out of range")
  else .ok spec

def validateMtuMps (mtu mps : UInt16) : Except Error Unit :=
  if mtu < connectionMinMtu then .error (.invalidPacket "MTU out of range")
  else if ¬ mpsInRange mps then .error (.invalidPacket "MPS out of range")
  else .ok ()

/-! ## 2. The channel -/

inductive LeCreditBasedChannelState where
  | connected
  | disconnecting
  | disconnected
deriving DecidableEq, Repr

structure LeCreditBasedChannel where
  psm : UInt16
  sourceCid : UInt16
  destinationCid : UInt16
  mtu : UInt16
  mps : UInt16
  /-- Credits granted by the peer for outbound K-frames. -/
  credits : UInt16
  peerMtu : UInt16
  peerMps : UInt16
  /-- Credits this endpoint has granted to the peer. -/
  peerCredits : UInt16
  peerMaxCredits : UInt16
  attMtu : UInt16
  state : LeCreditBasedChannelState
  peerCreditThreshold : UInt16
  outputStream : Bytes
  outputSdu : Bytes
  outboundPdus : List Bytes
  inputSdu : Bytes
  inputSduLength : Option Nat
  receivedSdus : List Bytes
  pendingCreditGrants : List UInt16
  readingPaused : Bool
deriving DecidableEq, Repr

abbrev ChannelCall (α : Type) := Outcome LeCreditBasedChannel Error α

namespace LeCreditBasedChannel

def connected (psm sourceCid destinationCid : UInt16) (spec : LeCreditBasedChannelSpec)
    (peerMtu peerMps credits : UInt16) : Except Error LeCreditBasedChannel := do
  let spec ← spec.validate
  if peerMtu < connectionMinMtu then .error (.invalidPacket "peer MTU out of range")
  else if ¬ mpsInRange peerMps then .error (.invalidPacket "peer MPS out of range")
  else
    return {
      psm, sourceCid, destinationCid
      mtu := spec.mtu
      mps := spec.mps
      credits, peerMtu, peerMps
      peerCredits := spec.maxCredits
      peerMaxCredits := spec.maxCredits
      attMtu := min spec.mtu peerMtu
      state := .connected
      peerCreditThreshold := spec.maxCredits / 2
      outputStream := []
      outputSdu := []
      outboundPdus := []
      inputSdu := []
      inputSduLength := none
      receivedSdus := []
      pendingCreditGrants := []
      readingPaused := false }

def ensureConnected (channel : LeCreditBasedChannel) : Except Error Unit :=
  if channel.state ≠ .connected then .error (.invalidPacket "channel is not connected")
  else .ok ()

/-! ### Output -/

/-- The head of the stream becomes the next SDU, its length in front. -/
def startSdu (channel : LeCreditBasedChannel) : LeCreditBasedChannel :=
  let length := min channel.outputStream.length channel.peerMtu.toNat
  { channel with
    outputSdu := u16ToLe (UInt16.ofNat length) ++ channel.outputStream.take length
    outputStream := channel.outputStream.drop length }

/-- A fragment of the SDU goes out for one credit. -/
def sendFragment (channel : LeCreditBasedChannel) : LeCreditBasedChannel :=
  let length := min channel.outputSdu.length channel.peerMps.toNat
  { channel with
    outboundPdus := channel.outboundPdus ++ [channel.outputSdu.take length]
    outputSdu := channel.outputSdu.drop length
    credits := channel.credits - 1 }

/-- The `while self.credits != 0` loop of `process_output`; each round takes a
    credit. -/
def processOutputLoop : Nat → LeCreditBasedChannel → LeCreditBasedChannel
  | 0, channel => channel
  | fuel + 1, channel =>
    if channel.credits = 0 then channel
    else if channel.outputSdu.isEmpty then
      if channel.outputStream.isEmpty then channel
      else processOutputLoop fuel channel.startSdu.sendFragment
    else processOutputLoop fuel channel.sendFragment

def processOutput (channel : LeCreditBasedChannel) : LeCreditBasedChannel :=
  processOutputLoop channel.credits.toNat channel

def write (channel : LeCreditBasedChannel) (data : Bytes) : ChannelCall Unit :=
  match channel.ensureConnected with
  | .error error => .fail channel error
  | .ok () =>
    if data.isEmpty then .fail channel (.invalidPacket "cannot queue an empty buffer")
    else .ok { channel with outputStream := channel.outputStream ++ data }.processOutput ()

def addCredits (channel : LeCreditBasedChannel) (credits : UInt16) : ChannelCall Unit :=
  match channel.ensureConnected with
  | .error error => .fail channel error
  | .ok () =>
    if channel.credits.toNat + credits.toNat ≥ 65536 then
      .fail channel (.invalidPacket "outbound credit overflow")
    else .ok { channel with credits := channel.credits + credits }.processOutput ()

/-! ### Input -/

def replenishPeerCredits (channel : LeCreditBasedChannel) : LeCreditBasedChannel :=
  if channel.readingPaused ∨ channel.peerCredits > channel.peerCreditThreshold then channel
  else
    let grant := channel.peerMaxCredits - channel.peerCredits
    if grant ≠ 0 then
      { channel with
        pendingCreditGrants := channel.pendingCreditGrants ++ [grant]
        peerCredits := channel.peerMaxCredits }
    else channel

def resetInput (channel : LeCreditBasedChannel) : LeCreditBasedChannel :=
  { channel with inputSdu := [], inputSduLength := none }

/-- The end of `receive_pdu`: complete the SDU when its length is reached. -/
def completeSdu (channel : LeCreditBasedChannel) : ChannelCall Unit :=
  match channel.inputSduLength with
  | none => .ok channel ()
  | some length =>
    let expected := length + 2
    if channel.inputSdu.length < expected then .ok channel ()
    else if channel.inputSdu.length > expected then
      .fail channel.resetInput (.invalidPacket "incoming SDU overflow")
    else
      .ok { channel with
        receivedSdus := channel.receivedSdus ++ [(channel.inputSdu.take expected).drop 2]
        }.resetInput ()

/-- The middle of `receive_pdu`: read the length once two octets are there. -/
def readSduLength (channel : LeCreditBasedChannel) : ChannelCall Unit :=
  match channel.inputSduLength, channel.inputSdu with
  | none, l0 :: l1 :: _ =>
    let length := (u16FromLe l0 l1).toNat
    if length > channel.mtu.toNat then
      .fail channel.resetInput
        (.invalidPacket s!"incoming SDU exceeds MTU {channel.mtu.toNat}")
    else .ok { channel with inputSduLength := some length } ()
  | _, _ => .ok channel ()

def receivePdu (channel : LeCreditBasedChannel) (pdu : Bytes) : ChannelCall Unit :=
  match channel.ensureConnected with
  | .error error => .fail channel error
  | .ok () =>
    if pdu.length > channel.mps.toNat then
      .fail channel (.invalidPacket s!"incoming PDU exceeds MPS {channel.mps.toNat}")
    else if channel.peerCredits = 0 then
      .fail channel (.invalidPacket "received PDU after peer exhausted credits")
    else
      let channel := { channel with peerCredits := channel.peerCredits - 1 }.replenishPeerCredits
      let channel := { channel with inputSdu := channel.inputSdu ++ pdu }
      channel.readSduLength.andThen fun channel _ => channel.completeSdu

/-! ### Queues, pausing, closing -/

def popReceived (channel : LeCreditBasedChannel) : Option (Bytes × LeCreditBasedChannel) :=
  match channel.receivedSdus with
  | [] => none
  | sdu :: receivedSdus => some (sdu, { channel with receivedSdus })

def pauseReading (channel : LeCreditBasedChannel) : ChannelCall Unit :=
  match channel.ensureConnected with
  | .error error => .fail channel error
  | .ok () => .ok { channel with readingPaused := true } ()

def resumeReading (channel : LeCreditBasedChannel) : ChannelCall Unit :=
  match channel.ensureConnected with
  | .error error => .fail channel error
  | .ok () => .ok { channel with readingPaused := false }.replenishPeerCredits ()

def flush (channel : LeCreditBasedChannel) : LeCreditBasedChannel :=
  { channel with outputStream := [], outputSdu := [], outboundPdus := [] }.resetInput

def beginDisconnect (channel : LeCreditBasedChannel) : LeCreditBasedChannel :=
  { channel with state := .disconnecting }.flush

def completeDisconnect (channel : LeCreditBasedChannel) : LeCreditBasedChannel :=
  { channel with state := .disconnected }.flush

def disconnect (channel : LeCreditBasedChannel) : ChannelCall Unit :=
  match channel.ensureConnected with
  | .error error => .fail channel error
  | .ok () => .ok channel.beginDisconnect.completeDisconnect ()

def abortable (channel : LeCreditBasedChannel) : Bool :=
  channel.state = .connected ∨ channel.state = .disconnecting

def abort (channel : LeCreditBasedChannel) : LeCreditBasedChannel :=
  if channel.abortable then channel.completeDisconnect else channel

def reconfigureLocal (channel : LeCreditBasedChannel) (mtu mps : UInt16) : LeCreditBasedChannel :=
  { channel with mtu, mps, attMtu := min mtu channel.peerMtu }

def reconfigurePeer (channel : LeCreditBasedChannel) (mtu mps : UInt16) : LeCreditBasedChannel :=
  { channel with peerMtu := mtu, peerMps := mps, attMtu := min channel.mtu mtu }.processOutput

end LeCreditBasedChannel

end Bumble.LeCredit
