import Bumble.OrderedMap
import Bumble.Outcome
import Bumble.RfcommFrame

/-!
# The RFCOMM multiplexer and its DLCs (`bumble-rfcomm/src/mux.rs`)

The session on DLCI 0, the negotiation and opening of data link connections,
and the credits that pace their data.  A DLC method that appends to the outbox
returns the DLC and the frames it appends.
-/

namespace Bumble.Rfcomm

/-! ## 1. Roles and states -/

def rfcommDefaultCreditThreshold : UInt16 := (rfcommDefaultMaxCredits / 2).toUInt16

def frameOverhead : UInt16 := 4 + 1

inductive Role where
  | initiator
  | responder
deriving DecidableEq, Repr

def Role.isInitiator : Role → Bool
  | initiator => true
  | responder => false

inductive MultiplexerState where
  | init
  | connecting
  | connected
  | opening
  | disconnecting
  | disconnected
deriving DecidableEq, Repr

inductive DlcState where
  | init
  | connecting
  | connected
  | disconnecting
  | disconnected
deriving DecidableEq, Repr

/-- A change of the session that a DLC method asks for. -/
inductive DlcUpcall where
  | none
  | openComplete
  | opened
  | disconnected
deriving DecidableEq, Repr

/-! ## 2. One DLC -/

structure Dlc where
  dlci : UInt8
  cR : Bool
  state : DlcState
  rxMaxCredits : UInt16
  rxCredits : UInt16
  rxCreditsThreshold : UInt16
  txCredits : UInt16
  txBuffer : Bytes
  /-- The largest information payload of a frame. -/
  mtu : Nat
  rxPackets : List Bytes
  readingPaused : Bool
deriving DecidableEq, Repr

/-- A DLC method with an outbox: the DLC after it and the frames it appends. -/
abbrev DlcCall := Dlc × List RfcommFrame

namespace Dlc

def new (role : Role) (dlci : UInt8) (txMaxFrameSize txInitialCredits rxInitialCredits
    peerMtu : UInt16) : Dlc where
  dlci := dlci
  cR := role.isInitiator
  state := .init
  rxMaxCredits := rfcommDefaultMaxCredits.toUInt16
  rxCredits := rxInitialCredits
  rxCreditsThreshold := rfcommDefaultCreditThreshold
  txCredits := txInitialCredits
  txBuffer := []
  -- `saturating_sub` of the frame overhead
  mtu := min txMaxFrameSize.toNat (peerMtu.toNat - frameOverhead.toNat)
  rxPackets := []
  readingPaused := false

/-- The modem status message of a DLC, as a command or as a response. -/
def mscFrame (dlc : Dlc) (command : Bool) : RfcommFrame :=
  .uih dlc.cR 0
    (makeMcc .msc command (RfcommMccMsc.toBytes ⟨dlc.dlci, false, true, true, false, true⟩)) false

def sendMscCommand (dlc : Dlc) : List RfcommFrame := [dlc.mscFrame true]

def connect (dlc : Dlc) : DlcCall :=
  ({ dlc with state := .connecting }, [.sabm dlc.cR dlc.dlci])

def accept (dlc : Dlc) (rxMaxFrameSize rxInitialCredits : UInt16) : DlcCall :=
  let pn : RfcommMccPn := {
    dlci := dlc.dlci
    cl := 0xE0
    priority := 7
    ackTimer := 0
    maxFrameSize := rxMaxFrameSize
    maxRetransmissions := 0
    initialCredits := rxInitialCredits.toUInt8 }
  ({ dlc with state := .connecting }, [.uih dlc.cR 0 (makeMcc .pn false pn.toBytes) false])

def onSabm (dlc : Dlc) : DlcCall × DlcUpcall :=
  if dlc.state ≠ .connecting then ((dlc, []), .none)
  else
    (({ dlc with state := .connected }, [.ua (!dlc.cR) dlc.dlci] ++ dlc.sendMscCommand), .opened)

def onUa (dlc : Dlc) : DlcCall × DlcUpcall :=
  match dlc.state with
  | .connecting => (({ dlc with state := .connected }, dlc.sendMscCommand), .openComplete)
  | .disconnecting => (({ dlc with state := .disconnected }, []), .disconnected)
  | _ => ((dlc, []), .none)

def disconnect (dlc : Dlc) : Except Error DlcCall :=
  if dlc.state ≠ .connected then .error (.invalidArgument "DLC not connected")
  else .ok ({ dlc with state := .disconnecting }, [.disc dlc.cR dlc.dlci])

/-! ### Credits and data -/

def rxCreditsNeeded (dlc : Dlc) : UInt16 :=
  if !dlc.readingPaused ∧ dlc.rxCredits ≤ dlc.rxCreditsThreshold then
    dlc.rxMaxCredits - dlc.rxCredits
  else 0

/-- Whether there is data to send and a credit to send it with. -/
def canSendData (dlc : Dlc) : Bool := !dlc.txBuffer.isEmpty && dlc.txCredits > 0

/-- The payload taken from the buffer for a frame, at the cost of one credit. -/
def takeData (dlc : Dlc) (length : Nat) : Bytes × Dlc :=
  let take := min length dlc.txBuffer.length
  (dlc.txBuffer.take take,
    { dlc with txBuffer := dlc.txBuffer.drop take, txCredits := dlc.txCredits - 1 })

/-- The room that a grant leaves in a frame: `self.mtu - 1` on a 64-bit word. -/
def grantRoom (dlc : Dlc) : Nat := if dlc.mtu = 0 then 2 ^ 64 - 1 else dlc.mtu - 1

/-- A round of the loop of `process_tx` that grants credits. -/
def grantRound (dlc : Dlc) (needed : UInt16) : DlcCall :=
  let dlc := { dlc with rxCredits := dlc.rxCredits + needed }
  if dlc.canSendData then
    let (data, dlc) := dlc.takeData dlc.grantRoom
    (dlc, [.uih dlc.cR dlc.dlci (needed.toUInt8 :: data) true])
  else (dlc, [.uih dlc.cR dlc.dlci [needed.toUInt8] true])

def dataRound (dlc : Dlc) : DlcCall :=
  let (data, dlc) := dlc.takeData dlc.mtu
  (dlc, [.uih dlc.cR dlc.dlci data false])

/-- The rounds after the first: nothing is granted, each takes a credit. -/
def sendLoop : Nat → Dlc → DlcCall
  | 0, dlc => (dlc, [])
  | fuel + 1, dlc =>
    if dlc.canSendData then
      let (sent, frames) := dlc.dataRound
      let (last, rest) := sendLoop fuel sent
      (last, frames ++ rest)
    else (dlc, [])

/-- `process_tx`: only the first round can grant, since `rx_credits_needed` is
    zero after it. -/
def processTx (dlc : Dlc) : DlcCall :=
  let needed := dlc.rxCreditsNeeded
  if needed > 0 then
    let (granted, frames) := dlc.grantRound needed
    let (last, rest) := sendLoop granted.txCredits.toNat granted
    (last, frames ++ rest)
  else sendLoop dlc.txCredits.toNat dlc

/-- The credits and the data of a received UIH frame.  A credit frame without an
    octet, which the source indexes out of bounds, grants nothing here. -/
def takeUih (dlc : Dlc) (frame : RfcommFrame) : Dlc :=
  let (dlc, data) :=
    if frame.pF then
      ({ dlc with txCredits := dlc.txCredits + (frame.information.headD 0).toUInt16 },
        frame.information.drop 1)
    else (dlc, frame.information)
  if data.isEmpty then dlc
  else
    { dlc with
      rxPackets :=
        (if dlc.rxPackets.length = rfcommDefaultRxQueueSize then dlc.rxPackets.drop 1
          else dlc.rxPackets) ++ [data]
      rxCredits := if dlc.rxCredits > 0 then dlc.rxCredits - 1 else dlc.rxCredits }

def onUih (dlc : Dlc) (frame : RfcommFrame) : DlcCall := (dlc.takeUih frame).processTx

def onMccMsc (dlc : Dlc) (command : Bool) : List RfcommFrame :=
  if command then [dlc.mscFrame false] else []

def write (dlc : Dlc) (data : Bytes) : DlcCall :=
  { dlc with txBuffer := dlc.txBuffer ++ data }.processTx

def onFrame (dlc : Dlc) (frame : RfcommFrame) : DlcCall × DlcUpcall :=
  match frame.frameType with
  | .sabm => dlc.onSabm
  | .ua => dlc.onUa
  | .disc => ((dlc, [.ua (!dlc.cR) dlc.dlci]), .none)
  | .uih => (dlc.onUih frame, .none)
  | .dm | .ui => ((dlc, []), .none)

end Dlc

/-! ## 3. The multiplexer -/

structure Multiplexer where
  role : Role
  state : MultiplexerState
  dlcs : Std.ExtTreeMap UInt8 Dlc
  openPn : Option RfcommMccPn
  acceptor : Std.ExtTreeMap UInt8 (UInt16 × UInt16)
  peerMtu : UInt16
  outbox : List RfcommFrame
  opened : List UInt8

abbrev MuxCall (α : Type) := Outcome Multiplexer Error α

namespace Multiplexer

def new (role : Role) (peerMtu : UInt16) : Multiplexer where
  role := role
  state := .init
  dlcs := ∅
  openPn := none
  acceptor := ∅
  peerMtu := peerMtu
  outbox := []
  opened := []

def push (mux : Multiplexer) (frames : List RfcommFrame) : Multiplexer :=
  { mux with outbox := mux.outbox ++ frames }

/-- Store a DLC after a method and push what the method appended. -/
def store (mux : Multiplexer) (dlci : UInt8) (call : DlcCall) : Multiplexer :=
  { mux with dlcs := mux.dlcs.insert dlci call.1 }.push call.2

def noDlc (dlci : UInt8) : Error := .invalidArgument s!"no DLC for DLCI {dlci.toNat}"

/-! ### Calls -/

def listen (mux : Multiplexer) (channel : UInt8) (rxMaxFrameSize rxInitialCredits : UInt16) :
    Multiplexer :=
  { mux with acceptor := mux.acceptor.insert channel (rxMaxFrameSize, rxInitialCredits) }

def connect (mux : Multiplexer) : MuxCall Unit :=
  if mux.state ≠ .init then .fail mux (.invalidArgument "multiplexer not in INIT state")
  else .ok ({ mux with state := .connecting }.push [.sabm true 0]) ()

def openDlc (mux : Multiplexer) (channel : UInt8) (maxFrameSize initialCredits : UInt16) :
    MuxCall Unit :=
  if mux.state ≠ .connected then .fail mux (.invalidArgument "multiplexer not connected")
  else
    let pn : RfcommMccPn := {
      dlci := channel <<< 1
      cl := 0xF0
      priority := 7
      ackTimer := 0
      maxFrameSize
      maxRetransmissions := 0
      initialCredits := initialCredits.toUInt8 }
    .ok ({ mux with openPn := some pn, state := .opening }.push
      [.uih mux.role.isInitiator 0 (makeMcc .pn true pn.toBytes) false]) ()

def disconnect (mux : Multiplexer) : MuxCall Unit :=
  if mux.state ≠ .connected then .fail mux (.invalidArgument "multiplexer not connected")
  else .ok ({ mux with state := .disconnecting }.push [.disc mux.role.isInitiator 0]) ()

def disconnectDlc (mux : Multiplexer) (dlci : UInt8) : MuxCall Unit :=
  match mux.dlcs[dlci]? with
  | none => .fail mux (noDlc dlci)
  | some dlc =>
    match dlc.disconnect with
    | .error error => .fail mux error
    | .ok call => .ok (mux.store dlci call) ()

def write (mux : Multiplexer) (dlci : UInt8) (data : Bytes) : MuxCall Unit :=
  match mux.dlcs[dlci]? with
  | none => .fail mux (noDlc dlci)
  | some dlc => .ok (mux.store dlci (dlc.write data)) ()

def setDlcReceiveCredits (mux : Multiplexer) (dlci : UInt8) (maxCredits threshold : UInt16) :
    MuxCall Unit :=
  if maxCredits = 0 ∨ threshold > maxCredits then
    .fail mux (.invalidArgument
      "RFCOMM receive credits require 0 <= threshold <= max and max > 0")
  else
    match mux.dlcs[dlci]? with
    | none => .fail mux (noDlc dlci)
    | some dlc =>
      .ok (mux.store dlci
        ({ dlc with rxMaxCredits := maxCredits, rxCreditsThreshold := threshold }, [])) ()

def setDlcReadingPaused (mux : Multiplexer) (dlci : UInt8) (paused : Bool) : MuxCall Unit :=
  match mux.dlcs[dlci]? with
  | none => .fail mux (noDlc dlci)
  | some dlc =>
    let dlc := { dlc with readingPaused := paused }
    .ok (mux.store dlci (if paused then (dlc, []) else dlc.processTx)) ()

def takeRx (mux : Multiplexer) (dlci : UInt8) : List Bytes × Multiplexer :=
  match mux.dlcs[dlci]? with
  | none => ([], mux)
  | some dlc => (dlc.rxPackets, mux.store dlci ({ dlc with rxPackets := [] }, []))

/-! ### Frames -/

def onDm (mux : Multiplexer) : Multiplexer :=
  if mux.state = .opening then { mux with state := .connected, openPn := none } else mux

def onMccPn (mux : Multiplexer) (command : Bool) (pn : RfcommMccPn) : Multiplexer :=
  if command then
    -- an odd DLCI is not expected from an initiator
    if pn.dlci &&& 1 ≠ 0 then mux
    else
      match mux.acceptor[pn.dlci >>> 1]? with
      | some (rxMaxFrameSize, rxInitialCredits) =>
        let dlc := Dlc.new mux.role pn.dlci pn.maxFrameSize pn.initialCredits.toUInt16
          rxInitialCredits mux.peerMtu
        mux.store pn.dlci (dlc.accept rxMaxFrameSize rxInitialCredits)
      | none => mux.push [.dm true pn.dlci]
  else if mux.state = .opening then
    match mux.openPn with
    | none => mux
    | some openPn =>
      let dlc := Dlc.new mux.role pn.dlci pn.maxFrameSize pn.initialCredits.toUInt16
        openPn.initialCredits.toUInt16 mux.peerMtu
      { mux with openPn := none }.store pn.dlci dlc.connect
  else mux

def onUihControl (mux : Multiplexer) (frame : RfcommFrame) : Multiplexer :=
  match parseMcc frame.information with
  | .error _ => mux
  | .ok (mccType, command, value) =>
    if mccType = MccType.pn.value then
      match RfcommMccPn.fromBytes value with
      | .ok pn => mux.onMccPn command pn
      | .error _ => mux
    else if mccType = MccType.msc.value then
      match RfcommMccMsc.fromBytes value with
      | .ok msc =>
        match mux.dlcs[msc.dlci]? with
        | some dlc => mux.push (dlc.onMccMsc command)
        | none => mux
      | .error _ => mux
    else mux

def onControlFrame (mux : Multiplexer) (frame : RfcommFrame) : Multiplexer :=
  match frame.frameType with
  | .sabm =>
    if mux.state = .init then { mux with state := .connected }.push [.ua true 0] else mux
  | .ua =>
    match mux.state with
    | .connecting => { mux with state := .connected }
    | .disconnecting => { mux with state := .disconnected }
    | _ => mux
  | .disc => { mux with state := .disconnected }.push [.ua (!mux.role.isInitiator) 0]
  | .dm => mux.onDm
  | .uih => mux.onUihControl frame
  | .ui => mux

def applyUpcall (mux : Multiplexer) (dlci : UInt8) : DlcUpcall → Multiplexer
  | .openComplete => { mux with state := .connected, opened := mux.opened ++ [dlci] }
  | .opened => { mux with opened := mux.opened ++ [dlci] }
  | .disconnected => { mux with dlcs := mux.dlcs.erase dlci }
  | .none => mux

def onPdu (mux : Multiplexer) (frame : RfcommFrame) : Multiplexer :=
  if frame.dlci = 0 then mux.onControlFrame frame
  else if frame.frameType = .dm then mux.onDm
  else
    match mux.dlcs[frame.dlci]? with
    | none => mux
    | some dlc =>
      let (call, upcall) := dlc.onFrame frame
      (mux.store frame.dlci call).applyUpcall frame.dlci upcall

def drainOutgoing (mux : Multiplexer) : List RfcommFrame × Multiplexer :=
  (mux.outbox, { mux with outbox := [] })

def takeOpened (mux : Multiplexer) : List UInt8 × Multiplexer :=
  (mux.opened, { mux with opened := [] })

end Multiplexer

end Bumble.Rfcomm
