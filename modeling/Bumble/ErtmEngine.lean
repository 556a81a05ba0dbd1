import Bumble.Chunks
import Bumble.L2capFrame
import Bumble.Outcome

/-!
# The Enhanced Retransmission Mode engine (`bumble-l2cap/src/ertm.rs`)

Control fields and the sans-I/O data engine, function by function.  Sequence
numbers are the source's octets with its own modulus; the transmission counter
of a frame wraps like the 16-bit field it is in a release build.
-/

namespace Bumble.Ertm

open Bumble.L2cap (Error)

def ertmSequenceModulus : UInt8 := 64

/-! ## 1. The control field -/

inductive SegmentationAndReassembly where
  | unsegmented
  | start
  | end_
  | continuation
deriving DecidableEq, Repr

/-- `sar as u8`. -/
def SegmentationAndReassembly.toU8 : SegmentationAndReassembly → UInt8
  | .unsegmented => 0
  | .start => 1
  | .end_ => 2
  | .continuation => 3

def SegmentationAndReassembly.tryFrom (value : UInt8) : Except Error SegmentationAndReassembly :=
  if value = 0 then .ok .unsegmented
  else if value = 1 then .ok .start
  else if value = 2 then .ok .end_
  else if value = 3 then .ok .continuation
  else .error (.invalidPacket "invalid ERTM SAR value")

inductive SupervisoryFunction where
  | receiverReady
  | reject
  | receiverNotReady
  | selectiveReject
deriving DecidableEq, Repr

/-- `function as u8`. -/
def SupervisoryFunction.toU8 : SupervisoryFunction → UInt8
  | .receiverReady => 0
  | .reject => 1
  | .receiverNotReady => 2
  | .selectiveReject => 3

def SupervisoryFunction.tryFrom (value : UInt8) : Except Error SupervisoryFunction :=
  if value = 0 then .ok .receiverReady
  else if value = 1 then .ok .reject
  else if value = 2 then .ok .receiverNotReady
  else if value = 3 then .ok .selectiveReject
  else .error (.invalidPacket "invalid ERTM supervisory function")

inductive EnhancedControlField where
  | information (txSeq : UInt8) (finalBit : Bool) (reqSeq : UInt8)
      (sar : SegmentationAndReassembly)
  | supervisory (function : SupervisoryFunction) (poll finalBit : Bool) (reqSeq : UInt8)
deriving DecidableEq, Repr

namespace EnhancedControlField

def fromBytes (data : Bytes) : Except Error EnhancedControlField :=
  match data with
  | b0 :: b1 :: _ =>
    if b0 &&& 1 = 0 then do
      let sar ← SegmentationAndReassembly.tryFrom (b1 >>> 6)
      return information ((b0 >>> 1) &&& 0x3f) (b0 &&& 0x80 ≠ 0) (b1 &&& 0x3f) sar
    else do
      let function ← SupervisoryFunction.tryFrom ((b0 >>> 2) &&& 3)
      return supervisory function (b0 &&& 0x10 ≠ 0) (b0 &&& 0x80 ≠ 0) (b1 &&& 0x3f)
  | _ => .error (.invalidPacket "truncated ERTM control field")

/-- The `validate_seq` closure of `to_bytes`. -/
def validateSeq (name : String) (value : UInt8) : Except Error UInt8 :=
  if value < ertmSequenceModulus then .ok value
  else .error (.invalidPacket s!"ERTM {name} sequence number out of range")

def toBytes : EnhancedControlField → Except Error Bytes
  | information txSeq finalBit reqSeq sar => do
    let txSeq ← validateSeq "transmit" txSeq
    let reqSeq ← validateSeq "request" reqSeq
    return [txSeq <<< 1 ||| finalBit.toUInt8 <<< 7, reqSeq ||| sar.toU8 <<< 6]
  | supervisory function poll finalBit reqSeq => do
    let reqSeq ← validateSeq "request" reqSeq
    return [(1 : UInt8) ||| function.toU8 <<< 2 ||| poll.toUInt8 <<< 4 |||
      finalBit.toUInt8 <<< 7, reqSeq]

def reqSeq : EnhancedControlField → UInt8
  | information _ _ reqSeq _ | supervisory _ _ _ reqSeq => reqSeq

end EnhancedControlField

/-! ## 2. Configuration and state -/

structure ErtmConfig where
  localMtu : UInt16 := 2048
  peerMtu : UInt16 := 2048
  localMps : UInt16 := 1010
  peerMps : UInt16 := 1010
  txWindowSize : UInt8 := 63
  /-- Zero means unlimited. -/
  maxRetransmissions : UInt8 := 0
  retransmissionTimeoutTicks : UInt32 := 2000
deriving DecidableEq, Repr

def ErtmConfig.validate (config : ErtmConfig) : Except Error ErtmConfig :=
  if config.localMtu = 0 ∨ config.peerMtu = 0 then
    .error (.invalidPacket "ERTM MTU cannot be zero")
  else if config.localMps = 0 ∨ config.peerMps = 0 then
    .error (.invalidPacket "ERTM MPS cannot be zero")
  else if ¬(1 ≤ config.txWindowSize ∧ config.txWindowSize < ertmSequenceModulus) then
    .error (.invalidPacket "ERTM transmit window must be between 1 and 63")
  else if config.retransmissionTimeoutTicks = 0 then
    .error (.invalidPacket "ERTM retransmission timeout cannot be zero")
  else .ok config

structure PendingFrame where
  payload : Bytes
  txSeq : UInt8
  sar : SegmentationAndReassembly
  sduLength : Option UInt16
deriving DecidableEq, Repr

def sduLengthBytes : Option UInt16 → Bytes
  | some length => u16ToLe length
  | none => []

def PendingFrame.encode (frame : PendingFrame) (reqSeq : UInt8) (finalBit : Bool) :
    Except Error Bytes := do
  let control ← (EnhancedControlField.information frame.txSeq finalBit reqSeq frame.sar).toBytes
  return control ++ sduLengthBytes frame.sduLength ++ frame.payload

structure TransmittedFrame where
  frame : PendingFrame
  transmissions : UInt16
deriving DecidableEq, Repr

structure ErtmEngine where
  config : ErtmConfig
  pending : List PendingFrame
  txWindow : List TransmittedFrame
  outbound : List Bytes
  received : List Bytes
  nextTxSeq : UInt8
  lastAckedTxSeq : UInt8
  expectedTxSeq : UInt8
  lastAckedRxSeq : UInt8
  remoteBusy : Bool
  localBusy : Bool
  inputSdu : Bytes
  inputSduLength : Option Nat
  now : Nat
  retransmissionDeadline : Option Nat
  failed : Bool
deriving DecidableEq, Repr

def ErtmEngine.initial (config : ErtmConfig) : ErtmEngine where
  config := config
  pending := []
  txWindow := []
  outbound := []
  received := []
  nextTxSeq := 0
  lastAckedTxSeq := 0
  expectedTxSeq := 0
  lastAckedRxSeq := 0
  remoteBusy := false
  localBusy := false
  inputSdu := []
  inputSduLength := none
  now := 0
  retransmissionDeadline := none
  failed := false

/-- `ErtmEngine::new`. -/
def ErtmEngine.new (config : ErtmConfig) : Except Error ErtmEngine := do
  let config ← config.validate
  return ErtmEngine.initial config

abbrev EngineCall (α : Type) := Outcome ErtmEngine Error α

/-! ## 3. Sequence numbers and limits -/

def sequenceAdd (sequence delta : UInt8) : UInt8 := (sequence + delta) % ertmSequenceModulus

/-- How far `to` is ahead of `from`. -/
def sequenceDistance (start target : UInt8) : UInt8 :=
  (target + ertmSequenceModulus - start) % ertmSequenceModulus

def retransmissionLimitReached (max : UInt8) (frame : TransmittedFrame) : Bool :=
  max ≠ 0 ∧ frame.transmissions.toNat - 1 ≥ max.toNat

def retransmissionLimitError (txSeq : UInt8) : Error :=
  .invalidPacket s!"maximum retransmissions exceeded for ERTM sequence {txSeq.toNat}"

def engineFailedError : Error := .invalidPacket "ERTM engine has failed"

/-- The largest 64-bit value, where the clock saturates. -/
def u64Max : Nat := 2 ^ 64 - 1

namespace ErtmEngine

def ensureActive (engine : ErtmEngine) : Except Error Unit :=
  if engine.failed then .error engineFailedError else .ok ()

def refreshRetransmissionDeadline (engine : ErtmEngine) : ErtmEngine :=
  { engine with
    retransmissionDeadline :=
      if engine.txWindow.isEmpty then none
      else some (min u64Max (engine.now + engine.config.retransmissionTimeoutTicks.toNat)) }

def resetInput (engine : ErtmEngine) : ErtmEngine :=
  { engine with inputSdu := [], inputSduLength := none }

/-! ## 4. Output -/

/-- The `while` loop of `process_output`; each round takes one pending frame. -/
def processOutputLoop : Nat → ErtmEngine → EngineCall Unit
  | 0, engine => .ok engine ()
  | fuel + 1, engine =>
    if engine.txWindow.length < engine.config.txWindowSize.toNat then
      match engine.pending with
      | [] => .ok engine ()
      | frame :: pending =>
        match frame.encode engine.expectedTxSeq false with
        | .error error => .fail { engine with pending } error
        | .ok encoded =>
          processOutputLoop fuel
            { engine with
              pending
              lastAckedRxSeq := engine.expectedTxSeq
              txWindow := engine.txWindow ++ [⟨frame, 1⟩]
              outbound := engine.outbound ++ [encoded] }
    else .ok engine ()

def processOutput (engine : ErtmEngine) : EngineCall Unit :=
  if engine.remoteBusy then .ok engine ()
  else
    (processOutputLoop engine.pending.length engine).andThen fun engine _ =>
      .ok engine.refreshRetransmissionDeadline ()

/-- The `for frame in &mut self.tx_window` loop of `retransmit_all`: `done` has
    been sent again, the argument list not yet. -/
def retransmitAllLoop (done : List TransmittedFrame) :
    List TransmittedFrame → ErtmEngine → EngineCall Unit
  | [], engine => .ok { engine with txWindow := done } ()
  | sent :: rest, engine =>
    let sent := { sent with transmissions := sent.transmissions + 1 }
    match sent.frame.encode engine.expectedTxSeq false with
    | .error error => .fail { engine with txWindow := done ++ sent :: rest } error
    | .ok encoded =>
      retransmitAllLoop (done ++ [sent]) rest
        { engine with
          outbound := engine.outbound ++ [encoded]
          lastAckedRxSeq := engine.expectedTxSeq }

def retransmitAll (engine : ErtmEngine) : EngineCall Unit :=
  if engine.remoteBusy then .ok engine ()
  else
    match engine.txWindow.find? (retransmissionLimitReached engine.config.maxRetransmissions) with
    | some sent => .fail { engine with failed := true } (retransmissionLimitError sent.frame.txSeq)
    | none =>
      (retransmitAllLoop [] engine.txWindow engine).andThen fun engine _ =>
        .ok engine.refreshRetransmissionDeadline ()

def retransmitOne (engine : ErtmEngine) (txSeq : UInt8) : EngineCall Unit :=
  if engine.remoteBusy then .ok engine ()
  else
    match engine.txWindow.findIdx? (fun sent => sent.frame.txSeq = txSeq) with
    | none =>
      .fail engine
        (.invalidPacket s!"selective reject requested unknown ERTM sequence {txSeq.toNat}")
    | some index =>
      match engine.txWindow[index]? with
      | none => .ok engine ()
      | some sent =>
        if retransmissionLimitReached engine.config.maxRetransmissions sent then
          .fail { engine with failed := true } (retransmissionLimitError sent.frame.txSeq)
        else
          let sent := { sent with transmissions := sent.transmissions + 1 }
          let engine := { engine with txWindow := engine.txWindow.set index sent }
          match sent.frame.encode engine.expectedTxSeq false with
          | .error error => .fail engine error
          | .ok encoded =>
            .ok ({ engine with
              outbound := engine.outbound ++ [encoded]
              lastAckedRxSeq := engine.expectedTxSeq }).refreshRetransmissionDeadline ()

def sendSupervisory (engine : ErtmEngine) (function : SupervisoryFunction)
    (poll finalBit : Bool) : EngineCall Unit :=
  match (EnhancedControlField.supervisory function poll finalBit engine.expectedTxSeq).toBytes with
  | .error error => .fail engine error
  | .ok frame =>
    .ok { engine with
      outbound := engine.outbound ++ [frame]
      lastAckedRxSeq := engine.expectedTxSeq } ()

/-! ## 5. Input -/

/-- `acknowledge`: drop the frames before `newSeq` from the window; whether any
    was dropped. -/
def acknowledge (engine : ErtmEngine) (newSeq : UInt8) : EngineCall Bool :=
  if newSeq ≥ ertmSequenceModulus then
    .fail engine (.invalidPacket "ERTM acknowledgment sequence out of range")
  else
    let count := (sequenceDistance engine.lastAckedTxSeq newSeq).toNat
    if count > engine.txWindow.length then
      .fail engine (.invalidPacket
        s!"ERTM acknowledged {count} frames with only {engine.txWindow.length} outstanding")
    else if count ≠ 0 then
      .ok ({ engine with
        txWindow := engine.txWindow.drop count
        lastAckedTxSeq := newSeq }).refreshRetransmissionDeadline true
    else .ok engine false

def checkPartialLength (engine : ErtmEngine) : EngineCall Unit :=
  match engine.inputSduLength with
  | some length =>
    if engine.inputSdu.length ≥ length then
      .fail engine.resetInput
        (.invalidPacket "ERTM segmented SDU reached its length before an end frame")
    else .ok engine ()
  | none => .ok engine ()

/-- Whether a segmented SDU has been started and not ended. -/
def inputActive (engine : ErtmEngine) : Bool :=
  !engine.inputSdu.isEmpty || engine.inputSduLength.isSome

def acceptInformation (engine : ErtmEngine) (sar : SegmentationAndReassembly) (payload : Bytes) :
    EngineCall Unit :=
  match sar with
  | .unsegmented =>
    if engine.inputActive then
      .fail engine.resetInput (.invalidPacket "unsegmented frame interrupted an ERTM SDU")
    else if payload.length > engine.config.localMtu.toNat then
      .fail engine (.invalidPacket "ERTM SDU exceeds local MTU")
    else .ok { engine with received := engine.received ++ [payload] } ()
  | .start =>
    match payload with
    | l0 :: l1 :: body =>
      if engine.inputActive then
        .fail engine.resetInput (.invalidPacket "ERTM start frame interrupted an SDU")
      else
        let length := (u16FromLe l0 l1).toNat
        if length > engine.config.localMtu.toNat then
          .fail engine (.invalidPacket "ERTM SDU exceeds local MTU")
        else
          ({ engine with
            inputSduLength := some length
            inputSdu := engine.inputSdu ++ body } : ErtmEngine).checkPartialLength
    | _ => .fail engine (.invalidPacket "ERTM start frame is missing SDU length")
  | .continuation =>
    match engine.inputSduLength with
    | none => .fail engine (.invalidPacket "ERTM continuation without start")
    | some _ =>
      ({ engine with inputSdu := engine.inputSdu ++ payload } : ErtmEngine).checkPartialLength
  | .end_ =>
    match engine.inputSduLength with
    | none => .fail engine (.invalidPacket "ERTM end without start")
    | some length =>
      let engine := { engine with inputSdu := engine.inputSdu ++ payload }
      if engine.inputSdu.length ≠ length then
        .fail engine.resetInput (.invalidPacket "ERTM SDU length mismatch")
      else
        .ok { engine with
          received := engine.received ++ [engine.inputSdu]
          inputSdu := []
          inputSduLength := none } ()

/-! ## 6. The calls -/

/-- `take_tx_seq` and the push of one frame. -/
def queueFrame (engine : ErtmEngine) (payload : Bytes) (sar : SegmentationAndReassembly)
    (sduLength : Option UInt16) : ErtmEngine :=
  { engine with
    pending := engine.pending ++ [⟨payload, engine.nextTxSeq, sar, sduLength⟩]
    nextTxSeq := sequenceAdd engine.nextTxSeq 1 }

/-- The segmentation mark of the chunk at `index`. -/
def chunkSar (mps sduLength index : Nat) (chunk : Bytes) : SegmentationAndReassembly :=
  if index = 0 then .start
  else if index * mps + chunk.length = sduLength then .end_
  else .continuation

/-- The `for (index, chunk)` loop of `send_sdu`. -/
def queueChunks (mps sduLength : Nat) : Nat → List Bytes → ErtmEngine → ErtmEngine
  | _, [], engine => engine
  | index, chunk :: rest, engine =>
    let sar := chunkSar mps sduLength index chunk
    queueChunks mps sduLength (index + 1) rest
      (engine.queueFrame chunk sar
        (if sar = .start then some (UInt16.ofNat sduLength) else none))

def sendSdu (engine : ErtmEngine) (sdu : Bytes) : EngineCall Unit :=
  match engine.ensureActive with
  | .error error => .fail engine error
  | .ok () =>
    if sdu.length > engine.config.peerMtu.toNat then
      .fail engine (.invalidPacket s!"SDU exceeds peer MTU {engine.config.peerMtu.toNat}")
    else
      let mps := engine.config.peerMps.toNat
      if sdu.length ≤ mps then
        (engine.queueFrame sdu .unsegmented none).processOutput
      else if sdu.length ≥ 65536 then
        .fail engine (.invalidPacket "ERTM SDU length exceeds 16 bits")
      else (queueChunks mps sdu.length 0 (chunks mps sdu) engine).processOutput

/-- The information branch of `receive_frame`, after the acknowledgement. -/
def receiveInformation (engine : ErtmEngine) (txSeq : UInt8) (finalBit : Bool)
    (sar : SegmentationAndReassembly) (payload : Bytes) : EngineCall Unit :=
  if engine.localBusy then engine.sendSupervisory .receiverNotReady false finalBit
  else if txSeq ≠ engine.expectedTxSeq then engine.sendSupervisory .reject false finalBit
  else
    let engine := { engine with expectedTxSeq := sequenceAdd engine.expectedTxSeq 1 }
    (engine.acceptInformation sar payload).andThen fun engine _ =>
    engine.processOutput.andThen fun engine _ =>
    if engine.lastAckedRxSeq ≠ engine.expectedTxSeq then
      engine.sendSupervisory .receiverReady false finalBit
    else .ok engine ()

/-- The supervisory branch of `receive_frame`, after the acknowledgement. -/
def receiveSupervisory (engine : ErtmEngine) (acked : Bool) (function : SupervisoryFunction)
    (poll finalBit : Bool) (reqSeq : UInt8) : EngineCall Unit :=
  let engine : ErtmEngine := { engine with remoteBusy := decide (function = .receiverNotReady) }
  (match function with
    | .reject => engine.retransmitAll
    | .selectiveReject => engine.retransmitOne reqSeq
    | .receiverReady | .receiverNotReady =>
      if finalBit && !acked && !engine.txWindow.isEmpty then engine.retransmitAll
      else .ok engine ()).andThen fun engine _ =>
  (if poll then
      engine.sendSupervisory
        (if engine.localBusy then .receiverNotReady else .receiverReady) false true
    else .ok engine ()).andThen fun engine _ =>
  engine.processOutput

def receiveFrame (engine : ErtmEngine) (frame : Bytes) : EngineCall Unit :=
  match engine.ensureActive with
  | .error error => .fail engine error
  | .ok () =>
    match EnhancedControlField.fromBytes frame with
    | .error error => .fail engine error
    | .ok control =>
      (engine.acknowledge control.reqSeq).andThen fun engine acked =>
        match control with
        | .information txSeq finalBit _ sar =>
          engine.receiveInformation txSeq finalBit sar (frame.drop 2)
        | .supervisory function poll finalBit reqSeq =>
          engine.receiveSupervisory acked function poll finalBit reqSeq

def setReceiverBusy (engine : ErtmEngine) (busy : Bool) : EngineCall Unit :=
  match engine.ensureActive with
  | .error error => .fail engine error
  | .ok () =>
    if engine.localBusy ≠ busy then
      ({ engine with localBusy := busy } : ErtmEngine).sendSupervisory
        (if busy then .receiverNotReady else .receiverReady) false false
    else .ok engine ()

/-- Whether a retransmission deadline is set and has passed. -/
def deadlinePassed (engine : ErtmEngine) : Bool :=
  match engine.retransmissionDeadline with
  | some deadline => deadline ≤ engine.now
  | none => false

/-- `self.now.saturating_add(ticks)`. -/
def advance (engine : ErtmEngine) (ticks : UInt32) : ErtmEngine :=
  { engine with now := min u64Max (engine.now + ticks.toNat) }

def tick (engine : ErtmEngine) (ticks : UInt32) : EngineCall Unit :=
  match engine.ensureActive with
  | .error error => .fail engine error
  | .ok () =>
    let engine := engine.advance ticks
    if engine.deadlinePassed && !engine.txWindow.isEmpty then engine.retransmitAll
    else .ok engine ()

def pollOutbound (engine : ErtmEngine) : Option (Bytes × ErtmEngine) :=
  match engine.outbound with
  | [] => none
  | frame :: outbound => some (frame, { engine with outbound })

def popReceived (engine : ErtmEngine) : Option (Bytes × ErtmEngine) :=
  match engine.received with
  | [] => none
  | sdu :: received => some (sdu, { engine with received })

end ErtmEngine

end Bumble.Ertm
