import Bumble.FifoNet
import Bumble.RfcommTransmit

/-!
# The events of an open RFCOMM DLC

The multiplexer's calls and frame handlers, seen from the DLC they act on, come
down to a few events: a step of the opening, new limits, a pause, a resumption,
a read, a write, the reception of a UIH frame.  The handlers are reduced to
them once, here; what an event does to credits and data is then a matter of the
DLC alone.
-/

namespace Bumble.Rfcomm

/-! ## 1. Events of a DLC -/

inductive DlcEvent where
  /-- The opening goes on, by a frame or without one. -/
  | control (state : DlcState) (consumed : Option RfcommFrame) (sent : List RfcommFrame)
  | limits (maxCredits threshold : UInt16)
  | pause
  | resume
  | takeRx
  | write (data : Bytes)
  | receive (frame : RfcommFrame)

namespace DlcEvent

/-- The DLC in which the event starts the transmit engine, if it does. -/
def start (dlc : Dlc) : DlcEvent → Option Dlc
  | resume => some { dlc with readingPaused := false }
  | write data => some { dlc with txBuffer := dlc.txBuffer ++ data }
  | receive frame => some (dlc.takeUih frame)
  | _ => none

/-- The DLC after the event and the frames it sends. -/
def result (dlc : Dlc) : DlcEvent → DlcCall
  | control state _ sent => ({ dlc with state }, sent)
  | limits maxCredits threshold =>
    ({ dlc with rxMaxCredits := maxCredits, rxCreditsThreshold := threshold }, [])
  | pause => ({ dlc with readingPaused := true }, [])
  | resume => { dlc with readingPaused := false }.processTx
  | takeRx => ({ dlc with rxPackets := [] }, [])
  | write data => dlc.write data
  | receive frame => dlc.onUih frame

def consumed : DlcEvent → List RfcommFrame
  | control _ consumed _ => consumed.toList
  | receive frame => [frame]
  | _ => []

def Valid (dlci : UInt8) : DlcEvent → Prop
  | control state consumed sent =>
    state ≠ .disconnecting ∧ (∀ frame ∈ consumed.toList, isUih dlci frame = false) ∧
      ∀ frame ∈ sent, isUih dlci frame = false
  | limits maxCredits threshold => threshold ≤ maxCredits
  | receive frame => isUih dlci frame = true
  | _ => True

end DlcEvent

/-! ## 2. The multiplexer of an open DLC -/

/-- The frames that travel between the two ends of a DLC once it is negotiated. -/
inductive Plain (dlci : UInt8) : RfcommFrame → Prop
  | uih (frame : RfcommFrame) (hframe : isUih dlci frame = true) : Plain dlci frame
  | sabm (cR : Bool) : Plain dlci (.sabm cR dlci)
  | ua (cR : Bool) : Plain dlci (.ua cR dlci)
  | msc (cR command : Bool) : Plain dlci (.uih cR 0
      (makeMcc .msc command (RfcommMccMsc.toBytes ⟨dlci, false, true, true, false, true⟩)) false)

/-- The multiplexer has this DLC under this DLCI, and no other. -/
structure Holds (dlci : UInt8) (mux : Multiplexer) (dlc : Dlc) : Prop where
  stored : mux.dlcs[dlci]? = some dlc
  only : ∀ other : UInt8, other ≠ dlci → mux.dlcs[other]? = none
  own : dlc.dlci = dlci
  limited : dlc.Limited
  kept : dlc.state ≠ .disconnecting

section Holding

variable {dlci : UInt8} {mux : Multiplexer} {dlc : Dlc}

/-- An event leaves the DLC its own and within its limits, and sends plain
    frames if its control frames are plain. -/
theorem DlcEvent.result_same {event : DlcEvent} (hown : dlc.dlci = dlci) (hlimited : dlc.Limited)
    (hkept : dlc.state ≠ .disconnecting) (hvalid : event.Valid dlci) :
    (event.result dlc).1.dlci = dlci ∧ (event.result dlc).1.Limited ∧
      (event.result dlc).1.state ≠ .disconnecting ∧ (event.result dlc).1.mtu = dlc.mtu := by
  cases event with
  | control state consumed sent => exact ⟨hown, hlimited, hvalid.1, rfl⟩
  | limits maxCredits threshold => exact ⟨hown, hvalid, hkept, rfl⟩
  | pause => exact ⟨hown, hlimited, hkept, rfl⟩
  | takeRx => exact ⟨hown, hlimited, hkept, rfl⟩
  | resume =>
    simp only [DlcEvent.result]
    rw [({ dlc with readingPaused := false } : Dlc).processTx_same.1]
    exact ⟨hown, hlimited, hkept, rfl⟩
  | write data =>
    simp only [DlcEvent.result, Dlc.write]
    rw [({ dlc with txBuffer := dlc.txBuffer ++ data } : Dlc).processTx_same.1]
    exact ⟨hown, hlimited, hkept, rfl⟩
  | receive frame =>
    simp only [DlcEvent.result, Dlc.onUih]
    rw [(dlc.takeUih frame).processTx_same.1, dlc.takeUih_same frame]
    exact ⟨hown, hlimited, hkept, rfl⟩

theorem Holds.store (hholds : Holds dlci mux dlc) {call : DlcCall} (hown : call.1.dlci = dlci)
    (hlimited : call.1.Limited) (hkept : call.1.state ≠ .disconnecting) :
    Holds dlci (mux.store dlci call) call.1 where
  stored := by simp [Multiplexer.store, Multiplexer.push]
  only other hother := by
    simp only [Multiplexer.store, Multiplexer.push, OrderedMap.getElem?_insert,
      if_neg (Ne.symm hother)]
    exact hholds.only other hother
  own := hown
  limited := hlimited
  kept := hkept

theorem Holds.event (hholds : Holds dlci mux dlc) {event : DlcEvent} (hvalid : event.Valid dlci) :
    Holds dlci (mux.store dlci (event.result dlc)) (event.result dlc).1 := by
  obtain ⟨hown, hlimited, hkept, -⟩ :=
    DlcEvent.result_same hholds.own hholds.limited hholds.kept hvalid
  exact hholds.store hown hlimited hkept

structure Moves (dlci : UInt8) (mux next : Multiplexer) (dlc : Dlc) (event : DlcEvent) :
    Prop where
  valid : event.Valid dlci
  holds : Holds dlci next (event.result dlc).1
  sends : next.outbox = mux.outbox ++ (event.result dlc).2
  plain : ∀ frame ∈ (event.result dlc).2, Plain dlci frame

theorem Holds.moves_push (hholds : Holds dlci mux dlc) {consumed : Option RfcommFrame}
    {sent : List RfcommFrame} (hconsumed : ∀ frame ∈ consumed, isUih dlci frame = false)
    (hsent : ∀ frame ∈ sent, isUih dlci frame = false ∧ Plain dlci frame) :
    Moves dlci mux (mux.push sent) dlc (.control dlc.state consumed sent) where
  valid := by
    refine ⟨hholds.kept, ?_, fun frame hmem => (hsent frame hmem).1⟩
    intro frame hmem
    exact hconsumed frame (Option.mem_toList.mp hmem)
  holds := ⟨hholds.stored, hholds.only, hholds.own, hholds.limited, hholds.kept⟩
  sends := rfl
  plain frame hmem := (hsent frame hmem).2

theorem processTx_plain {start : Dlc} (hown : start.dlci = dlci) :
    ∀ frame ∈ start.processTx.2, Plain dlci frame := by
  intro frame hframe
  have huih := start.processTx_same.2 frame hframe
  rw [hown] at huih
  exact .uih frame huih

theorem Holds.moves_store (hholds : Holds dlci mux dlc) (event : DlcEvent)
    (hvalid : event.Valid dlci) (hplain : ∀ frame ∈ (event.result dlc).2, Plain dlci frame) :
    Moves dlci mux (mux.store dlci (event.result dlc)) dlc event where
  valid := hvalid
  holds := hholds.event hvalid
  sends := rfl
  plain := hplain

theorem plain_mscFrame (hown : dlc.dlci = dlci) (command : Bool) :
    Plain dlci (dlc.mscFrame command) := by
  subst hown
  exact .msc dlc.cR command

theorem isUih_mscFrame (hdlci : dlci ≠ 0) (command : Bool) :
    isUih dlci (dlc.mscFrame command) = false := by
  simp [isUih, Dlc.mscFrame, RfcommFrame.uih, Ne.symm hdlci]

theorem isUih_controlFrame (frameType : FrameType) (cR : Bool) (other : UInt8)
    (htype : frameType ≠ .uih) : isUih dlci (.controlFrame frameType cR other) = false := by
  simp [isUih, RfcommFrame.controlFrame, htype]

theorem Moves.congr {next other : Multiplexer} {event : DlcEvent}
    (hmoves : Moves dlci mux next dlc event) (hdlcs : other.dlcs = next.dlcs)
    (houtbox : other.outbox = next.outbox) : Moves dlci mux other dlc event where
  valid := hmoves.valid
  holds :=
    { stored := by rw [hdlcs]; exact hmoves.holds.stored
      only := by rw [hdlcs]; exact hmoves.holds.only
      own := hmoves.holds.own
      limited := hmoves.holds.limited
      kept := hmoves.holds.kept }
  sends := houtbox.trans hmoves.sends
  plain := hmoves.plain

theorem Holds.moves_control (hholds : Holds dlci mux dlc) {state : DlcState}
    {consumed : Option RfcommFrame} {sent : List RfcommFrame} (hstate : state ≠ .disconnecting)
    (hconsumed : ∀ frame ∈ consumed, isUih dlci frame = false)
    (hsent : ∀ frame ∈ sent, isUih dlci frame = false ∧ Plain dlci frame) :
    Moves dlci mux (mux.store dlci ({ dlc with state }, sent)) dlc
      (.control state consumed sent) := by
  have hvalid : (DlcEvent.control state consumed sent).Valid dlci := by
    refine ⟨hstate, ?_, fun frame hmem => (hsent frame hmem).1⟩
    intro frame hmem
    exact hconsumed frame (Option.mem_toList.mp hmem)
  exact hholds.moves_store _ hvalid fun frame hmem => (hsent frame hmem).2

theorem onPdu_sabm (hholds : Holds dlci mux dlc) (hdlci : dlci ≠ 0) (cR : Bool) :
    ∃ state sent, Moves dlci mux (mux.onPdu (.sabm cR dlci)) dlc
      (.control state (some (.sabm cR dlci)) sent) := by
  have hconsumed : ∀ frame ∈ some (RfcommFrame.sabm cR dlci), isUih dlci frame = false := by
    rintro frame ⟨⟩
    exact isUih_controlFrame .sabm cR dlci (by decide)
  simp only [Multiplexer.onPdu, RfcommFrame.sabm, RfcommFrame.controlFrame, hdlci, if_false,
    hholds.stored, Dlc.onFrame, Dlc.onSabm, reduceCtorEq]
  by_cases hstate : dlc.state = .connecting
  · have hsent : ∀ frame ∈ [.ua (!dlc.cR) dlc.dlci] ++ dlc.sendMscCommand,
        isUih dlci frame = false ∧ Plain dlci frame := by
      intro frame hmem
      simp only [Dlc.sendMscCommand, List.cons_append, List.nil_append, List.mem_cons,
        List.not_mem_nil, or_false] at hmem
      rcases hmem with rfl | rfl
      · refine ⟨isUih_controlFrame .ua _ _ (by decide), ?_⟩
        rw [hholds.own]
        exact .ua _
      · exact ⟨isUih_mscFrame hdlci true, plain_mscFrame hholds.own true⟩
    refine ⟨_, _, Moves.congr
      (hholds.moves_control (by decide : DlcState.connected ≠ .disconnecting) hconsumed hsent)
      ?_ ?_⟩ <;>
    simp [hstate, Multiplexer.applyUpcall]
  · refine ⟨_, _, Moves.congr
      (hholds.moves_control hholds.kept hconsumed (List.forall_mem_nil _)) ?_ ?_⟩ <;>
    simp [hstate, Multiplexer.applyUpcall]

theorem onPdu_ua (hholds : Holds dlci mux dlc) (hdlci : dlci ≠ 0) (cR : Bool) :
    ∃ state sent, Moves dlci mux (mux.onPdu (.ua cR dlci)) dlc
      (.control state (some (.ua cR dlci)) sent) := by
  have hconsumed : ∀ frame ∈ some (RfcommFrame.ua cR dlci), isUih dlci frame = false := by
    rintro frame ⟨⟩
    exact isUih_controlFrame .ua cR dlci (by decide)
  have hquiet : Moves dlci mux (mux.store dlci (dlc, [])) dlc
      (.control dlc.state (some (.ua cR dlci)) []) :=
    hholds.moves_control hholds.kept hconsumed (by simp)
  simp only [Multiplexer.onPdu, RfcommFrame.ua, RfcommFrame.controlFrame, hdlci, if_false,
    hholds.stored, Dlc.onFrame, Dlc.onUa, reduceCtorEq]
  cases hstate : dlc.state with
  | connecting =>
    have hsent : ∀ frame ∈ dlc.sendMscCommand, isUih dlci frame = false ∧ Plain dlci frame := by
      intro frame hmem
      rw [List.mem_singleton.mp hmem]
      exact ⟨isUih_mscFrame hdlci true, plain_mscFrame hholds.own true⟩
    exact ⟨_, _, Moves.congr
      (hholds.moves_control (by decide : DlcState.connected ≠ .disconnecting) hconsumed hsent)
      rfl rfl⟩
  | disconnecting => exact absurd hstate hholds.kept
  | init => exact ⟨_, _, hquiet⟩
  | connected => exact ⟨_, _, hquiet⟩
  | disconnected => exact ⟨_, _, hquiet⟩

theorem onUihControl_msc {cR command : Bool} {frame : RfcommFrame}
    (hframe : frame = .uih cR 0
      (makeMcc .msc command (RfcommMccMsc.toBytes ⟨dlci, false, true, true, false, true⟩)) false) :
    mux.onUihControl frame =
      match mux.dlcs[((dlci <<< 2) ||| 3) >>> 2]? with
      | some found => mux.push (found.onMccMsc command)
      | none => mux := by
  simp only [Multiplexer.onUihControl, hframe, RfcommFrame.uih, parseMcc_makeMcc,
    RfcommMccMsc.toBytes, RfcommMccMsc.fromBytes]
  rfl

theorem onPdu_msc (hholds : Holds dlci mux dlc) (hdlci : dlci ≠ 0) {cR command : Bool}
    {frame : RfcommFrame}
    (hframe : frame = .uih cR 0
      (makeMcc .msc command (RfcommMccMsc.toBytes ⟨dlci, false, true, true, false, true⟩)) false) :
    ∃ state sent, Moves dlci mux (mux.onPdu frame) dlc (.control state (some frame) sent) := by
  have hconsumed : ∀ other ∈ some frame, isUih dlci other = false := by
    rintro other ⟨⟩
    simp [hframe, isUih, RfcommFrame.uih, Ne.symm hdlci]
  have hpdu : mux.onPdu frame = mux.onUihControl frame := by
    simp [Multiplexer.onPdu, Multiplexer.onControlFrame, hframe, RfcommFrame.uih]
  rw [hpdu, onUihControl_msc hframe]
  cases hfound : mux.dlcs[((dlci <<< 2) ||| 3) >>> 2]? with
  | none =>
    refine ⟨dlc.state, [], ?_⟩
    exact (hholds.moves_push hconsumed (by simp)).congr rfl (by simp [Multiplexer.push])
  | some found =>
    -- the only DLC there is, under the DLCI the message carries
    have hown : found.dlci = dlci := by
      by_cases hsame : ((dlci <<< 2) ||| 3) >>> 2 = dlci
      · rw [hsame, hholds.stored] at hfound
        cases hfound
        exact hholds.own
      · rw [hholds.only _ hsame] at hfound
        cases hfound
    refine ⟨_, _, hholds.moves_push hconsumed ?_⟩
    intro other hmem
    cases command with
    | false => cases hmem
    | true =>
      rw [List.mem_singleton.mp hmem]
      exact ⟨isUih_mscFrame hdlci false, plain_mscFrame hown false⟩

theorem onPdu_uih (hholds : Holds dlci mux dlc) (hdlci : dlci ≠ 0) {frame : RfcommFrame}
    (hframe : isUih dlci frame = true) :
    Moves dlci mux (mux.onPdu frame) dlc (.receive frame) := by
  obtain ⟨htype, hown⟩ : frame.frameType = .uih ∧ frame.dlci = dlci := by
    simpa [isUih] using hframe
  have hstored : mux.dlcs[frame.dlci]? = some dlc := by rw [hown]; exact hholds.stored
  have hpdu : mux.onPdu frame = mux.store dlci ((DlcEvent.receive frame).result dlc) := by
    simp only [Multiplexer.onPdu, hstored, htype, Dlc.onFrame, Multiplexer.applyUpcall]
    rw [if_neg (by rw [hown]; exact hdlci), if_neg (by decide), hown]
    rfl
  rw [hpdu]
  apply hholds.moves_store (.receive frame) hframe
  apply processTx_plain
  rw [dlc.takeUih_same frame]
  exact hholds.own

/-- **Every plain frame is an event**: a reception if it is a UIH frame of the
    DLC, a step of the opening if not. -/
theorem onPdu_moves (hholds : Holds dlci mux dlc) (hdlci : dlci ≠ 0) {frame : RfcommFrame}
    (hplain : Plain dlci frame) :
    isUih dlci frame = true ∧ Moves dlci mux (mux.onPdu frame) dlc (.receive frame) ∨
    ∃ state sent, Moves dlci mux (mux.onPdu frame) dlc (.control state (some frame) sent) := by
  cases hplain with
  | uih _ hframe => exact .inl ⟨hframe, onPdu_uih hholds hdlci hframe⟩
  | sabm cR => exact .inr (onPdu_sabm hholds hdlci cR)
  | ua cR => exact .inr (onPdu_ua hholds hdlci cR)
  | msc cR command => exact .inr (onPdu_msc hholds hdlci rfl)

end Holding

/-! ## 3. One side of a run -/

inductive RfcommInput where
  | write (dlci : UInt8) (data : Bytes)
  | setReadingPaused (dlci : UInt8) (paused : Bool)
  | setReceiveCredits (dlci : UInt8) (maxCredits threshold : UInt16)
  | takeRx (dlci : UInt8)

/-- A multiplexer with what was written to the DLC and taken from it so far. -/
structure RfcommNode where
  mux : Multiplexer
  written : Bytes
  taken : List Bytes

namespace RfcommNode

def call (dlci : UInt8) (node : RfcommNode) : RfcommInput → RfcommNode
  | .write target data =>
    { node with
      mux := (node.mux.write target data).state
      written :=
        if target = dlci ∧ (node.mux.write target data).result.isOk then node.written ++ data
        else node.written }
  | .setReadingPaused target paused =>
    { node with mux := (node.mux.setDlcReadingPaused target paused).state }
  | .setReceiveCredits target maxCredits threshold =>
    { node with mux := (node.mux.setDlcReceiveCredits target maxCredits threshold).state }
  | .takeRx target =>
    { node with
      mux := (node.mux.takeRx target).2
      taken := if target = dlci then node.taken ++ (node.mux.takeRx target).1 else node.taken }

def poll (node : RfcommNode) : Option (RfcommFrame × RfcommNode) :=
  match node.mux.outbox with
  | [] => none
  | frame :: outbox => some (frame, { node with mux := { node.mux with outbox } })

def receive (node : RfcommNode) (frame : RfcommFrame) : RfcommNode :=
  { node with mux := node.mux.onPdu frame }

/-- The DLC in which a call starts the transmit engine. -/
def callStart (node : RfcommNode) : RfcommInput → Option Dlc
  | .write target data =>
    node.mux.dlcs[target]?.map fun dlc => { dlc with txBuffer := dlc.txBuffer ++ data }
  | .setReadingPaused target false =>
    node.mux.dlcs[target]?.map fun dlc => { dlc with readingPaused := false }
  | _ => none

def receiveStart (node : RfcommNode) (frame : RfcommFrame) : Option Dlc :=
  if frame.frameType = .uih ∧ frame.dlci ≠ 0 then
    node.mux.dlcs[frame.dlci]?.map fun dlc => dlc.takeUih frame
  else none

end RfcommNode

def rfcommParty (dlci : UInt8) : Party RfcommNode RfcommInput RfcommFrame where
  call := RfcommNode.call dlci
  poll := RfcommNode.poll
  receive := RfcommNode.receive

/-- The data that an event writes and the packets that it takes. -/
def DlcEvent.wrote : DlcEvent → Bytes
  | write data => data
  | _ => []

def DlcEvent.took (dlc : Dlc) : DlcEvent → List Bytes
  | takeRx => dlc.rxPackets
  | _ => []

/-- The event of a call, seen from the DLC under `dlci`; a call that fails or
    that is about another DLCI leaves it alone. -/
def callEvent (dlci : UInt8) (dlc : Dlc) : RfcommInput → DlcEvent
  | .write target data => if target = dlci then .write data else .control dlc.state none []
  | .setReadingPaused target paused =>
    if target = dlci then if paused then .pause else .resume else .control dlc.state none []
  | .setReceiveCredits target maxCredits threshold =>
    if target = dlci ∧ ¬ (maxCredits = 0 ∨ threshold > maxCredits) then
      .limits maxCredits threshold
    else .control dlc.state none []
  | .takeRx target => if target = dlci then .takeRx else .control dlc.state none []

section Node

variable {dlci : UInt8} {node : RfcommNode} {dlc : Dlc}

theorem callEvent_consumed (input : RfcommInput) : (callEvent dlci dlc input).consumed = [] := by
  cases input <;> simp only [callEvent] <;> (repeat' split) <;> rfl

/-- What the calls do to the multiplexer, and to the record of what was written
    and taken. -/
structure CallMoves (dlci : UInt8) (node : RfcommNode) (dlc : Dlc) (input : RfcommInput)
    (event : DlcEvent) : Prop where
  moves : Moves dlci node.mux (node.call dlci input).mux dlc event
  written : (node.call dlci input).written = node.written ++ event.wrote
  taken : (node.call dlci input).taken = node.taken ++ event.took dlc

theorem callMoves_idle (hholds : Holds dlci node.mux dlc) {input : RfcommInput}
    (hmux : (node.call dlci input).mux = node.mux)
    (hwritten : (node.call dlci input).written = node.written)
    (htaken : (node.call dlci input).taken = node.taken) :
    CallMoves dlci node dlc input (.control dlc.state none []) where
  moves := by
    rw [hmux]
    exact (hholds.moves_push (by simp) (by simp)).congr rfl (by simp [Multiplexer.push])
  written := by simp [hwritten, DlcEvent.wrote]
  taken := by simp [htaken, DlcEvent.took]

theorem callMoves_write (hholds : Holds dlci node.mux dlc) (target : UInt8) (data : Bytes) :
    CallMoves dlci node dlc (.write target data) (callEvent dlci dlc (.write target data)) := by
  simp only [callEvent]
  by_cases htarget : target = dlci
  · subst htarget
    have hwrite : node.mux.write target data = .ok (node.mux.store target (dlc.write data)) () := by
      simp only [Multiplexer.write, hholds.stored]
    rw [if_pos rfl]
    constructor
    case moves =>
      simp only [RfcommNode.call, hwrite, Outcome.ok_state]
      exact hholds.moves_store (.write data) trivial (processTx_plain hholds.own)
    case written => simp [RfcommNode.call, hwrite, DlcEvent.wrote, Except.isOk, Except.toBool]
    case taken => simp [RfcommNode.call, DlcEvent.took]
  · have hwrite : node.mux.write target data = .fail node.mux (Multiplexer.noDlc target) := by
      simp only [Multiplexer.write, hholds.only target htarget]
    rw [if_neg htarget]
    exact callMoves_idle hholds (by simp [RfcommNode.call, hwrite])
      (by simp [RfcommNode.call, htarget]) rfl

theorem callMoves_setReadingPaused (hholds : Holds dlci node.mux dlc) (target : UInt8)
    (paused : Bool) :
    CallMoves dlci node dlc (.setReadingPaused target paused)
      (callEvent dlci dlc (.setReadingPaused target paused)) := by
  simp only [callEvent]
  by_cases htarget : target = dlci
  · subst htarget
    rw [if_pos rfl]
    cases paused with
    | true =>
      refine ⟨?_, by simp [RfcommNode.call, DlcEvent.wrote],
        by simp [RfcommNode.call, DlcEvent.took]⟩
      simp only [RfcommNode.call, Multiplexer.setDlcReadingPaused, hholds.stored, if_true,
        Outcome.ok_state]
      exact hholds.moves_store .pause trivial (by simp [DlcEvent.result])
    | false =>
      refine ⟨?_, by simp [RfcommNode.call, DlcEvent.wrote],
        by simp [RfcommNode.call, DlcEvent.took]⟩
      simp only [RfcommNode.call, Multiplexer.setDlcReadingPaused, hholds.stored,
        Bool.false_eq_true, if_false, Outcome.ok_state]
      exact hholds.moves_store .resume trivial (processTx_plain hholds.own)
  · rw [if_neg htarget]
    apply callMoves_idle hholds _ rfl rfl
    simp [RfcommNode.call, Multiplexer.setDlcReadingPaused, hholds.only target htarget]

theorem callMoves_setReceiveCredits (hholds : Holds dlci node.mux dlc) (target : UInt8)
    (maxCredits threshold : UInt16) :
    CallMoves dlci node dlc (.setReceiveCredits target maxCredits threshold)
      (callEvent dlci dlc (.setReceiveCredits target maxCredits threshold)) := by
  simp only [callEvent]
  by_cases hlimits : target = dlci ∧ ¬ (maxCredits = 0 ∨ threshold > maxCredits)
  · rw [if_pos hlimits]
    obtain ⟨rfl, hvalid⟩ := hlimits
    refine ⟨?_, by simp [RfcommNode.call, DlcEvent.wrote], by simp [RfcommNode.call, DlcEvent.took]⟩
    simp only [RfcommNode.call, Multiplexer.setDlcReceiveCredits, if_neg hvalid, hholds.stored,
      Outcome.ok_state]
    apply hholds.moves_store (.limits maxCredits threshold) _ (by simp [DlcEvent.result])
    exact UInt16.not_lt.mp fun hlt => hvalid (.inr hlt)
  · rw [if_neg hlimits]
    apply callMoves_idle hholds _ rfl rfl
    simp only [RfcommNode.call, Multiplexer.setDlcReceiveCredits]
    by_cases hinvalid : maxCredits = 0 ∨ threshold > maxCredits
    · rw [if_pos hinvalid, Outcome.fail_state]
    · have htarget : target ≠ dlci := fun htarget => hlimits ⟨htarget, hinvalid⟩
      simp only [if_neg hinvalid, hholds.only target htarget, Outcome.fail_state]

theorem callMoves_takeRx (hholds : Holds dlci node.mux dlc) (target : UInt8) :
    CallMoves dlci node dlc (.takeRx target) (callEvent dlci dlc (.takeRx target)) := by
  simp only [callEvent]
  by_cases htarget : target = dlci
  · subst htarget
    rw [if_pos rfl]
    refine ⟨?_, by simp [RfcommNode.call, DlcEvent.wrote], ?_⟩
    · simp only [RfcommNode.call, Multiplexer.takeRx, hholds.stored]
      exact hholds.moves_store .takeRx trivial (by simp [DlcEvent.result])
    · simp [RfcommNode.call, Multiplexer.takeRx, hholds.stored, DlcEvent.took]
  · rw [if_neg htarget]
    apply callMoves_idle hholds _ rfl
    · simp [RfcommNode.call, htarget]
    · simp [RfcommNode.call, Multiplexer.takeRx, hholds.only target htarget]

/-- **Every call is an event**, with its effect on what was written and taken. -/
theorem call_moves (hholds : Holds dlci node.mux dlc) (input : RfcommInput) :
    CallMoves dlci node dlc input (callEvent dlci dlc input) := by
  cases input with
  | write target data => exact callMoves_write hholds target data
  | setReadingPaused target paused => exact callMoves_setReadingPaused hholds target paused
  | setReceiveCredits target maxCredits threshold =>
    exact callMoves_setReceiveCredits hholds target maxCredits threshold
  | takeRx target => exact callMoves_takeRx hholds target

theorem callEvent_start (hholds : Holds dlci node.mux dlc) (input : RfcommInput) :
    ∀ start ∈ (callEvent dlci dlc input).start dlc, start ∈ node.callStart input := by
  intro start hstart
  cases input with
  | write target data =>
    simp only [callEvent] at hstart
    split at hstart
    · next htarget =>
      subst htarget
      cases hstart
      simp [RfcommNode.callStart, hholds.stored]
    · cases hstart
  | setReadingPaused target paused =>
    simp only [callEvent] at hstart
    split at hstart
    · next htarget =>
      subst htarget
      cases paused with
      | true => cases hstart
      | false =>
        cases hstart
        simp [RfcommNode.callStart, hholds.stored]
    · cases hstart
  | setReceiveCredits target maxCredits threshold =>
    simp only [callEvent] at hstart
    split at hstart <;> cases hstart
  | takeRx target =>
    simp only [callEvent] at hstart
    split at hstart <;> cases hstart

end Node

end Bumble.Rfcomm
