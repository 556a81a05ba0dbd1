import Bumble.FifoNet
import Bumble.RfcommHandshake

/-!
# The two ends of a DLC that is closed

A side that closes a DLC sends DISC and drops the DLC with the UA that answers
it.  The side that receives the DISC answers, and keeps its own DLC.  So the
two ends agree only when both have closed the DLC before the other's DISC came:
then each still answers the other.  A side that is asked first stays open, and
when it closes later nobody is left to answer.
-/

namespace Bumble.Rfcomm

/-! ## 1. Runs -/

inductive TeardownInput where
  | write (dlci : UInt8) (data : Bytes)
  | disconnectDlc (dlci : UInt8)

/-- A multiplexer that is written to and closes DLCs. -/
def teardownParty : Party Multiplexer TeardownInput RfcommFrame where
  call mux
    | .write dlci data => (mux.write dlci data).state
    | .disconnectDlc dlci => (mux.disconnectDlc dlci).state
  poll mux :=
    match mux.outbox with
    | [] => none
    | frame :: outbox => some (frame, { mux with outbox })
  receive := Multiplexer.onPdu

inductive Signal where
  | disc
  | ua
deriving DecidableEq, Repr

def signalOf (dlci : UInt8) (frame : RfcommFrame) : Option Signal :=
  if frame.dlci = dlci then
    match frame.frameType with
    | .disc => some .disc
    | .ua => some .ua
    | _ => none
  else none

/-- The frame opens neither this DLC nor one under DLCI 0. -/
def opensNeither (dlci : UInt8) (frame : RfcommFrame) : Bool :=
  !(frame.dlci = dlci && frame.frameType = .sabm) &&
    (pnOf frame).all fun message => message.2.dlci ≠ dlci && message.2.dlci ≠ 0

def quiet (dlci : UInt8) (frame : RfcommFrame) : Bool :=
  opensNeither dlci frame && (signalOf dlci frame).isNone

/-- The state of a DLC, if it exists: `dlc_state`. -/
def Multiplexer.dlcState (mux : Multiplexer) (dlci : UInt8) : Option DlcState :=
  mux.dlcs[dlci]?.map Dlc.state

/-- A multiplexer with any history whose DLC is open. -/
structure OpenAt (dlci : UInt8) (mux : Multiplexer) : Prop where
  reached : ∃ role peerMtu ops, mux = (Multiplexer.new role peerMtu).runOps ops
  connected : mux.dlcState dlci = some .connected
  /-- DLCI 0 is the session's. -/
  zero : mux.dlcs[(0 : UInt8)]? = none

/-- Two multiplexers between which the DLC is open, with any other DLCs and any
    frames under way that neither open nor close this one. -/
structure Joined (dlci : UInt8) (net : Net Multiplexer RfcommFrame) : Prop where
  left : OpenAt dlci net.left
  right : OpenAt dlci net.right
  toRight : ∀ frame ∈ net.toRight ++ net.left.outbox, quiet dlci frame = true
  toLeft : ∀ frame ∈ net.toLeft ++ net.right.outbox, quiet dlci frame = true

def Settled (net : Net Multiplexer RfcommFrame) : Prop :=
  net.toRight = [] ∧ net.left.outbox = [] ∧ net.toLeft = [] ∧ net.right.outbox = []

/-- The DLC is gone or disconnected, and data written to it is refused. -/
def Refused (dlci : UInt8) (mux : Multiplexer) : Prop :=
  (mux.dlcState dlci = none ∨ mux.dlcState dlci = some .disconnected) ∧
    ∀ data, (mux.write dlci data).result.isOk = false

/-- A DISC comes only after the side it reaches has left the open state. -/
def Crosses (dlci : UInt8) (net : Net Multiplexer RfcommFrame) : Move TeardownInput → Prop
  | .deliver => ∀ frame ∈ net.toLeft.head?, signalOf dlci frame = some .disc →
      net.left.dlcState dlci ≠ some .connected
  | _ => True

def Lossless (moves : List (Side × Move TeardownInput)) : Prop :=
  ∀ side index, (side, Move.lose index) ∉ moves

/-! ## 2. Frames that do not matter -/

section Quiet

variable {dlci other : UInt8} {frame : RfcommFrame}

theorem quiet_iff : quiet dlci frame = true ↔
    opensNeither dlci frame = true ∧ signalOf dlci frame = none := by
  simp [quiet, Option.isNone_iff_eq_none]

theorem quiet_other (hother : frame.dlci ≠ dlci) (hpn : pnOf frame = none) :
    quiet dlci frame = true := by
  simp [quiet, opensNeither, signalOf, hother, hpn]

theorem quiet_type (htype : frame.frameType = .uih ∨ frame.frameType = .dm)
    (hpn : pnOf frame = none) : quiet dlci frame = true := by
  rcases htype with htype | htype <;> simp [quiet, opensNeither, signalOf, htype, hpn]

theorem pnOf_controlFrame (frameType : FrameType) (cR : Bool) (other : UInt8) :
    pnOf (.controlFrame frameType cR other) = none := by
  rw [pnOf]
  split <;> rfl

theorem opensNeither_controlFrame {frameType : FrameType} (htype : frameType ≠ .sabm) (cR : Bool)
    (other : UInt8) : opensNeither dlci (.controlFrame frameType cR other) = true := by
  rw [opensNeither, pnOf_controlFrame]
  simp [RfcommFrame.controlFrame, htype]

theorem quiet_controlFrame (hother : other ≠ dlci) (frameType : FrameType) (cR : Bool) :
    quiet dlci (.controlFrame frameType cR other) = true :=
  quiet_other hother (pnOf_controlFrame frameType cR other)

theorem quiet_dm (cR : Bool) (other : UInt8) : quiet dlci (.dm cR other) = true :=
  quiet_type (.inr rfl) (pnOf_controlFrame .dm cR other)

theorem quiet_uih (hother : other ≠ 0) (hframe : isUih other frame = true) :
    quiet dlci frame = true := by
  simp only [isUih, Bool.and_eq_true, decide_eq_true_eq] at hframe
  apply quiet_type (.inl hframe.1)
  simp [pnOf, hframe.2, hother]

theorem quiet_msc (dlc : Dlc) (command : Bool) : quiet dlci (dlc.mscFrame command) = true := by
  apply quiet_type (.inl rfl)
  have hcodes : MccType.msc.value ≠ MccType.pn.value := by decide
  simp [pnOf, Dlc.mscFrame, RfcommFrame.uih, parseMcc_makeMcc, hcodes]

theorem quiet_pn (cR command : Bool) {pn : RfcommMccPn} (hother : pn.dlci ≠ dlci)
    (hzero : pn.dlci ≠ 0) :
    quiet dlci (.uih cR 0 (makeMcc .pn command pn.toBytes) false) = true := by
  have hpn : pnOf (.uih cR 0 (makeMcc .pn command pn.toBytes) false) =
      some (command, { pn with initialCredits := pn.initialCredits &&& 0x07 }) := by
    simp [pnOf, RfcommFrame.uih, parseMcc_makeMcc, RfcommMccPn.fromBytes_toBytes]
  have hsignal : signalOf dlci (.uih cR 0 (makeMcc .pn command pn.toBytes) false) = none := by
    rw [signalOf]
    split <;> rfl
  have hsabm : (RfcommFrame.uih cR 0 (makeMcc .pn command pn.toBytes) false).frameType ≠ .sabm := by
    intro hsabm
    cases hsabm
  rw [quiet, opensNeither, hpn, hsignal]
  simp [hsabm, hother, hzero]

end Quiet

/-! ## 3. One side -/

structure Ready (mux : Multiplexer) : Prop where
  placed : AllPlaced mux
  zero : mux.dlcs[(0 : UInt8)]? = none

def signals (dlci : UInt8) (frames : List RfcommFrame) : List Signal :=
  frames.filterMap (signalOf dlci)

/-- A side goes to `next`: the DLC is then in this state, and these signals are
    sent. -/
def Acts (dlci : UInt8) (mux next : Multiplexer) (state : Option DlcState)
    (sent : List Signal) : Prop :=
  ∃ frames, next.outbox = mux.outbox ++ frames ∧
    (∀ frame ∈ frames, opensNeither dlci frame = true) ∧ signals dlci frames = sent ∧
    Ready next ∧ next.dlcState dlci = state

def SendsQuiet (dlci : UInt8) (mux next : Multiplexer) : Prop :=
  ∃ frames, next.outbox = mux.outbox ++ frames ∧ ∀ frame ∈ frames, quiet dlci frame = true

section Side

variable {dlci other : UInt8} {mux next : Multiplexer} {dlc : Dlc} {frame : RfcommFrame}

theorem SendsQuiet.nothing (houtbox : next.outbox = mux.outbox) : SendsQuiet dlci mux next :=
  ⟨[], by rw [houtbox, List.append_nil], List.forall_mem_nil _⟩

theorem SendsQuiet.one (houtbox : next.outbox = mux.outbox ++ [frame])
    (hframe : quiet dlci frame = true) : SendsQuiet dlci mux next := by
  refine ⟨[frame], houtbox, ?_⟩
  intro other hother
  rw [List.mem_singleton.mp hother]
  exact hframe

theorem signals_quiet {frames : List RfcommFrame}
    (hquiet : ∀ frame ∈ frames, quiet dlci frame = true) : signals dlci frames = [] := by
  rw [signals, List.filterMap_eq_nil_iff]
  exact fun frame hframe => (quiet_iff.mp (hquiet frame hframe)).2

theorem acts_quiet (hsends : SendsQuiet dlci mux next) (hready : Ready next)
    (hstate : next.dlcState dlci = mux.dlcState dlci) :
    Acts dlci mux next (mux.dlcState dlci) [] := by
  obtain ⟨frames, houtbox, hquiet⟩ := hsends
  exact ⟨frames, houtbox, fun frame hframe => (quiet_iff.mp (hquiet frame hframe)).1,
    signals_quiet hquiet, hready, hstate⟩

theorem Ready.same (hready : Ready mux) (hdlcs : next.dlcs = mux.dlcs)
    (houtbox : next.outbox = mux.outbox) : Acts dlci mux next (mux.dlcState dlci) [] := by
  have hnext : Ready next := by
    constructor
    case placed =>
      intro other dlc hget
      rw [hdlcs] at hget
      exact hready.placed other dlc hget
    case zero =>
      rw [hdlcs]
      exact hready.zero
  refine acts_quiet (.nothing houtbox) hnext ?_
  rw [Multiplexer.dlcState, hdlcs]
  rfl

theorem dlcState_insert (dlci other : UInt8) (dlc : Dlc)
    (hdlcs : next.dlcs = mux.dlcs.insert other dlc) :
    next.dlcState dlci = if other = dlci then some dlc.state else mux.dlcState dlci := by
  rw [Multiplexer.dlcState, hdlcs, OrderedMap.getElem?_insert]
  split <;> rfl

theorem dlcState_store (hget : mux.dlcs[other]? = some dlc) {call : DlcCall}
    (hstate : call.1.state = dlc.state) :
    (mux.store other call).dlcState dlci = mux.dlcState dlci := by
  rw [dlcState_insert dlci other call.1 rfl]
  split
  · next hother =>
    rw [Multiplexer.dlcState, ← hother, hget, hstate]
    rfl
  · rfl

theorem Ready.ne_zero (hready : Ready mux) (hget : mux.dlcs[other]? = some dlc) : other ≠ 0 := by
  rintro rfl
  rw [hready.zero] at hget
  cases hget

theorem Ready.write (hready : Ready mux) (other : UInt8) (data : Bytes) :
    Acts dlci mux (mux.write other data).state (mux.dlcState dlci) [] := by
  have hplaced : AllPlaced (mux.write other data).state := hready.placed.step (.write other data)
  rw [Multiplexer.write] at hplaced ⊢
  cases hget : mux.dlcs[other]? with
  | none => exact hready.same rfl rfl
  | some dlc =>
    rw [hget] at hplaced
    have hzero := hready.ne_zero hget
    have hown := (hready.placed other dlc hget).own
    have hsame := Dlc.processTx_same { dlc with txBuffer := dlc.txBuffer ++ data }
    refine acts_quiet ⟨(dlc.write data).2, rfl, ?_⟩ ⟨hplaced, ?_⟩ ?_
    · intro frame hframe
      have huih := hsame.2 frame hframe
      exact quiet_uih (hown ▸ hzero) huih
    · simp only [Outcome.ok_state, Multiplexer.store, Multiplexer.push,
        OrderedMap.getElem?_insert, if_neg hzero]
      exact hready.zero
    · apply dlcState_store hget
      rw [Dlc.write, hsame.1]

/-- What `disconnect_dlc` makes of a state, and sends. -/
def closed : Option DlcState → Option DlcState × List Signal
  | some .connected => (some .disconnecting, [.disc])
  | state => (state, [])

theorem closed_of_not_open {state : Option DlcState} (hnot : state ≠ some .connected) :
    closed state = (state, []) := by
  cases state with
  | none => rfl
  | some state =>
    cases state with
    | connected => exact absurd rfl hnot
    | _ => rfl

/-- A disconnection closes the DLC that it names and leaves every other alone. -/
theorem Ready.disconnectDlc (hready : Ready mux) (dlci other : UInt8) :
    Acts dlci mux (mux.disconnectDlc other).state
      (if other = dlci then closed (mux.dlcState dlci) else (mux.dlcState dlci, [])).1
      (if other = dlci then closed (mux.dlcState dlci) else (mux.dlcState dlci, [])).2 := by
  have hplaced : AllPlaced (mux.disconnectDlc other).state :=
    hready.placed.step (.disconnectDlc other)
  have hidle : (other = dlci → mux.dlcState dlci ≠ some .connected) → Acts dlci mux mux
      (if other = dlci then closed (mux.dlcState dlci) else (mux.dlcState dlci, [])).1
      (if other = dlci then closed (mux.dlcState dlci) else (mux.dlcState dlci, [])).2 := by
    intro hnot
    split
    · next hother =>
      rw [closed_of_not_open (hnot hother)]
      exact hready.same rfl rfl
    · exact hready.same rfl rfl
  rw [Multiplexer.disconnectDlc] at hplaced ⊢
  cases hget : mux.dlcs[other]? with
  | none =>
    apply hidle
    rintro rfl hstate
    rw [Multiplexer.dlcState, hget] at hstate
    cases hstate
  | some dlc =>
    rw [hget] at hplaced
    have hzero := hready.ne_zero hget
    have hown := (hready.placed other dlc hget).own
    dsimp only [Dlc.disconnect] at hplaced ⊢
    by_cases hopen : dlc.state = .connected
    · simp only [hopen, ne_eq, not_true_eq_false, if_false] at hplaced ⊢
      generalize hnext : mux.store other
        ({ dlc with state := .disconnecting }, [.disc dlc.cR dlc.dlci]) = next at hplaced ⊢
      have houtbox : next.outbox = mux.outbox ++ [.disc dlc.cR dlc.dlci] := by
        rw [← hnext]
        rfl
      have hdlcs : next.dlcs = mux.dlcs.insert other { dlc with state := .disconnecting } := by
        rw [← hnext]
        rfl
      have hstate := dlcState_insert dlci other _ hdlcs
      have hleft : Ready next := by
        refine ⟨hplaced, ?_⟩
        rw [hdlcs, OrderedMap.getElem?_insert, if_neg hzero]
        exact hready.zero
      by_cases hother : other = dlci
      · have hconnected : mux.dlcState dlci = some .connected := by
          rw [Multiplexer.dlcState, ← hother, hget, Option.map_some, hopen]
        rw [if_pos hother, hconnected]
        rw [if_pos hother] at hstate
        refine ⟨[.disc dlc.cR dlc.dlci], houtbox, ?_, ?_, hleft, hstate⟩
        · intro frame hframe
          rw [List.mem_singleton.mp hframe]
          exact opensNeither_controlFrame (by decide : FrameType.disc ≠ .sabm) dlc.cR dlc.dlci
        · simp [signals, signalOf, RfcommFrame.disc, RfcommFrame.controlFrame, hown, hother, closed]
      · rw [if_neg hother]
        rw [if_neg hother] at hstate
        exact acts_quiet (.one houtbox (quiet_controlFrame (hown ▸ hother) .disc dlc.cR)) hleft
          hstate
    · simp only [ne_eq, hopen, not_false_eq_true, if_true]
      apply hidle
      rintro rfl hstate
      rw [Multiplexer.dlcState, hget, Option.map_some, Option.some.injEq] at hstate
      exact hopen hstate

/-! ### Received frames -/

theorem Ready.onPdu (hready : Ready mux) (hopens : opensNeither dlci frame = true) :
    Ready (mux.onPdu frame) := by
  refine ⟨hready.placed.onPdu frame, ?_⟩
  cases hpn : pnOf frame with
  | none => exact onPdu_none hpn hready.zero
  | some message =>
    obtain ⟨command, pn⟩ := message
    have hzero : pn.dlci ≠ 0 := by
      simp only [opensNeither, hpn, Option.all_some, Bool.and_eq_true, decide_eq_true_eq] at hopens
      exact hopens.2.2
    rw [onPdu_pn hpn]
    cases hmakes : makesDlc mux command pn with
    | false =>
      rw [onMccPn_ignores hmakes]
      exact hready.zero
    | true =>
      obtain ⟨dlc, -, hdlcs⟩ := onMccPn_makes hmakes
      rw [hdlcs, OrderedMap.getElem?_insert, if_neg hzero]
      exact hready.zero

theorem onMccPn_sends (command : Bool) {pn : RfcommMccPn} (hother : pn.dlci ≠ dlci)
    (hzero : pn.dlci ≠ 0) :
    SendsQuiet dlci mux (mux.onMccPn command pn) ∧
      (mux.onMccPn command pn).dlcState dlci = mux.dlcState dlci := by
  have hstored : ∀ (next : Multiplexer) (dlc : Dlc), next.dlcs = mux.dlcs.insert pn.dlci dlc →
      next.dlcState dlci = mux.dlcState dlci := by
    intro next dlc hdlcs
    rw [dlcState_insert dlci pn.dlci dlc hdlcs, if_neg hother]
  simp only [Multiplexer.onMccPn]
  split
  · split
    · exact ⟨.nothing rfl, rfl⟩
    split
    · exact ⟨.one rfl (quiet_pn _ _ hother hzero), hstored _ _ rfl⟩
    · exact ⟨.one rfl (quiet_dm true pn.dlci), rfl⟩
  split
  · split
    · exact ⟨.nothing rfl, rfl⟩
    · exact ⟨.one rfl (quiet_controlFrame hother .sabm _), hstored _ _ rfl⟩
  · exact ⟨.nothing rfl, rfl⟩

theorem onControlFrame_sends (hdlci : dlci ≠ 0) (hzero : frame.dlci = 0)
    (hpn : pnOf frame = none) : SendsQuiet dlci mux (mux.onControlFrame frame) := by
  have hua : ∀ cR, quiet dlci (.ua cR 0) = true := fun cR =>
    quiet_controlFrame (Ne.symm hdlci) .ua cR
  simp only [Multiplexer.onControlFrame, Multiplexer.onDm]
  split
  · split
    · exact .one rfl (hua true)
    · exact .nothing rfl
  · split <;> exact .nothing rfl
  · exact .one rfl (hua _)
  · split <;> exact .nothing rfl
  · next huih =>
    simp only [pnOf, hzero, huih, and_self, if_true] at hpn
    simp only [Multiplexer.onUihControl]
    split
    · exact .nothing rfl
    next hparse =>
    rw [hparse] at hpn
    dsimp only at hpn
    split
    · next htype =>
      rw [if_pos htype] at hpn
      split
      · next hmessage =>
        rw [hmessage] at hpn
        cases hpn
      · exact .nothing rfl
    split
    · split
      · split
        · next dlc _ =>
          rw [Dlc.onMccMsc]
          split
          · exact .one rfl (quiet_msc dlc false)
          · exact .nothing (List.append_nil _)
        · exact .nothing rfl
      · exact .nothing rfl
    · exact .nothing rfl
  · exact .nothing rfl

theorem Ready.onPdu_zero (hready : Ready mux) (hdlci : dlci ≠ 0)
    (hopens : opensNeither dlci frame = true) (hzero : frame.dlci = 0) :
    Acts dlci mux (mux.onPdu frame) (mux.dlcState dlci) [] := by
  have hnext := hready.onPdu hopens
  cases hpn : pnOf frame with
  | some message =>
    obtain ⟨command, pn⟩ := message
    simp only [opensNeither, hpn, Option.all_some, Bool.and_eq_true, decide_eq_true_eq] at hopens
    rw [onPdu_pn hpn] at hnext ⊢
    obtain ⟨hsends, hstate⟩ := onMccPn_sends command hopens.2.1 hopens.2.2
    exact acts_quiet hsends hnext hstate
  | none =>
    have hcontrol : mux.onPdu frame = mux.onControlFrame frame := by
      rw [Multiplexer.onPdu, if_pos hzero]
    rw [hcontrol] at hnext ⊢
    refine acts_quiet (onControlFrame_sends hdlci hzero hpn) hnext ?_
    rw [Multiplexer.dlcState, Multiplexer.dlcState, onControlFrame_dlcs hzero hpn]

/-- What a DLC in this state makes of a signal, and answers. -/
def answer : Option DlcState → Option Signal → Option DlcState × List Signal
  | some .disconnecting, some .ua => (none, [])
  | some state, some .disc => (some state, [.ua])
  | state, _ => (state, [])

theorem answer_none (state : Option DlcState) : answer state none = (state, []) := by
  cases state with
  | none => rfl
  | some state => cases state <;> rfl

theorem answer_gone (signal : Option Signal) : answer none signal = (none, []) := by
  cases signal <;> rfl

theorem onFrame_sends (hown : dlc.dlci = other) (hzero : other ≠ 0) (hother : other ≠ dlci)
    (frame : RfcommFrame) : ∀ sent ∈ (dlc.onFrame frame).1.2, quiet dlci sent = true := by
  have hua : quiet dlci (.ua (!dlc.cR) dlc.dlci) = true :=
    quiet_controlFrame (hown ▸ hother) .ua _
  have hmsc : ∀ sent ∈ dlc.sendMscCommand, quiet dlci sent = true := by
    intro sent hsent
    rw [List.mem_singleton.mp hsent]
    exact quiet_msc dlc true
  simp only [Dlc.onFrame]
  split
  · simp only [Dlc.onSabm]
    split
    · exact List.forall_mem_nil _
    · intro sent hsent
      rcases List.mem_cons.mp hsent with rfl | hsent
      · exact hua
      · exact hmsc sent hsent
  · simp only [Dlc.onUa]
    split
    · exact hmsc
    · exact List.forall_mem_nil _
    · exact List.forall_mem_nil _
  · intro sent hsent
    rw [List.mem_singleton.mp hsent]
    exact hua
  · intro sent hsent
    have huih := (dlc.takeUih frame).processTx_same.2 sent hsent
    have hdlci : (dlc.takeUih frame).dlci = other := by
      rw [dlc.takeUih_same frame]
      exact hown
    exact quiet_uih (hdlci ▸ hzero) huih
  · exact List.forall_mem_nil _
  · exact List.forall_mem_nil _

theorem applyUpcall_outbox (mux : Multiplexer) (other : UInt8) (upcall : DlcUpcall) :
    (mux.applyUpcall other upcall).outbox = mux.outbox := by
  cases upcall <;> rfl

theorem Ready.onDm (hready : Ready mux) : Acts dlci mux mux.onDm (mux.dlcState dlci) [] := by
  rw [Multiplexer.onDm]
  split
  · exact hready.same rfl rfl
  · exact hready.same rfl rfl

theorem Ready.onPdu_other (hready : Ready mux) (hopens : opensNeither dlci frame = true)
    (hzero : frame.dlci ≠ 0) (hother : frame.dlci ≠ dlci) :
    Acts dlci mux (mux.onPdu frame) (mux.dlcState dlci) [] := by
  have hnext := hready.onPdu hopens
  simp only [Multiplexer.onPdu, if_neg hzero] at hnext ⊢
  split
  · exact hready.onDm
  next hdm =>
  rw [if_neg hdm] at hnext
  cases hget : mux.dlcs[frame.dlci]? with
  | none => exact hready.same rfl rfl
  | some dlc =>
    rw [hget] at hnext
    dsimp only at hnext ⊢
    refine acts_quiet ⟨(dlc.onFrame frame).1.2, ?_, ?_⟩ hnext ?_
    · rw [applyUpcall_outbox]
      rfl
    · exact onFrame_sends (hready.placed frame.dlci dlc hget).own hzero hother frame
    · have hstored : (mux.store frame.dlci (dlc.onFrame frame).1).dlcState dlci =
          mux.dlcState dlci := by
        rw [dlcState_insert dlci frame.dlci _ rfl, if_neg hother]
      cases (dlc.onFrame frame).2 with
      | disconnected =>
        simp only [Multiplexer.applyUpcall, Multiplexer.dlcState, OrderedMap.getElem?_erase,
          if_neg hother]
        exact hstored
      | _ => exact hstored

/-- A frame of the DLC itself changes its state, and is answered, as its signal says. -/
theorem Ready.onPdu_own (hready : Ready mux) (hdlci : dlci ≠ 0)
    (hopens : opensNeither dlci frame = true) (hown : frame.dlci = dlci)
    (hstate : mux.dlcState dlci ≠ some .connecting) :
    Acts dlci mux (mux.onPdu frame) (answer (mux.dlcState dlci) (signalOf dlci frame)).1
      (answer (mux.dlcState dlci) (signalOf dlci frame)).2 := by
  have hnext := hready.onPdu hopens
  have hzero : frame.dlci ≠ 0 := hown ▸ hdlci
  have hsabm : frame.frameType ≠ .sabm := by
    intro hsabm
    simp [opensNeither, hown, hsabm] at hopens
  simp only [Multiplexer.onPdu, if_neg hzero] at hnext ⊢
  by_cases hdm : frame.frameType = .dm
  · have hsignal : signalOf dlci frame = none := by simp [signalOf, hdm]
    rw [if_pos hdm, hsignal, answer_none]
    exact hready.onDm
  rw [if_neg hdm] at hnext ⊢
  rw [hown] at hnext ⊢
  cases hget : mux.dlcs[dlci]? with
  | none =>
    have hgone : mux.dlcState dlci = none := by rw [Multiplexer.dlcState, hget, Option.map_none]
    rw [hgone, answer_gone]
    rw [← hgone]
    exact hready.same rfl rfl
  | some dlc =>
    have hthere : mux.dlcState dlci = some dlc.state := by
      rw [Multiplexer.dlcState, hget, Option.map_some]
    rw [hthere] at hstate
    have hdlc := (hready.placed dlci dlc hget).own
    rw [hget] at hnext
    dsimp only at hnext ⊢
    cases htype : frame.frameType with
    | sabm => exact absurd htype hsabm
    | dm => exact absurd htype hdm
    | ua =>
      have hsignal : signalOf dlci frame = some .ua := by simp [signalOf, hown, htype]
      rw [hsignal]
      simp only [Dlc.onFrame, htype, Dlc.onUa] at hnext ⊢
      cases hdlcState : dlc.state with
      | connecting => exact absurd (congrArg some hdlcState) hstate
      | disconnecting =>
        simp only [hdlcState] at hnext
        rw [hthere, hdlcState]
        refine ⟨[], rfl, List.forall_mem_nil _, rfl, hnext, ?_⟩
        simp only [Multiplexer.dlcState, Multiplexer.applyUpcall,
          OrderedMap.getElem?_erase, if_true,
          Option.map_none, answer]
      | _ =>
        simp only [hdlcState] at hnext
        rw [hthere, hdlcState]
        refine ⟨[], rfl, List.forall_mem_nil _, rfl, hnext, ?_⟩
        rw [Multiplexer.applyUpcall, dlcState_store hget rfl, hthere, hdlcState]
        rfl
    | disc =>
      have hsignal : signalOf dlci frame = some .disc := by simp [signalOf, hown, htype]
      simp only [Dlc.onFrame, htype, Multiplexer.applyUpcall] at hnext ⊢
      have hanswer : answer (some dlc.state) (some .disc) = (some dlc.state, [.ua]) := by
        cases dlc.state <;> rfl
      rw [hsignal, hthere, hanswer]
      refine ⟨[.ua (!dlc.cR) dlc.dlci], rfl, ?_, ?_, hnext, ?_⟩
      · intro sent hsent
        rw [List.mem_singleton.mp hsent]
        exact opensNeither_controlFrame (by decide : FrameType.ua ≠ .sabm) _ _
      · simp [signals, signalOf, RfcommFrame.ua, RfcommFrame.controlFrame, hdlc]
      · rw [dlcState_store hget rfl, hthere]
    | uih =>
      have hsignal : signalOf dlci frame = none := by simp [signalOf, htype]
      simp only [Dlc.onFrame, htype, Multiplexer.applyUpcall] at hnext ⊢
      rw [hsignal, answer_none]
      have hsame := (dlc.takeUih frame).processTx_same
      have htaken : (dlc.takeUih frame).dlci = dlci := by
        rw [dlc.takeUih_same frame]
        exact hdlc
      refine acts_quiet ⟨(dlc.onUih frame).2, rfl, ?_⟩ hnext (dlcState_store hget ?_)
      · intro sent hsent
        exact quiet_uih (htaken ▸ hdlci) (hsame.2 sent hsent)
      · rw [Dlc.onUih, hsame.1, dlc.takeUih_same frame]
    | ui =>
      have hsignal : signalOf dlci frame = none := by simp [signalOf, htype]
      simp only [Dlc.onFrame, htype, Multiplexer.applyUpcall] at hnext ⊢
      rw [hsignal, answer_none]
      exact acts_quiet (.nothing (List.append_nil _)) hnext (dlcState_store hget rfl)

/-- **One delivery.** -/
theorem Ready.receive (hready : Ready mux) (hdlci : dlci ≠ 0)
    (hopens : opensNeither dlci frame = true) (hstate : mux.dlcState dlci ≠ some .connecting) :
    Acts dlci mux (mux.onPdu frame) (answer (mux.dlcState dlci) (signalOf dlci frame)).1
      (answer (mux.dlcState dlci) (signalOf dlci frame)).2 := by
  by_cases hown : frame.dlci = dlci
  · exact hready.onPdu_own hdlci hopens hown hstate
  · have hsignal : signalOf dlci frame = none := by rw [signalOf, if_neg hown]
    rw [hsignal, answer_none]
    by_cases hzero : frame.dlci = 0
    · exact hready.onPdu_zero hdlci hopens hzero
    · exact hready.onPdu_other hopens hzero hown

end Side

/-! ## 4. Two sides -/

/-- How a DLC stands at the two ends: the states on the left and on the right,
    and the signals under way to the right and to the left. -/
abbrev Stand := Option DlcState → Option DlcState → List Signal → List Signal → Prop

inductive BothOpen : Stand
  | both : BothOpen (some .connected) (some .connected) [] []

/-- The DLC is being closed, and each DISC finds the other side closing too. -/
inductive Leaving : Stand
  | asked : Leaving (some .disconnecting) (some .connected) [.disc] []
  | asking : Leaving (some .connected) (some .disconnecting) [] [.disc]
  | crossing : Leaving (some .disconnecting) (some .disconnecting) [.disc] [.disc]
  | leftAnswered : Leaving (some .disconnecting) (some .disconnecting) [.disc, .ua] []
  | rightAnswered : Leaving (some .disconnecting) (some .disconnecting) [] [.disc, .ua]
  | answered : Leaving (some .disconnecting) (some .disconnecting) [.ua] [.ua]
  | leftLast : Leaving (some .disconnecting) none [] [.ua]
  | rightLast : Leaving none (some .disconnecting) [.ua] []
  | gone : Leaving none none [] []

/-- The DISC has found the left side open: its answer closes the right side
    only, and a DISC of its own is not answered any more. -/
inductive OneSided : Stand
  | answered : OneSided (some .connected) (some .disconnecting) [.ua] []
  | dropped : OneSided (some .connected) none [] []
  | late : OneSided (some .disconnecting) (some .disconnecting) [.ua, .disc] []
  | unheard : OneSided (some .disconnecting) none [.disc] []
  | stuck : OneSided (some .disconnecting) none [] []

def Broken : Stand := fun left right sent coming =>
  OneSided left right sent coming ∨ OneSided right left coming sent

section Stand

variable {left right : Option DlcState} {sent coming : List Signal} {signal : Signal}

theorem BothOpen.swap (hopen : BothOpen left right sent coming) :
    BothOpen right left coming sent := by
  cases hopen
  exact .both

theorem Leaving.swap (hleaving : Leaving left right sent coming) :
    Leaving right left coming sent := by
  cases hleaving
  case asked => exact .asking
  case asking => exact .asked
  case crossing => exact .crossing
  case leftAnswered => exact .rightAnswered
  case rightAnswered => exact .leftAnswered
  case answered => exact .answered
  case leftLast => exact .rightLast
  case rightLast => exact .leftLast
  case gone => exact .gone

theorem Broken.swap (hbroken : Broken left right sent coming) : Broken right left coming sent :=
  Or.symm hbroken

theorem BothOpen.live (hopen : BothOpen left right sent coming) : left ≠ some .connecting := by
  cases hopen
  nofun

theorem Leaving.live (hleaving : Leaving left right sent coming) : left ≠ some .connecting := by
  cases hleaving <;> nofun

theorem Broken.live (hbroken : Broken left right sent coming) : left ≠ some .connecting := by
  rcases hbroken with hleft | hright
  · cases hleft <;> nofun
  · cases hright <;> nofun

theorem BothOpen.nothing (hopen : BothOpen left right sent coming) : coming = [] := by
  cases hopen
  rfl

theorem BothOpen.disconnect (hopen : BothOpen left right sent coming) :
    Leaving (closed left).1 right (sent ++ (closed left).2) coming := by
  cases hopen
  exact .asked

theorem Leaving.disconnect (hleaving : Leaving left right sent coming) :
    Leaving (closed left).1 right (sent ++ (closed left).2) coming := by
  cases hleaving
  case asked => exact .asked
  case asking => exact .crossing
  case crossing => exact .crossing
  case leftAnswered => exact .leftAnswered
  case rightAnswered => exact .rightAnswered
  case answered => exact .answered
  case leftLast => exact .leftLast
  case rightLast => exact .rightLast
  case gone => exact .gone

theorem Broken.disconnect (hbroken : Broken left right sent coming) :
    Broken (closed left).1 right (sent ++ (closed left).2) coming := by
  rcases hbroken with hleft | hright
  · left
    cases hleft
    case answered => exact .late
    case dropped => exact .unheard
    case late => exact .late
    case unheard => exact .unheard
    case stuck => exact .stuck
  · right
    cases hright
    case answered => exact .answered
    case dropped => exact .dropped
    case late => exact .late
    case unheard => exact .unheard
    case stuck => exact .stuck

theorem Leaving.deliver (hleaving : Leaving left right sent (signal :: coming))
    (hcrosses : signal = .disc → left ≠ some .connected) :
    Leaving (answer left (some signal)).1 right (sent ++ (answer left (some signal)).2) coming := by
  cases hleaving
  case asking => exact absurd rfl (hcrosses rfl)
  case crossing => exact .leftAnswered
  case rightAnswered => exact .answered
  case answered => exact .rightLast
  case leftLast => exact .gone

theorem Leaving.breaks (hleaving : Leaving (some .connected) right sent (.disc :: coming)) :
    Broken (some .connected) right (sent ++ [.ua]) coming := by
  cases hleaving
  exact .inl .answered

theorem Broken.deliver (hbroken : Broken left right sent (signal :: coming)) :
    Broken (answer left (some signal)).1 right (sent ++ (answer left (some signal)).2) coming := by
  rcases hbroken with hleft | hright
  · cases hleft
  · right
    cases hright
    case answered => exact .dropped
    case late => exact .unheard
    case unheard => exact .stuck

theorem Leaving.settled (hleaving : Leaving left right [] []) : left = none ∧ right = none := by
  cases hleaving
  exact ⟨rfl, rfl⟩

theorem Broken.never (hbroken : Broken left right sent coming) :
    ∃ state, (left = some state ∨ right = some state) ∧ state ≠ .disconnected := by
  rcases hbroken with hleft | hright
  · cases hleft <;> exact ⟨_, .inl rfl, nofun⟩
  · cases hright <;> exact ⟨_, .inr rfl, nofun⟩

end Stand

/-! ## 5. Runs of two sides -/

structure Meets (dlci : UInt8) (stand : Stand) (net : Net Multiplexer RfcommFrame) : Prop where
  left : Ready net.left
  right : Ready net.right
  toRight : ∀ frame ∈ net.toRight ++ net.left.outbox, opensNeither dlci frame = true
  toLeft : ∀ frame ∈ net.toLeft ++ net.right.outbox, opensNeither dlci frame = true
  stands : stand (net.left.dlcState dlci) (net.right.dlcState dlci)
    (signals dlci (net.toRight ++ net.left.outbox)) (signals dlci (net.toLeft ++ net.right.outbox))

section Meets

variable {dlci : UInt8} {stand result : Stand} {net : Net Multiplexer RfcommFrame}

theorem Meets.swap (hmeets : Meets dlci stand net)
    (hswap : ∀ {left right sent coming}, stand left right sent coming →
      stand right left coming sent) : Meets dlci stand net.swap :=
  ⟨hmeets.right, hmeets.left, hmeets.toLeft, hmeets.toRight, hswap hmeets.stands⟩

theorem Meets.acts (hmeets : Meets dlci stand net) {next : Multiplexer} {state : Option DlcState}
    {sent : List Signal} {toLeft : List RfcommFrame} (hacts : Acts dlci net.left next state sent)
    (hlink : ∀ frame ∈ toLeft, frame ∈ net.toLeft)
    (hstands : result state (net.right.dlcState dlci)
      (signals dlci (net.toRight ++ net.left.outbox) ++ sent)
      (signals dlci (toLeft ++ net.right.outbox))) :
    Meets dlci result { net with left := next, toLeft } := by
  obtain ⟨frames, houtbox, hopens, hsent, hready, hstate⟩ := hacts
  constructor
  case left => exact hready
  case right => exact hmeets.right
  case toRight =>
    intro frame hframe
    simp only [houtbox, ← List.append_assoc] at hframe
    rcases List.mem_append.mp hframe with hold | hnew
    · exact hmeets.toRight frame hold
    · exact hopens frame hnew
  case toLeft =>
    intro frame hframe
    apply hmeets.toLeft frame
    rcases List.mem_append.mp hframe with hcoming | hwaiting
    · exact List.mem_append_left _ (hlink frame hcoming)
    · exact List.mem_append_right _ hwaiting
  case stands =>
    simp only [houtbox, ← List.append_assoc]
    rw [hstate, signals, List.filterMap_append]
    rw [← hsent] at hstands
    exact hstands

theorem Meets.poll (hmeets : Meets dlci stand net) :
    Meets dlci stand (net.stepLeft teardownParty .poll) := by
  cases houtbox : net.left.outbox with
  | nil =>
    rw [Net.stepLeft_poll_none (by simp [teardownParty, houtbox])]
    exact hmeets
  | cons frame outbox =>
    have hpoll : teardownParty.poll net.left = some (frame, { net.left with outbox }) := by
      simp [teardownParty, houtbox]
    have hsame : net.toRight ++ [frame] ++ outbox = net.toRight ++ net.left.outbox := by
      simp [houtbox]
    rw [Net.stepLeft_poll_some hpoll]
    refine ⟨⟨hmeets.left.placed, hmeets.left.zero⟩, hmeets.right, ?_, hmeets.toLeft, ?_⟩
    · simp only [hsame]
      exact hmeets.toRight
    · simp only [hsame]
      exact hmeets.stands

theorem Meets.write (hmeets : Meets dlci stand net) (other : UInt8) (data : Bytes) :
    Meets dlci stand (net.stepLeft teardownParty (.call (.write other data))) := by
  apply hmeets.acts (hmeets.left.write other data) fun _ hframe => hframe
  rw [List.append_nil]
  exact hmeets.stands

theorem Meets.disconnectOther (hmeets : Meets dlci stand net) {other : UInt8}
    (hother : other ≠ dlci) :
    Meets dlci stand (net.stepLeft teardownParty (.call (.disconnectDlc other))) := by
  have hacts := hmeets.left.disconnectDlc dlci other
  rw [if_neg hother] at hacts
  apply hmeets.acts hacts fun _ hframe => hframe
  rw [List.append_nil]
  exact hmeets.stands

theorem Meets.disconnectOwn (hmeets : Meets dlci stand net)
    (hclose : ∀ left right sent coming, stand left right sent coming →
      result (closed left).1 right (sent ++ (closed left).2) coming) :
    Meets dlci result (net.stepLeft teardownParty (.call (.disconnectDlc dlci))) := by
  have hacts := hmeets.left.disconnectDlc dlci dlci
  rw [if_pos rfl] at hacts
  exact hmeets.acts hacts (fun _ hframe => hframe) (hclose _ _ _ _ hmeets.stands)

theorem Meets.deliver (hmeets : Meets dlci stand net) (hdlci : dlci ≠ 0) {frame : RfcommFrame}
    {toLeft : List RfcommFrame} (hlink : net.toLeft = frame :: toLeft)
    (hlive : net.left.dlcState dlci ≠ some .connecting)
    (hquiet : signalOf dlci frame = none → ∀ left right sent coming,
      stand left right sent coming → result left right sent coming)
    (hsignal : ∀ signal, signalOf dlci frame = some signal → ∀ right sent coming,
      stand (net.left.dlcState dlci) right sent (signal :: coming) →
      result (answer (net.left.dlcState dlci) (some signal)).1 right
        (sent ++ (answer (net.left.dlcState dlci) (some signal)).2) coming) :
    Meets dlci result (net.stepLeft teardownParty .deliver) := by
  have hopens : opensNeither dlci frame = true := by
    apply hmeets.toLeft frame
    rw [hlink]
    exact List.mem_cons_self
  rw [Net.stepLeft_deliver_cons hlink]
  apply hmeets.acts (hmeets.left.receive hdlci hopens hlive)
  · intro other hother
    rw [hlink]
    exact List.mem_cons_of_mem _ hother
  have hstands := hmeets.stands
  rw [hlink] at hstands
  cases hsome : signalOf dlci frame with
  | none =>
    have hsignals : signals dlci (frame :: toLeft ++ net.right.outbox) =
        signals dlci (toLeft ++ net.right.outbox) := by
      simp [signals, hsome]
    rw [hsignals] at hstands
    rw [answer_none, List.append_nil]
    exact hquiet hsome _ _ _ _ hstands
  | some signal =>
    have hsignals : signals dlci (frame :: toLeft ++ net.right.outbox) =
        signal :: signals dlci (toLeft ++ net.right.outbox) := by
      simp [signals, hsome]
    rw [hsignals] at hstands
    exact hsignal signal hsome _ _ _ hstands

theorem Meets.stepLeft (hmeets : Meets dlci stand net) (hdlci : dlci ≠ 0)
    {move : Move TeardownInput} (hlossless : ∀ index, move ≠ .lose index)
    (hlive : net.left.dlcState dlci ≠ some .connecting)
    (hclose : move = .call (.disconnectDlc dlci) → ∀ left right sent coming,
      stand left right sent coming → stand (closed left).1 right (sent ++ (closed left).2) coming)
    (hsignal : ∀ frame ∈ net.toLeft.head?, move = .deliver → ∀ signal,
      signalOf dlci frame = some signal → ∀ right sent coming,
      stand (net.left.dlcState dlci) right sent (signal :: coming) →
      stand (answer (net.left.dlcState dlci) (some signal)).1 right
        (sent ++ (answer (net.left.dlcState dlci) (some signal)).2) coming) :
    Meets dlci stand (net.stepLeft teardownParty move) := by
  cases move with
  | call input =>
    cases input with
    | write other data => exact hmeets.write other data
    | disconnectDlc other =>
      by_cases hother : other = dlci
      · subst hother
        exact hmeets.disconnectOwn (hclose rfl)
      · exact hmeets.disconnectOther hother
  | poll => exact hmeets.poll
  | deliver =>
    cases hlink : net.toLeft with
    | nil =>
      rw [Net.stepLeft_deliver_nil hlink]
      exact hmeets
    | cons frame toLeft =>
      rw [hlink] at hsignal
      exact hmeets.deliver hdlci hlink hlive (fun _ _ _ _ _ hstands => hstands)
        (hsignal frame rfl rfl)
  | lose index => exact absurd rfl (hlossless index)

theorem Meets.stepLeft_broken (hmeets : Meets dlci Broken net) (hdlci : dlci ≠ 0)
    {move : Move TeardownInput} (hlossless : ∀ index, move ≠ .lose index) :
    Meets dlci Broken (net.stepLeft teardownParty move) := by
  apply hmeets.stepLeft hdlci hlossless (Broken.live hmeets.stands)
  · exact fun _ _ _ _ _ hstands => hstands.disconnect
  · exact fun _ _ _ _ _ _ _ _ hstands => hstands.deliver

theorem Meets.stepLeft_leaving (hmeets : Meets dlci Leaving net) (hdlci : dlci ≠ 0)
    {move : Move TeardownInput} (hlossless : ∀ index, move ≠ .lose index) :
    (Crosses dlci net move → Meets dlci Leaving (net.stepLeft teardownParty move)) ∧
    (¬ Crosses dlci net move → Meets dlci Broken (net.stepLeft teardownParty move)) := by
  constructor
  · intro hcrosses
    apply hmeets.stepLeft hdlci hlossless (Leaving.live hmeets.stands)
    · exact fun _ _ _ _ _ hstands => hstands.disconnect
    · rintro frame hframe rfl signal hsome right sent coming hstands
      apply hstands.deliver
      rintro rfl
      exact hcrosses frame hframe hsome
  · intro hnot
    cases move with
    | deliver =>
      simp only [Crosses, not_forall] at hnot
      obtain ⟨frame, hframe, hdisc, hopen⟩ := hnot
      rw [not_not] at hopen
      obtain ⟨toLeft, hlink⟩ := List.head?_eq_some_iff.mp hframe
      apply hmeets.deliver hdlci hlink (Leaving.live hmeets.stands)
      · intro hquiet
        rw [hdisc] at hquiet
        cases hquiet
      · intro signal hsome right sent coming hstands
        rw [hdisc] at hsome
        cases hsome
        rw [hopen] at hstands ⊢
        exact hstands.breaks
    | _ => exact absurd trivial hnot

theorem Meets.stepLeft_open (hmeets : Meets dlci BothOpen net) (hdlci : dlci ≠ 0)
    {move : Move TeardownInput} (hlossless : ∀ index, move ≠ .lose index) :
    Crosses dlci net move ∧
    (move = .call (.disconnectDlc dlci) → Meets dlci Leaving (net.stepLeft teardownParty move)) ∧
    (move ≠ .call (.disconnectDlc dlci) →
      Meets dlci BothOpen (net.stepLeft teardownParty move)) := by
  have hnone : ∀ frame ∈ net.toLeft.head?, signalOf dlci frame = none := by
    intro frame hframe
    have hcoming := BothOpen.nothing hmeets.stands
    obtain ⟨toLeft, hlink⟩ := List.head?_eq_some_iff.mp hframe
    rw [hlink] at hcoming
    exact List.filterMap_eq_nil_iff.mp hcoming frame List.mem_cons_self
  refine ⟨?_, ?_, ?_⟩
  · cases move with
    | deliver =>
      intro frame hframe hdisc
      rw [hnone frame hframe] at hdisc
      cases hdisc
    | _ => trivial
  · rintro rfl
    exact hmeets.disconnectOwn fun _ _ _ _ hstands => hstands.disconnect
  · intro hother
    apply hmeets.stepLeft hdlci hlossless (BothOpen.live hmeets.stands)
    · exact fun hmove => absurd hmove hother
    · intro frame hframe _ signal hsome
      rw [hnone frame hframe] at hsome
      cases hsome

end Meets

section Runs

variable {dlci : UInt8} {net : Net Multiplexer RfcommFrame} {side : Side}
  {move : Move TeardownInput}

theorem Meets.step_broken (hmeets : Meets dlci Broken net) (hdlci : dlci ≠ 0)
    (hlossless : ∀ index, move ≠ .lose index) :
    Meets dlci Broken (net.step teardownParty (side, move)) := by
  cases side with
  | left => exact hmeets.stepLeft_broken hdlci hlossless
  | right => exact ((hmeets.swap Broken.swap).stepLeft_broken hdlci hlossless).swap Broken.swap

theorem Meets.step_leaving (hmeets : Meets dlci Leaving net) (hdlci : dlci ≠ 0)
    (hlossless : ∀ index, move ≠ .lose index) :
    (Net.AllowedStep (Crosses dlci) net (side, move) →
      Meets dlci Leaving (net.step teardownParty (side, move))) ∧
    (¬ Net.AllowedStep (Crosses dlci) net (side, move) →
      Meets dlci Broken (net.step teardownParty (side, move))) := by
  cases side with
  | left => exact hmeets.stepLeft_leaving hdlci hlossless
  | right =>
    obtain ⟨hkeeps, hbreaks⟩ := (hmeets.swap Leaving.swap).stepLeft_leaving hdlci hlossless
    exact ⟨fun hallowed => (hkeeps hallowed).swap Leaving.swap,
      fun hnot => (hbreaks hnot).swap Broken.swap⟩

theorem Meets.step_open (hmeets : Meets dlci BothOpen net) (hdlci : dlci ≠ 0)
    (hlossless : ∀ index, move ≠ .lose index) :
    Net.AllowedStep (Crosses dlci) net (side, move) ∧
    (move = .call (.disconnectDlc dlci) →
      Meets dlci Leaving (net.step teardownParty (side, move))) ∧
    (move ≠ .call (.disconnectDlc dlci) →
      Meets dlci BothOpen (net.step teardownParty (side, move))) := by
  cases side with
  | left => exact hmeets.stepLeft_open hdlci hlossless
  | right =>
    obtain ⟨hallowed, hcloses, hkeeps⟩ :=
      (hmeets.swap BothOpen.swap).stepLeft_open hdlci hlossless
    exact ⟨hallowed, fun hmove => (hcloses hmove).swap Leaving.swap,
      fun hmove => (hkeeps hmove).swap BothOpen.swap⟩

theorem Lossless.head {moves : List (Side × Move TeardownInput)}
    (hlossless : Lossless ((side, move) :: moves)) :
    (∀ index, move ≠ .lose index) ∧ Lossless moves := by
  constructor
  · rintro index rfl
    exact hlossless side index List.mem_cons_self
  · exact fun other index hmem => hlossless other index (List.mem_cons_of_mem _ hmem)

theorem run_broken (hdlci : dlci ≠ 0) (moves : List (Side × Move TeardownInput)) :
    ∀ {net : Net Multiplexer RfcommFrame}, Lossless moves → Meets dlci Broken net →
      Meets dlci Broken (net.run teardownParty moves) := by
  induction moves with
  | nil => exact fun _ hmeets => hmeets
  | cons action moves ih =>
    intro net hlossless hmeets
    obtain ⟨hmove, hrest⟩ := hlossless.head
    exact ih hrest (hmeets.step_broken hdlci hmove)

theorem run_leaving (hdlci : dlci ≠ 0) (moves : List (Side × Move TeardownInput)) :
    ∀ {net : Net Multiplexer RfcommFrame}, Lossless moves → Meets dlci Leaving net →
      (Net.Admissible teardownParty (Crosses dlci) net moves →
        Meets dlci Leaving (net.run teardownParty moves)) ∧
      (¬ Net.Admissible teardownParty (Crosses dlci) net moves →
        Meets dlci Broken (net.run teardownParty moves)) := by
  induction moves with
  | nil => exact fun _ hmeets => ⟨fun _ => hmeets, fun hnot => absurd trivial hnot⟩
  | cons action moves ih =>
    intro net hlossless hmeets
    obtain ⟨hmove, hrest⟩ := hlossless.head
    obtain ⟨hkeeps, hbreaks⟩ := hmeets.step_leaving hdlci hmove
    by_cases hallowed : Net.AllowedStep (Crosses dlci) net action
    · obtain ⟨hlater, hlost⟩ := ih hrest (hkeeps hallowed)
      exact ⟨fun hall => hlater hall.2, fun hnot => hlost fun hall => hnot ⟨hallowed, hall⟩⟩
    · exact ⟨fun hall => absurd hall.1 hallowed,
        fun _ => run_broken hdlci moves hrest (hbreaks hallowed)⟩

theorem run_open (hdlci : dlci ≠ 0) (moves : List (Side × Move TeardownInput)) :
    ∀ {net : Net Multiplexer RfcommFrame}, Lossless moves → Meets dlci BothOpen net →
      (∃ side, (side, Move.call (.disconnectDlc dlci)) ∈ moves) →
      (Net.Admissible teardownParty (Crosses dlci) net moves →
        Meets dlci Leaving (net.run teardownParty moves)) ∧
      (¬ Net.Admissible teardownParty (Crosses dlci) net moves →
        Meets dlci Broken (net.run teardownParty moves)) := by
  induction moves with
  | nil =>
    rintro net - - ⟨side, hmem⟩
    cases hmem
  | cons action moves ih =>
    obtain ⟨side, move⟩ := action
    rintro net hlossless hmeets ⟨caller, hmem⟩
    obtain ⟨hmove, hrest⟩ := hlossless.head
    obtain ⟨hallowed, hcloses, hkeeps⟩ : Net.AllowedStep (Crosses dlci) net (side, move) ∧ _ ∧ _ :=
      hmeets.step_open hdlci hmove
    have hnext : (Net.Admissible teardownParty (Crosses dlci) (net.step teardownParty (side, move))
          moves → Meets dlci Leaving
            ((net.step teardownParty (side, move)).run teardownParty moves)) ∧
        (¬ Net.Admissible teardownParty (Crosses dlci) (net.step teardownParty (side, move)) moves →
          Meets dlci Broken ((net.step teardownParty (side, move)).run teardownParty moves)) := by
      by_cases hcall : move = .call (.disconnectDlc dlci)
      · exact run_leaving hdlci moves hrest (hcloses hcall)
      · apply ih hrest (hkeeps hcall)
        rcases List.mem_cons.mp hmem with heq | hlater
        · cases heq
          exact absurd rfl hcall
        · exact ⟨caller, hlater⟩
    exact ⟨fun hall => hnext.1 hall.2, fun hnot => hnext.2 fun hall => hnot ⟨hallowed, hall⟩⟩

end Runs

/-! ## 6. Agreement -/

theorem Refused.of_none {dlci : UInt8} {mux : Multiplexer} (hnone : mux.dlcState dlci = none) :
    Refused dlci mux := by
  refine ⟨.inl hnone, ?_⟩
  intro data
  have hget : mux.dlcs[dlci]? = none := Option.map_eq_none_iff.mp hnone
  simp only [Multiplexer.write, hget]
  rfl

theorem Refused.not_some {dlci : UInt8} {mux : Multiplexer} {state : DlcState}
    (hsome : mux.dlcState dlci = some state) (hlive : state ≠ .disconnected) :
    ¬ Refused dlci mux := by
  rintro ⟨hnone | hgone, -⟩
  · rw [hsome] at hnone
    cases hnone
  · rw [hsome, Option.some.injEq] at hgone
    exact hlive hgone

theorem OpenAt.ready {dlci : UInt8} {mux : Multiplexer} (hopen : OpenAt dlci mux) : Ready mux := by
  obtain ⟨role, peerMtu, ops, rfl⟩ := hopen.reached
  exact ⟨allPlaced_run role peerMtu ops, hopen.zero⟩

theorem Joined.meets {dlci : UInt8} {net : Net Multiplexer RfcommFrame}
    (hjoined : Joined dlci net) :
    Meets dlci BothOpen net where
  left := hjoined.left.ready
  right := hjoined.right.ready
  toRight frame hframe := (quiet_iff.mp (hjoined.toRight frame hframe)).1
  toLeft frame hframe := (quiet_iff.mp (hjoined.toLeft frame hframe)).1
  stands := by
    rw [signals_quiet hjoined.toRight, signals_quiet hjoined.toLeft, hjoined.left.connected,
      hjoined.right.connected]
    exact .both

/-- **When the two ends of a closed DLC agree.**  Two multiplexers with any
    history between which the DLC is open, and any run of writes, closings and
    deliveries in which it is closed by either side or both.  When nothing is
    under way any more, the DLC is gone on both sides exactly if no DISC came to
    a side that still had it open. -/
theorem teardown_agrees_iff {dlci : UInt8} {start : Net Multiplexer RfcommFrame}
    (hjoined : Joined dlci start) {moves : List (Side × Move TeardownInput)}
    (hlossless : Lossless moves)
    (hclosed : ∃ side, (side, Move.call (.disconnectDlc dlci)) ∈ moves)
    (hsettled : Settled (start.run teardownParty moves)) :
    (Refused dlci (start.run teardownParty moves).left ∧
      Refused dlci (start.run teardownParty moves).right) ↔
      Net.Admissible teardownParty (Crosses dlci) start moves := by
  have hdlci : dlci ≠ 0 := by
    rintro rfl
    have hconnected := hjoined.left.connected
    rw [Multiplexer.dlcState, hjoined.left.zero] at hconnected
    cases hconnected
  obtain ⟨hleaves, hbreaks⟩ := run_open hdlci moves hlossless hjoined.meets hclosed
  constructor
  · rintro ⟨hleft, hright⟩
    by_contra hnot
    obtain ⟨state, hstate | hstate, hlive⟩ := (hbreaks hnot).stands.never
    · exact Refused.not_some hstate hlive hleft
    · exact Refused.not_some hstate hlive hright
  · intro hcrosses
    have hstands := (hleaves hcrosses).stands
    obtain ⟨htoRight, houtbox, htoLeft, hwaiting⟩ := hsettled
    rw [htoRight, houtbox, htoLeft, hwaiting] at hstands
    obtain ⟨hleft, hright⟩ := hstands.settled
    exact ⟨.of_none hleft, .of_none hright⟩

instance (net : Net Multiplexer RfcommFrame) : Decidable (Settled net) :=
  inferInstanceAs (Decidable (_ ∧ _ ∧ _ ∧ _))

instance (dlci : UInt8) (net : Net Multiplexer RfcommFrame) (move : Move TeardownInput) :
    Decidable (Crosses dlci net move) :=
  match move with
  | .deliver => inferInstanceAs (Decidable (∀ frame ∈ net.toLeft.head?, _ → _))
  | .call _ => .isTrue trivial
  | .poll => .isTrue trivial
  | .lose _ => .isTrue trivial

/-- Channel 1 is open between an initiator and a responder. -/
def channelOneOpen : Net Multiplexer RfcommFrame where
  left := (Multiplexer.new .initiator 1000).runOps
    (openingOne ++ [.onPdu (pnFrame false), .onPdu (.ua true 2), .drainOutgoing])
  right := (Multiplexer.new .responder 1000).runOps
    [.listen 1 100 7, .onPdu (.sabm true 0), .onPdu (pnFrame true), .onPdu (.sabm true 2),
      .drainOutgoing]
  toRight := []
  toLeft := []
  lost := 0

theorem joined_channelOneOpen : Joined 2 channelOneOpen where
  left := ⟨⟨_, _, _, rfl⟩, by decide, by decide⟩
  right := ⟨⟨_, _, _, rfl⟩, by decide, by decide⟩
  toRight := by decide
  toLeft := by decide

def exchange : List (Side × Move TeardownInput) :=
  [(.left, .poll), (.right, .poll), (.left, .deliver), (.right, .deliver)]

/-- Both sides close the DLC before the other's DISC comes. -/
theorem crossing_closes_both :
    Refused 2 (channelOneOpen.run teardownParty
      ([(.left, .call (.disconnectDlc 2)), (.right, .call (.disconnectDlc 2))] ++ exchange ++
        exchange)).left ∧
    Refused 2 (channelOneOpen.run teardownParty
      ([(.left, .call (.disconnectDlc 2)), (.right, .call (.disconnectDlc 2))] ++ exchange ++
        exchange)).right := by
  refine (teardown_agrees_iff joined_channelOneOpen ?_ ⟨.left, List.mem_cons_self⟩ ?_).mpr ?_
  · intro side index hmem
    simp [exchange] at hmem
  · decide
  · decide

/-- One side closes the DLC: the other keeps it open. -/
theorem one_sided_teardown :
    ¬ ∀ (dlci : UInt8) (start : Net Multiplexer RfcommFrame)
        (moves : List (Side × Move TeardownInput)),
      Joined dlci start → Lossless moves →
      (∃ side, (side, Move.call (.disconnectDlc dlci)) ∈ moves) →
      Settled (start.run teardownParty moves) →
      Refused dlci (start.run teardownParty moves).left ∧
        Refused dlci (start.run teardownParty moves).right := by
  intro hall
  have hrefused := hall 2 channelOneOpen
    ([(.left, .call (.disconnectDlc 2))] ++ exchange ++ exchange) joined_channelOneOpen
    (by intro side index hmem; simp [exchange] at hmem) ⟨.left, List.mem_cons_self⟩
    (by decide)
  have hopen : (channelOneOpen.run teardownParty
      ([(.left, .call (.disconnectDlc 2))] ++ exchange ++ exchange)).right.dlcState 2 =
      some .connected := by
    decide
  exact Refused.not_some hopen nofun hrefused.2

end Bumble.Rfcomm
