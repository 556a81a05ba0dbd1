import Bumble.RfcommCalls

/-!
# The opening handshake under arbitrary frames

The session has one state for all DLCs, and a negotiation message makes a DLC
wherever it points.  So a frame about one DLC can end the opening of another, a
late UA can bring a closed session back, and a repeated negotiation replaces an
open DLC.  The frames that do one of these are told apart here.
-/

namespace Bumble.Rfcomm

/-! ## 1. What a frame is about -/

/-- The negotiation message in a frame, with its command bit. -/
def pnOf (frame : RfcommFrame) : Option (Bool × RfcommMccPn) :=
  if frame.dlci = 0 ∧ frame.frameType = .uih then
    match parseMcc frame.information with
    | .ok (mccType, command, value) =>
      if mccType = MccType.pn.value then
        match RfcommMccPn.fromBytes value with
        | .ok pn => some (command, pn)
        | .error _ => none
      else none
    | .error _ => none
  else none

/-- A frame of the DLC, or a negotiation message for it. -/
def about (dlci : UInt8) (frame : RfcommFrame) : Bool :=
  frame.dlci = dlci || (pnOf frame).any fun message => message.2.dlci = dlci

def MuxOp.opens (mux : Multiplexer) : MuxOp → Option UInt8
  | openDlc channel _ _ => if mux.state = .connected then some (channel <<< 1) else none
  | _ => none

/-- The DLC of the last `open_dlc` that returned `Ok`. -/
def lastOpened : Multiplexer → List MuxOp → Option UInt8
  | _, [] => none
  | mux, op :: ops => (lastOpened (op.apply mux) ops).or (op.opens mux)

/-- What no frame may do to the handshake, with `target` being opened. -/
structure Intact (mux : Multiplexer) (target : Option UInt8) (frame : RfcommFrame) : Prop where
  /-- A closed session stays closed. -/
  closed : mux.state = .disconnected → (mux.onPdu frame).state = .disconnected
  /-- Only a frame about the DLC that is being opened ends the opening or makes
      a DLC. -/
  opening : mux.state = .opening → ∃ dlci, target = some dlci ∧
    ((mux.onPdu frame).state ≠ .opening ∨
      (∃ other : UInt8, mux.dlcs[other]? = none ∧ (mux.onPdu frame).dlcs[other]? ≠ none) →
      about dlci frame = true)
  /-- No negotiation message replaces a DLC that is open. -/
  kept : ∀ (dlci : UInt8) (dlc : Dlc), mux.dlcs[dlci]? = some dlc → dlc.state = .connected →
    pnOf frame ≠ none → (mux.onPdu frame).dlcs[dlci]? = some dlc

/-! ## 2. Frames out of order -/

def completesOpen (mux : Multiplexer) (frame : RfcommFrame) : Bool :=
  frame.dlci ≠ 0 && frame.frameType = .ua &&
    mux.dlcs[frame.dlci]?.any fun dlc => dlc.state = .connecting

/-- The frame takes the session out of `Opening`. -/
def endsOpening (mux : Multiplexer) (frame : RfcommFrame) : Bool :=
  frame.frameType = .dm || (frame.dlci = 0 && frame.frameType = .disc) || completesOpen mux frame

/-- The message makes a DLC: a command for a channel with an acceptor, or a
    response while an opening waits for one. -/
def makesDlc (mux : Multiplexer) (command : Bool) (pn : RfcommMccPn) : Bool :=
  if command then pn.dlci &&& 1 = 0 && mux.acceptor[pn.dlci >>> 1]?.isSome
  else mux.state = .opening && mux.openPn.isSome

/-- The frame makes a DLC, over one that `test` describes. -/
def makesOver (mux : Multiplexer) (frame : RfcommFrame) (test : Option Dlc → Bool) : Bool :=
  (pnOf frame).any fun message =>
    makesDlc mux message.1 message.2 && test mux.dlcs[message.2.dlci]?

/-- The frame is none of those that upset the handshake: a UA for a DLC in the
    opening when the session is closed; while a DLC is being opened, a frame
    that is not about it and is a DM, the session's DISC, the UA of another
    opening or makes a new DLC; and a message that makes a DLC over an open one. -/
structure InOrder (mux : Multiplexer) (target : Option UInt8) (frame : RfcommFrame) : Prop where
  closed : mux.state = .disconnected → completesOpen mux frame = false
  opening : mux.state = .opening → target.any (about · frame) = true ∨
    (endsOpening mux frame = false ∧ makesOver mux frame Option.isNone = false)
  kept : makesOver mux frame (fun dlc => dlc.any fun dlc => dlc.state = .connected) = false

/-! ## 3. What a frame does to the session and its DLCs -/

section Frames

variable {mux : Multiplexer} {frame : RfcommFrame} {command : Bool} {pn : RfcommMccPn}

theorem onMccPn_state (mux : Multiplexer) (command : Bool) (pn : RfcommMccPn) :
    (mux.onMccPn command pn).state = mux.state := by
  simp only [Multiplexer.onMccPn]
  split
  · split
    · rfl
    split <;> rfl
  split
  · split <;> rfl
  · rfl

theorem onMccPn_ignores (hmakes : makesDlc mux command pn = false) :
    (mux.onMccPn command pn).dlcs = mux.dlcs := by
  rw [makesDlc] at hmakes
  simp only [Multiplexer.onMccPn]
  split
  · next hcommand =>
    rw [if_pos hcommand] at hmakes
    split
    · rfl
    · next heven =>
      rw [not_not] at heven
      rw [decide_eq_true heven, Bool.true_and] at hmakes
      split
      · next hget =>
        rw [hget] at hmakes
        cases hmakes
      · rfl
  next hcommand =>
  rw [if_neg hcommand] at hmakes
  split
  · next hopening =>
    rw [decide_eq_true hopening, Bool.true_and] at hmakes
    split
    · rfl
    · next hopen =>
      rw [hopen] at hmakes
      cases hmakes
  · rfl

theorem onMccPn_makes (hmakes : makesDlc mux command pn = true) :
    ∃ dlc : Dlc, dlc.state = .connecting ∧
      (mux.onMccPn command pn).dlcs = mux.dlcs.insert pn.dlci dlc := by
  rw [makesDlc] at hmakes
  simp only [Multiplexer.onMccPn]
  split
  · next hcommand =>
    rw [if_pos hcommand, Bool.and_eq_true, decide_eq_true_eq] at hmakes
    rw [if_neg (not_not.mpr hmakes.1)]
    obtain ⟨offer, hget⟩ := Option.isSome_iff_exists.mp hmakes.2
    rw [hget]
    exact ⟨_, rfl, rfl⟩
  · next hcommand =>
    rw [if_neg hcommand, Bool.and_eq_true, decide_eq_true_eq] at hmakes
    rw [if_pos hmakes.1]
    obtain ⟨openPn, hopen⟩ := Option.isSome_iff_exists.mp hmakes.2
    rw [hopen]
    exact ⟨_, rfl, rfl⟩

theorem onPdu_pn (hpn : pnOf frame = some (command, pn)) :
    mux.onPdu frame = mux.onMccPn command pn := by
  rw [pnOf] at hpn
  split at hpn
  · next hcontrol =>
    simp only [Multiplexer.onPdu, Multiplexer.onControlFrame, hcontrol.1, hcontrol.2, if_true,
      Multiplexer.onUihControl]
    split at hpn
    · next mccType parsed value hparse =>
      split at hpn
      · next htype =>
        split at hpn
        · next message hmessage =>
          cases hpn
          simp only [hparse, htype, if_true, hmessage]
        · cases hpn
      · cases hpn
    · cases hpn
  · cases hpn

theorem onUihControl_state (mux : Multiplexer) (frame : RfcommFrame) :
    (mux.onUihControl frame).state = mux.state := by
  simp only [Multiplexer.onUihControl]
  split
  · rfl
  split
  · split
    · exact onMccPn_state _ _ _
    · rfl
  split
  · split
    · split <;> rfl
    · rfl
  · rfl

theorem onControlFrame_dlcs (hzero : frame.dlci = 0) (hpn : pnOf frame = none) :
    (mux.onControlFrame frame).dlcs = mux.dlcs := by
  simp only [Multiplexer.onControlFrame, Multiplexer.onDm]
  split
  · split <;> rfl
  · split <;> rfl
  · rfl
  · split <;> rfl
  · next huih =>
    simp only [pnOf, hzero, huih, and_self, if_true] at hpn
    simp only [Multiplexer.onUihControl]
    split
    · rfl
    next hparse =>
    rw [hparse] at hpn
    dsimp only at hpn
    split
    · next htype =>
      rw [if_pos htype] at hpn
      split
      · next hmessage =>
        rw [hmessage] at hpn
        cases hpn
      · rfl
    split
    · split
      · split <;> rfl
      · rfl
    · rfl
  · rfl

theorem onPdu_none (hpn : pnOf frame = none) {other : UInt8} (habsent : mux.dlcs[other]? = none) :
    (mux.onPdu frame).dlcs[other]? = none := by
  simp only [Multiplexer.onPdu]
  by_cases hzero : frame.dlci = 0
  · rw [if_pos hzero, onControlFrame_dlcs hzero hpn]
    exact habsent
  rw [if_neg hzero]
  split
  · simp only [Multiplexer.onDm]
    split <;> exact habsent
  cases hget : mux.dlcs[frame.dlci]? with
  | none => exact habsent
  | some dlc =>
    have hother : frame.dlci ≠ other := by
      rintro rfl
      rw [hget] at habsent
      cases habsent
    have hstored : (mux.store frame.dlci (dlc.onFrame frame).1).dlcs[other]? = none := by
      simp only [Multiplexer.store, Multiplexer.push, OrderedMap.getElem?_insert, if_neg hother]
      exact habsent
    dsimp only
    cases (dlc.onFrame frame).2 with
    | disconnected =>
      simp only [Multiplexer.applyUpcall, OrderedMap.getElem?_erase, if_neg hother]
      exact hstored
    | _ => exact hstored

theorem onFrame_openComplete (dlc : Dlc) (frame : RfcommFrame) :
    (dlc.onFrame frame).2 = .openComplete ↔ frame.frameType = .ua ∧ dlc.state = .connecting := by
  cases htype : frame.frameType with
  | ua =>
    simp only [Dlc.onFrame, htype, Dlc.onUa]
    cases hstate : dlc.state <;> simp
  | sabm =>
    simp only [Dlc.onFrame, htype, Dlc.onSabm]
    split <;> simp
  | _ => simp [Dlc.onFrame, htype]

theorem onPdu_dlc_state (hzero : frame.dlci ≠ 0) (hdm : frame.frameType ≠ .dm) :
    (mux.onPdu frame).state = if completesOpen mux frame then .connected else mux.state := by
  simp only [Multiplexer.onPdu, if_neg hzero, if_neg hdm]
  cases hget : mux.dlcs[frame.dlci]? with
  | none => simp [completesOpen, hget]
  | some dlc =>
    have hcomplete := onFrame_openComplete dlc frame
    cases hupcall : (dlc.onFrame frame).2 with
    | openComplete =>
      obtain ⟨hua, hconnecting⟩ := hcomplete.mp hupcall
      simp [completesOpen, hget, hupcall, Multiplexer.applyUpcall, hzero, hua, hconnecting]
    | _ =>
      have hnot : ¬ (frame.frameType = .ua ∧ dlc.state = .connecting) := by
        rw [← hcomplete, hupcall]
        intro hopen
        cases hopen
      simp [completesOpen, hget, hupcall, Multiplexer.applyUpcall, Multiplexer.store,
        Multiplexer.push, hzero, hnot]

theorem completesOpen_zero (hzero : frame.dlci = 0) : completesOpen mux frame = false := by
  simp [completesOpen, hzero]

theorem completesOpen_dm (hdm : frame.frameType = .dm) : completesOpen mux frame = false := by
  simp [completesOpen, hdm]

theorem onPdu_closed (hclosed : mux.state = .disconnected) :
    (mux.onPdu frame).state = .disconnected ↔ completesOpen mux frame = false := by
  by_cases hzero : frame.dlci = 0
  · rw [completesOpen_zero hzero]
    simp only [Multiplexer.onPdu, if_pos hzero, iff_true]
    simp only [Multiplexer.onControlFrame, Multiplexer.onDm, hclosed]
    split
    · exact hclosed
    · exact hclosed
    · rfl
    · exact hclosed
    · rw [onUihControl_state]
      exact hclosed
    · exact hclosed
  by_cases hdm : frame.frameType = .dm
  · rw [completesOpen_dm hdm]
    simp [Multiplexer.onPdu, hzero, hdm, Multiplexer.onDm, hclosed]
  rw [onPdu_dlc_state hzero hdm]
  cases completesOpen mux frame with
  | true => simp
  | false => simp [hclosed]

theorem onPdu_opening (hopening : mux.state = .opening) :
    (mux.onPdu frame).state ≠ .opening ↔ endsOpening mux frame = true := by
  by_cases hdm : frame.frameType = .dm
  · have hends : (mux.onPdu frame).state = .connected := by
      simp only [Multiplexer.onPdu, Multiplexer.onControlFrame, hdm, if_true, Multiplexer.onDm,
        hopening]
      split <;> rfl
    simp [endsOpening, hdm, hends]
  by_cases hzero : frame.dlci = 0
  · simp only [endsOpening, hdm, hzero, completesOpen_zero hzero, decide_true, decide_false,
      Bool.false_or, Bool.true_and, Bool.or_false, decide_eq_true_eq, Multiplexer.onPdu, if_true]
    simp only [Multiplexer.onControlFrame, hopening]
    split
    · simp [*]
    · simp [*]
    · simp [*, Multiplexer.push]
    · contradiction
    · simp [*, onUihControl_state]
    · simp [*]
  rw [onPdu_dlc_state hzero hdm]
  simp only [endsOpening, hdm, hzero, decide_false, Bool.false_or, Bool.false_and]
  cases completesOpen mux frame with
  | true => simp
  | false => simp [hopening]

theorem onPdu_makes_iff :
    (∃ other : UInt8, mux.dlcs[other]? = none ∧ (mux.onPdu frame).dlcs[other]? ≠ none) ↔
      makesOver mux frame Option.isNone = true := by
  cases hpn : pnOf frame with
  | none =>
    simp only [makesOver, hpn, Option.any_none, Bool.false_eq_true, iff_false]
    rintro ⟨other, habsent, hmade⟩
    exact hmade (onPdu_none hpn habsent)
  | some message =>
    obtain ⟨command, pn⟩ := message
    simp only [makesOver, hpn, Option.any_some, onPdu_pn hpn, Bool.and_eq_true,
      Option.isNone_iff_eq_none]
    cases hmakes : makesDlc mux command pn with
    | false =>
      rw [onMccPn_ignores hmakes]
      simp only [Bool.false_eq_true, false_and, iff_false]
      rintro ⟨other, habsent, hmade⟩
      exact hmade habsent
    | true =>
      obtain ⟨dlc, -, hdlcs⟩ := onMccPn_makes hmakes
      simp only [hdlcs, OrderedMap.getElem?_insert, true_and]
      constructor
      · rintro ⟨other, habsent, hmade⟩
        by_cases hother : pn.dlci = other
        · rw [hother]
          exact habsent
        · rw [if_neg hother] at hmade
          exact absurd habsent hmade
      · intro habsent
        exact ⟨pn.dlci, habsent, by simp⟩

theorem onPdu_keeps_iff :
    (∀ (dlci : UInt8) (dlc : Dlc), mux.dlcs[dlci]? = some dlc → dlc.state = .connected →
      pnOf frame ≠ none → (mux.onPdu frame).dlcs[dlci]? = some dlc) ↔
      makesOver mux frame (fun dlc => dlc.any fun dlc => dlc.state = .connected) = false := by
  cases hpn : pnOf frame with
  | none =>
    simp only [makesOver, hpn, Option.any_none, iff_true]
    intro dlci dlc _ _ hsome
    exact absurd rfl hsome
  | some message =>
    obtain ⟨command, pn⟩ := message
    simp only [makesOver, hpn, Option.any_some, onPdu_pn hpn]
    cases hmakes : makesDlc mux command pn with
    | false =>
      rw [onMccPn_ignores hmakes]
      simp only [Bool.false_and, iff_true]
      exact fun _ _ hget _ _ => hget
    | true =>
      obtain ⟨fresh, hfresh, hdlcs⟩ := onMccPn_makes hmakes
      simp only [hdlcs, OrderedMap.getElem?_insert, Bool.true_and]
      constructor
      · intro hkept
        apply Bool.eq_false_of_not_eq_true
        intro hopen
        obtain ⟨dlc, hget, hdlc⟩ := (Option.any_eq_true ..).mp hopen
        rw [decide_eq_true_eq] at hdlc
        have hsame := hkept pn.dlci dlc hget hdlc nofun
        rw [if_pos rfl] at hsame
        cases hsame
        rw [hfresh] at hdlc
        cases hdlc
      · intro hnot dlci dlc hget hopen _
        by_cases hdlci : pn.dlci = dlci
        · rw [hdlci, hget] at hnot
          simp [hopen] at hnot
        · rw [if_neg hdlci]
          exact hget

end Frames

/-! ## 4. Runs -/

theorem onPdu_not_opening {mux : Multiplexer} {frame : RfcommFrame}
    (hopening : (mux.onPdu frame).state = .opening) : mux.state = .opening := by
  by_cases hzero : frame.dlci = 0
  · simp only [Multiplexer.onPdu, if_pos hzero, Multiplexer.onControlFrame, Multiplexer.onDm]
      at hopening
    split at hopening
    · split at hopening
      · cases hopening
      · exact hopening
    · split at hopening
      · cases hopening
      · cases hopening
      · exact hopening
    · cases hopening
    · split at hopening
      · cases hopening
      · exact hopening
    · rw [onUihControl_state] at hopening
      exact hopening
    · exact hopening
  by_cases hdm : frame.frameType = .dm
  · simp only [Multiplexer.onPdu, if_neg hzero, if_pos hdm, Multiplexer.onDm] at hopening
    split at hopening
    · cases hopening
    · exact hopening
  rw [onPdu_dlc_state hzero hdm] at hopening
  split at hopening
  · cases hopening
  · exact hopening

theorem opening_after (mux : Multiplexer) (op : MuxOp)
    (hopening : (op.apply mux).state = .opening) :
    mux.state = .opening ∨ op.opens mux ≠ none := by
  cases op with
  | openDlc channel maxFrameSize initialCredits =>
    simp only [MuxOp.apply, Multiplexer.openDlc] at hopening
    split at hopening
    · exact .inl hopening
    · next hstate =>
      right
      rw [MuxOp.opens, if_pos (not_not.mp hstate)]
      exact Option.some_ne_none _
  | listen => exact .inl hopening
  | connect =>
    simp only [MuxOp.apply, Multiplexer.connect] at hopening
    split at hopening
    · exact .inl hopening
    · cases hopening
  | disconnect =>
    simp only [MuxOp.apply, Multiplexer.disconnect] at hopening
    split at hopening
    · exact .inl hopening
    · cases hopening
  | disconnectDlc dlci =>
    simp only [MuxOp.apply, Multiplexer.disconnectDlc] at hopening
    split at hopening
    · exact .inl hopening
    · split at hopening <;> exact .inl hopening
  | write dlci data =>
    simp only [MuxOp.apply, Multiplexer.write] at hopening
    split at hopening <;> exact .inl hopening
  | setDlcReceiveCredits dlci maxCredits threshold =>
    simp only [MuxOp.apply, Multiplexer.setDlcReceiveCredits] at hopening
    split at hopening
    · exact .inl hopening
    · split at hopening <;> exact .inl hopening
  | setDlcReadingPaused dlci paused =>
    simp only [MuxOp.apply, Multiplexer.setDlcReadingPaused] at hopening
    split at hopening <;> exact .inl hopening
  | takeRx dlci =>
    simp only [MuxOp.apply, Multiplexer.takeRx] at hopening
    split at hopening <;> exact .inl hopening
  | onPdu frame => exact .inl (onPdu_not_opening hopening)
  | drainOutgoing => exact .inl hopening
  | takeOpened => exact .inl hopening

theorem opening_target (ops : List MuxOp) : ∀ (mux : Multiplexer),
    (mux.runOps ops).state = .opening → mux.state = .opening ∨ lastOpened mux ops ≠ none := by
  induction ops with
  | nil => exact fun _ hopening => .inl hopening
  | cons op ops ih =>
    intro mux hopening
    rw [lastOpened]
    rcases ih (op.apply mux) hopening with hnext | hlater
    · rcases opening_after mux op hnext with hbefore | hopens
      · exact .inl hbefore
      · right
        cases lastOpened (op.apply mux) ops with
        | none => exact hopens
        | some dlci => nofun
    · right
      obtain ⟨dlci, hdlci⟩ := Option.ne_none_iff_exists'.mp hlater
      rw [hdlci]
      nofun

/-- **Which frames leave the handshake intact.**  In every state that a new
    multiplexer can reach, by any calls and any frames: exactly those that come
    in order. -/
theorem handshake_intact_iff (role : Role) (peerMtu : UInt16) (ops : List MuxOp)
    (frame : RfcommFrame) :
    Intact ((Multiplexer.new role peerMtu).runOps ops)
        (lastOpened (Multiplexer.new role peerMtu) ops) frame ↔
      InOrder ((Multiplexer.new role peerMtu).runOps ops)
        (lastOpened (Multiplexer.new role peerMtu) ops) frame := by
  have htarget := opening_target ops (Multiplexer.new role peerMtu)
  generalize (Multiplexer.new role peerMtu).runOps ops = mux at htarget ⊢
  generalize lastOpened (Multiplexer.new role peerMtu) ops = target at htarget ⊢
  constructor
  · intro hintact
    refine ⟨fun hclosed => (onPdu_closed hclosed).mp (hintact.closed hclosed), ?_,
      onPdu_keeps_iff.mp hintact.kept⟩
    intro hopening
    obtain ⟨dlci, rfl, habout⟩ := hintact.opening hopening
    rw [onPdu_opening hopening, onPdu_makes_iff] at habout
    cases hdlci : about dlci frame with
    | true => exact .inl hdlci
    | false =>
      right
      rw [hdlci] at habout
      have hneither := not_or.mp (mt habout nofun)
      exact ⟨Bool.eq_false_of_not_eq_true hneither.1, Bool.eq_false_of_not_eq_true hneither.2⟩
  · intro horder
    refine ⟨fun hclosed => (onPdu_closed hclosed).mpr (horder.closed hclosed), ?_,
      onPdu_keeps_iff.mpr horder.kept⟩
    intro hopening
    have hsome : target ≠ none := (htarget hopening).resolve_left nofun
    obtain ⟨dlci, rfl⟩ := Option.ne_none_iff_exists'.mp hsome
    refine ⟨dlci, rfl, ?_⟩
    rw [onPdu_opening hopening, onPdu_makes_iff]
    rcases horder.opening hopening with habout | ⟨hends, hmakes⟩
    · exact fun _ => habout
    · rw [hends, hmakes]
      rintro (hfalse | hfalse)
      · cases hfalse
      · cases hfalse

def openingOne : List MuxOp := [.connect, .onPdu (.ua true 0), .openDlc 1 100 7]

def pnFrame (command : Bool) : RfcommFrame :=
  .uih command 0 (makeMcc .pn command (RfcommMccPn.toBytes ⟨2, 0xF0, 7, 0, 100, 0, 7⟩)) false

/-- A late UA brings a closed session back; a DM for channel 2 ends the opening
    of channel 1; a second command for channel 1 replaces its open DLC. -/
theorem handshake_upset :
    (¬ Intact ((Multiplexer.new .initiator 1000).runOps
        (openingOne ++ [.onPdu (pnFrame false), .onPdu (.disc true 0)]))
      (lastOpened (Multiplexer.new .initiator 1000)
        (openingOne ++ [.onPdu (pnFrame false), .onPdu (.disc true 0)])) (.ua true 2)) ∧
    (¬ Intact ((Multiplexer.new .initiator 1000).runOps openingOne)
      (lastOpened (Multiplexer.new .initiator 1000) openingOne) (.dm true 4)) ∧
    (¬ Intact ((Multiplexer.new .responder 1000).runOps
        [.listen 1 100 7, .onPdu (pnFrame true), .onPdu (.sabm true 2)])
      (lastOpened (Multiplexer.new .responder 1000)
        [.listen 1 100 7, .onPdu (pnFrame true), .onPdu (.sabm true 2)]) (pnFrame true)) := by
  refine ⟨fun hintact => ?_, fun hintact => ?_, fun hintact => ?_⟩
  · have hclosed := hintact.closed (by decide)
    exact absurd hclosed (by decide)
  · obtain ⟨dlci, htarget, habout⟩ := hintact.opening (by decide)
    have hone : lastOpened (Multiplexer.new .initiator 1000) openingOne = some 2 := by
      decide
    rw [hone] at htarget
    cases htarget
    exact absurd (habout (.inl (by decide))) (by decide)
  · have hkept := onPdu_keeps_iff.mp hintact.kept
    exact absurd hkept (by decide)

end Bumble.Rfcomm
