import Bumble.ErtmEngine

/-!
# What the engine's calls do in a well-formed state

Every call of the engine encodes frames, and the encoder refuses sequence
numbers from 64 on.  `ErtmEngine.WellFormed` collects what every reachable
state satisfies; under it no encoding fails and each internal function of the
engine has a closed form: `processOutput` is `refill`, `retransmitAll` is
`resend` unless a frame has reached its limit, and `sendSupervisory` is
`supervise`.  The later modules use these and never unfold the loops again.
-/

namespace Bumble.Ertm

open Bumble.L2cap (Error)

/-! ## 1. Control fields on the wire -/

theorem informationByte_fields : ∀ value : Fin 64, ∀ finalBit : Bool,
    let byte : UInt8 := UInt8.ofNat value <<< 1 ||| finalBit.toUInt8 <<< 7
    byte &&& 1 = 0 ∧ (byte >>> 1) &&& 0x3f = UInt8.ofNat value ∧
      decide (byte &&& 0x80 ≠ 0) = finalBit := by
  decide

theorem sarByte_fields : ∀ value : Fin 64,
    ∀ sar ∈ [SegmentationAndReassembly.unsegmented, .start, .end_, .continuation],
      let byte : UInt8 := UInt8.ofNat value ||| sar.toU8 <<< 6
      byte &&& 0x3f = UInt8.ofNat value ∧
        SegmentationAndReassembly.tryFrom (byte >>> 6) = .ok sar := by
  decide

theorem supervisoryByte_fields :
    ∀ function ∈ [SupervisoryFunction.receiverReady, .reject, .receiverNotReady,
      .selectiveReject], ∀ poll finalBit : Bool,
      let byte : UInt8 :=
        (1 : UInt8) ||| function.toU8 <<< 2 ||| poll.toUInt8 <<< 4 ||| finalBit.toUInt8 <<< 7
      byte &&& 1 ≠ 0 ∧ SupervisoryFunction.tryFrom ((byte >>> 2) &&& 3) = .ok function ∧
        decide (byte &&& 0x10 ≠ 0) = poll ∧ decide (byte &&& 0x80 ≠ 0) = finalBit := by
  decide

theorem sequence_mask : ∀ value : Fin 64,
    UInt8.ofNat value &&& 0x3f = UInt8.ofNat value := by
  decide

theorem exists_fin_of_lt {sequence : UInt8} (h : sequence < 64) :
    ∃ value : Fin 64, UInt8.ofNat value = sequence :=
  ⟨⟨sequence.toNat, h⟩, UInt8.ofNat_toNat⟩

theorem SegmentationAndReassembly.mem_all (sar : SegmentationAndReassembly) :
    sar ∈ [SegmentationAndReassembly.unsegmented, .start, .end_, .continuation] := by
  cases sar <;> simp

theorem SupervisoryFunction.mem_all (function : SupervisoryFunction) :
    function ∈ [SupervisoryFunction.receiverReady, .reject, .receiverNotReady,
      .selectiveReject] := by
  cases function <;> simp

/-- The two control octets of an information frame with the final bit clear. -/
def informationBytes (txSeq reqSeq : UInt8) (sar : SegmentationAndReassembly) : Bytes :=
  [txSeq <<< 1 ||| false.toUInt8 <<< 7, reqSeq ||| sar.toU8 <<< 6]

def supervisoryBytes (function : SupervisoryFunction) (finalBit : Bool) (reqSeq : UInt8) :
    Bytes :=
  [(1 : UInt8) ||| function.toU8 <<< 2 ||| false.toUInt8 <<< 4 ||| finalBit.toUInt8 <<< 7, reqSeq]

theorem fromBytes_informationBytes {txSeq reqSeq : UInt8} (htx : txSeq < 64) (hreq : reqSeq < 64)
    (sar : SegmentationAndReassembly) (rest : Bytes) :
    EnhancedControlField.fromBytes (informationBytes txSeq reqSeq sar ++ rest) =
      .ok (.information txSeq false reqSeq sar) := by
  obtain ⟨tx, rfl⟩ := exists_fin_of_lt htx
  obtain ⟨req, rfl⟩ := exists_fin_of_lt hreq
  obtain ⟨hbit, hseq, hfinal⟩ := informationByte_fields tx false
  obtain ⟨hlow, hsar⟩ := sarByte_fields req sar sar.mem_all
  simp only [informationBytes, List.cons_append, EnhancedControlField.fromBytes, hbit, if_true,
    hsar, hseq, hfinal, hlow]
  rfl

theorem fromBytes_supervisoryBytes {reqSeq : UInt8} (hreq : reqSeq < 64)
    (function : SupervisoryFunction) (finalBit : Bool) :
    EnhancedControlField.fromBytes (supervisoryBytes function finalBit reqSeq) =
      .ok (.supervisory function false finalBit reqSeq) := by
  obtain ⟨req, rfl⟩ := exists_fin_of_lt hreq
  obtain ⟨hbit, hfunction, hpoll, hfinal⟩ :=
    supervisoryByte_fields function function.mem_all false finalBit
  simp only [supervisoryBytes, EnhancedControlField.fromBytes, hbit, if_false, hfunction, hpoll,
    hfinal, sequence_mask]
  rfl

/-- The octets of a frame whose numbers are in range. -/
def PendingFrame.bytes (frame : PendingFrame) (reqSeq : UInt8) : Bytes :=
  informationBytes frame.txSeq reqSeq frame.sar ++ sduLengthBytes frame.sduLength ++ frame.payload

theorem PendingFrame.encode_eq {frame : PendingFrame} {reqSeq : UInt8} (htx : frame.txSeq < 64)
    (hreq : reqSeq < 64) : frame.encode reqSeq false = .ok (frame.bytes reqSeq) := by
  simp only [encode, EnhancedControlField.toBytes, EnhancedControlField.validateSeq,
    ertmSequenceModulus, htx, hreq, if_true]
  rfl

theorem toBytes_supervisory {reqSeq : UInt8} (hreq : reqSeq < 64)
    (function : SupervisoryFunction) (finalBit : Bool) :
    (EnhancedControlField.supervisory function false finalBit reqSeq).toBytes =
      .ok (supervisoryBytes function finalBit reqSeq) := by
  simp only [EnhancedControlField.toBytes, EnhancedControlField.validateSeq,
    ertmSequenceModulus, hreq, if_true]
  rfl

/-! ## 2. Well-formed engines -/

namespace ErtmEngine

structure WellFormed (engine : ErtmEngine) : Prop where
  window_pos : 1 ≤ engine.config.txWindowSize.toNat
  window_lt : engine.config.txWindowSize.toNat < 64
  expected_lt : engine.expectedTxSeq < 64
  next_lt : engine.nextTxSeq < 64
  acked_lt : engine.lastAckedTxSeq < 64
  sent_lt : ∀ sent ∈ engine.txWindow, sent.frame.txSeq < 64
  pending_lt : ∀ frame ∈ engine.pending, frame.txSeq < 64
  window_le : engine.txWindow.length ≤ engine.config.txWindowSize.toNat
  armed : engine.retransmissionDeadline.isSome = !engine.txWindow.isEmpty

/-- The number of frames the window can still take. -/
def room (engine : ErtmEngine) : Nat :=
  engine.config.txWindowSize.toNat - engine.txWindow.length

/-- The pending frames that go into the window now. -/
def filling (engine : ErtmEngine) : List PendingFrame := engine.pending.take engine.room

/-- `process_output` before the deadline is refreshed. -/
def fill (engine : ErtmEngine) : ErtmEngine :=
  { engine with
    pending := engine.pending.drop engine.room
    lastAckedRxSeq := if engine.filling = [] then engine.lastAckedRxSeq else engine.expectedTxSeq
    txWindow := engine.txWindow ++ engine.filling.map (⟨·, 1⟩)
    outbound := engine.outbound ++ engine.filling.map (·.bytes engine.expectedTxSeq) }

/-- What `process_output` does. -/
def refill (engine : ErtmEngine) : ErtmEngine :=
  if engine.remoteBusy then engine else engine.fill.refreshRetransmissionDeadline

/-- What `retransmit_all` does when no limit is reached. -/
def resend (engine : ErtmEngine) : ErtmEngine :=
  ({ engine with
    txWindow := engine.txWindow.map fun sent =>
      { sent with transmissions := sent.transmissions + 1 }
    outbound := engine.outbound ++ engine.txWindow.map (·.frame.bytes engine.expectedTxSeq)
    lastAckedRxSeq :=
      if engine.txWindow = [] then engine.lastAckedRxSeq else engine.expectedTxSeq }
      : ErtmEngine).refreshRetransmissionDeadline

/-- What `send_supervisory` does. -/
def supervise (engine : ErtmEngine) (function : SupervisoryFunction) (finalBit : Bool) :
    ErtmEngine :=
  { engine with
    outbound := engine.outbound ++ [supervisoryBytes function finalBit engine.expectedTxSeq]
    lastAckedRxSeq := engine.expectedTxSeq }

/-- What a successful `acknowledge` does. -/
def ackedTo (engine : ErtmEngine) (newSeq : UInt8) : ErtmEngine :=
  if sequenceDistance engine.lastAckedTxSeq newSeq = 0 then engine
  else
    ({ engine with
      txWindow := engine.txWindow.drop (sequenceDistance engine.lastAckedTxSeq newSeq).toNat
      lastAckedTxSeq := newSeq } : ErtmEngine).refreshRetransmissionDeadline

section AckedTo

variable (engine : ErtmEngine) (newSeq : UInt8)

@[simp] theorem ackedTo_config : (engine.ackedTo newSeq).config = engine.config := by
  unfold ackedTo; split <;> rfl

@[simp] theorem ackedTo_pending : (engine.ackedTo newSeq).pending = engine.pending := by
  unfold ackedTo; split <;> rfl

@[simp] theorem ackedTo_outbound : (engine.ackedTo newSeq).outbound = engine.outbound := by
  unfold ackedTo; split <;> rfl

@[simp] theorem ackedTo_expectedTxSeq :
    (engine.ackedTo newSeq).expectedTxSeq = engine.expectedTxSeq := by
  unfold ackedTo; split <;> rfl

@[simp] theorem ackedTo_lastAckedRxSeq :
    (engine.ackedTo newSeq).lastAckedRxSeq = engine.lastAckedRxSeq := by
  unfold ackedTo; split <;> rfl

@[simp] theorem ackedTo_remoteBusy :
    (engine.ackedTo newSeq).remoteBusy = engine.remoteBusy := by
  unfold ackedTo; split <;> rfl

@[simp] theorem ackedTo_localBusy : (engine.ackedTo newSeq).localBusy = engine.localBusy := by
  unfold ackedTo; split <;> rfl

@[simp] theorem ackedTo_failed : (engine.ackedTo newSeq).failed = engine.failed := by
  unfold ackedTo; split <;> rfl

@[simp] theorem ackedTo_nextTxSeq : (engine.ackedTo newSeq).nextTxSeq = engine.nextTxSeq := by
  unfold ackedTo; split <;> rfl

@[simp] theorem ackedTo_received : (engine.ackedTo newSeq).received = engine.received := by
  unfold ackedTo; split <;> rfl

@[simp] theorem ackedTo_inputSdu : (engine.ackedTo newSeq).inputSdu = engine.inputSdu := by
  unfold ackedTo; split <;> rfl

@[simp] theorem ackedTo_inputSduLength :
    (engine.ackedTo newSeq).inputSduLength = engine.inputSduLength := by
  unfold ackedTo; split <;> rfl

@[simp] theorem ackedTo_txWindow : (engine.ackedTo newSeq).txWindow =
    engine.txWindow.drop (sequenceDistance engine.lastAckedTxSeq newSeq).toNat := by
  unfold ackedTo
  split
  · next hzero => simp [hzero]
  · rfl

end AckedTo

theorem ensureActive_failed {engine : ErtmEngine} (h : engine.failed = true) :
    engine.ensureActive = .error engineFailedError := by
  rw [ensureActive, if_pos h]

theorem ensureActive_active {engine : ErtmEngine} (h : ¬ engine.failed = true) :
    engine.ensureActive = .ok () := by
  rw [ensureActive, if_neg h]

/-! ### Output -/

/-- With enough fuel the loop sends as many pending frames as the window takes. -/
theorem processOutputLoop_eq (fuel : Nat) (engine : ErtmEngine)
    (hfuel : engine.pending.length ≤ fuel) (hexpected : engine.expectedTxSeq < 64)
    (hpending : ∀ frame ∈ engine.pending, frame.txSeq < 64) :
    processOutputLoop fuel engine = .ok engine.fill () := by
  -- a state with nothing to fill in is its own closed form
  have hstop : ∀ engine : ErtmEngine, engine.filling = [] → engine.fill = engine := by
    intro engine hnone
    have hdrop : engine.pending.drop engine.room = engine.pending := by
      have := List.take_append_drop engine.room engine.pending
      rw [show engine.pending.take engine.room = [] from hnone] at this
      exact this
    simp only [fill, hnone, hdrop, if_true, List.map_nil, List.append_nil]
  induction fuel generalizing engine with
  | zero =>
    have hnil : engine.pending = [] := List.length_eq_zero_iff.mp (Nat.le_zero.mp hfuel)
    rw [processOutputLoop, hstop engine (by simp [filling, hnil])]
  | succ fuel ih =>
    rw [processOutputLoop]
    split
    · next hroom =>
      cases hframes : engine.pending with
      | nil =>
        dsimp only
        rw [hstop engine (by simp [filling, hframes])]
      | cons frame pending =>
        rw [hframes] at hfuel hpending
        have hframe := hpending frame (List.mem_cons_self ..)
        obtain ⟨room, hsucc⟩ : ∃ room, engine.room = room + 1 :=
          ⟨engine.room - 1, by simp only [ErtmEngine.room] at *; omega⟩
        dsimp only
        rw [PendingFrame.encode_eq hframe hexpected]
        refine (ih _ ?_ ?_ ?_).trans ?_
        · simpa using hfuel
        · exact hexpected
        · exact fun later hlater => hpending later (List.mem_cons_of_mem _ hlater)
        have hnext : ({ engine with
            pending
            lastAckedRxSeq := engine.expectedTxSeq
            txWindow := engine.txWindow ++ [⟨frame, 1⟩]
            outbound := engine.outbound ++ [frame.bytes engine.expectedTxSeq] }
            : ErtmEngine).room = room := by
          simp only [ErtmEngine.room, List.length_append, List.length_singleton] at hsucc ⊢
          omega
        congr 1
        simp only [fill, filling, hnext, hsucc, hframes, List.take_succ_cons,
          List.drop_succ_cons, List.map_cons, List.append_assoc, List.singleton_append]
        simp
    · next hfull =>
      have hroom : engine.room = 0 := by simp only [ErtmEngine.room]; omega
      rw [hstop engine (by simp [filling, hroom])]

theorem processOutput_eq {engine : ErtmEngine} (h : engine.WellFormed) :
    engine.processOutput = .ok engine.refill () := by
  unfold processOutput refill
  split
  · rfl
  · rw [processOutputLoop_eq _ _ (Nat.le_refl _) h.expected_lt h.pending_lt]
    rfl

theorem retransmitAllLoop_eq (todo : List TransmittedFrame) :
    ∀ (done : List TransmittedFrame) (engine : ErtmEngine), engine.expectedTxSeq < 64 →
    (∀ sent ∈ todo, sent.frame.txSeq < 64) →
    retransmitAllLoop done todo engine = .ok
      { engine with
        txWindow := done ++ todo.map fun sent =>
          { sent with transmissions := sent.transmissions + 1 }
        outbound := engine.outbound ++ todo.map (·.frame.bytes engine.expectedTxSeq)
        lastAckedRxSeq := if todo = [] then engine.lastAckedRxSeq else engine.expectedTxSeq }
      () := by
  induction todo with
  | nil =>
    intro done engine _ _
    simp [retransmitAllLoop]
  | cons sent todo ih =>
    intro done engine hexpected htodo
    have hsent := htodo sent (List.mem_cons_self ..)
    rw [retransmitAllLoop]
    dsimp only
    rw [PendingFrame.encode_eq hsent hexpected]
    refine (ih _ _ ?_ ?_).trans ?_
    · exact hexpected
    · exact fun later hlater => htodo later (List.mem_cons_of_mem _ hlater)
    · simp

theorem retransmitAll_eq {engine : ErtmEngine} (h : engine.WellFormed) :
    engine.retransmitAll =
      if engine.remoteBusy then .ok engine ()
      else
        match engine.txWindow.find?
            (retransmissionLimitReached engine.config.maxRetransmissions) with
        | some sent =>
          .fail { engine with failed := true } (retransmissionLimitError sent.frame.txSeq)
        | none => .ok engine.resend () := by
  unfold retransmitAll
  rw [retransmitAllLoop_eq _ _ _ h.expected_lt h.sent_lt]
  rfl

theorem sendSupervisory_eq {engine : ErtmEngine} (hexpected : engine.expectedTxSeq < 64)
    (function : SupervisoryFunction) (finalBit : Bool) :
    engine.sendSupervisory function false finalBit =
      .ok (engine.supervise function finalBit) () := by
  unfold sendSupervisory
  rw [toBytes_supervisory hexpected]
  rfl

/-! ### Input -/

theorem acknowledge_eq (engine : ErtmEngine) {newSeq : UInt8} (hseq : newSeq < 64)
    (hcount : (sequenceDistance engine.lastAckedTxSeq newSeq).toNat ≤ engine.txWindow.length) :
    engine.acknowledge newSeq =
      .ok (engine.ackedTo newSeq)
        (decide (sequenceDistance engine.lastAckedTxSeq newSeq ≠ 0)) := by
  have hrange : ¬ newSeq ≥ ertmSequenceModulus := UInt8.not_le.mpr hseq
  have hfits : ¬ (sequenceDistance engine.lastAckedTxSeq newSeq).toNat > engine.txWindow.length :=
    Nat.not_lt.mpr hcount
  simp only [acknowledge, hrange, if_false, hfits, ackedTo]
  by_cases hzero : sequenceDistance engine.lastAckedTxSeq newSeq = 0
  · simp [hzero]
  · have hne : (sequenceDistance engine.lastAckedTxSeq newSeq).toNat ≠ 0 := by
      intro hnat
      exact hzero (UInt8.toNat.inj (by simpa using hnat))
    simp [hzero, hne]

/-- `engine` with the reassembly fields of `other`. -/
def withAssembly (engine other : ErtmEngine) : ErtmEngine :=
  { engine with
    received := other.received
    inputSdu := other.inputSdu
    inputSduLength := other.inputSduLength }

theorem checkPartialLength_withAssembly (engine other : ErtmEngine) :
    (engine.withAssembly other).checkPartialLength =
      other.checkPartialLength.mapState engine.withAssembly := by
  unfold checkPartialLength
  cases hlength : other.inputSduLength with
  | none =>
    simp only [withAssembly, hlength]
    simp [Outcome.mapState, Outcome.ok, withAssembly, hlength]
  | some length =>
    by_cases hlong : other.inputSdu.length ≥ length
    · simp only [withAssembly, hlength, hlong, if_true]
      rfl
    · simp only [withAssembly, hlength, hlong, if_false]
      simp [Outcome.mapState, Outcome.ok, withAssembly, hlength]

theorem ackedTo_withAssembly (engine : ErtmEngine) (newSeq : UInt8) :
    (engine.ackedTo newSeq).withAssembly engine = engine.ackedTo newSeq := by
  unfold ackedTo
  split <;> rfl

theorem acceptInformation_withAssembly {engine other : ErtmEngine}
    (hconfig : other.config = engine.config) (sar : SegmentationAndReassembly) (payload : Bytes) :
    (engine.withAssembly other).acceptInformation sar payload =
      (other.acceptInformation sar payload).mapState engine.withAssembly := by
  have hactive : (engine.withAssembly other).inputActive = other.inputActive := rfl
  have hmtu : (engine.withAssembly other).config.localMtu = other.config.localMtu :=
    congrArg ErtmConfig.localMtu hconfig.symm
  cases sar with
  | unsegmented =>
    simp only [acceptInformation, hactive, hmtu]
    split_ifs <;> rfl
  | start =>
    simp only [acceptInformation, hactive, hmtu]
    split
    · split_ifs
      · rfl
      · rfl
      · next l0 l1 body _ _ =>
        exact checkPartialLength_withAssembly engine
          { other with
            inputSduLength := some (u16FromLe l0 l1).toNat
            inputSdu := other.inputSdu ++ body }
    · rfl
  | continuation =>
    have hlength : (engine.withAssembly other).inputSduLength = other.inputSduLength := rfl
    simp only [acceptInformation, hlength]
    split
    · rfl
    · exact checkPartialLength_withAssembly engine
        { other with inputSdu := other.inputSdu ++ payload }
  | end_ =>
    have hlength : (engine.withAssembly other).inputSduLength = other.inputSduLength := rfl
    have hinput : (engine.withAssembly other).inputSdu = other.inputSdu := rfl
    simp only [acceptInformation, hlength, hinput]
    split
    · rfl
    · split_ifs <;> rfl

/-- The engine with SDUs in front of those it has received. -/
def receivedAfter (sdus : List Bytes) (engine : ErtmEngine) : ErtmEngine :=
  { engine with received := sdus ++ engine.received }

/-- What was received before has no influence on what is received next. -/
theorem acceptInformation_receivedAfter (engine : ErtmEngine) (sdus : List Bytes)
    (sar : SegmentationAndReassembly) (payload : Bytes) :
    (engine.receivedAfter sdus).acceptInformation sar payload =
      (engine.acceptInformation sar payload).mapState (receivedAfter sdus) := by
  have hpartial : ∀ engine : ErtmEngine, (engine.receivedAfter sdus).checkPartialLength =
      engine.checkPartialLength.mapState (receivedAfter sdus) := by
    intro engine
    have hlength : (engine.receivedAfter sdus).inputSduLength = engine.inputSduLength := rfl
    have hinput : (engine.receivedAfter sdus).inputSdu = engine.inputSdu := rfl
    simp only [checkPartialLength, hlength, hinput]
    split
    · split_ifs <;> rfl
    · rfl
  have hactive : (engine.receivedAfter sdus).inputActive = engine.inputActive := rfl
  have hmtu : (engine.receivedAfter sdus).config = engine.config := rfl
  have hlength : (engine.receivedAfter sdus).inputSduLength = engine.inputSduLength := rfl
  have hinput : (engine.receivedAfter sdus).inputSdu = engine.inputSdu := rfl
  cases sar with
  | unsegmented =>
    simp only [acceptInformation, hactive, hmtu]
    split_ifs
    · rfl
    · rfl
    · simp [Outcome.mapState, Outcome.ok, receivedAfter]
  | start =>
    simp only [acceptInformation, hactive, hmtu]
    split
    · split_ifs
      · rfl
      · rfl
      · next l0 l1 body _ _ =>
        exact hpartial { engine with
          inputSduLength := some (u16FromLe l0 l1).toNat
          inputSdu := engine.inputSdu ++ body }
    · rfl
  | continuation =>
    simp only [acceptInformation, hlength]
    split
    · rfl
    · exact hpartial { engine with inputSdu := engine.inputSdu ++ payload }
  | end_ =>
    simp only [acceptInformation, hlength, hinput]
    split
    · rfl
    · split_ifs
      · rfl
      · simp [Outcome.mapState, Outcome.ok, receivedAfter]

theorem acceptInformation_state (engine : ErtmEngine) (sar : SegmentationAndReassembly)
    (payload : Bytes) : (engine.acceptInformation sar payload).state =
      engine.withAssembly (engine.acceptInformation sar payload).state :=
  congrArg Outcome.state (@acceptInformation_withAssembly engine engine rfl sar payload)

/-! ## 3. Well-formedness is kept -/

theorem sequenceAdd_lt (sequence delta : UInt8) : sequenceAdd sequence delta < 64 := by
  rw [UInt8.lt_iff_toNat_lt]
  simp only [sequenceAdd, ertmSequenceModulus, UInt8.toNat_mod]
  exact Nat.mod_lt _ (by decide)

theorem refresh_armed (engine : ErtmEngine) :
    engine.refreshRetransmissionDeadline.retransmissionDeadline.isSome =
      !engine.txWindow.isEmpty := by
  unfold refreshRetransmissionDeadline
  cases engine.txWindow.isEmpty <;> simp

theorem validate_ok {config : ErtmConfig} (hvalid : config.validate = .ok config) :
    ¬ (config.localMtu = 0 ∨ config.peerMtu = 0) ∧
      ¬ (config.localMps = 0 ∨ config.peerMps = 0) ∧
      1 ≤ config.txWindowSize ∧ config.txWindowSize < ertmSequenceModulus := by
  unfold ErtmConfig.validate at hvalid
  split_ifs at hvalid with hmtu hmps hwindow hticks
  exact ⟨hmtu, hmps, hwindow⟩

theorem new_eq {config : ErtmConfig} {engine : ErtmEngine}
    (hnew : ErtmEngine.new config = .ok engine) :
    config.validate = .ok config ∧ engine = ErtmEngine.initial config := by
  have hvalid : ∀ valid, config.validate = .ok valid → valid = config := by
    intro valid
    unfold ErtmConfig.validate
    split_ifs <;> simp [eq_comm]
  unfold ErtmEngine.new at hnew
  cases hresult : config.validate with
  | error error =>
    rw [hresult] at hnew
    cases hnew
  | ok valid =>
    rw [hresult] at hnew
    obtain rfl := hvalid valid hresult
    cases hnew
    exact ⟨rfl, rfl⟩

namespace WellFormed

variable {engine : ErtmEngine}

theorem initial {config : ErtmConfig} (hvalid : config.validate = .ok config) :
    (ErtmEngine.initial config).WellFormed := by
  obtain ⟨-, -, hwindow⟩ := validate_ok hvalid
  constructor
  case window_pos => exact UInt8.le_iff_toNat_le.mp hwindow.1
  case window_lt => exact UInt8.lt_iff_toNat_lt.mp hwindow.2
  all_goals simp [ErtmEngine.initial]

theorem of_new {config : ErtmConfig} (hnew : ErtmEngine.new config = .ok engine) :
    engine.WellFormed := by
  obtain ⟨hvalid, rfl⟩ := new_eq hnew
  exact initial hvalid

theorem fill (h : engine.WellFormed) :
    engine.fill.refreshRetransmissionDeadline.WellFormed where
  window_pos := h.window_pos
  window_lt := h.window_lt
  expected_lt := h.expected_lt
  next_lt := h.next_lt
  acked_lt := h.acked_lt
  sent_lt := by
    intro sent hsent
    rcases List.mem_append.mp hsent with hold | hnew
    · exact h.sent_lt sent hold
    · obtain ⟨frame, hframe, rfl⟩ := List.mem_map.mp hnew
      exact h.pending_lt frame (List.mem_of_mem_take hframe)
  pending_lt := fun frame hframe => h.pending_lt frame (List.mem_of_mem_drop hframe)
  window_le := by
    have hle := h.window_le
    simp only [refreshRetransmissionDeadline, ErtmEngine.fill, filling, room, List.length_append,
      List.length_map, List.length_take]
    omega
  armed := refresh_armed _

theorem refill (h : engine.WellFormed) : engine.refill.WellFormed := by
  unfold ErtmEngine.refill
  split
  · exact h
  · exact h.fill

theorem resend (h : engine.WellFormed) : engine.resend.WellFormed where
  window_pos := h.window_pos
  window_lt := h.window_lt
  expected_lt := h.expected_lt
  next_lt := h.next_lt
  acked_lt := h.acked_lt
  sent_lt := by
    intro sent hsent
    obtain ⟨old, hold, rfl⟩ := List.mem_map.mp hsent
    exact h.sent_lt old hold
  pending_lt := h.pending_lt
  window_le := by
    simp only [ErtmEngine.resend, refreshRetransmissionDeadline, List.length_map]
    exact h.window_le
  armed := refresh_armed _

theorem supervise (h : engine.WellFormed) (function : SupervisoryFunction) (finalBit : Bool) :
    (engine.supervise function finalBit).WellFormed := { h with }

theorem ackedTo (h : engine.WellFormed) {newSeq : UInt8} (hseq : newSeq < 64) :
    (engine.ackedTo newSeq).WellFormed := by
  unfold ErtmEngine.ackedTo
  split
  · exact h
  · constructor
    case window_pos => exact h.window_pos
    case window_lt => exact h.window_lt
    case expected_lt => exact h.expected_lt
    case next_lt => exact h.next_lt
    case acked_lt => exact hseq
    case sent_lt => exact fun sent hsent => h.sent_lt sent (List.mem_of_mem_drop hsent)
    case pending_lt => exact h.pending_lt
    case window_le =>
      have hle := h.window_le
      simp only [refreshRetransmissionDeadline, List.length_drop]
      omega
    case armed => exact refresh_armed _

theorem withAssembly (h : engine.WellFormed) (other : ErtmEngine) :
    (engine.withAssembly other).WellFormed := { h with }

theorem accept (h : engine.WellFormed) (sar : SegmentationAndReassembly) (payload : Bytes) :
    (({ engine with expectedTxSeq := sequenceAdd engine.expectedTxSeq 1 }
      : ErtmEngine).acceptInformation sar payload).state.WellFormed := by
  have hcounted : ({ engine with expectedTxSeq := sequenceAdd engine.expectedTxSeq 1 }
      : ErtmEngine).WellFormed := { h with expected_lt := sequenceAdd_lt _ _ }
  rw [acceptInformation_state]
  exact hcounted.withAssembly _

theorem queueFrame (h : engine.WellFormed) (payload : Bytes) (sar : SegmentationAndReassembly)
    (sduLength : Option UInt16) : (engine.queueFrame payload sar sduLength).WellFormed :=
  { h with
    next_lt := sequenceAdd_lt _ _
    pending_lt := by
      intro frame hframe
      rcases List.mem_append.mp hframe with hold | hnew
      · exact h.pending_lt frame hold
      · rw [List.mem_singleton.mp hnew]
        exact h.next_lt }

theorem queueChunks (mps sduLength : Nat) (chunks : List Bytes) :
    ∀ (index : Nat) {engine : ErtmEngine}, engine.WellFormed →
      (ErtmEngine.queueChunks mps sduLength index chunks engine).WellFormed := by
  induction chunks with
  | nil => exact fun _ _ h => h
  | cons chunk chunks ih => exact fun index _ h => ih (index + 1) (h.queueFrame _ _ _)

end WellFormed

end ErtmEngine

end Bumble.Ertm
