import Bumble.ErtmEngineCalls

/-!
# The sizes of ERTM frames

A frame is its control field, the SDU length when it starts a segmented SDU,
and a piece of the SDU.  Frames are queued by `send_sdu` and only repeated by
every other call, so a bound that holds for the frames of an SDU holds for all
frames an engine ever emits.
-/

namespace Bumble.Ertm

open Bumble.L2cap (Error)

def PendingFrame.size (frame : PendingFrame) : Nat :=
  2 + (sduLengthBytes frame.sduLength).length + frame.payload.length

theorem toBytes_length {control : EnhancedControlField} {bytes : Bytes}
    (hbytes : control.toBytes = .ok bytes) : bytes.length = 2 := by
  cases control with
  | information txSeq finalBit reqSeq sar =>
    simp only [EnhancedControlField.toBytes, EnhancedControlField.validateSeq] at hbytes
    split at hbytes
    · split at hbytes
      · cases hbytes
        rfl
      · cases hbytes
    · cases hbytes
  | supervisory function poll finalBit reqSeq =>
    simp only [EnhancedControlField.toBytes, EnhancedControlField.validateSeq] at hbytes
    split at hbytes
    · cases hbytes
      rfl
    · cases hbytes

theorem encode_length {frame : PendingFrame} {reqSeq : UInt8} {finalBit : Bool} {bytes : Bytes}
    (hencode : frame.encode reqSeq finalBit = .ok bytes) : bytes.length = frame.size := by
  rw [PendingFrame.encode] at hencode
  cases hcontrol : (EnhancedControlField.information frame.txSeq finalBit reqSeq frame.sar).toBytes
    with
  | error error =>
    rw [hcontrol] at hencode
    cases hencode
  | ok control =>
    rw [hcontrol] at hencode
    cases hencode
    simp only [List.length_append, toBytes_length hcontrol, PendingFrame.size]

namespace ErtmEngine

/-- Every frame of the engine, waiting, sent or encoded, has at most `limit`
    octets. -/
structure Fits (limit : Nat) (engine : ErtmEngine) : Prop where
  pending : ∀ frame ∈ engine.pending, frame.size ≤ limit
  txWindow : ∀ sent ∈ engine.txWindow, sent.frame.size ≤ limit
  outbound : ∀ bytes ∈ engine.outbound, bytes.length ≤ limit

variable {limit : Nat} {engine next : ErtmEngine}

theorem Fits.initial (limit : Nat) (config : ErtmConfig) : Fits limit (.initial config) :=
  ⟨fun _ h => (nomatch h), fun _ h => (nomatch h), fun _ h => (nomatch h)⟩

theorem Fits.of_eq (hfits : Fits limit engine) (hpending : next.pending = engine.pending)
    (hwindow : next.txWindow = engine.txWindow) (houtbound : next.outbound = engine.outbound) :
    Fits limit next :=
  ⟨by rw [hpending]; exact hfits.pending, by rw [hwindow]; exact hfits.txWindow,
    by rw [houtbound]; exact hfits.outbound⟩

theorem mem_append_singleton {α : Type} {P : α → Prop} {values : List α} {value : α}
    (hvalues : ∀ other ∈ values, P other) (hvalue : P value) :
    ∀ other ∈ values ++ [value], P other := by
  intro other hother
  rcases List.mem_append.mp hother with hother | hother
  · exact hvalues other hother
  · rw [List.mem_singleton.mp hother]
    exact hvalue

theorem Fits.emit (hfits : Fits limit engine) {bytes : Bytes} (hbytes : bytes.length ≤ limit)
    (hpending : next.pending = engine.pending) (hwindow : next.txWindow = engine.txWindow)
    (houtbound : next.outbound = engine.outbound ++ [bytes]) : Fits limit next :=
  ⟨by rw [hpending]; exact hfits.pending, by rw [hwindow]; exact hfits.txWindow,
    by rw [houtbound]; exact mem_append_singleton hfits.outbound hbytes⟩

theorem fits_andThen {α β : Type} {call : EngineCall α} {rest : ErtmEngine → α → EngineCall β}
    (hcall : Fits limit call.state)
    (hrest : ∀ {engine : ErtmEngine} (value : α), Fits limit engine →
      Fits limit (rest engine value).state) : Fits limit (call.andThen rest).state := by
  rw [Outcome.andThen]
  cases call.result with
  | error error => exact hcall
  | ok value => exact hrest value hcall

/-! ## 1. Output -/

theorem fits_processOutputLoop (fuel : Nat) : ∀ {engine : ErtmEngine}, Fits limit engine →
    Fits limit (processOutputLoop fuel engine).state := by
  induction fuel with
  | zero => exact fun hfits => hfits
  | succ fuel ih =>
    intro engine hfits
    rw [processOutputLoop]
    split
    · split
      · exact hfits
      · next frame pending hpending =>
        have hframe : frame.size ≤ limit := hfits.pending frame (by rw [hpending]; simp)
        have hrest : ∀ other ∈ pending, other.size ≤ limit := by
          intro other hother
          apply hfits.pending
          rw [hpending]
          exact List.mem_cons_of_mem _ hother
        cases hencode : frame.encode engine.expectedTxSeq false with
        | error error => exact ⟨hrest, hfits.txWindow, hfits.outbound⟩
        | ok bytes =>
          apply ih
          refine ⟨hrest, mem_append_singleton hfits.txWindow hframe,
            mem_append_singleton hfits.outbound ?_⟩
          rw [encode_length hencode]
          exact hframe
    · exact hfits

theorem fits_refresh (hfits : Fits limit engine) :
    Fits limit engine.refreshRetransmissionDeadline := hfits.of_eq rfl rfl rfl

theorem fits_processOutput (hfits : Fits limit engine) : Fits limit engine.processOutput.state := by
  rw [processOutput]
  split
  · exact hfits
  · exact fits_andThen (fits_processOutputLoop _ hfits) fun _ hnext => fits_refresh hnext

theorem fits_retransmitAllLoop (todo : List TransmittedFrame) :
    ∀ {done : List TransmittedFrame} {engine : ErtmEngine}, Fits limit engine →
      (∀ sent ∈ done, sent.frame.size ≤ limit) → (∀ sent ∈ todo, sent.frame.size ≤ limit) →
      Fits limit (retransmitAllLoop done todo engine).state := by
  induction todo with
  | nil =>
    intro done engine hfits hdone _
    exact ⟨hfits.pending, hdone, hfits.outbound⟩
  | cons sent rest ih =>
    intro done engine hfits hdone htodo
    have hsent : sent.frame.size ≤ limit := htodo sent List.mem_cons_self
    have hrest : ∀ other ∈ rest, other.frame.size ≤ limit :=
      fun other hother => htodo other (List.mem_cons_of_mem _ hother)
    simp only [retransmitAllLoop]
    cases hencode : sent.frame.encode engine.expectedTxSeq false with
    | error error =>
      refine ⟨hfits.pending, ?_, hfits.outbound⟩
      intro other hother
      rcases List.mem_append.mp hother with hother | hother
      · exact hdone other hother
      · rcases List.mem_cons.mp hother with rfl | hother
        · exact hsent
        · exact hrest other hother
    | ok bytes =>
      refine ih ⟨hfits.pending, hfits.txWindow, mem_append_singleton hfits.outbound ?_⟩
        (mem_append_singleton hdone hsent) hrest
      rw [encode_length hencode]
      exact hsent

theorem fits_retransmitAll (hfits : Fits limit engine) : Fits limit engine.retransmitAll.state := by
  rw [retransmitAll]
  split
  · exact hfits
  split
  · exact hfits.of_eq rfl rfl rfl
  · exact fits_andThen (fits_retransmitAllLoop _ hfits (fun _ h => nomatch h) hfits.txWindow)
      fun _ hnext => fits_refresh hnext

theorem fits_retransmitOne (hfits : Fits limit engine) (txSeq : UInt8) :
    Fits limit (engine.retransmitOne txSeq).state := by
  rw [retransmitOne]
  split
  · exact hfits
  split
  · exact hfits
  next index _ =>
  cases hget : engine.txWindow[index]? with
  | none => exact hfits
  | some sent =>
    have hsent : sent.frame.size ≤ limit := hfits.txWindow sent (List.mem_of_getElem? hget)
    dsimp only
    split
    · exact hfits.of_eq rfl rfl rfl
    have hwindow : ∀ other ∈ engine.txWindow.set index
        { sent with transmissions := sent.transmissions + 1 }, other.frame.size ≤ limit := by
      intro other hother
      rcases List.mem_or_eq_of_mem_set hother with hother | rfl
      · exact hfits.txWindow other hother
      · exact hsent
    cases hencode : sent.frame.encode engine.expectedTxSeq false with
    | error error => exact ⟨hfits.pending, hwindow, hfits.outbound⟩
    | ok bytes =>
      refine fits_refresh ⟨hfits.pending, hwindow, mem_append_singleton hfits.outbound ?_⟩
      rw [encode_length hencode]
      exact hsent

theorem fits_sendSupervisory (hlimit : 2 ≤ limit) (hfits : Fits limit engine)
    (function : SupervisoryFunction) (poll finalBit : Bool) :
    Fits limit (engine.sendSupervisory function poll finalBit).state := by
  rw [sendSupervisory]
  split
  · exact hfits
  · next bytes hbytes =>
    exact hfits.emit (by rw [toBytes_length hbytes]; exact hlimit) rfl rfl rfl

/-! ## 2. Input -/

theorem fits_acknowledge (hfits : Fits limit engine) (newSeq : UInt8) :
    Fits limit (engine.acknowledge newSeq).state := by
  rw [acknowledge]
  split
  · exact hfits
  dsimp only
  split
  · exact hfits
  split
  · refine fits_refresh ⟨hfits.pending, ?_, hfits.outbound⟩
    intro sent hsent
    exact hfits.txWindow sent (List.mem_of_mem_drop hsent)
  · exact hfits

theorem fits_acceptInformation (hfits : Fits limit engine) (sar : SegmentationAndReassembly)
    (payload : Bytes) : Fits limit (engine.acceptInformation sar payload).state := by
  rw [acceptInformation_state]
  exact hfits.of_eq rfl rfl rfl

theorem fits_receiveInformation (hlimit : 2 ≤ limit) (hfits : Fits limit engine) (txSeq : UInt8)
    (finalBit : Bool) (sar : SegmentationAndReassembly) (payload : Bytes) :
    Fits limit (engine.receiveInformation txSeq finalBit sar payload).state := by
  rw [receiveInformation]
  split
  · exact fits_sendSupervisory hlimit hfits _ _ _
  split
  · exact fits_sendSupervisory hlimit hfits _ _ _
  have hcounted : Fits limit { engine with
      expectedTxSeq := sequenceAdd engine.expectedTxSeq 1 } := hfits.of_eq rfl rfl rfl
  refine fits_andThen (fits_acceptInformation hcounted sar payload) fun _ haccepted => ?_
  refine fits_andThen (fits_processOutput haccepted) fun _ hdone => ?_
  split
  · exact fits_sendSupervisory hlimit hdone _ _ _
  · exact hdone

theorem fits_receiveSupervisory (hlimit : 2 ≤ limit) (hfits : Fits limit engine) (acked : Bool)
    (function : SupervisoryFunction) (poll finalBit : Bool) (reqSeq : UInt8) :
    Fits limit (engine.receiveSupervisory acked function poll finalBit reqSeq).state := by
  simp only [receiveSupervisory]
  have hbusy : Fits limit { engine with
      remoteBusy := decide (function = .receiverNotReady) } := hfits.of_eq rfl rfl rfl
  refine fits_andThen ?_ fun _ hrepeated => ?_
  · cases function with
    | reject => exact fits_retransmitAll hbusy
    | selectiveReject => exact fits_retransmitOne hbusy reqSeq
    | receiverReady | receiverNotReady =>
      dsimp only
      split
      · exact fits_retransmitAll hbusy
      · exact hbusy
  refine fits_andThen ?_ fun _ hanswered => fits_processOutput hanswered
  split
  · exact fits_sendSupervisory hlimit hrepeated _ _ _
  · exact hrepeated

/-! ## 3. The calls -/

theorem fits_receiveFrame (hlimit : 2 ≤ limit) (hfits : Fits limit engine) (frame : Bytes) :
    Fits limit (engine.receiveFrame frame).state := by
  rw [receiveFrame]
  split
  · exact hfits
  split
  · exact hfits
  refine fits_andThen (fits_acknowledge hfits _) fun acked hacked => ?_
  split
  · exact fits_receiveInformation hlimit hacked _ _ _ _
  · exact fits_receiveSupervisory hlimit hacked _ _ _ _ _

theorem fits_setReceiverBusy (hlimit : 2 ≤ limit) (hfits : Fits limit engine) (busy : Bool) :
    Fits limit (engine.setReceiverBusy busy).state := by
  rw [setReceiverBusy]
  split
  · exact hfits
  split
  · have hnext : Fits limit { engine with localBusy := busy } := hfits.of_eq rfl rfl rfl
    exact fits_sendSupervisory hlimit hnext _ _ _
  · exact hfits

theorem fits_tick (hfits : Fits limit engine) (ticks : UInt32) :
    Fits limit (engine.tick ticks).state := by
  have hadvanced : Fits limit (engine.advance ticks) := hfits.of_eq rfl rfl rfl
  rw [tick]
  split
  · exact hfits
  dsimp only
  split
  · exact fits_retransmitAll hadvanced
  · exact hadvanced

/-- An SDU that is not refused has frames of at most `limit` octets: the whole
    SDU behind the control field when the peer's MPS takes it, else a first
    piece of that size behind the control field and the length. -/
def sduFits (limit : Nat) (engine : ErtmEngine) (sdu : Bytes) : Bool :=
  engine.failed || sdu.length > engine.config.peerMtu.toNat ||
    if sdu.length ≤ engine.config.peerMps.toNat then sdu.length + 2 ≤ limit
    else engine.config.peerMps.toNat + 4 ≤ limit

theorem fits_queueFrame (hfits : Fits limit engine) {payload : Bytes}
    {sar : SegmentationAndReassembly} {sduLength : Option UInt16}
    (hframe : 2 + (sduLengthBytes sduLength).length + payload.length ≤ limit) :
    Fits limit (engine.queueFrame payload sar sduLength) :=
  ⟨mem_append_singleton hfits.pending hframe, hfits.txWindow, hfits.outbound⟩

theorem fits_queueChunks (mps sduLength : Nat) (hmps : mps + 4 ≤ limit) (pieces : List Bytes) :
    ∀ (index : Nat) {engine : ErtmEngine}, Fits limit engine →
      (∀ piece ∈ pieces, piece.length ≤ mps) →
      Fits limit (queueChunks mps sduLength index pieces engine) := by
  induction pieces with
  | nil => exact fun _ _ hfits _ => hfits
  | cons piece pieces ih =>
    intro index engine hfits hpieces
    have hpiece := hpieces piece List.mem_cons_self
    rw [queueChunks]
    apply ih
    · apply fits_queueFrame hfits
      split
      · simp only [sduLengthBytes, length_u16ToLe]
        omega
      · simp only [sduLengthBytes, List.length_nil]
        omega
    · exact fun other hother => hpieces other (List.mem_cons_of_mem _ hother)

theorem fits_sendSdu (hfits : Fits limit engine) {sdu : Bytes}
    (hsdu : sduFits limit engine sdu = true) :
    Fits limit (engine.sendSdu sdu).state := by
  rw [sendSdu]
  by_cases hfailed : engine.failed = true
  · rw [ensureActive_failed hfailed]
    exact hfits
  rw [ensureActive_active hfailed]
  dsimp only
  split
  · exact hfits
  next hmtu =>
  rw [sduFits, Bool.or_eq_true, Bool.or_eq_true, decide_eq_true_eq] at hsdu
  replace hsdu := hsdu.resolve_left fun hrefused => hrefused.elim hfailed hmtu
  by_cases hwhole : sdu.length ≤ engine.config.peerMps.toNat
  · rw [if_pos hwhole] at hsdu ⊢
    apply fits_processOutput
    apply fits_queueFrame hfits
    have hfit := of_decide_eq_true hsdu
    simp only [sduLengthBytes, List.length_nil]
    omega
  · rw [if_neg hwhole] at hsdu ⊢
    split
    · exact hfits
    · apply fits_processOutput
      exact fits_queueChunks _ _ (of_decide_eq_true hsdu) _ 0 hfits (chunksLoop_length _ _)

end ErtmEngine

end Bumble.Ertm
