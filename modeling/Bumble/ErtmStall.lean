import Bumble.ErtmEngineCalls

/-!
# When the engine leaves queued frames unsent

After a call the engine should have used its window: a peer that is not busy
and a frame still pending mean a full window.  The branches of `receive_frame`
that end in `process_output` see to that.  The others return on their own: an
information frame that is dropped because the receiver is busy or the frame is
out of sequence, one whose segment the reassembly refuses, and a selective
reject that names no frame of the window.  Each of them has already processed
the request number, so it may have freed window slots that nothing fills.

`run_never_stalls` shows that these are the only ways to stall.
-/

namespace Bumble.Ertm

open Bumble.L2cap (Error)

/-! ## 1. Calls and runs -/

inductive EngineOp where
  | sendSdu (sdu : Bytes)
  | receiveFrame (frame : Bytes)
  | setReceiverBusy (busy : Bool)
  | tick (ticks : UInt32)

def EngineOp.apply (op : EngineOp) (engine : ErtmEngine) : EngineCall Unit :=
  match op with
  | sendSdu sdu => engine.sendSdu sdu
  | receiveFrame frame => engine.receiveFrame frame
  | setReceiverBusy busy => engine.setReceiverBusy busy
  | tick ticks => engine.tick ticks

namespace ErtmEngine

/-- The engine after a list of calls, whatever they return. -/
def runOps (engine : ErtmEngine) (ops : List EngineOp) : ErtmEngine :=
  ops.foldl (fun engine op => (op.apply engine).state) engine

/-- Pending frames and a peer that is not busy mean a full window. -/
def NeverStalls (engine : ErtmEngine) : Prop :=
  engine.remoteBusy = false → engine.pending ≠ [] →
    engine.txWindow.length = engine.config.txWindowSize.toNat

def freed (engine : ErtmEngine) (reqSeq : UInt8) : Nat :=
  (sequenceDistance engine.lastAckedTxSeq reqSeq).toNat

/-- The request number is a possible one and the window is not full after it. -/
def leavesRoom (engine : ErtmEngine) (reqSeq : UInt8) : Bool :=
  decide (engine.freed reqSeq ≤ engine.txWindow.length ∧
    engine.txWindow.length - engine.freed reqSeq < engine.config.txWindowSize.toNat)

/-- The reassembly refuses a segment in this state. -/
def refusesSegment (engine : ErtmEngine) (sar : SegmentationAndReassembly) (payload : Bytes) :
    Bool :=
  match (engine.acceptInformation sar payload).result with
  | .ok _ => false
  | .error _ => true

/-- The received frame leaves room in the window while frames are pending and
    the peer is not busy, and takes a branch of `receive_frame` that does not
    reach `process_output`. -/
def skipsRefill (engine : ErtmEngine) (frame : Bytes) : Bool :=
  !engine.failed && !engine.pending.isEmpty &&
    match EnhancedControlField.fromBytes frame with
    | .ok (.information txSeq _ reqSeq sar) =>
      !engine.remoteBusy && engine.leavesRoom reqSeq &&
        (engine.localBusy || decide (txSeq ≠ engine.expectedTxSeq) ||
          engine.refusesSegment sar (frame.drop 2))
    | .ok (.supervisory .selectiveReject _ _ reqSeq) =>
      engine.leavesRoom reqSeq &&
        (engine.txWindow.drop (engine.freed reqSeq)).all fun sent =>
          decide (sent.frame.txSeq ≠ reqSeq)
    | _ => false

end ErtmEngine

/-- The call is not a received frame that skips the refill. -/
def EngineOp.Refills (engine : ErtmEngine) : EngineOp → Prop
  | .receiveFrame frame => engine.skipsRefill frame = false
  | _ => True

/-- Every call of the run refills the window in the state it is made in. -/
def RefillingRun : ErtmEngine → List EngineOp → Prop
  | _, [] => True
  | engine, op :: ops => op.Refills engine ∧ RefillingRun (op.apply engine).state ops

instance (engine : ErtmEngine) (op : EngineOp) : Decidable (op.Refills engine) :=
  match op with
  | .receiveFrame frame => inferInstanceAs (Decidable (engine.skipsRefill frame = false))
  | .sendSdu _ | .setReceiverBusy _ | .tick _ => .isTrue trivial

instance decidableRefillingRun :
    (engine : ErtmEngine) → (ops : List EngineOp) → Decidable (RefillingRun engine ops)
  | _, [] => .isTrue trivial
  | engine, op :: ops =>
    have := decidableRefillingRun (op.apply engine).state ops
    inferInstanceAs (Decidable (_ ∧ _))

namespace ErtmEngine

/-! ## 2. One call -/

variable {engine : ErtmEngine}

theorem NeverStalls.of_eq {next : ErtmEngine} (h : engine.NeverStalls)
    (hconfig : next.config = engine.config) (hbusy : next.remoteBusy = engine.remoteBusy)
    (hpending : next.pending = engine.pending)
    (hwindow : next.txWindow.length = engine.txWindow.length) : next.NeverStalls := by
  intro hremote hqueue
  rw [hwindow, hconfig]
  exact h (hbusy ▸ hremote) (hpending ▸ hqueue)

theorem refill_neverStalls (h : engine.WellFormed) : engine.refill.NeverStalls := by
  intro hremote hpending
  have hidle : ¬ engine.remoteBusy = true := by
    intro hbusy
    simp only [refill, hbusy, if_true] at hremote
    cases hremote
  have hle := h.window_le
  simp only [refill, hidle, refreshRetransmissionDeadline, fill, filling] at hpending ⊢
  have hlong : ¬ engine.pending.length ≤ engine.room :=
    fun hshort => hpending (List.drop_eq_nil_of_le hshort)
  simp only [room] at hlong
  simp only [Bool.false_eq_true, if_false, List.length_append, List.length_map, List.length_take,
    room]
  omega

/-- A call has either failed the engine for good or left no stall. -/
def Settled (call : EngineCall Unit) : Prop :=
  (call.state.failed = true ∧ call.result ≠ .ok ()) ∨ call.state.NeverStalls

theorem Settled.of_ok {call : EngineCall Unit} (h : Settled call) (hok : call.result = .ok ()) :
    call.state.NeverStalls := by
  rcases h with ⟨_, hne⟩ | hnever
  · exact absurd hok hne
  · exact hnever

/-- A selective reject sends its frame again, fails at the limit, or asks for a
    frame that is not in the window. -/
theorem retransmitOne_spec (h : engine.WellFormed) (txSeq : UInt8) :
    ((engine.retransmitOne txSeq).state.WellFormed ∧
      (engine.retransmitOne txSeq).result = .ok ()) ∨
    ((engine.retransmitOne txSeq).state.WellFormed ∧
      (engine.retransmitOne txSeq).state.failed = true ∧
      (engine.retransmitOne txSeq).result ≠ .ok ()) ∨
    ((engine.retransmitOne txSeq).state = engine ∧ engine.remoteBusy = false ∧
      (engine.retransmitOne txSeq).result ≠ .ok () ∧
      ∀ sent ∈ engine.txWindow, sent.frame.txSeq ≠ txSeq) := by
  unfold retransmitOne
  split
  · exact Or.inl ⟨h, rfl⟩
  · next hidle =>
    split
    · next hnone =>
      refine Or.inr (Or.inr ⟨rfl, by simpa using hidle, by simp, ?_⟩)
      simpa using hnone
    · next index _ =>
      split
      · exact Or.inl ⟨h, rfl⟩
      · next sent hsent =>
        have hmem : sent ∈ engine.txWindow := List.mem_of_getElem? hsent
        split
        · exact Or.inr (Or.inl ⟨{ h with }, rfl, by simp⟩)
        · dsimp only
          rw [PendingFrame.encode_eq (h.sent_lt sent hmem) h.expected_lt]
          refine Or.inl ⟨?_, rfl⟩
          constructor
          case sent_lt =>
            intro other hother
            rcases List.mem_or_eq_of_mem_set hother with hold | hnew
            · exact h.sent_lt other hold
            · rw [hnew]
              exact h.sent_lt sent hmem
          case window_le =>
            simp only [Outcome.ok_state, refreshRetransmissionDeadline, List.length_set]
            exact h.window_le
          case armed => exact refresh_armed _
          all_goals first
            | exact h.window_pos
            | exact h.window_lt
            | exact h.expected_lt
            | exact h.next_lt
            | exact h.acked_lt
            | exact h.pending_lt

theorem acknowledge_cases (engine : ErtmEngine) (newSeq : UInt8) :
    (∃ error, engine.acknowledge newSeq = .fail engine error) ∨
    (newSeq < 64 ∧ engine.freed newSeq ≤ engine.txWindow.length ∧
      ∃ acked, engine.acknowledge newSeq = .ok (engine.ackedTo newSeq) acked) := by
  by_cases hseq : newSeq < 64
  · by_cases hcount : engine.freed newSeq ≤ engine.txWindow.length
    · exact Or.inr ⟨hseq, hcount, _, acknowledge_eq engine hseq hcount⟩
    · have hrange : ¬ newSeq ≥ ertmSequenceModulus := UInt8.not_le.mpr hseq
      have hmany : (sequenceDistance engine.lastAckedTxSeq newSeq).toNat >
          engine.txWindow.length := Nat.lt_of_not_le hcount
      left
      simp only [acknowledge, hrange, if_false, hmany, if_true]
      exact ⟨_, rfl⟩
  · have hrange : newSeq ≥ ertmSequenceModulus := UInt8.not_lt.mp hseq
    left
    simp only [acknowledge, hrange, if_true]
    exact ⟨_, rfl⟩

theorem ackedTo_neverStalls (h : engine.WellFormed) {reqSeq : UInt8}
    (hcount : engine.freed reqSeq ≤ engine.txWindow.length)
    (hroom : engine.pending = [] ∨ engine.leavesRoom reqSeq = false) :
    ∀ busy, ({ engine.ackedTo reqSeq with remoteBusy := busy } : ErtmEngine).NeverStalls := by
  intro busy hremote hpending
  have hle := h.window_le
  rcases hroom with hnil | hfull
  · exact absurd hnil (by simpa using hpending)
  · have hnot : ¬ engine.txWindow.length - engine.freed reqSeq <
        engine.config.txWindowSize.toNat := by
      intro hlt
      simp only [leavesRoom, hcount, hlt, and_self, decide_true] at hfull
      cases hfull
    simp only [ackedTo_txWindow, ackedTo_config, List.length_drop]
    simp only [freed] at hnot hcount
    omega

theorem Settled.inactive (hfailed : engine.failed = true) (error : Error) :
    Settled (.fail engine error) :=
  Or.inl ⟨hfailed, by simp⟩

theorem retransmitAll_settled (h : engine.WellFormed) :
    engine.retransmitAll.state.WellFormed ∧
      (engine.retransmitAll.result = .ok () ∨
        engine.retransmitAll.state.failed = true ∧ engine.retransmitAll.result ≠ .ok ()) := by
  rw [retransmitAll_eq h]
  split
  · exact ⟨h, Or.inl rfl⟩
  · split
    · exact ⟨{ h with }, Or.inr ⟨rfl, by simp⟩⟩
    · exact ⟨h.resend, Or.inl rfl⟩

theorem answerPoll_settled (h : engine.WellFormed) (poll : Bool) :
    let call := (if poll then
        engine.sendSupervisory
          (if engine.localBusy then .receiverNotReady else .receiverReady) false true
      else .ok engine () : EngineCall Unit).andThen fun engine _ => engine.processOutput
    call.state.WellFormed ∧ call.state.NeverStalls := by
  cases poll with
  | false =>
    simp only [Bool.false_eq_true, if_false, Outcome.ok_andThen]
    rw [processOutput_eq h]
    exact ⟨h.refill, refill_neverStalls h⟩
  | true =>
    simp only [if_true]
    rw [sendSupervisory_eq h.expected_lt, Outcome.ok_andThen, processOutput_eq (h.supervise _ _)]
    exact ⟨(h.supervise _ _).refill, refill_neverStalls (h.supervise _ _)⟩

theorem NeverStalls.supervise (h : engine.NeverStalls) (function : SupervisoryFunction)
    (finalBit : Bool) : (engine.supervise function finalBit).NeverStalls := h

theorem refusesSegment_eq {other : ErtmEngine} (hconfig : other.config = engine.config)
    (hassembly : engine.withAssembly other = engine) (sar : SegmentationAndReassembly)
    (payload : Bytes) : engine.refusesSegment sar payload = other.refusesSegment sar payload := by
  have hcall := acceptInformation_withAssembly hconfig sar payload
  rw [hassembly] at hcall
  simp only [refusesSegment, hcall, Outcome.mapState_result]

theorem acknowledgeIfSilent_settled (h : engine.WellFormed) (finalBit : Bool) :
    let call : EngineCall Unit := engine.processOutput.andThen fun engine _ =>
      if engine.lastAckedRxSeq ≠ engine.expectedTxSeq then
        engine.sendSupervisory .receiverReady false finalBit
      else .ok engine ()
    call.state.WellFormed ∧ call.state.NeverStalls := by
  simp only [processOutput_eq h, Outcome.ok_andThen]
  have hnever := refill_neverStalls h
  split
  · rw [sendSupervisory_eq h.refill.expected_lt]
    exact ⟨h.refill.supervise _ _, hnever.supervise _ _⟩
  · exact ⟨h.refill, hnever⟩

theorem receiveInformation_settled (h : engine.WellFormed) (txSeq : UInt8) (finalBit : Bool)
    (sar : SegmentationAndReassembly) (payload : Bytes)
    (hrefills : engine.NeverStalls ∨ engine.localBusy = false ∧ txSeq = engine.expectedTxSeq ∧
        engine.refusesSegment sar payload = false) :
    (engine.receiveInformation txSeq finalBit sar payload).state.WellFormed ∧
      (engine.receiveInformation txSeq finalBit sar payload).state.NeverStalls := by
  unfold receiveInformation
  split
  · next hlocal =>
    rw [sendSupervisory_eq h.expected_lt]
    rcases hrefills with hnever | ⟨hidle, _⟩
    · exact ⟨h.supervise _ _, hnever.supervise _ _⟩
    · rw [hlocal] at hidle
      cases hidle
  · split
    · next horder =>
      rw [sendSupervisory_eq h.expected_lt]
      rcases hrefills with hnever | ⟨_, hexpected, _⟩
      · exact ⟨h.supervise _ _, hnever.supervise _ _⟩
      · exact absurd hexpected horder
    · have haccept := h.accept sar payload
      have hcall := @acceptInformation_withAssembly
        { engine with expectedTxSeq := sequenceAdd engine.expectedTxSeq 1 } engine rfl sar payload
      change ({ engine with expectedTxSeq := sequenceAdd engine.expectedTxSeq 1 }
        : ErtmEngine).acceptInformation sar payload = _ at hcall
      rw [hcall] at haccept
      simp only [hcall]
      cases hresult : (engine.acceptInformation sar payload).result with
      | error error =>
        simp only [Outcome.andThen, Outcome.mapState, hresult, Outcome.fail_state]
        rcases hrefills with hnever | ⟨_, _, haccepts⟩
        · exact ⟨haccept, hnever⟩
        · simp only [refusesSegment, hresult] at haccepts
          cases haccepts
      | ok value =>
        simp only [Outcome.andThen, Outcome.mapState, hresult]
        exact acknowledgeIfSilent_settled haccept finalBit

/-- A supervisory frame leaves the engine settled, a selective reject when it names a
    frame of the window or nothing stalls. -/
theorem receiveSupervisory_settled (h : engine.WellFormed) (acked : Bool)
    (function : SupervisoryFunction) (poll finalBit : Bool) (reqSeq : UInt8)
    (hrefills : function = .selectiveReject →
      ({ engine with remoteBusy := false } : ErtmEngine).NeverStalls ∨
        ∃ sent ∈ engine.txWindow, sent.frame.txSeq = reqSeq) :
    (engine.receiveSupervisory acked function poll finalBit reqSeq).state.WellFormed ∧
      Settled (engine.receiveSupervisory acked function poll finalBit reqSeq) := by
  have htold : ({ engine with remoteBusy := decide (function = .receiverNotReady) }
      : ErtmEngine).WellFormed := { h with }
  -- whatever the function asked for, the rest of the branch follows when it succeeds
  have hrest : ∀ call : EngineCall Unit, call.state.WellFormed →
      (call.result = .ok () ∨ call.state.failed = true ∧ call.result ≠ .ok () ∨
        call.state.NeverStalls ∧ call.result ≠ .ok ()) →
      let rest := call.andThen fun engine _ =>
        (if poll then
          engine.sendSupervisory
            (if engine.localBusy then .receiverNotReady else .receiverReady) false true
        else .ok engine () : EngineCall Unit).andThen fun engine _ => engine.processOutput
      rest.state.WellFormed ∧ Settled rest := by
    rintro ⟨state, result⟩ hstate hresult
    cases result with
    | ok value =>
      obtain ⟨hwell, hnever⟩ := answerPoll_settled hstate poll
      exact ⟨hwell, Or.inr hnever⟩
    | error error =>
      rcases hresult with hok | ⟨hfailed, _⟩ | ⟨hnever, _⟩
      · cases hok
      · exact ⟨hstate, Settled.inactive hfailed error⟩
      · exact ⟨hstate, Or.inr hnever⟩
  unfold receiveSupervisory
  cases function with
  | reject =>
    obtain ⟨hwell, hcases⟩ := retransmitAll_settled htold
    exact hrest _ hwell (hcases.imp_right Or.inl)
  | selectiveReject =>
    rcases retransmitOne_spec htold reqSeq with ⟨hwell, hok⟩ | ⟨hwell, hfailed, hne⟩ |
      ⟨hsame, -, hne, hunknown⟩
    · exact hrest _ hwell (Or.inl hok)
    · exact hrest _ hwell (Or.inr (Or.inl ⟨hfailed, hne⟩))
    · rcases hrefills rfl with hnever | ⟨sent, hsent, hknown⟩
      · dsimp only
        refine hrest _ ?_ (Or.inr (Or.inr ⟨?_, hne⟩))
        · rw [hsame]
          exact htold
        · rw [hsame]
          exact hnever
      · exact absurd hknown (hunknown sent hsent)
  | receiverReady =>
    dsimp only
    split
    · obtain ⟨hwell, hcases⟩ := retransmitAll_settled htold
      exact hrest _ hwell (hcases.imp_right Or.inl)
    · exact hrest _ htold (Or.inl rfl)
  | receiverNotReady =>
    dsimp only
    split
    · obtain ⟨hwell, hcases⟩ := retransmitAll_settled htold
      exact hrest _ hwell (hcases.imp_right Or.inl)
    · exact hrest _ htold (Or.inl rfl)

/-- Any frame that does not skip the refill leaves the engine settled. -/
theorem receiveFrame_settled (h : engine.WellFormed)
    (hnever : engine.failed = true ∨ engine.NeverStalls) (frame : Bytes)
    (hrefills : engine.skipsRefill frame = false) :
    (engine.receiveFrame frame).state.WellFormed ∧ Settled (engine.receiveFrame frame) := by
  unfold receiveFrame
  by_cases hfailed : engine.failed = true
  · rw [ensureActive_failed hfailed]
    exact ⟨h, Settled.inactive hfailed _⟩
  · have hnow := hnever.resolve_left hfailed
    simp only [skipsRefill, Bool.eq_false_of_not_eq_true hfailed, Bool.not_false,
      Bool.true_and] at hrefills
    rw [ensureActive_active hfailed]
    dsimp only
    cases hcontrol : EnhancedControlField.fromBytes frame with
    | error error => exact ⟨h, Or.inr hnow⟩
    | ok control =>
      rcases engine.acknowledge_cases control.reqSeq with
        ⟨error, hrefused⟩ | ⟨hseq, hcount, acked, hacked⟩
      · simp only [hrefused, Outcome.fail_andThen]
        exact ⟨h, Or.inr hnow⟩
      · simp only [hacked, Outcome.ok_andThen]
        have hwell := h.ackedTo hseq
        rw [hcontrol] at hrefills
        cases control with
        | information txSeq finalBit reqSeq sar =>
          simp only [EnhancedControlField.reqSeq] at hseq hcount hwell ⊢
          have hassembly := engine.ackedTo_withAssembly reqSeq
          obtain ⟨hkept, hsettled⟩ := receiveInformation_settled hwell txSeq finalBit sar
            (frame.drop 2) (by
              rw [refusesSegment_eq (by simp) hassembly, ackedTo_localBusy,
                ackedTo_expectedTxSeq]
              by_cases hroom : engine.pending = [] ∨ engine.leavesRoom reqSeq = false
              · exact Or.inl (ackedTo_neverStalls h hcount hroom _)
              · by_cases hremote : engine.remoteBusy = true
                · refine Or.inl fun hidle => ?_
                  rw [ackedTo_remoteBusy, hremote] at hidle
                  cases hidle
                · refine Or.inr ?_
                  push Not at hroom
                  simpa [hroom.1, hroom.2, hremote, and_assoc] using hrefills)
          exact ⟨hkept, Or.inr hsettled⟩
        | supervisory function poll finalBit reqSeq =>
          simp only [EnhancedControlField.reqSeq] at hseq hcount hwell ⊢
          refine receiveSupervisory_settled hwell acked function poll finalBit reqSeq ?_
          rintro rfl
          by_cases hroom : engine.pending = [] ∨ engine.leavesRoom reqSeq = false
          · exact Or.inl (ackedTo_neverStalls h hcount hroom _)
          · refine Or.inr ?_
            push Not at hroom
            simpa [hroom.1, hroom.2, freed] using hrefills

theorem sendSdu_settled (h : engine.WellFormed)
    (hnever : engine.failed = true ∨ engine.NeverStalls) (sdu : Bytes) :
    (engine.sendSdu sdu).state.WellFormed ∧ Settled (engine.sendSdu sdu) := by
  unfold sendSdu
  by_cases hfailed : engine.failed = true
  · rw [ensureActive_failed hfailed]
    exact ⟨h, Settled.inactive hfailed _⟩
  · have hnow := hnever.resolve_left hfailed
    rw [ensureActive_active hfailed]
    dsimp only
    split
    · exact ⟨h, Or.inr hnow⟩
    · split
      · have hqueued := h.queueFrame sdu .unsegmented none
        rw [processOutput_eq hqueued]
        exact ⟨hqueued.refill, Or.inr (refill_neverStalls hqueued)⟩
      · split
        · exact ⟨h, Or.inr hnow⟩
        · have hqueued := h.queueChunks engine.config.peerMps.toNat sdu.length
            (chunks engine.config.peerMps.toNat sdu) 0
          rw [processOutput_eq hqueued]
          exact ⟨hqueued.refill, Or.inr (refill_neverStalls hqueued)⟩

theorem setReceiverBusy_settled (h : engine.WellFormed)
    (hnever : engine.failed = true ∨ engine.NeverStalls) (busy : Bool) :
    (engine.setReceiverBusy busy).state.WellFormed ∧ Settled (engine.setReceiverBusy busy) := by
  unfold setReceiverBusy
  by_cases hfailed : engine.failed = true
  · rw [ensureActive_failed hfailed]
    exact ⟨h, Settled.inactive hfailed _⟩
  · have hnow := hnever.resolve_left hfailed
    rw [ensureActive_active hfailed]
    dsimp only
    split
    · have hflag : ({ engine with localBusy := busy } : ErtmEngine).WellFormed := { h with }
      rw [sendSupervisory_eq hflag.expected_lt]
      exact ⟨hflag.supervise _ _, Or.inr (NeverStalls.of_eq hnow rfl rfl rfl rfl)⟩
    · exact ⟨h, Or.inr hnow⟩

theorem tick_settled (h : engine.WellFormed)
    (hnever : engine.failed = true ∨ engine.NeverStalls) (ticks : UInt32) :
    (engine.tick ticks).state.WellFormed ∧ Settled (engine.tick ticks) := by
  unfold tick
  by_cases hfailed : engine.failed = true
  · rw [ensureActive_failed hfailed]
    exact ⟨h, Settled.inactive hfailed _⟩
  · have hnow := hnever.resolve_left hfailed
    have hlater : (engine.advance ticks).WellFormed := { h with }
    rw [ensureActive_active hfailed]
    dsimp only
    split
    · rw [retransmitAll_eq hlater]
      split
      · exact ⟨hlater, Or.inr (hnow.of_eq rfl rfl rfl rfl)⟩
      · split
        · exact ⟨{ hlater with }, Settled.inactive rfl _⟩
        · refine ⟨hlater.resend, Or.inr (hnow.of_eq rfl rfl rfl ?_)⟩
          exact List.length_map _
    · exact ⟨hlater, Or.inr (hnow.of_eq rfl rfl rfl rfl)⟩

/-! ## 3. Runs -/

theorem apply_settled (h : engine.WellFormed)
    (hnever : engine.failed = true ∨ engine.NeverStalls) {op : EngineOp}
    (hrefills : op.Refills engine) :
    (op.apply engine).state.WellFormed ∧ Settled (op.apply engine) := by
  cases op with
  | sendSdu sdu => exact sendSdu_settled h hnever sdu
  | receiveFrame frame => exact receiveFrame_settled h hnever frame hrefills
  | setReceiverBusy busy => exact setReceiverBusy_settled h hnever busy
  | tick ticks => exact tick_settled h hnever ticks

theorem runOps_settled (ops : List EngineOp) :
    ∀ {engine : ErtmEngine}, engine.WellFormed →
      (engine.failed = true ∨ engine.NeverStalls) → RefillingRun engine ops →
      (engine.runOps ops).WellFormed ∧
        ((engine.runOps ops).failed = true ∨ (engine.runOps ops).NeverStalls) := by
  induction ops with
  | nil => exact fun h hnever _ => ⟨h, hnever⟩
  | cons op ops ih =>
    intro engine h hnever hrun
    obtain ⟨hwell, hsettled⟩ := apply_settled h hnever hrun.1
    exact ih hwell (hsettled.imp_left And.left) hrun.2

end ErtmEngine

theorem RefillingRun.last {op : EngineOp} (ops : List EngineOp) :
    ∀ {engine : ErtmEngine}, RefillingRun engine (ops ++ [op]) →
      RefillingRun engine ops ∧ op.Refills (engine.runOps ops) := by
  induction ops with
  | nil => exact fun hrun => ⟨trivial, hrun.1⟩
  | cons first ops ih =>
    intro engine hrun
    obtain ⟨hrest, hlast⟩ := ih hrun.2
    exact ⟨⟨hrun.1, hrest⟩, hlast⟩

open ErtmEngine

/-- **No stall.**  In every run of an engine whose received frames never skip
    the refill, each call that returns normally leaves a full window whenever
    frames are pending and the peer is not busy.  In particular frames are not
    pending behind an empty window with no deadline armed. -/
theorem run_never_stalls {config : ErtmConfig} {engine : ErtmEngine}
    (hnew : ErtmEngine.new config = .ok engine) (ops : List EngineOp) (op : EngineOp)
    (hrun : RefillingRun engine (ops ++ [op]))
    (hok : (op.apply (engine.runOps ops)).result = .ok ()) :
    let after := (op.apply (engine.runOps ops)).state
    (after.remoteBusy = false → after.pending ≠ [] →
      after.txWindow.length = after.config.txWindowSize.toNat) ∧
    ¬ (after.remoteBusy = false ∧ after.pending ≠ [] ∧ after.txWindow = [] ∧
      after.retransmissionDeadline = none) := by
  have hwell : engine.WellFormed := WellFormed.of_new hnew
  have hfresh : engine.NeverStalls := by
    intro _ hpending
    rw [(new_eq hnew).2] at hpending
    exact absurd rfl hpending
  obtain ⟨hbefore, hlast⟩ := hrun.last ops
  obtain ⟨hkept, hnever⟩ := runOps_settled ops hwell (Or.inr hfresh) hbefore
  obtain ⟨hafter, hsettled⟩ := apply_settled hkept hnever hlast
  have hfull := hsettled.of_ok hok
  refine ⟨hfull, ?_⟩
  rintro ⟨hremote, hpending, hempty, -⟩
  have hlength := hfull hremote hpending
  have hpos := hafter.window_pos
  rw [hempty, List.length_nil] at hlength
  omega

/-- A run that refills: the window of one is full, its acknowledgement comes
    with an information frame in sequence and the second SDU goes out. -/
theorem run_never_stalls_in_sequence :
    let engine := ErtmEngine.initial { txWindowSize := 1 }
    let after := engine.runOps [.sendSdu [1], .sendSdu [2], .receiveFrame [0, 1, 9]]
    after.pending = [] ∧ after.txWindow.length = 1 ∧
      (after.remoteBusy = false → after.pending ≠ [] → after.txWindow.length = 1) := by
  refine ⟨by decide, by decide, ?_⟩
  exact (@run_never_stalls { txWindowSize := 1 }
    (ErtmEngine.initial { txWindowSize := 1 }) (by decide)
    [.sendSdu [1], .sendSdu [2]] (.receiveFrame [0, 1, 9]) (by decide) (by decide)).1

/-- The stall: two SDUs, a window of one, and an out-of-sequence information
    frame that acknowledges the first SDU.  The second stays pending behind an
    empty window and no deadline is armed. -/
theorem stalls_on_out_of_sequence_acknowledgement :
    ∃ (config : ErtmConfig) (engine : ErtmEngine) (ops : List EngineOp) (op : EngineOp),
      ErtmEngine.new config = .ok engine ∧
      (op.apply (engine.runOps ops)).result = .ok () ∧
      (op.apply (engine.runOps ops)).state.remoteBusy = false ∧
      (op.apply (engine.runOps ops)).state.pending ≠ [] ∧
      (op.apply (engine.runOps ops)).state.txWindow = [] ∧
      (op.apply (engine.runOps ops)).state.config.txWindowSize = 1 ∧
      (op.apply (engine.runOps ops)).state.retransmissionDeadline = none :=
  ⟨{ txWindowSize := 1 }, ErtmEngine.initial { txWindowSize := 1 },
    [.sendSdu [1], .sendSdu [2]], .receiveFrame [10, 1, 9], by decide, by decide, by decide,
    by decide, by decide, by decide, by decide⟩

end Bumble.Ertm
