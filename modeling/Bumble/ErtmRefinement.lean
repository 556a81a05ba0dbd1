import Bumble.ErtmSegmentation
import Bumble.GoBackN

/-!
# The engine refines go-back-N

`Tracks segments engine peer` relates an engine to an abstract peer whose
numbers do not wrap: `segments` is the whole stream the engine has been given,
the window and the queue hold the rest of it from the first frame not
acknowledged, and every octet string the engine has queued for its link is the
encoding of the frame the peer has queued.

Each internal function of the engine tracks the peer's function of the same
purpose.  `receiveFrame_follows` puts them together: a frame of the other
side's stream, encoded, does to the engine what the frame does to the peer.
-/

namespace Bumble.Ertm

open Bumble.L2cap (Error)
open Bumble.GoBackN (Peer Frame Supervision)

/-! ## 1. Frames on the wire -/

/-- The supervisory function of an abstract supervisory frame. -/
def supervisionFunction : Supervision → SupervisoryFunction
  | .ready => .receiverReady
  | .notReady => .receiverNotReady
  | .reject => .reject

/-- The octets of a frame of the stream `segments`. -/
def wire (segments : List Segment) : Frame → Bytes
  | .info index req =>
    match segments[index]? with
    | some segment => (segment.stamp index).bytes (number req)
    | none => []
  | .supervision kind req => supervisoryBytes (supervisionFunction kind) false (number req)

theorem wire_append {segments : List Segment} {frame : Frame} (more : List Segment)
    (hindex : ∀ index, frame.index? = some index → index < segments.length) :
    wire (segments ++ more) frame = wire segments frame := by
  cases frame with
  | info index req =>
    have hlt := hindex index rfl
    simp only [wire, List.getElem?_append_left hlt]
  | supervision kind req => rfl

theorem fromBytes_stamp (segment : Segment) (index req : Nat) :
    EnhancedControlField.fromBytes ((segment.stamp index).bytes (number req)) =
      .ok (.information (number index) false (number req) segment.sar) := by
  simp only [PendingFrame.bytes, List.append_assoc]
  exact fromBytes_informationBytes (number_lt index) (number_lt req) _ _

theorem drop_stamp_bytes (segment : Segment) (index req : Nat) :
    ((segment.stamp index).bytes (number req)).drop 2 = segment.body := rfl

theorem burst_wire (segments : List Segment) {first count : Nat} (req : Nat)
    (hle : first + count ≤ segments.length) :
    (Peer.burst first count req).map (wire segments) =
      (((stampFrom 0 segments).drop first).take count).map (·.bytes (number req)) := by
  apply List.ext_getElem?
  intro offset
  simp only [Peer.burst, List.map_map, List.getElem?_map, List.getElem?_take, List.getElem?_drop,
    getElem?_stampFrom, Nat.zero_add]
  by_cases hlt : offset < count
  · have hsegment : segments[first + offset]? = some (segments[first + offset]) :=
      List.getElem?_eq_getElem (by omega)
    simp [hlt, wire, hsegment]
  · simp [hlt]

/-! ## 2. The relation -/

/-- A 16-bit transmission counter and the count it stands for.  Where a limit
    applies the count stays below the counter's modulus. -/
def CountsAs (limit : Nat) (sent : TransmittedFrame) (count : Nat) : Prop :=
  sent.transmissions.toNat = count % 65536 ∧ (limit ≠ 0 → count ≤ limit + 1)

theorem countsAs_fresh (limit : Nat) (frames : List PendingFrame) :
    List.Forall₂ (CountsAs limit) (frames.map (⟨·, 1⟩)) (List.replicate frames.length 1) := by
  induction frames with
  | nil => exact List.Forall₂.nil
  | cons frame frames ih => exact List.Forall₂.cons ⟨rfl, fun _ => Nat.le_add_left _ _⟩ ih

theorem limitReached_iff {max : UInt8} {sent : TransmittedFrame} {count : Nat}
    (h : CountsAs max.toNat sent count) :
    retransmissionLimitReached max sent = true ↔ max.toNat ≠ 0 ∧ max.toNat ≤ count - 1 := by
  have hmax := max.toNat_lt
  have hzero : max ≠ 0 ↔ max.toNat ≠ 0 := by
    rw [not_iff_not, ← UInt8.toNat_inj]
    rfl
  simp only [retransmissionLimitReached, decide_eq_true_eq, hzero, h.1]
  constructor
  · rintro ⟨hne, hle⟩
    have := h.2 hne
    exact ⟨hne, by omega⟩
  · rintro ⟨hne, hle⟩
    have := h.2 hne
    exact ⟨hne, by omega⟩

theorem find?_limitReached {max : UInt8} {window : List TransmittedFrame} {counts : List Nat}
    (h : List.Forall₂ (CountsAs max.toNat) window counts) :
    window.find? (retransmissionLimitReached max) = none ↔
      ¬ (max.toNat ≠ 0 ∧ counts.any (fun count => decide (max.toNat ≤ count - 1)) = true) := by
  induction h with
  | nil => simp
  | cons hcount _ ih =>
    have hhead := limitReached_iff hcount
    rename_i sent count _ _ _
    by_cases hreached : retransmissionLimitReached max sent = true
    · obtain ⟨hne, hle⟩ := hhead.mp hreached
      simp [List.find?_cons_of_pos hreached, hne, hle]
    · rw [List.find?_cons_of_neg hreached, ih, not_iff_not, List.any_cons, Bool.or_eq_true,
        decide_eq_true_eq]
      refine ⟨fun ⟨hne, hany⟩ => ⟨hne, Or.inr hany⟩, fun ⟨hne, hany⟩ => ⟨hne, ?_⟩⟩
      exact hany.resolve_left fun hle => hreached (hhead.mpr ⟨hne, hle⟩)

theorem countsAs_succ {limit : Nat} {window : List TransmittedFrame} {counts : List Nat}
    (h : List.Forall₂ (CountsAs limit) window counts)
    (hlimit : ¬ (limit ≠ 0 ∧ counts.any (fun count => decide (limit ≤ count - 1)) = true)) :
    List.Forall₂ (CountsAs limit)
      (window.map fun sent => { sent with transmissions := sent.transmissions + 1 })
      (counts.map (· + 1)) := by
  induction h with
  | nil => exact List.Forall₂.nil
  | cons hcount _ ih =>
    simp only [List.any_cons, Bool.or_eq_true, decide_eq_true_eq, not_and, not_or] at hlimit
    refine List.Forall₂.cons ⟨?_, fun hne => ?_⟩ (ih fun hany => (hlimit hany.1).2 hany.2)
    · have hvalue := hcount.1
      simp only [UInt16.toNat_add, UInt16.toNat_one, hvalue]
      omega
    · have hroom := (hlimit hne).1
      dsimp only
      omega

structure Tracks (segments : List Segment) (engine : ErtmEngine) (peer : Peer) : Prop where
  well : engine.WellFormed
  window_eq : peer.window = engine.config.txWindowSize.toNat
  limit_eq : peer.limit = engine.config.maxRetransmissions.toNat
  acked_eq : engine.lastAckedTxSeq = number peer.acked
  next_eq : engine.nextTxSeq = number peer.queued
  expected_eq : engine.expectedTxSeq = number peer.expected
  queued_eq : peer.queued = segments.length
  stream_eq : engine.txWindow.map (·.frame) ++ engine.pending =
    (stampFrom 0 segments).drop peer.acked
  counts : List.Forall₂ (CountsAs peer.limit) engine.txWindow peer.transmissions
  remoteBusy_eq : peer.remoteBusy = engine.remoteBusy
  localBusy_eq : peer.localBusy = engine.localBusy
  failed_eq : peer.failed = engine.failed
  outbound_eq : engine.outbound = peer.outbound.map (wire segments)

namespace Tracks

variable {segments : List Segment} {engine : ErtmEngine} {peer : Peer}

theorem length_eq (h : Tracks segments engine peer) :
    engine.txWindow.length = peer.transmissions.length := h.counts.length_eq

theorem window_frames (h : Tracks segments engine peer) :
    engine.txWindow.map (·.frame) =
      ((stampFrom 0 segments).drop peer.acked).take peer.transmissions.length := by
  rw [← h.stream_eq, ← h.length_eq, List.take_left' (List.length_map _)]

theorem pending_eq (h : Tracks segments engine peer) :
    engine.pending = (stampFrom 0 segments).drop peer.sent := by
  rw [Peer.sent, ← List.drop_drop, ← h.stream_eq, ← h.length_eq,
    List.drop_left' (List.length_map _)]

theorem pending_length (h : Tracks segments engine peer) :
    engine.pending.length = peer.queued - peer.sent := by
  rw [h.pending_eq, List.length_drop, length_stampFrom, h.queued_eq]

theorem sent_le (h : Tracks segments engine peer) (hacked : peer.acked ≤ peer.queued) :
    peer.sent ≤ peer.queued := by
  have hlength := congrArg List.length h.stream_eq
  simp only [List.length_append, List.length_map, List.length_drop, length_stampFrom,
    h.length_eq] at hlength
  rw [Peer.sent, h.queued_eq] at *
  omega

/-- Filling the window tracks the abstract peer. -/
theorem fill (h : Tracks segments engine peer) : Tracks segments engine.refill peer.fill := by
  have hbusy := h.remoteBusy_eq
  unfold ErtmEngine.refill Peer.fill
  by_cases hremote : engine.remoteBusy = true
  · rw [if_pos hremote, if_pos (hbusy.trans hremote)]
    exact h
  · rw [if_neg hremote, if_neg (by rw [hbusy]; exact hremote)]
    have hroom : engine.room = peer.window - peer.transmissions.length := by
      rw [ErtmEngine.room, h.window_eq, h.length_eq]
    have hfilling : engine.filling = engine.pending.take peer.room := by
      rw [ErtmEngine.filling, Peer.room, ← hroom, ← h.pending_length, ← List.take_take,
        List.take_length]
    have hcount : engine.filling.length = peer.room := by
      rw [hfilling, List.length_take, h.pending_length, Peer.room]
      omega
    have hsegments : peer.sent + peer.room ≤ segments.length ∨ peer.room = 0 := by
      rw [← h.queued_eq, Peer.room]
      omega
    constructor
    case well => exact h.well.fill
    case window_eq => exact h.window_eq
    case limit_eq => exact h.limit_eq
    case acked_eq => exact h.acked_eq
    case next_eq => exact h.next_eq
    case expected_eq => exact h.expected_eq
    case queued_eq => exact h.queued_eq
    case stream_eq =>
      have hsplit : engine.filling ++ engine.pending.drop engine.room = engine.pending :=
        List.take_append_drop _ _
      simp only [ErtmEngine.refreshRetransmissionDeadline, ErtmEngine.fill, List.map_append,
        List.map_map, Function.comp_def, List.map_id', List.append_assoc, hsplit]
      exact h.stream_eq
    case counts =>
      have hfresh := countsAs_fresh peer.limit engine.filling
      rw [hcount] at hfresh
      exact List.rel_append h.counts hfresh
    case remoteBusy_eq => exact h.remoteBusy_eq
    case localBusy_eq => exact h.localBusy_eq
    case failed_eq => exact h.failed_eq
    case outbound_eq =>
      have hburst : (Peer.burst peer.sent peer.room peer.expected).map (wire segments) =
          engine.filling.map (·.bytes engine.expectedTxSeq) := by
        rcases hsegments with hle | hzero
        · rw [burst_wire segments peer.expected hle, ← h.pending_eq, ← hfilling, h.expected_eq]
        · rw [List.length_eq_zero_iff.mp (hcount.trans hzero), hzero]
          rfl
      simp only [ErtmEngine.refreshRetransmissionDeadline, ErtmEngine.fill, List.map_append,
        h.outbound_eq, hburst]

/-- Sending the window again tracks the abstract peer, failure included. -/
theorem retransmit (h : Tracks segments engine peer) (hacked : peer.acked ≤ peer.queued)
    (hactive : engine.failed = false) :
    Tracks segments engine.retransmitAll.state peer.retransmit ∧
      (engine.retransmitAll.result = .ok () ∧ peer.retransmit.failed = false ∨
        peer.retransmit.failed = true ∧ ∃ txSeq, engine.retransmitAll.result =
          .error (retransmissionLimitError txSeq)) := by
  have hbusy := h.remoteBusy_eq
  have hlimit := h.limit_eq
  have hcounts := h.counts
  rw [hlimit] at hcounts
  rw [ErtmEngine.retransmitAll_eq h.well]
  unfold Peer.retransmit
  by_cases hremote : engine.remoteBusy = true
  · rw [if_pos hremote, if_pos (hbusy.trans hremote)]
    exact ⟨h, Or.inl ⟨rfl, h.failed_eq.trans hactive⟩⟩
  · rw [if_neg hremote, if_neg (by rw [hbusy]; exact hremote)]
    cases hfind : engine.txWindow.find?
        (retransmissionLimitReached engine.config.maxRetransmissions) with
    | some sent =>
      have hreached : peer.limit ≠ 0 ∧
          peer.transmissions.any (fun count => decide (peer.limit ≤ count - 1)) = true := by
        by_contra hnot
        rw [hlimit] at hnot
        rw [(find?_limitReached hcounts).mpr hnot] at hfind
        cases hfind
      rw [if_pos hreached]
      exact ⟨{ h with well := { h.well with }, failed_eq := rfl }, Or.inr ⟨rfl, _, rfl⟩⟩
    | none =>
      have hfree : ¬ (peer.limit ≠ 0 ∧
          peer.transmissions.any (fun count => decide (peer.limit ≤ count - 1)) = true) := by
        rw [hlimit]
        exact (find?_limitReached hcounts).mp hfind
      rw [if_neg hfree]
      refine ⟨?_, Or.inl ⟨rfl, h.failed_eq.trans hactive⟩⟩
      constructor
      case well => exact h.well.resend
      case window_eq => exact h.window_eq
      case limit_eq => exact h.limit_eq
      case acked_eq => exact h.acked_eq
      case next_eq => exact h.next_eq
      case expected_eq => exact h.expected_eq
      case queued_eq => exact h.queued_eq
      case stream_eq =>
        simp only [Outcome.ok_state, ErtmEngine.resend,
          ErtmEngine.refreshRetransmissionDeadline, List.map_map, Function.comp_def]
        exact h.stream_eq
      case counts => exact countsAs_succ h.counts hfree
      case remoteBusy_eq => exact h.remoteBusy_eq
      case localBusy_eq => exact h.localBusy_eq
      case failed_eq => exact h.failed_eq
      case outbound_eq =>
        have hsent := h.sent_le hacked
        rw [Peer.sent, h.queued_eq] at hsent
        have hwindow : engine.txWindow.map (fun sent => sent.frame.bytes engine.expectedTxSeq) =
            (engine.txWindow.map (·.frame)).map (·.bytes engine.expectedTxSeq) := by
          rw [List.map_map]
          rfl
        simp only [Outcome.ok_state, ErtmEngine.resend,
          ErtmEngine.refreshRetransmissionDeadline, List.map_append]
        rw [h.outbound_eq, burst_wire segments peer.expected hsent, ← h.window_frames, hwindow,
          h.expected_eq]

/-- An acknowledgement modulo 64 is the abstract one. -/
theorem acknowledge (h : Tracks segments engine peer) {req : Nat} (hacked : peer.acked ≤ req)
    (hsent : req ≤ peer.sent) :
    engine.acknowledge (number req) =
      .ok (engine.ackedTo (number req)) (decide (req ≠ peer.acked)) ∧
      Tracks segments (engine.ackedTo (number req)) (peer.acknowledge req) := by
  have hwindow := h.well.window_le
  have hsize := h.well.window_lt
  have hlength := h.length_eq
  rw [Peer.sent] at hsent
  have hdistance :
      (sequenceDistance engine.lastAckedTxSeq (number req)).toNat = req - peer.acked := by
    rw [h.acked_eq, sequenceDistance_number hacked]
    exact Nat.mod_eq_of_lt (by omega)
  have hzero : sequenceDistance engine.lastAckedTxSeq (number req) = 0 ↔ req = peer.acked := by
    rw [← UInt8.toNat_inj, hdistance]
    change req - peer.acked = 0 ↔ _
    omega
  refine ⟨?_, ?_⟩
  · rw [ErtmEngine.acknowledge_eq engine (number_lt req) (by omega)]
    simp only [ne_eq, hzero]
  · constructor
    case well => exact h.well.ackedTo (number_lt req)
    case acked_eq =>
      unfold ErtmEngine.ackedTo
      split
      · next hsame => rw [h.acked_eq, hzero.mp hsame]; rfl
      · rfl
    case stream_eq =>
      have hdrop := congrArg (List.drop (req - peer.acked)) h.stream_eq
      rw [List.drop_drop, Nat.add_sub_cancel' hacked, List.drop_append_of_le_length
        (by rw [List.length_map]; omega)] at hdrop
      simp only [ErtmEngine.ackedTo_txWindow, ErtmEngine.ackedTo_pending, hdistance,
        List.map_drop]
      exact hdrop
    case counts =>
      simp only [ErtmEngine.ackedTo_txWindow, hdistance, Peer.acknowledge]
      exact List.forall₂_drop _ h.counts
    all_goals simp only [ErtmEngine.ackedTo_config, ErtmEngine.ackedTo_nextTxSeq,
      ErtmEngine.ackedTo_expectedTxSeq, ErtmEngine.ackedTo_remoteBusy,
      ErtmEngine.ackedTo_localBusy, ErtmEngine.ackedTo_failed, ErtmEngine.ackedTo_outbound,
      Peer.acknowledge]
    case window_eq => exact h.window_eq
    case limit_eq => exact h.limit_eq
    case next_eq => exact h.next_eq
    case expected_eq => exact h.expected_eq
    case queued_eq => exact h.queued_eq
    case remoteBusy_eq => exact h.remoteBusy_eq
    case localBusy_eq => exact h.localBusy_eq
    case failed_eq => exact h.failed_eq
    case outbound_eq => exact h.outbound_eq

theorem supervise (h : Tracks segments engine peer) (kind : Supervision) :
    Tracks segments (engine.supervise (supervisionFunction kind) false)
      (peer.emit [.supervision kind peer.expected]) :=
  { h with
    well := h.well.supervise _ _
    outbound_eq := by
      simp only [ErtmEngine.supervise, Peer.emit, List.map_append, h.outbound_eq, h.expected_eq]
      rfl }

theorem count (h : Tracks segments engine peer) (other : ErtmEngine) :
    Tracks segments
      (({ engine with expectedTxSeq := sequenceAdd engine.expectedTxSeq 1 }
        : ErtmEngine).withAssembly other)
      { peer with expected := peer.expected + 1 } :=
  { h with
    well := by
      have hcounted : ({ engine with expectedTxSeq := sequenceAdd engine.expectedTxSeq 1 }
          : ErtmEngine).WellFormed :=
        { h.well with expected_lt := ErtmEngine.sequenceAdd_lt _ _ }
      exact hcounted.withAssembly other
    expected_eq := by
      simp only [ErtmEngine.withAssembly, h.expected_eq]
      exact sequenceAdd_number _ }

theorem queue (h : Tracks segments engine peer) (more : List Segment)
    (hacked : peer.acked ≤ peer.queued)
    (hindex : ∀ frame ∈ peer.outbound, ∀ index, frame.index? = some index →
      index < segments.length) :
    Tracks (segments ++ more) (engine.queueSegments peer.queued more)
      { peer with queued := peer.queued + more.length } := by
  have hwire : peer.outbound.map (wire (segments ++ more)) = peer.outbound.map (wire segments) :=
    List.map_congr_left fun frame hframe => wire_append more (hindex frame hframe)
  constructor
  case well =>
    refine { h.well with next_lt := number_lt _, pending_lt := ?_ }
    intro frame hframe
    rcases List.mem_append.mp hframe with hold | hnew
    · exact h.well.pending_lt frame hold
    · obtain ⟨index, hget⟩ := List.mem_iff_getElem?.mp hnew
      rw [getElem?_stampFrom] at hget
      obtain ⟨segment, -, rfl⟩ := Option.map_eq_some_iff.mp hget
      exact number_lt _
  case next_eq => rfl
  case queued_eq => simp [h.queued_eq]
  case stream_eq =>
    rw [h.queued_eq] at hacked
    simp only [ErtmEngine.queueSegments, ← List.append_assoc, h.stream_eq, stampFrom_append,
      Nat.zero_add, h.queued_eq]
    rw [List.drop_append_of_le_length (by rw [length_stampFrom]; exact hacked)]
  case outbound_eq => exact h.outbound_eq.trans hwire.symm
  case window_eq => exact h.window_eq
  case limit_eq => exact h.limit_eq
  case acked_eq => exact h.acked_eq
  case expected_eq => exact h.expected_eq
  case counts => exact h.counts
  case remoteBusy_eq => exact h.remoteBusy_eq
  case localBusy_eq => exact h.localBusy_eq
  case failed_eq => exact h.failed_eq

end Tracks

/-! ## 3. Received frames -/

namespace ErtmEngine

/-- The last request number sent is the current one. -/
def Told (engine : ErtmEngine) : Prop := engine.lastAckedRxSeq = engine.expectedTxSeq

structure SameAssembly (engine other : ErtmEngine) : Prop where
  received_eq : engine.received = other.received
  inputSdu_eq : engine.inputSdu = other.inputSdu
  inputSduLength_eq : engine.inputSduLength = other.inputSduLength

theorem Told.refill {engine : ErtmEngine} (h : engine.Told) : engine.refill.Told := by
  unfold ErtmEngine.refill
  split
  · exact h
  · simp only [Told, refreshRetransmissionDeadline, fill]
    split
    · exact h
    · rfl

theorem refill_told_iff {engine : ErtmEngine} (h : ¬ engine.Told) :
    ¬ engine.refill.Told ↔ engine.refill.outbound.length = engine.outbound.length := by
  unfold ErtmEngine.refill
  split
  · exact ⟨fun _ => rfl, fun _ => h⟩
  · simp only [Told, refreshRetransmissionDeadline, fill, List.length_append, List.length_map]
    by_cases hnone : engine.filling = []
    · simp only [hnone, if_true, List.length_nil, Nat.add_zero, iff_true]
      exact h
    · have hpos := List.length_pos_iff.mpr hnone
      simp only [hnone, if_false, not_true_eq_false, false_iff]
      omega

theorem retransmitAll_told {engine : ErtmEngine} (hwell : engine.WellFormed) (h : engine.Told) :
    engine.retransmitAll.state.Told := by
  rw [retransmitAll_eq hwell]
  split
  · exact h
  · split
    · exact h
    · simp only [Outcome.ok_state, Told, resend, refreshRetransmissionDeadline]
      split
      · exact h
      · rfl

theorem refill_assembly (engine : ErtmEngine) : engine.refill.SameAssembly engine := by
  unfold ErtmEngine.refill
  split <;> exact ⟨rfl, rfl, rfl⟩

theorem refill_config (engine : ErtmEngine) : engine.refill.config = engine.config := by
  unfold ErtmEngine.refill
  split <;> rfl

theorem retransmitAll_assembly {engine : ErtmEngine} (hwell : engine.WellFormed) :
    engine.retransmitAll.state.SameAssembly engine ∧
      engine.retransmitAll.state.config = engine.config := by
  rw [retransmitAll_eq hwell]
  split
  · exact ⟨⟨rfl, rfl, rfl⟩, rfl⟩
  · split <;> exact ⟨⟨rfl, rfl, rfl⟩, rfl⟩

end ErtmEngine

/-- The answers of an engine that is not at fault: success, or the failure that
    the retransmission limit brings. -/
def Benign (result : Except Error Unit) : Prop :=
  result = .ok () ∨ result = .error engineFailedError ∨
    ∃ txSeq, result = .error (retransmissionLimitError txSeq)

/-- A call leaves an engine that tracks `peer` and has received what `source`
    has. -/
structure Follows (segments : List Segment) (source : ErtmEngine) (call : EngineCall Unit)
    (peer : Peer) : Prop where
  tracks : Tracks segments call.state peer
  told : call.state.Told
  config_eq : call.state.config = source.config
  assembly : call.state.SameAssembly source
  benign : Benign call.result

namespace Follows

variable {segments : List Segment} {engine : ErtmEngine} {peer : Peer}

theorem refl (h : Tracks segments engine peer) (htold : engine.Told) :
    Follows segments engine (.ok engine ()) peer :=
  ⟨h, htold, rfl, ⟨rfl, rfl, rfl⟩, Or.inl rfl⟩

theorem inactive (h : Tracks segments engine peer) (htold : engine.Told) :
    Follows segments engine (.fail engine engineFailedError) peer :=
  ⟨h, htold, rfl, ⟨rfl, rfl, rfl⟩, Or.inr (Or.inl rfl)⟩

theorem processOutput (h : Tracks segments engine peer) (htold : engine.Told) :
    Follows segments engine engine.processOutput peer.fill := by
  rw [ErtmEngine.processOutput_eq h.well]
  exact ⟨h.fill, htold.refill, engine.refill_config, engine.refill_assembly, Or.inl rfl⟩

theorem sendSupervisory (h : Tracks segments engine peer) (kind : Supervision) :
    Follows segments engine
      (engine.sendSupervisory (supervisionFunction kind) false false)
      (peer.emit [.supervision kind peer.expected]) := by
  rw [ErtmEngine.sendSupervisory_eq h.well.expected_lt]
  exact ⟨h.supervise kind, rfl, rfl, ⟨rfl, rfl, rfl⟩, Or.inl rfl⟩

theorem of_assembly {source other : ErtmEngine} {call : EngineCall Unit}
    (h : Follows segments source call peer) (hconfig : source.config = other.config)
    (hsame : source.SameAssembly other) : Follows segments other call peer :=
  { h with
    config_eq := h.config_eq.trans hconfig
    assembly := ⟨h.assembly.received_eq.trans hsame.received_eq,
      h.assembly.inputSdu_eq.trans hsame.inputSdu_eq,
      h.assembly.inputSduLength_eq.trans hsame.inputSduLength_eq⟩ }

theorem acknowledgeIfSilent (h : Tracks segments engine peer) (hsilent : ¬ engine.Told) :
    Follows segments engine
      (engine.processOutput.andThen fun engine _ =>
        if engine.lastAckedRxSeq ≠ engine.expectedTxSeq then
          engine.sendSupervisory .receiverReady false false
        else .ok engine ())
      (if peer.fill.outbound.length = peer.outbound.length then
        peer.fill.emit [.supervision .ready peer.fill.expected]
      else peer.fill) := by
  have hfill := h.fill
  have hlengths : engine.refill.outbound.length = engine.outbound.length ↔
      peer.fill.outbound.length = peer.outbound.length := by
    rw [hfill.outbound_eq, h.outbound_eq, List.length_map, List.length_map]
  have hiff := (ErtmEngine.refill_told_iff hsilent).trans hlengths
  rw [ErtmEngine.processOutput_eq h.well, Outcome.ok_andThen]
  by_cases hquiet : engine.refill.lastAckedRxSeq ≠ engine.refill.expectedTxSeq
  · rw [if_pos hquiet, if_pos (hiff.mp hquiet)]
    exact (sendSupervisory hfill .ready).of_assembly engine.refill_config engine.refill_assembly
  · rw [if_neg hquiet, if_neg fun hlength => hquiet (hiff.mpr hlength)]
    exact ⟨hfill, not_not.mp hquiet, engine.refill_config, engine.refill_assembly, Or.inl rfl⟩

theorem accept (h : Tracks segments engine peer) (htold : engine.Told)
    (hlocal : peer.localBusy = false) (segment : Segment)
    (haccepts : (engine.acceptInformation segment.sar segment.body).result = .ok ()) :
    Follows segments (engine.acceptInformation segment.sar segment.body).state
      (engine.receiveInformation (number peer.expected) false segment.sar segment.body)
      peer.accept := by
  have hidle : ¬ engine.localBusy = true := by
    rw [← h.localBusy_eq, hlocal]
    exact Bool.false_ne_true
  have hexpected : ¬ number peer.expected ≠ engine.expectedTxSeq := not_not.mpr h.expected_eq.symm
  have hcall := @ErtmEngine.acceptInformation_withAssembly
    { engine with expectedTxSeq := sequenceAdd engine.expectedTxSeq 1 } engine rfl
    segment.sar segment.body
  change ({ engine with expectedTxSeq := sequenceAdd engine.expectedTxSeq 1 }
    : ErtmEngine).acceptInformation segment.sar segment.body = _ at hcall
  have hstate := engine.acceptInformation_state segment.sar segment.body
  have hconfig : (engine.acceptInformation segment.sar segment.body).state.config =
      engine.config := by
    rw [hstate]
    rfl
  rw [ErtmEngine.receiveInformation, if_neg hidle, if_neg hexpected]
  dsimp only
  rw [hcall]
  generalize engine.acceptInformation segment.sar segment.body = accepted at *
  have hcounted := h.count accepted.state
  have hsilent : ¬ (({ engine with expectedTxSeq := sequenceAdd engine.expectedTxSeq 1 }
      : ErtmEngine).withAssembly accepted.state).Told := by
    intro hsame
    have hnumbers : number peer.expected = number (peer.expected + 1) := by
      rw [← sequenceAdd_number, ← h.expected_eq]
      exact htold.symm.trans hsame
    rw [number_inj] at hnumbers
    omega
  simp only [Outcome.andThen, Outcome.mapState, haccepts]
  exact (acknowledgeIfSilent hcounted hsilent).of_assembly hconfig.symm ⟨rfl, rfl, rfl⟩

theorem information (h : Tracks segments engine peer) (htold : engine.Told) {index : Nat}
    (req : Nat) (hunique : index % 64 = peer.expected % 64 → index = peer.expected)
    (segment : Segment) (haccepts : index = peer.expected →
      (engine.acceptInformation segment.sar segment.body).result = .ok ()) :
    Follows segments
      (if peer.localBusy = false ∧ index = peer.expected then
        (engine.acceptInformation segment.sar segment.body).state else engine)
      (engine.receiveInformation (number index) false segment.sar segment.body)
      (peer.handle (.info index req)) := by
  unfold Peer.handle
  dsimp only
  by_cases hlocal : peer.localBusy = true
  · have hbusy : engine.localBusy = true := h.localBusy_eq.symm.trans hlocal
    rw [if_neg (by simp [hlocal]), if_pos hlocal, ErtmEngine.receiveInformation, if_pos hbusy]
    exact sendSupervisory h .notReady
  · by_cases horder : index = peer.expected
    · have hidle := Bool.eq_false_of_not_eq_true hlocal
      rw [if_pos ⟨hidle, horder⟩, if_neg hlocal, if_pos horder, horder]
      exact accept h htold hidle segment (haccepts horder)
    · have hbusy : ¬ engine.localBusy = true := by
        rw [← h.localBusy_eq]
        exact hlocal
      have hnumber : number index ≠ engine.expectedTxSeq := by
        rw [h.expected_eq, Ne, number_inj]
        exact fun hmod => horder (hunique hmod)
      rw [if_neg fun hboth => horder hboth.2, if_neg hlocal, if_neg horder,
        ErtmEngine.receiveInformation, if_neg hbusy, if_pos hnumber]
      exact sendSupervisory h .reject

theorem supervised (h : Tracks segments engine peer) (htold : engine.Told)
    (hactive : engine.failed = false) (hacked : peer.acked ≤ peer.queued) (acked : Bool)
    (kind : Supervision) (reqSeq : UInt8) :
    Follows segments engine
      (engine.receiveSupervisory acked (supervisionFunction kind) false false reqSeq)
      (peer.supervised kind) := by
  have hkind : decide (kind = Supervision.notReady) =
      decide (supervisionFunction kind = .receiverNotReady) := by
    cases kind <;> rfl
  have hflag : Tracks segments
      { engine with remoteBusy := decide (supervisionFunction kind = .receiverNotReady) }
      { peer with remoteBusy := decide (kind = Supervision.notReady) } :=
    { h with well := { h.well with }, remoteBusy_eq := hkind }
  cases kind with
  | ready => exact (processOutput hflag htold).of_assembly rfl ⟨rfl, rfl, rfl⟩
  | notReady => exact (processOutput hflag htold).of_assembly rfl ⟨rfl, rfl, rfl⟩
  | reject =>
    obtain ⟨hresent, hcases⟩ := hflag.retransmit hacked hactive
    have htoldAfter := ErtmEngine.retransmitAll_told hflag.well htold
    obtain ⟨hsame, hconfig⟩ := ErtmEngine.retransmitAll_assembly hflag.well
    simp only [ErtmEngine.receiveSupervisory, supervisionFunction, Peer.supervised] at *
    rcases hcases with ⟨hok, hgoes⟩ | ⟨hfailed, txSeq, herror⟩
    · rw [if_neg (by rw [hgoes]; exact Bool.false_ne_true)]
      simp only [Outcome.andThen, hok, Bool.false_eq_true, if_false, Outcome.ok_result,
        Outcome.ok_state]
      exact (processOutput hresent htoldAfter).of_assembly hconfig
        ⟨hsame.received_eq, hsame.inputSdu_eq, hsame.inputSduLength_eq⟩
    · rw [if_pos hfailed]
      simp only [Outcome.andThen, herror]
      exact ⟨hresent, htoldAfter, hconfig,
        ⟨hsame.received_eq, hsame.inputSdu_eq, hsame.inputSduLength_eq⟩,
        Or.inr (Or.inr ⟨txSeq, rfl⟩)⟩

end Follows

/-- The engine state a delivered frame leaves its reassembly in. -/
def assemblyAfter (engine : ErtmEngine) (peer : Peer) (others : List Segment) (frame : Frame) :
    ErtmEngine :=
  match others[peer.expected]? with
  | some segment =>
    if peer.takes frame then (engine.acceptInformation segment.sar segment.body).state else engine
  | none => engine

/-- **One delivery.**  An engine that tracks a peer receives the encoding of a
    frame as the peer receives the frame, when the request number lies in the
    window, the frame's index is told apart from the expected one by its number
    and the segment expected is one the reassembly accepts. -/
theorem receiveFrame_follows {segments others : List Segment} {engine : ErtmEngine} {peer : Peer}
    (h : Tracks segments engine peer) (htold : engine.Told) {frame : Frame}
    (hacked : peer.acked ≤ frame.req) (hsent : frame.req ≤ peer.sent)
    (hqueued : peer.acked ≤ peer.queued)
    (hindex : ∀ index, frame.index? = some index → index < others.length ∧
      (index % 64 = peer.expected % 64 → index = peer.expected))
    (haccepts : ∀ segment, frame.index? = some peer.expected →
      others[peer.expected]? = some segment →
      (engine.acceptInformation segment.sar segment.body).result = .ok ()) :
    Follows segments (assemblyAfter engine peer others frame)
      (engine.receiveFrame (wire others frame)) (peer.receive frame) := by
  unfold ErtmEngine.receiveFrame Peer.receive
  by_cases hfailed : engine.failed = true
  · have hdead : peer.failed = true := h.failed_eq.trans hfailed
    have hsource : assemblyAfter engine peer others frame = engine := by
      unfold assemblyAfter
      split
      · simp [Peer.takes, hdead]
      · rfl
    rw [ErtmEngine.ensureActive_failed hfailed, if_pos hdead, hsource]
    exact Follows.inactive h htold
  · have halive : ¬ peer.failed = true := by
      rw [h.failed_eq]
      exact hfailed
    rw [ErtmEngine.ensureActive_active hfailed, if_neg halive]
    dsimp only
    obtain ⟨hack, hafter⟩ := h.acknowledge hacked hsent
    have htoldAfter : (engine.ackedTo (number frame.req)).Told := by
      simp only [ErtmEngine.Told, ErtmEngine.ackedTo_lastAckedRxSeq,
        ErtmEngine.ackedTo_expectedTxSeq]
      exact htold
    have hsame : (engine.ackedTo (number frame.req)).SameAssembly engine :=
      ⟨engine.ackedTo_received _, engine.ackedTo_inputSdu _, engine.ackedTo_inputSduLength _⟩
    cases frame with
    | supervision kind req =>
      have hsource : assemblyAfter engine peer others (.supervision kind req) = engine := by
        unfold assemblyAfter
        split
        · simp [Peer.takes, Frame.index?]
        · rfl
      rw [wire, fromBytes_supervisoryBytes (number_lt req)]
      dsimp only [EnhancedControlField.reqSeq, Frame.req] at *
      rw [hack, Outcome.ok_andThen, hsource]
      refine (Follows.supervised hafter htoldAfter ?_ ?_ _ kind _).of_assembly
        (engine.ackedTo_config _) hsame
      · rw [ErtmEngine.ackedTo_failed]
        exact Bool.eq_false_of_not_eq_true hfailed
      · exact hsent.trans (h.sent_le hqueued)
    | info index req =>
      obtain ⟨hlt, hunique⟩ := hindex index rfl
      have hsegment : others[index]? = some others[index] := List.getElem?_eq_getElem hlt
      generalize others[index] = segment at hsegment
      simp only [wire, hsegment, fromBytes_stamp]
      dsimp only [EnhancedControlField.reqSeq, Frame.req, Peer.handle] at *
      rw [hack, Outcome.ok_andThen, drop_stamp_bytes]
      have hcall := ErtmEngine.acceptInformation_withAssembly
        (engine.ackedTo_config (number req)).symm
        segment.sar segment.body
      rw [engine.ackedTo_withAssembly] at hcall
      have hfollows := Follows.information hafter htoldAfter req hunique segment (by
        rintro rfl
        rw [hcall]
        exact haccepts segment rfl hsegment)
      by_cases htaken : peer.localBusy = false ∧ index = peer.expected
      · obtain ⟨hidle, rfl⟩ := htaken
        have hsource : assemblyAfter engine peer others (.info peer.expected req) =
            (engine.acceptInformation segment.sar segment.body).state := by
          simp [assemblyAfter, hsegment, Peer.takes, halive, hidle, Frame.index?]
        have hconfig : (engine.acceptInformation segment.sar segment.body).state.config =
            engine.config := by
          rw [engine.acceptInformation_state segment.sar segment.body]
          rfl
        rw [if_pos ⟨hidle, rfl⟩, hcall] at hfollows
        rw [hsource]
        exact hfollows.of_assembly ((engine.ackedTo_config _).trans hconfig.symm) ⟨rfl, rfl, rfl⟩
      · have hsource : assemblyAfter engine peer others (.info index req) = engine := by
          unfold assemblyAfter
          split
          · rw [if_neg]
            simpa [Peer.takes, halive, Frame.index?] using htaken
          · rfl
        have hnot : ¬ ((peer.acknowledge req).localBusy = false ∧
            index = (peer.acknowledge req).expected) := htaken
        rw [if_neg hnot] at hfollows
        rw [hsource]
        exact hfollows.of_assembly (engine.ackedTo_config _) hsame

/-! ## 4. Calls of the user -/

namespace Follows

variable {segments : List Segment} {engine : ErtmEngine} {peer : Peer}

theorem setReceiverBusy (h : Tracks segments engine peer) (htold : engine.Told) (busy : Bool) :
    Follows segments engine (engine.setReceiverBusy busy) (peer.call (.busy busy)) := by
  unfold ErtmEngine.setReceiverBusy Peer.call
  by_cases hfailed : engine.failed = true
  · rw [ErtmEngine.ensureActive_failed hfailed, if_pos (h.failed_eq.trans hfailed)]
    exact inactive h htold
  · have halive : ¬ peer.failed = true := by
      rw [h.failed_eq]
      exact hfailed
    rw [ErtmEngine.ensureActive_active hfailed, if_neg halive]
    dsimp only
    by_cases hsame : engine.localBusy = busy
    · have hunchanged : peer.localBusy = busy := h.localBusy_eq.trans hsame
      rw [if_neg (not_not.mpr hsame), if_pos hunchanged]
      exact refl h htold
    · have hchanged : ¬ peer.localBusy = busy := by
        rw [h.localBusy_eq]
        exact hsame
      have hflag : Tracks segments { engine with localBusy := busy }
          { peer with localBusy := busy } :=
        { h with well := { h.well with }, localBusy_eq := rfl }
      rw [if_pos hsame, if_neg hchanged]
      cases busy with
      | true => exact (sendSupervisory hflag .notReady).of_assembly rfl ⟨rfl, rfl, rfl⟩
      | false => exact (sendSupervisory hflag .ready).of_assembly rfl ⟨rfl, rfl, rfl⟩

theorem tick (h : Tracks segments engine peer) (htold : engine.Told)
    (hacked : peer.acked ≤ peer.queued) (ticks : UInt32) :
    Follows segments engine (engine.tick ticks)
      (peer.call (if (engine.advance ticks).deadlinePassed then .timeout else .idle)) := by
  unfold ErtmEngine.tick Peer.call
  by_cases hfailed : engine.failed = true
  · rw [ErtmEngine.ensureActive_failed hfailed, if_pos (h.failed_eq.trans hfailed)]
    exact inactive h htold
  · have halive : ¬ peer.failed = true := by
      rw [h.failed_eq]
      exact hfailed
    rw [ErtmEngine.ensureActive_active hfailed, if_neg halive]
    dsimp only
    have hlater : Tracks segments (engine.advance ticks) peer :=
      { h with well := { h.well with } }
    have hidle : Follows segments engine (.ok (engine.advance ticks) ()) peer :=
      (refl hlater htold).of_assembly rfl ⟨rfl, rfl, rfl⟩
    cases hpassed : (engine.advance ticks).deadlinePassed with
    | false =>
      simp only [Bool.false_and, Bool.false_eq_true, if_false]
      exact hidle
    | true =>
      have hempty : (engine.advance ticks).txWindow = [] ↔ peer.transmissions = [] := by
        rw [← List.length_eq_zero_iff, ← List.length_eq_zero_iff, hlater.length_eq]
      simp only [Bool.true_and, if_true]
      by_cases hnone : peer.transmissions = []
      · rw [if_neg (by simp [hempty.mpr hnone]), if_pos hnone]
        exact hidle
      · have hsome : (!(engine.advance ticks).txWindow.isEmpty) = true := by
          simp [mt hempty.mp hnone]
        rw [if_pos hsome, if_neg hnone]
        obtain ⟨hresent, hcases⟩ :=
          hlater.retransmit hacked (Bool.eq_false_of_not_eq_true hfailed)
        obtain ⟨hsame, hconfig⟩ := ErtmEngine.retransmitAll_assembly hlater.well
        refine ⟨hresent, ErtmEngine.retransmitAll_told hlater.well htold, hconfig,
          ⟨hsame.received_eq, hsame.inputSdu_eq, hsame.inputSduLength_eq⟩, ?_⟩
        rcases hcases with ⟨hok, -⟩ | ⟨-, txSeq, herror⟩
        · exact Or.inl hok
        · exact Or.inr (Or.inr ⟨txSeq, herror⟩)

theorem sendSdu (h : Tracks segments engine peer) (htold : engine.Told)
    (hacked : peer.acked ≤ peer.queued)
    (hindex : ∀ frame ∈ peer.outbound, ∀ index, frame.index? = some index →
      index < segments.length) (sdu : Bytes) :
    let more := segmentsOf engine.config.peerMps.toNat sdu
    ((engine.sendSdu sdu).result = .ok () ∧ sdu.length ≤ engine.config.peerMtu.toNat ∧
      Follows (segments ++ more) engine (engine.sendSdu sdu) (peer.call (.queue more.length))) ∨
    (∃ error, engine.sendSdu sdu = .fail engine error) := by
  by_cases hfailed : engine.failed = true
  · right
    exact ⟨_, by rw [ErtmEngine.sendSdu, ErtmEngine.ensureActive_failed hfailed]⟩
  · have halive : ¬ peer.failed = true := by
      rw [h.failed_eq]
      exact hfailed
    have hqueued := h.queue (segmentsOf engine.config.peerMps.toNat sdu) hacked hindex
    dsimp only
    rw [ErtmEngine.sendSdu_eq hfailed h.next_eq, Peer.call, if_neg halive]
    by_cases hlong : sdu.length > engine.config.peerMtu.toNat
    · rw [if_pos hlong]
      exact Or.inr ⟨_, rfl⟩
    · rw [if_neg hlong]
      refine Or.inl ⟨?_, Nat.le_of_not_lt hlong, ?_⟩
      · rw [ErtmEngine.processOutput_eq hqueued.well]
        rfl
      · exact (processOutput hqueued htold).of_assembly rfl ⟨rfl, rfl, rfl⟩

end Follows

end Bumble.Ertm
