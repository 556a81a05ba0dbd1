import Bumble.ErtmRefinement

/-!
# Reliable delivery over lossy links

Two engines with their users: what the user had accepted by `send_sdu` and what
the user took with `pop_received`.  The engines are joined by two links that
lose frames but neither reorder nor duplicate them, and everything else happens
in any order.

`Refines` relates such a net to a net of abstract peers: each engine tracks its
peer, the links carry the encodings of the abstract links, and each side has
reassembled the segments the other side's peer has had counted.  Every move
keeps it (`Refines.stepLeft`), so the prefix property of `delivers_in_order`
follows from the window's safety and from segmentation alone.
-/

namespace Bumble.Ertm

open Bumble.L2cap (Error)
open Bumble.GoBackN (Peer Frame Supervision Safe)

/-! ## 1. Engines with users -/

/-- An engine, the SDUs its user has had accepted and those the user has taken. -/
structure ErtmNode where
  engine : ErtmEngine
  accepted : List Bytes
  delivered : List Bytes
deriving DecidableEq, Repr

inductive NodeInput where
  | sendSdu (sdu : Bytes)
  | setReceiverBusy (busy : Bool)
  | tick (ticks : UInt32)
  | popReceived

namespace ErtmNode

def sendSdu (node : ErtmNode) (sdu : Bytes) : ErtmNode :=
  let call := node.engine.sendSdu sdu
  match call.result with
  | .ok _ => { node with engine := call.state, accepted := node.accepted ++ [sdu] }
  | .error _ => { node with engine := call.state }

def popReceived (node : ErtmNode) : ErtmNode :=
  match node.engine.popReceived with
  | some (sdu, engine) => { node with engine, delivered := node.delivered ++ [sdu] }
  | none => node

def call (node : ErtmNode) : NodeInput → ErtmNode
  | .sendSdu sdu => node.sendSdu sdu
  | .setReceiverBusy busy => { node with engine := (node.engine.setReceiverBusy busy).state }
  | .tick ticks => { node with engine := (node.engine.tick ticks).state }
  | .popReceived => node.popReceived

def poll (node : ErtmNode) : Option (Bytes × ErtmNode) :=
  match node.engine.pollOutbound with
  | some (frame, engine) => some (frame, { node with engine })
  | none => none

def receive (node : ErtmNode) (frame : Bytes) : ErtmNode :=
  { node with engine := (node.engine.receiveFrame frame).state }

/-- The whole stream of segments the engine has been given. -/
def segments (node : ErtmNode) : List Segment :=
  node.accepted.flatMap (segmentsOf node.engine.config.peerMps.toNat)

end ErtmNode

def ertmParty : Party ErtmNode NodeInput Bytes where
  call := ErtmNode.call
  poll := ErtmNode.poll
  receive := ErtmNode.receive

def ertmNet (left right : ErtmEngine) : Net ErtmNode Bytes :=
  ⟨⟨left, [], []⟩, ⟨right, [], []⟩, [], [], 0⟩

/-- Each side's limits for sending are within the other's for receiving. -/
structure MatchingConfigs (left right : ErtmConfig) : Prop where
  mtu_right : left.peerMtu ≤ right.localMtu
  mps_right : left.peerMps ≤ right.localMps
  mtu_left : right.peerMtu ≤ left.localMtu
  mps_left : right.peerMps ≤ left.localMps

/-! ## 2. The relation to the abstract net -/

/-- The node has reassembled the first `expected` of the other side's segments. -/
def Assembled (node : ErtmNode) (others : List Segment) (expected : Nat) : Prop :=
  ∃ base, (ErtmEngine.initial node.engine.config).acceptAll (others.take expected) =
      .ok base () ∧
    base.config = node.engine.config ∧
    base.received = node.delivered ++ node.engine.received ∧
    base.inputSdu = node.engine.inputSdu ∧
    base.inputSduLength = node.engine.inputSduLength

/-- One side of the relation: a node, the other node, its peer and its link. -/
structure Half (node other : ErtmNode) (peer : Peer) (bytes : List Bytes) (frames : List Frame) :
    Prop where
  tracks : Tracks node.segments node.engine peer
  told : node.engine.Told
  link_eq : bytes = frames.map (wire node.segments)
  fits : ∀ sdu ∈ node.accepted, sdu.length ≤ node.engine.config.peerMtu.toNat
  mps_pos : 0 < node.engine.config.peerMps.toNat
  admits : node.engine.config.peerMtu.toNat ≤ other.engine.config.localMtu.toNat
  assembled : Assembled node other.segments peer.expected

structure Refines (net : Net ErtmNode Bytes) (abstract : Net Peer Frame) : Prop where
  leftHalf : Half net.left net.right abstract.left net.toRight abstract.toRight
  rightHalf : Half net.right net.left abstract.right net.toLeft abstract.toLeft
  safe : Safe abstract
  lost_eq : net.lost = abstract.lost

theorem Refines.swap {net : Net ErtmNode Bytes} {abstract : Net Peer Frame}
    (h : Refines net abstract) : Refines net.swap abstract.swap :=
  ⟨h.rightHalf, h.leftHalf, h.safe.swap, h.lost_eq⟩

def abstractInput (node : ErtmNode) : NodeInput → GoBackN.Input
  | .sendSdu sdu =>
    match (node.engine.sendSdu sdu).result with
    | .ok _ => .queue (segmentsOf node.engine.config.peerMps.toNat sdu).length
    | .error _ => .idle
  | .setReceiverBusy busy => .busy busy
  | .tick ticks => if (node.engine.advance ticks).deadlinePassed then .timeout else .idle
  | .popReceived => .idle

/-- The abstract move for a move of the left node. -/
def abstractMove (node : ErtmNode) : Move NodeInput → Move GoBackN.Input
  | .call input => .call (abstractInput node input)
  | .poll => .poll
  | .deliver => .deliver
  | .lose index => .lose index

/-! ## 3. What a node has received -/

namespace Assembled

variable {node : ErtmNode} {others : List Segment} {expected : Nat}

theorem of_sameAssembly (h : Assembled node others expected) {engine : ErtmEngine}
    (hconfig : engine.config = node.engine.config) (hsame : engine.SameAssembly node.engine) :
    Assembled { node with engine } others expected := by
  obtain ⟨base, hbase, hbaseConfig, hreceived, hinput, hlength⟩ := h
  refine ⟨base, ?_, hbaseConfig.trans hconfig.symm, ?_, hinput.trans hsame.inputSdu_eq.symm,
    hlength.trans hsame.inputSduLength_eq.symm⟩
  · dsimp only
    rw [hconfig]
    exact hbase
  · dsimp only
    rw [hsame.received_eq]
    exact hreceived

theorem append (h : Assembled node others expected) (hle : expected ≤ others.length)
    (more : List Segment) : Assembled node (others ++ more) expected := by
  unfold Assembled
  rw [List.take_append_of_le_length hle]
  exact h

/-- The next segment is accepted and takes the assembly one segment further. -/
theorem next {accepted : List Bytes} (h : Assembled node others expected)
    (hcarries : ErtmEngine.Carries node.engine.config others accepted) {segment : Segment}
    (hsegment : others[expected]? = some segment) :
    (node.engine.acceptInformation segment.sar segment.body).result = .ok () ∧
      ∀ engine : ErtmEngine, engine.config = node.engine.config →
        engine.SameAssembly (node.engine.acceptInformation segment.sar segment.body).state →
        Assembled { node with engine } others (expected + 1) := by
  obtain ⟨base, hbase, hconfig, hreceived, hinput, hlength⟩ := h
  have htake : others.take (expected + 1) = others.take expected ++ [segment] := by
    rw [List.take_add_one, hsegment]
    rfl
  -- the accepting run up to `expected` goes on with the segment
  obtain ⟨state, done, hstate, -, -⟩ := hcarries.parts (.initial node.engine.config) rfl
    ⟨rfl, rfl⟩ (others.take (expected + 1)) (List.take_prefix _ _)
  have hwhole := hstate
  rw [htake, ErtmEngine.acceptAll_append, hbase, Outcome.ok_andThen] at hstate
  -- the engine and the accepting run differ in what the user has taken
  obtain ⟨common, hcommon⟩ : ∃ common : ErtmEngine,
      common = { base with received := node.engine.received } := ⟨_, rfl⟩
  have hcommonConfig : common.config = node.engine.config := by rw [hcommon]; exact hconfig
  have hbaseEq : base = common.receivedAfter node.delivered := by
    rw [hcommon, ErtmEngine.receivedAfter, ← hreceived]
  have hengineEq : node.engine.withAssembly common = node.engine := by
    rw [hcommon, ErtmEngine.withAssembly, hinput, hlength]
  have hbaseCall := common.acceptInformation_receivedAfter node.delivered segment.sar segment.body
  have hengineCall := ErtmEngine.acceptInformation_withAssembly hcommonConfig
    segment.sar segment.body
  rw [← hbaseEq] at hbaseCall
  rw [hengineEq] at hengineCall
  have hcommonState := common.acceptInformation_state segment.sar segment.body
  simp only [ErtmEngine.acceptAll, hbaseCall] at hstate
  generalize common.acceptInformation segment.sar segment.body = accepted at *
  obtain ⟨acceptedState, result⟩ := accepted
  cases result with
  | error error => cases hstate
  | ok value =>
    rw [hengineCall]
    refine ⟨rfl, ?_⟩
    intro engine hsameConfig hsame
    refine ⟨state, ?_, ?_, ?_, ?_, ?_⟩
    · dsimp only
      rw [hsameConfig]
      exact hwhole
    all_goals
      cases hstate
      dsimp only [Outcome.mapState, ErtmEngine.receivedAfter]
    · have hkept : acceptedState.config = common.config := by
        rw [show acceptedState = common.withAssembly acceptedState from hcommonState]
        rfl
      rw [hsameConfig, hkept, hcommonConfig]
    · rw [hsame.received_eq]
      rfl
    · rw [hsame.inputSdu_eq]
      rfl
    · rw [hsame.inputSduLength_eq]
      rfl

theorem delivered_begins {accepted : List Bytes} (h : Assembled node others expected)
    (hcarries : ErtmEngine.Carries node.engine.config others accepted) :
    node.delivered <+: accepted := by
  obtain ⟨base, hbase, -, hreceived, -, -⟩ := h
  obtain ⟨state, done, hstate, hdone, hstateReceived⟩ := hcarries.parts
    (.initial node.engine.config) rfl ⟨rfl, rfl⟩ (others.take expected) (List.take_prefix _ _)
  rw [hbase] at hstate
  cases hstate
  have htaken : node.delivered ++ node.engine.received = done :=
    hreceived.symm.trans hstateReceived
  exact (List.prefix_append _ _).trans (htaken ▸ hdone)

end Assembled

namespace Half

variable {node other : ErtmNode} {peer : Peer} {bytes : List Bytes} {frames : List Frame}

theorem carries {otherPeer : Peer} {otherBytes : List Bytes} {otherFrames : List Frame}
    (hother : Half other node otherPeer otherBytes otherFrames) :
    ErtmEngine.Carries node.engine.config other.segments other.accepted :=
  ErtmEngine.carries_segments hother.mps_pos other.accepted
    fun sdu hsdu => (hother.fits sdu hsdu).trans hother.admits

theorem follows (h : Half node other peer bytes frames) {source : ErtmEngine}
    {call : EngineCall Unit} {next : Peer} (hcall : Follows node.segments source call next)
    (hsource : source.config = node.engine.config)
    (hassembled : Assembled { node with engine := call.state } other.segments next.expected) :
    Half { node with engine := call.state } other next bytes frames := by
  have hconfig := hcall.config_eq.trans hsource
  have hsegments : ({ node with engine := call.state } : ErtmNode).segments = node.segments := by
    simp only [ErtmNode.segments, hconfig]
  constructor
  case tracks => rw [hsegments]; exact hcall.tracks
  case told => exact hcall.told
  case link_eq => rw [hsegments]; exact h.link_eq
  case fits => rw [hconfig]; exact h.fits
  case mps_pos => rw [hconfig]; exact h.mps_pos
  case admits => rw [hconfig]; exact h.admits
  case assembled => exact hassembled

theorem of_other (h : Half node other peer bytes frames) {next : ErtmNode}
    (hconfig : next.engine.config = other.engine.config)
    (haccepted : next.accepted = other.accepted) :
    Half node next peer bytes frames := by
  have hsegments : next.segments = other.segments := by
    simp only [ErtmNode.segments, hconfig, haccepted]
  exact { h with
    admits := by rw [hconfig]; exact h.admits
    assembled := by rw [hsegments]; exact h.assembled }

end Half

/-! ## 4. The moves -/

namespace Refines

variable {net : Net ErtmNode Bytes} {abstract : Net Peer Frame}

theorem follows (h : Refines net abstract) {call : EngineCall Unit} {next : Peer}
    (hcall : Follows net.left.segments net.left.engine call next)
    (hexpected : next.expected = abstract.left.expected)
    (hsafe : Safe { abstract with left := next }) :
    Refines { net with left := { net.left with engine := call.state } }
      { abstract with left := next } where
  leftHalf := by
    refine h.leftHalf.follows hcall rfl ?_
    rw [hexpected]
    exact h.leftHalf.assembled.of_sameAssembly hcall.config_eq hcall.assembly
  rightHalf := h.rightHalf.of_other hcall.config_eq rfl
  safe := hsafe
  lost_eq := h.lost_eq

theorem acked_le_queued (h : Refines net abstract) :
    abstract.left.acked ≤ abstract.left.queued := by
  have hflow := h.safe.rightward
  exact hflow.acked_le.trans (hflow.expected_le.trans hflow.sent_le)

theorem index_lt (h : Refines net abstract) :
    ∀ frame ∈ abstract.toRight ++ abstract.left.outbound, ∀ index,
      frame.index? = some index → index < net.left.segments.length := by
  intro frame hframe index hindex
  have hflow := h.safe.rightward
  have hlt := (hflow.index_mem frame hframe index hindex).1
  have hsent := hflow.sent_le
  have hqueued := h.leftHalf.tracks.queued_eq
  omega

/-- Queueing an SDU is queueing its segments in the abstract net. -/
theorem sendSdu (h : Refines net abstract) (sdu : Bytes) :
    Refines { net with left := net.left.sendSdu sdu }
      { abstract with
        left := abstract.left.call (abstractInput net.left (.sendSdu sdu)) } := by
  have htracks := h.leftHalf.tracks
  have hsafe := h.safe.call (abstractInput net.left (.sendSdu sdu))
  rcases Follows.sendSdu htracks h.leftHalf.told h.acked_le_queued
      (fun frame hframe => h.index_lt frame (List.mem_append_right _ hframe)) sdu with
    ⟨hok, hfits, hcall⟩ | ⟨error, hrefused⟩
  · simp only [abstractInput, ErtmNode.sendSdu, hok] at hsafe ⊢
    generalize hmore : segmentsOf net.left.engine.config.peerMps.toNat sdu = more at *
    have hsegments : ({ net.left with
        engine := (net.left.engine.sendSdu sdu).state
        accepted := net.left.accepted ++ [sdu] } : ErtmNode).segments =
        net.left.segments ++ more := by
      simp only [ErtmNode.segments, hcall.config_eq, List.flatMap_append, List.flatMap_singleton,
        hmore]
    have hexpected := abstract.left.call_expected (.queue more.length)
    refine ⟨?_, ?_, hsafe, h.lost_eq⟩
    · constructor
      case tracks => rw [hsegments]; exact hcall.tracks
      case told => exact hcall.told
      case link_eq =>
        rw [hsegments, h.leftHalf.link_eq]
        refine (List.map_congr_left fun frame hframe => ?_).symm
        exact wire_append more (h.index_lt frame (List.mem_append_left _ hframe))
      case fits =>
        rw [hcall.config_eq]
        intro other hother
        rcases List.mem_append.mp hother with hold | hnew
        · exact h.leftHalf.fits other hold
        · rw [List.mem_singleton.mp hnew]
          exact hfits
      case mps_pos => rw [hcall.config_eq]; exact h.leftHalf.mps_pos
      case admits => rw [hcall.config_eq]; exact h.leftHalf.admits
      case assembled =>
        rw [hexpected]
        exact h.leftHalf.assembled.of_sameAssembly hcall.config_eq hcall.assembly
    · have hle : abstract.right.expected ≤ net.left.segments.length := by
        have hflow := h.safe.rightward
        rw [← htracks.queued_eq]
        exact hflow.expected_le.trans hflow.sent_le
      exact { h.rightHalf with
        admits := by rw [hcall.config_eq]; exact h.rightHalf.admits
        assembled := by
          rw [hsegments]
          exact h.rightHalf.assembled.append hle more }
  · have hidle : abstract.left.call .idle = abstract.left := by
      unfold Peer.call
      split <;> rfl
    simp only [abstractInput, ErtmNode.sendSdu, hrefused, Outcome.fail_result,
      Outcome.fail_state, hidle]
    exact h

theorem popReceived (h : Refines net abstract) :
    Refines { net with left := net.left.popReceived } abstract := by
  unfold ErtmNode.popReceived ErtmEngine.popReceived
  cases hreceived : net.left.engine.received with
  | nil => exact h
  | cons sdu received =>
    dsimp only
    refine ⟨?_, h.rightHalf.of_other rfl rfl, h.safe, h.lost_eq⟩
    have htracks := h.leftHalf.tracks
    have hkept : Tracks net.left.segments { net.left.engine with received } abstract.left :=
      { htracks with well := { htracks.well with } }
    obtain ⟨base, hbase, hconfig, hbaseReceived, hinput, hlength⟩ := h.leftHalf.assembled
    refine { h.leftHalf with tracks := hkept, assembled := ?_ }
    refine ⟨base, hbase, hconfig, ?_, hinput, hlength⟩
    rw [hbaseReceived, hreceived, List.append_assoc]
    rfl

theorem call (h : Refines net abstract) (input : NodeInput) :
    Refines (net.stepLeft ertmParty (.call input))
      (abstract.stepLeft GoBackN.party (.call (abstractInput net.left input))) := by
  have htracks := h.leftHalf.tracks
  have htold := h.leftHalf.told
  cases input with
  | sendSdu sdu => exact h.sendSdu sdu
  | setReceiverBusy busy =>
    exact h.follows (Follows.setReceiverBusy htracks htold busy) (Peer.call_expected _ _)
      (h.safe.call (.busy busy))
  | tick ticks =>
    exact h.follows (Follows.tick htracks htold h.acked_le_queued ticks) (Peer.call_expected _ _)
      (h.safe.call (abstractInput net.left (.tick ticks)))
  | popReceived =>
    have hidle : abstract.left.call .idle = abstract.left := by
      unfold Peer.call
      split <;> rfl
    simp only [Net.stepLeft_call, abstractInput, GoBackN.party, hidle]
    exact h.popReceived

theorem poll (h : Refines net abstract) :
    Refines (net.stepLeft ertmParty .poll) (abstract.stepLeft GoBackN.party .poll) := by
  have htracks := h.leftHalf.tracks
  have houtbound := htracks.outbound_eq
  have hsafe := h.safe.poll
  cases hframes : abstract.left.outbound with
  | nil =>
    rw [hframes, List.map_nil] at houtbound
    rw [Net.stepLeft_poll_none (by simp [ertmParty, ErtmNode.poll, ErtmEngine.pollOutbound,
      houtbound]), Net.stepLeft_poll_none (by simp [GoBackN.party, Peer.poll, hframes])]
    exact h
  | cons frame outbound =>
    rw [hframes, List.map_cons] at houtbound
    have hpoll : ertmParty.poll net.left = some (wire net.left.segments frame,
        { net.left with engine := { net.left.engine with
          outbound := outbound.map (wire net.left.segments) } }) := by
      simp [ertmParty, ErtmNode.poll, ErtmEngine.pollOutbound, houtbound]
    have habstract : GoBackN.party.poll abstract.left =
        some (frame, { abstract.left with outbound }) := by
      simp [GoBackN.party, Peer.poll, hframes]
    rw [Net.stepLeft_poll_some habstract] at hsafe ⊢
    rw [Net.stepLeft_poll_some hpoll]
    refine ⟨?_, h.rightHalf.of_other rfl rfl, hsafe, h.lost_eq⟩
    have hkept : Tracks net.left.segments
        { net.left.engine with outbound := outbound.map (wire net.left.segments) }
        { abstract.left with outbound } :=
      { htracks with well := { htracks.well with }, outbound_eq := rfl }
    refine { h.leftHalf with tracks := hkept, link_eq := ?_ }
    rw [h.leftHalf.link_eq, List.map_append]
    rfl

theorem lose (h : Refines net abstract) (index : Nat) :
    Refines (net.stepLeft ertmParty (.lose index))
      (abstract.stepLeft GoBackN.party (.lose index)) := by
  have hsafe := h.safe.lose index
  have hlink := h.rightHalf.link_eq
  have hlength : net.toLeft.length = abstract.toLeft.length := by rw [hlink, List.length_map]
  simp only [Net.stepLeft, hlength] at hsafe ⊢
  split
  · next hlt =>
    rw [if_pos hlt] at hsafe
    refine ⟨h.leftHalf, { h.rightHalf with link_eq := ?_ }, hsafe, ?_⟩
    · rw [hlink, List.eraseIdx_map]
    · rw [h.lost_eq]
  · exact h

theorem receive (h : Refines net abstract) {frame : Frame} {toLeft : List Frame}
    (hlink : abstract.toLeft = frame :: toLeft) :
    Follows net.left.segments
      (assemblyAfter net.left.engine abstract.left net.right.segments frame)
      (net.left.engine.receiveFrame (wire net.right.segments frame))
      (abstract.left.receive frame) := by
  have htracks := h.leftHalf.tracks
  have hright := h.safe.rightward
  have hleft := h.safe.leftward
  have hmem : frame ∈ abstract.toLeft ++ abstract.right.outbound := by
    rw [hlink]
    exact List.mem_cons_self ..
  obtain ⟨hacked, hexpected⟩ := hright.req_mem frame hmem
  have hwindow : abstract.right.window < 64 := by
    rw [h.rightHalf.tracks.window_eq]
    exact h.rightHalf.tracks.well.window_lt
  refine receiveFrame_follows htracks h.leftHalf.told hacked
    (hexpected.trans hright.expected_le) h.acked_le_queued ?_ ?_
  · intro index hindex
    exact ⟨h.swap.index_lt frame hmem index hindex,
      hleft.index_unique hmem hindex hwindow⟩
  · intro segment _ hsegment
    exact (h.leftHalf.assembled.next h.rightHalf.carries hsegment).1

theorem assembled_receive (h : Refines net abstract) {frame : Frame} {toLeft : List Frame}
    (hlink : abstract.toLeft = frame :: toLeft) :
    Assembled (net.left.receive (wire net.right.segments frame)) net.right.segments
      (abstract.left.receive frame).expected := by
  have hcall := h.receive hlink
  rw [Peer.receive_expected]
  by_cases htakes : abstract.left.takes frame = true
  · -- the frame is the expected one, so its segment exists
    have hindex : frame.index? = some abstract.left.expected := by
      simp only [Peer.takes, Bool.and_eq_true, decide_eq_true_eq] at htakes
      exact htakes.2
    have hmem : frame ∈ abstract.toLeft ++ abstract.right.outbound := by
      rw [hlink]
      exact List.mem_cons_self ..
    have hlt := h.swap.index_lt frame hmem _ hindex
    have hsegment := List.getElem?_eq_getElem hlt
    simp only [Net.swap_left] at hsegment
    generalize net.right.segments[abstract.left.expected] = segment at hsegment
    have hsource : assemblyAfter net.left.engine abstract.left net.right.segments frame =
        (net.left.engine.acceptInformation segment.sar segment.body).state := by
      simp only [assemblyAfter, hsegment, htakes, if_true]
    rw [hsource] at hcall
    have hconfig : (net.left.engine.acceptInformation segment.sar segment.body).state.config =
        net.left.engine.config := by
      rw [ErtmEngine.acceptInformation_state]
      rfl
    rw [if_pos htakes]
    exact (h.leftHalf.assembled.next h.rightHalf.carries hsegment).2 _
      (hcall.config_eq.trans hconfig) hcall.assembly
  · have hsource : assemblyAfter net.left.engine abstract.left net.right.segments frame =
        net.left.engine := by
      simp only [assemblyAfter, htakes]
      split <;> rfl
    rw [hsource] at hcall
    rw [if_neg htakes]
    exact h.leftHalf.assembled.of_sameAssembly hcall.config_eq hcall.assembly

theorem deliver (h : Refines net abstract) :
    Refines (net.stepLeft ertmParty .deliver) (abstract.stepLeft GoBackN.party .deliver) := by
  have hsafe := h.safe.deliver
  have hlinkEq := h.rightHalf.link_eq
  cases hlink : abstract.toLeft with
  | nil =>
    rw [hlink, List.map_nil] at hlinkEq
    rw [Net.stepLeft_deliver_nil hlinkEq, Net.stepLeft_deliver_nil hlink]
    exact h
  | cons frame toLeft =>
    rw [hlink, List.map_cons] at hlinkEq
    rw [Net.stepLeft_deliver_cons hlink] at hsafe ⊢
    rw [Net.stepLeft_deliver_cons hlinkEq]
    have hcall := h.receive hlink
    have hexpected := abstract.left.receive_expected frame
    have hkept : (assemblyAfter net.left.engine abstract.left net.right.segments frame).config =
        net.left.engine.config := by
      unfold assemblyAfter
      split
      · split
        · rw [ErtmEngine.acceptInformation_state]
          rfl
        · rfl
      · rfl
    have hconfig := hcall.config_eq.trans hkept
    refine ⟨h.leftHalf.follows hcall hkept ?_, ?_, hsafe, h.lost_eq⟩
    · exact h.assembled_receive hlink
    · have hother : Half net.right (net.left.receive (wire net.right.segments frame))
          abstract.right net.toLeft abstract.toLeft := h.rightHalf.of_other hconfig rfl
      exact { hother with link_eq := rfl }

/-- **Every move keeps the relation.** -/
theorem stepLeft (h : Refines net abstract) (move : Move NodeInput) :
    Refines (net.stepLeft ertmParty move)
      (abstract.stepLeft GoBackN.party (abstractMove net.left move)) := by
  cases move with
  | call input => exact h.call input
  | poll => exact h.poll
  | deliver => exact h.deliver
  | lose index => exact h.lose index

end Refines

/-! ## 5. Delivery -/

def initialPeer (config : ErtmConfig) : Peer where
  window := config.txWindowSize.toNat
  limit := config.maxRetransmissions.toNat
  acked := 0
  transmissions := []
  queued := 0
  expected := 0
  remoteBusy := false
  localBusy := false
  failed := false
  outbound := []

def initialPeers (left right : ErtmConfig) : Net Peer Frame :=
  ⟨initialPeer left, initialPeer right, [], [], 0⟩

theorem Half.initial {config otherConfig : ErtmConfig} {engine other : ErtmEngine}
    (hnew : ErtmEngine.new config = .ok engine) (hother : ErtmEngine.new otherConfig = .ok other)
    (hmtu : config.peerMtu ≤ otherConfig.localMtu) :
    Half ⟨engine, [], []⟩ ⟨other, [], []⟩ (initialPeer config) [] [] := by
  have hwell := ErtmEngine.WellFormed.of_new hnew
  obtain ⟨hvalid, rfl⟩ := ErtmEngine.new_eq hnew
  obtain ⟨-, rfl⟩ := ErtmEngine.new_eq hother
  obtain ⟨-, hmps, -⟩ := ErtmEngine.validate_ok hvalid
  constructor
  case tracks =>
    constructor <;> first | exact hwell | exact List.Forall₂.nil | rfl
  case told => rfl
  case link_eq => rfl
  case fits => simp
  case mps_pos =>
    refine Nat.pos_of_ne_zero fun hzero => hmps (Or.inr ?_)
    exact UInt16.toNat.inj hzero
  case admits => exact UInt16.le_iff_toNat_le.mp hmtu
  case assembled => exact ⟨_, rfl, rfl, rfl, rfl, rfl⟩

theorem Refines.initial {leftConfig rightConfig : ErtmConfig} {left right : ErtmEngine}
    (hleft : ErtmEngine.new leftConfig = .ok left) (hright : ErtmEngine.new rightConfig = .ok right)
    (hmatch : MatchingConfigs leftConfig rightConfig) :
    Refines (ertmNet left right) (initialPeers leftConfig rightConfig) where
  leftHalf := Half.initial hleft hright hmatch.mtu_right
  rightHalf := Half.initial hright hleft hmatch.mtu_left
  safe := by
    constructor <;> constructor <;> simp [initialPeers, initialPeer, Peer.sent]
  lost_eq := rfl

def anyMove (_ : Net ErtmNode Bytes) (_ : Move NodeInput) : Prop := True

instance (net : Net ErtmNode Bytes) (move : Move NodeInput) : Decidable (anyMove net move) :=
  .isTrue trivial

theorem refines_of_reachable {leftConfig rightConfig : ErtmConfig} {left right : ErtmEngine}
    (hleft : ErtmEngine.new leftConfig = .ok left) (hright : ErtmEngine.new rightConfig = .ok right)
    (hmatch : MatchingConfigs leftConfig rightConfig) {net : Net ErtmNode Bytes}
    (hreach : Net.Reachable ertmParty anyMove (ertmNet left right) net) :
    ∃ abstract, Refines net abstract := by
  refine Net.run_invariant (I := fun net => ∃ abstract, Refines net abstract) ?_ ?_
    ⟨_, Refines.initial hleft hright hmatch⟩ hreach
  · rintro net ⟨abstract, h⟩
    exact ⟨_, h.swap⟩
  · rintro net move ⟨abstract, h⟩ -
    exact ⟨_, h.stepLeft move⟩

/-- The left side of a net that refines an abstract one: what the user has
    taken, and the answer to the frame that arrives next. -/
theorem Refines.left_ok {net : Net ErtmNode Bytes} {abstract : Net Peer Frame}
    (h : Refines net abstract) :
    net.left.delivered <+: net.right.accepted ∧
      ∀ frame rest, net.toLeft = frame :: rest →
        Benign (net.left.engine.receiveFrame frame).result := by
  refine ⟨h.leftHalf.assembled.delivered_begins h.rightHalf.carries, ?_⟩
  intro frame rest hlink
  have hlinkEq := h.rightHalf.link_eq
  cases hframes : abstract.toLeft with
  | nil =>
    rw [hframes, hlink] at hlinkEq
    cases hlinkEq
  | cons first others =>
    rw [hframes, hlink, List.map_cons] at hlinkEq
    rw [(List.cons.inj hlinkEq).1]
    exact (h.receive hframes).benign

/-- **Reliable delivery.**  Two new engines with matching configurations, links
    that lose any frames, any interleaving of the calls, polls, deliveries and
    losses: on each side the SDUs taken are a beginning of those the other side
    accepted, and a frame that arrives is never answered with an error other
    than the failure of an engine whose retransmission limit is reached. -/
theorem delivers_in_order {leftConfig rightConfig : ErtmConfig} {left right : ErtmEngine}
    (hleft : ErtmEngine.new leftConfig = .ok left) (hright : ErtmEngine.new rightConfig = .ok right)
    (hmatch : MatchingConfigs leftConfig rightConfig) {net : Net ErtmNode Bytes}
    (hreach : Net.Reachable ertmParty anyMove (ertmNet left right) net) :
    (net.right.delivered <+: net.left.accepted ∧ net.left.delivered <+: net.right.accepted) ∧
    (∀ frame rest, net.toRight = frame :: rest →
      Benign (net.right.engine.receiveFrame frame).result) ∧
    (∀ frame rest, net.toLeft = frame :: rest →
      Benign (net.left.engine.receiveFrame frame).result) := by
  obtain ⟨abstract, h⟩ := refines_of_reachable hleft hright hmatch hreach
  obtain ⟨hleftPrefix, hleftFrames⟩ := h.left_ok
  obtain ⟨hrightPrefix, hrightFrames⟩ := h.swap.left_ok
  exact ⟨⟨hrightPrefix, hleftPrefix⟩, hrightFrames, hleftFrames⟩

/-- Two segments of one SDU, the first of them lost, rejected and sent again. -/
theorem delivers_in_order_after_loss :
    let net := (ertmNet (.initial { peerMps := 2 }) (.initial {})).run ertmParty
      [(.left, .call (.sendSdu [1, 2, 3])), (.left, .poll), (.left, .poll), (.right, .lose 0),
        (.right, .deliver), (.right, .poll), (.left, .deliver), (.left, .poll), (.left, .poll),
        (.right, .deliver), (.right, .deliver), (.right, .call .popReceived)]
    net.right.delivered = [[1, 2, 3]] ∧ net.right.delivered <+: net.left.accepted := by
  refine ⟨by decide, ?_⟩
  exact (@delivers_in_order { peerMps := 2 } {} (.initial { peerMps := 2 }) (.initial {})
    (by decide) (by decide) ⟨by decide, by decide, by decide, by decide⟩ _
    ⟨[(.left, .call (.sendSdu [1, 2, 3])), (.left, .poll), (.left, .poll), (.right, .lose 0),
        (.right, .deliver), (.right, .poll), (.left, .deliver), (.left, .poll), (.left, .poll),
        (.right, .deliver), (.right, .deliver), (.right, .call .popReceived)],
      by decide, rfl⟩).1.1

end Bumble.Ertm
