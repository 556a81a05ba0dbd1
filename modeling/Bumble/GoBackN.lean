import Bumble.FifoNet

/-!
# Go-back-N with unbounded frame numbers

The protocol two sliding-window peers speak when frames carry no payload and
their numbers never wrap: a frame is its index in the stream of its sender.  A
peer keeps the frames it has sent and not had acknowledged, sends them all
again on a reject or a timeout, takes only the frame it expects, and puts the
number it expects next into every frame it sends.

Over links that lose frames but neither reorder nor duplicate them, `Safe` is
kept by every move.  Two consequences let an implementation count modulo any
`M` larger than the window: an index in flight that agrees with the expected
one modulo `M` is the expected one (`Flow.index_unique`), and a request number
in flight is at most a window ahead of the last one processed
(`Flow.req_mem`).
-/

namespace Bumble.GoBackN

/-! ## 1. Peers -/

inductive Supervision where
  | ready
  | notReady
  | reject
deriving DecidableEq, Repr

/-- A frame in flight: numbered information or a supervisory frame, each with
    the number its sender expects next. -/
inductive Frame where
  | info (index req : Nat)
  | supervision (kind : Supervision) (req : Nat)
deriving DecidableEq, Repr

def Frame.req : Frame → Nat
  | .info _ req | .supervision _ req => req

def Frame.index? : Frame → Option Nat
  | .info index _ => some index
  | .supervision .. => none

/-- One end of the protocol.  The frames `acked`, `acked + 1`, … are in the
    window, one entry of `transmissions` for each; `queued` frames exist. -/
structure Peer where
  window : Nat
  limit : Nat
  acked : Nat
  transmissions : List Nat
  queued : Nat
  expected : Nat
  remoteBusy : Bool
  localBusy : Bool
  failed : Bool
  outbound : List Frame
deriving DecidableEq, Repr

inductive Input where
  | queue (count : Nat)
  | busy (value : Bool)
  | timeout
  | idle

namespace Peer

def sent (peer : Peer) : Nat := peer.acked + peer.transmissions.length

/-- How many frames of the queue go into the window now. -/
def room (peer : Peer) : Nat :=
  min (peer.window - peer.transmissions.length) (peer.queued - peer.sent)

def emit (peer : Peer) (frames : List Frame) : Peer :=
  { peer with outbound := peer.outbound ++ frames }

/-- Information frames for `count` consecutive indices. -/
def burst (first count req : Nat) : List Frame :=
  (List.range count).map fun offset => .info (first + offset) req

def fill (peer : Peer) : Peer :=
  if peer.remoteBusy then peer
  else
    { peer with
      transmissions := peer.transmissions ++ List.replicate peer.room 1
      outbound := peer.outbound ++ burst peer.sent peer.room peer.expected }

/-- Send the whole window again, or give up when a frame has had its share. -/
def retransmit (peer : Peer) : Peer :=
  if peer.remoteBusy then peer
  else if peer.limit ≠ 0 ∧ peer.transmissions.any (fun count => peer.limit ≤ count - 1) then
    { peer with failed := true }
  else
    { peer with
      transmissions := peer.transmissions.map (· + 1)
      outbound :=
        peer.outbound ++ burst peer.acked peer.transmissions.length peer.expected }

/-- Forget the frames before `req`. -/
def acknowledge (peer : Peer) (req : Nat) : Peer :=
  { peer with
    acked := req
    transmissions := peer.transmissions.drop (req - peer.acked) }

/-- Information with the expected index: count it, send what can be sent, and
    acknowledge explicitly when nothing was sent. -/
def accept (peer : Peer) : Peer :=
  let counted := { peer with expected := peer.expected + 1 }
  let filled := counted.fill
  if filled.outbound.length = counted.outbound.length then
    filled.emit [.supervision .ready filled.expected]
  else filled

def supervised (peer : Peer) (kind : Supervision) : Peer :=
  let told := { peer with remoteBusy := decide (kind = Supervision.notReady) }
  match kind with
  | .reject =>
    let resent := told.retransmit
    if resent.failed then resent else resent.fill
  | .ready | .notReady => told.fill

/-- What a delivered frame does once its request number has been processed. -/
def handle (peer : Peer) : Frame → Peer
  | .info index _ =>
    if peer.localBusy then peer.emit [.supervision .notReady peer.expected]
    else if index = peer.expected then peer.accept
    else peer.emit [.supervision .reject peer.expected]
  | .supervision kind _ => peer.supervised kind

/-- The peer takes the frame: it counts it as received. -/
def takes (peer : Peer) (frame : Frame) : Bool :=
  !peer.failed && !peer.localBusy && decide (frame.index? = some peer.expected)

def receive (peer : Peer) (frame : Frame) : Peer :=
  if peer.failed then peer else (peer.acknowledge frame.req).handle frame

def call (peer : Peer) (input : Input) : Peer :=
  if peer.failed then peer
  else
    match input with
    | .queue count => { peer with queued := peer.queued + count }.fill
    | .busy value =>
      if peer.localBusy = value then peer
      else
        { peer with localBusy := value }.emit
          [.supervision (if value then .notReady else .ready) peer.expected]
    | .timeout => if peer.transmissions = [] then peer else peer.retransmit
    | .idle => peer

def poll (peer : Peer) : Option (Frame × Peer) :=
  match peer.outbound with
  | [] => none
  | frame :: outbound => some (frame, { peer with outbound })

end Peer

def party : Party Peer Input Frame where
  call := Peer.call
  poll := Peer.poll
  receive := Peer.receive

/-! ## 2. Sending

`Emits peer next` says that `next` is `peer` after it has put frames on its
queue: the window may have grown, every information frame lies in it, and every
frame carries the number the peer expects. -/

structure Emits (peer next : Peer) (frames : List Frame) : Prop where
  window_eq : next.window = peer.window
  acked_eq : next.acked = peer.acked
  expected_eq : next.expected = peer.expected
  queued_eq : next.queued = peer.queued
  grows : peer.transmissions.length ≤ next.transmissions.length
  window_le : peer.transmissions.length ≤ peer.window →
    next.transmissions.length ≤ peer.window
  sent_le : peer.sent ≤ peer.queued → next.sent ≤ peer.queued
  outbound_eq : next.outbound = peer.outbound ++ frames
  req_eq : ∀ frame ∈ frames, frame.req = peer.expected
  index_mem : ∀ frame ∈ frames, ∀ index, frame.index? = some index →
    peer.acked ≤ index ∧ index < next.sent

namespace Emits

variable {peer next last : Peer} {frames more : List Frame}

theorem refl (peer : Peer) : Emits peer peer [] where
  window_eq := rfl
  acked_eq := rfl
  expected_eq := rfl
  queued_eq := rfl
  grows := Nat.le_refl _
  window_le := id
  sent_le := id
  outbound_eq := (List.append_nil _).symm
  req_eq := by simp
  index_mem := by simp

theorem sent_mono (h : Emits peer next frames) : peer.sent ≤ next.sent := by
  have hgrows := h.grows
  simp only [Peer.sent, h.acked_eq]
  omega

theorem trans (h : Emits peer next frames) (h' : Emits next last more) :
    Emits peer last (frames ++ more) where
  window_eq := h'.window_eq.trans h.window_eq
  acked_eq := h'.acked_eq.trans h.acked_eq
  expected_eq := h'.expected_eq.trans h.expected_eq
  queued_eq := h'.queued_eq.trans h.queued_eq
  grows := h.grows.trans h'.grows
  window_le hle := by
    have := h'.window_le (by rw [h.window_eq]; exact h.window_le hle)
    rwa [h.window_eq] at this
  sent_le hle := by
    have := h'.sent_le (by rw [h.queued_eq]; exact h.sent_le hle)
    rwa [h.queued_eq] at this
  outbound_eq := by rw [h'.outbound_eq, h.outbound_eq, List.append_assoc]
  req_eq := by
    intro frame hframe
    rcases List.mem_append.mp hframe with hold | hnew
    · exact h.req_eq frame hold
    · exact (h'.req_eq frame hnew).trans h.expected_eq
  index_mem := by
    intro frame hframe index hindex
    rcases List.mem_append.mp hframe with hold | hnew
    · obtain ⟨hle, hlt⟩ := h.index_mem frame hold index hindex
      exact ⟨hle, hlt.trans_le h'.sent_mono⟩
    · obtain ⟨hle, hlt⟩ := h'.index_mem frame hnew index hindex
      exact ⟨h.acked_eq ▸ hle, hlt⟩

theorem supervision (peer : Peer) (kind : Supervision) :
    Emits peer (peer.emit [.supervision kind peer.expected])
      [.supervision kind peer.expected] where
  window_eq := rfl
  acked_eq := rfl
  expected_eq := rfl
  queued_eq := rfl
  grows := Nat.le_refl _
  window_le := id
  sent_le := id
  outbound_eq := rfl
  req_eq := by simp [Frame.req]
  index_mem := by simp [Frame.index?]

end Emits

theorem mem_burst {first count req : Nat} {frame : Frame}
    (hframe : frame ∈ Peer.burst first count req) :
    frame.req = req ∧ ∀ index, frame.index? = some index →
      first ≤ index ∧ index < first + count := by
  obtain ⟨offset, hoffset, rfl⟩ := List.mem_map.mp hframe
  rw [List.mem_range] at hoffset
  refine ⟨rfl, fun index hindex => ?_⟩
  simp only [Frame.index?, Option.some.injEq] at hindex
  omega

namespace Peer

/-- The frames `fill` sends. -/
def filling (peer : Peer) : List Frame :=
  if peer.remoteBusy then [] else burst peer.sent peer.room peer.expected

theorem fill_emits (peer : Peer) : Emits peer peer.fill peer.filling := by
  unfold fill filling
  split
  · exact Emits.refl peer
  · constructor
    case outbound_eq => rfl
    case req_eq => exact fun frame hframe => (mem_burst hframe).1
    case index_mem =>
      intro frame hframe index hindex
      obtain ⟨hle, hlt⟩ := (mem_burst hframe).2 index hindex
      simp only [sent, List.length_append, List.length_replicate] at hle hlt ⊢
      omega
    all_goals simp [sent, room]
    · omega
    · omega

/-- The frames `retransmit` sends. -/
def resending (peer : Peer) : List Frame :=
  if peer.remoteBusy then []
  else if peer.limit ≠ 0 ∧ peer.transmissions.any (fun count => peer.limit ≤ count - 1) then []
  else burst peer.acked peer.transmissions.length peer.expected

theorem retransmit_emits (peer : Peer) : Emits peer peer.retransmit peer.resending := by
  unfold retransmit resending
  split
  · exact Emits.refl peer
  · split
    · exact { Emits.refl peer with }
    · constructor
      case outbound_eq => rfl
      case req_eq => exact fun frame hframe => (mem_burst hframe).1
      case index_mem =>
        intro frame hframe index hindex
        obtain ⟨hle, hlt⟩ := (mem_burst hframe).2 index hindex
        simp only [sent, List.length_map] at hle hlt ⊢
        omega
      all_goals simp [sent]

end Peer

/-! ## 3. One direction of the traffic

`Flow sender receiver data acks` ties the sender's window to what the receiver
expects and to everything in flight: `data` travels to the receiver and `acks`
back to the sender, oldest first. -/

structure Flow (sender receiver : Peer) (data acks : List Frame) : Prop where
  window_le : sender.transmissions.length ≤ sender.window
  sent_le : sender.sent ≤ sender.queued
  acked_le : sender.acked ≤ receiver.expected
  expected_le : receiver.expected ≤ sender.sent
  index_mem : ∀ frame ∈ data, ∀ index, frame.index? = some index →
    index < sender.sent ∧ receiver.expected ≤ index + sender.window
  index_order : data.Pairwise fun first second => ∀ i j,
    first.index? = some i → second.index? = some j → i < j + sender.window
  req_mem : ∀ frame ∈ acks, sender.acked ≤ frame.req ∧ frame.req ≤ receiver.expected
  req_order : acks.Pairwise fun first second => first.req ≤ second.req

namespace Flow

variable {sender sender' receiver receiver' : Peer} {data data' acks acks' frames : List Frame}

theorem sublist (h : Flow sender receiver data acks) (hdata : data'.Sublist data)
    (hacks : acks'.Sublist acks) : Flow sender receiver data' acks' where
  window_le := h.window_le
  sent_le := h.sent_le
  acked_le := h.acked_le
  expected_le := h.expected_le
  index_mem frame hframe := h.index_mem frame (hdata.mem hframe)
  index_order := h.index_order.sublist hdata
  req_mem frame hframe := h.req_mem frame (hacks.mem hframe)
  req_order := h.req_order.sublist hacks

/-- An index in flight is within one window of the expected one, on both sides,
    so equality modulo a larger number is equality. -/
theorem index_unique (h : Flow sender receiver data acks) {frame : Frame}
    (hframe : frame ∈ data) {index : Nat} (hindex : frame.index? = some index)
    {modulus : Nat} (hmodulus : sender.window < modulus)
    (hmod : index % modulus = receiver.expected % modulus) : index = receiver.expected := by
  obtain ⟨hlt, hle⟩ := h.index_mem frame hframe index hindex
  have hwindow := h.window_le
  have hacked := h.acked_le
  simp only [Peer.sent] at hlt
  rcases Nat.lt_trichotomy index receiver.expected with hless | heq | hgreater
  · have hzero := Nat.sub_mod_eq_zero_of_mod_eq hmod.symm
    rw [Nat.mod_eq_of_lt (by omega)] at hzero
    omega
  · exact heq
  · have hzero := Nat.sub_mod_eq_zero_of_mod_eq hmod
    rw [Nat.mod_eq_of_lt (by omega)] at hzero
    omega

theorem emits_sender (h : Flow sender receiver data acks) (hemits : Emits sender sender' frames) :
    Flow sender' receiver (data ++ frames) acks where
  window_le := hemits.window_eq ▸ hemits.window_le h.window_le
  sent_le := hemits.queued_eq ▸ hemits.sent_le h.sent_le
  acked_le := hemits.acked_eq ▸ h.acked_le
  expected_le := h.expected_le.trans hemits.sent_mono
  index_mem := by
    intro frame hframe index hindex
    rw [hemits.window_eq]
    rcases List.mem_append.mp hframe with hold | hnew
    · obtain ⟨hlt, hle⟩ := h.index_mem frame hold index hindex
      exact ⟨hlt.trans_le hemits.sent_mono, hle⟩
    · obtain ⟨hacked, hlt⟩ := hemits.index_mem frame hnew index hindex
      have hexpected := h.expected_le
      have hwindow := h.window_le
      simp only [Peer.sent] at hexpected
      exact ⟨hlt, by omega⟩
  index_order := by
    rw [hemits.window_eq]
    refine List.pairwise_append.mpr ⟨h.index_order, ?_, ?_⟩
    · refine List.pairwise_of_forall_mem_list fun first hfirst second hsecond i j hi hj => ?_
      have hlt := (hemits.index_mem first hfirst i hi).2
      have hle := (hemits.index_mem second hsecond j hj).1
      have hwindow := hemits.window_le h.window_le
      simp only [Peer.sent, hemits.acked_eq] at hlt
      omega
    · intro first hfirst second hsecond i j hi hj
      have hlt := (h.index_mem first hfirst i hi).1
      have hle := (hemits.index_mem second hsecond j hj).1
      have hwindow := h.window_le
      simp only [Peer.sent] at hlt
      omega
  req_mem frame hframe := hemits.acked_eq ▸ h.req_mem frame hframe
  req_order := h.req_order

theorem emits_receiver (h : Flow sender receiver data acks)
    (hemits : Emits receiver receiver' frames) :
    Flow sender receiver' data (acks ++ frames) where
  window_le := h.window_le
  sent_le := h.sent_le
  acked_le := hemits.expected_eq ▸ h.acked_le
  expected_le := hemits.expected_eq ▸ h.expected_le
  index_mem := hemits.expected_eq ▸ h.index_mem
  index_order := h.index_order
  req_mem := by
    intro frame hframe
    rw [hemits.expected_eq]
    rcases List.mem_append.mp hframe with hold | hnew
    · exact h.req_mem frame hold
    · rw [hemits.req_eq frame hnew]
      exact ⟨h.acked_le, Nat.le_refl _⟩
  req_order := by
    refine List.pairwise_append.mpr ⟨h.req_order, ?_, ?_⟩
    · refine List.pairwise_of_forall_mem_list fun first hfirst second hsecond => ?_
      exact ((hemits.req_eq first hfirst).trans (hemits.req_eq second hsecond).symm).le
    · intro first hfirst second hsecond
      rw [hemits.req_eq second hsecond]
      exact (h.req_mem first hfirst).2

theorem queue (h : Flow sender receiver data acks) (count : Nat) :
    Flow { sender with queued := sender.queued + count } receiver data acks :=
  { h with sent_le := h.sent_le.trans (Nat.le_add_right _ _) }

theorem acknowledge {frame : Frame} (h : Flow sender receiver data (frame :: acks)) :
    Flow (sender.acknowledge frame.req) receiver data acks := by
  obtain ⟨hacked, hexpected⟩ := h.req_mem frame (List.mem_cons_self ..)
  have hsent := h.expected_le
  have hkeep : (sender.acknowledge frame.req).sent = sender.sent := by
    simp only [Peer.sent, Peer.acknowledge, List.length_drop] at hsent ⊢
    omega
  have horder := List.pairwise_cons.mp h.req_order
  have hwindow := h.window_le
  constructor
  case window_le =>
    simp only [Peer.acknowledge, List.length_drop]
    omega
  case sent_le => rw [hkeep]; exact h.sent_le
  case acked_le => exact hexpected
  case expected_le => rw [hkeep]; exact hsent
  case index_mem => rw [hkeep]; exact h.index_mem
  case index_order => exact h.index_order
  case req_mem =>
    intro later hlater
    exact ⟨horder.1 later hlater, (h.req_mem later (List.mem_cons_of_mem _ hlater)).2⟩
  case req_order => exact horder.2

theorem accept {frame : Frame} (h : Flow sender receiver (frame :: data) acks)
    (hindex : frame.index? = some receiver.expected) :
    Flow sender { receiver with expected := receiver.expected + 1 } data acks := by
  have horder := List.pairwise_cons.mp h.index_order
  have hhead := h.index_mem frame (List.mem_cons_self ..) receiver.expected hindex
  constructor
  case window_le => exact h.window_le
  case sent_le => exact h.sent_le
  case acked_le => exact h.acked_le.trans (Nat.le_succ _)
  case expected_le => exact hhead.1
  case index_mem =>
    intro later hlater index hlaterIndex
    have hlt := (h.index_mem later (List.mem_cons_of_mem _ hlater) index hlaterIndex).1
    exact ⟨hlt, horder.1 later hlater receiver.expected index hindex hlaterIndex⟩
  case index_order => exact horder.2
  case req_mem =>
    intro ack hack
    obtain ⟨hle, hreq⟩ := h.req_mem ack hack
    exact ⟨hle, hreq.trans (Nat.le_succ _)⟩
  case req_order => exact h.req_order

end Flow

/-! ## 4. Both directions

What a peer has queued for its link counts as in flight. -/

structure Safe (net : Net Peer Frame) : Prop where
  rightward : Flow net.left net.right
    (net.toRight ++ net.left.outbound) (net.toLeft ++ net.right.outbound)
  leftward : Flow net.right net.left
    (net.toLeft ++ net.right.outbound) (net.toRight ++ net.left.outbound)

namespace Peer

theorem emits_of_eq {peer next : Peer} (hwindow : next.window = peer.window)
    (hacked : next.acked = peer.acked) (hexpected : next.expected = peer.expected)
    (hqueued : next.queued = peer.queued) (hsent : next.transmissions = peer.transmissions)
    (houtbound : next.outbound = peer.outbound) : Emits peer next [] where
  window_eq := hwindow
  acked_eq := hacked
  expected_eq := hexpected
  queued_eq := hqueued
  grows := by rw [hsent]
  window_le hle := by rwa [hsent]
  sent_le hle := by
    simp only [sent, hacked, hsent] at hle ⊢
    exact hle
  outbound_eq := by rw [houtbound, List.append_nil]
  req_eq := by simp
  index_mem := by simp

theorem accept_emits (peer : Peer) :
    ∃ frames, Emits { peer with expected := peer.expected + 1 } peer.accept frames := by
  have hfill := fill_emits { peer with expected := peer.expected + 1 }
  simp only [accept]
  split
  · exact ⟨_, hfill.trans (Emits.supervision _ _)⟩
  · exact ⟨_, hfill⟩

theorem supervised_emits (peer : Peer) (kind : Supervision) :
    ∃ frames, Emits peer (peer.supervised kind) frames := by
  have htold : Emits peer { peer with remoteBusy := decide (kind = Supervision.notReady) } [] :=
    emits_of_eq rfl rfl rfl rfl rfl rfl
  cases kind with
  | reject =>
    have hresent := htold.trans (retransmit_emits _)
    simp only [supervised]
    split
    · exact ⟨_, hresent⟩
    · exact ⟨_, hresent.trans (fill_emits _)⟩
  | ready => exact ⟨_, htold.trans (fill_emits _)⟩
  | notReady => exact ⟨_, htold.trans (fill_emits _)⟩

theorem call_expected (peer : Peer) (input : Input) :
    (peer.call input).expected = peer.expected := by
  unfold call
  split
  · rfl
  · cases input with
    | queue count => exact (fill_emits _).expected_eq
    | busy value =>
      dsimp only
      split <;> rfl
    | timeout =>
      dsimp only
      split
      · rfl
      · exact (retransmit_emits _).expected_eq
    | idle => rfl

theorem receive_expected (peer : Peer) (frame : Frame) :
    (peer.receive frame).expected =
      if peer.takes frame then peer.expected + 1 else peer.expected := by
  unfold receive
  by_cases hfailed : peer.failed = true
  · simp [hfailed, takes]
  · rw [if_neg hfailed]
    cases frame with
    | supervision kind req =>
      obtain ⟨frames, hframes⟩ := (peer.acknowledge req).supervised_emits kind
      simp only [takes, Frame.index?, reduceCtorEq, decide_false, Bool.and_false,
        Bool.false_eq_true, if_false]
      exact hframes.expected_eq
    | info index req =>
      simp only [handle, takes, hfailed, Frame.index?, Option.some.injEq]
      by_cases hlocal : peer.localBusy = true
      · rw [if_pos (show (peer.acknowledge _).localBusy = true from hlocal)]
        simp [hlocal, emit, acknowledge]
      · rw [if_neg (show ¬ (peer.acknowledge _).localBusy = true from hlocal)]
        by_cases hindex : index = peer.expected
        · obtain ⟨frames, hframes⟩ := (peer.acknowledge req).accept_emits
          rw [if_pos (show index = (peer.acknowledge _).expected from hindex)]
          simp only [hlocal, hindex]
          exact hframes.expected_eq
        · rw [if_neg (show ¬ index = (peer.acknowledge _).expected from hindex)]
          simp [hindex, emit, acknowledge]

end Peer

namespace Safe

variable {net : Net Peer Frame} {left : Peer} {frames : List Frame}

theorem swap (h : Safe net) : Safe net.swap := ⟨h.leftward, h.rightward⟩

theorem emits (h : Safe net) (hemits : Emits net.left left frames) :
    Safe { net with left } where
  rightward := by
    have hflow := h.rightward.emits_sender hemits
    simpa only [hemits.outbound_eq, List.append_assoc] using hflow
  leftward := by
    have hflow := h.leftward.emits_receiver hemits
    simpa only [hemits.outbound_eq, List.append_assoc] using hflow

theorem queue (h : Safe net) (count : Nat) :
    Safe { net with left := { net.left with queued := net.left.queued + count } } where
  rightward := h.rightward.queue count
  leftward := { h.leftward with }

theorem call (h : Safe net) (input : Input) :
    Safe { net with left := net.left.call input } := by
  unfold Peer.call
  split
  · exact h
  · cases input with
    | queue count => exact (h.queue count).emits (Peer.fill_emits _)
    | busy value =>
      dsimp only
      split
      · exact h
      · have hflag : Emits net.left { net.left with localBusy := value } [] :=
          Peer.emits_of_eq rfl rfl rfl rfl rfl rfl
        exact h.emits (hflag.trans (Emits.supervision _ _))
    | timeout =>
      dsimp only
      split
      · exact h
      · exact h.emits (Peer.retransmit_emits _)
    | idle => exact h

theorem poll (h : Safe net) : Safe (net.stepLeft party .poll) := by
  cases hout : net.left.outbound with
  | nil =>
    rw [Net.stepLeft_poll_none (by simp [party, Peer.poll, hout])]
    exact h
  | cons frame outbound =>
    have hpoll : party.poll net.left = some (frame, { net.left with outbound }) := by
      simp [party, Peer.poll, hout]
    rw [Net.stepLeft_poll_some hpoll]
    have hright := h.rightward
    have hleft := h.leftward
    rw [hout] at hright hleft
    refine ⟨?_, ?_⟩
    · simpa only [List.append_assoc, List.singleton_append] using { hright with }
    · simpa only [List.append_assoc, List.singleton_append] using { hleft with }

theorem acknowledge {frame : Frame} {toLeft : List Frame} (h : Safe net)
    (hlink : net.toLeft = frame :: toLeft) :
    Safe { net with left := net.left.acknowledge frame.req, toLeft } where
  rightward := by
    have hflow := h.rightward
    rw [hlink] at hflow
    exact hflow.acknowledge
  leftward := by
    have hflow := h.leftward
    rw [hlink] at hflow
    exact { hflow.sublist (List.sublist_cons_self ..) (List.Sublist.refl _) with }

theorem deliver (h : Safe net) : Safe (net.stepLeft party .deliver) := by
  cases hlink : net.toLeft with
  | nil =>
    rw [Net.stepLeft_deliver_nil hlink]
    exact h
  | cons frame toLeft =>
    rw [Net.stepLeft_deliver_cons hlink]
    have hgone : Safe { net with toLeft } := by
      obtain ⟨hright, hleft⟩ := h
      rw [hlink] at hright hleft
      exact ⟨hright.sublist (List.Sublist.refl _) (List.sublist_cons_self ..),
        hleft.sublist (List.sublist_cons_self ..) (List.Sublist.refl _)⟩
    simp only [party, Peer.receive]
    split
    · exact hgone
    · have hacked := h.acknowledge hlink
      cases frame with
      | info index req =>
        simp only [Peer.handle]
        split
        · exact hacked.emits (Emits.supervision _ _)
        · split
          · next hindex =>
            obtain ⟨frames, hframes⟩ := (net.left.acknowledge req).accept_emits
            have hcounted : Safe { net with
                left := { net.left.acknowledge req with expected := net.left.expected + 1 }
                toLeft } := by
              refine ⟨{ hacked.rightward with }, ?_⟩
              have hflow := h.leftward
              rw [hlink] at hflow
              have hfirst : (Frame.info index req).index? = some net.left.expected :=
                congrArg some hindex
              exact { hflow.accept hfirst with }
            exact hcounted.emits hframes
          · exact hacked.emits (Emits.supervision _ _)
      | supervision kind req =>
        obtain ⟨frames, hframes⟩ := (net.left.acknowledge req).supervised_emits kind
        exact hacked.emits hframes

theorem lose (h : Safe net) (index : Nat) : Safe (net.stepLeft party (.lose index)) := by
  simp only [Net.stepLeft]
  split
  · have hgone : (net.toLeft.eraseIdx index ++ net.right.outbound).Sublist
        (net.toLeft ++ net.right.outbound) :=
      (List.eraseIdx_sublist _ _).append (List.Sublist.refl _)
    exact ⟨h.rightward.sublist (List.Sublist.refl _) hgone,
      h.leftward.sublist hgone (List.Sublist.refl _)⟩
  · exact h

end Safe

end Bumble.GoBackN
