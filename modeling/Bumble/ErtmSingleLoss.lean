import Bumble.ErtmDelivery
import Bumble.GoBackNRecovery

/-!
# One lost frame

A receiver answers every information frame out of sequence with a reject, and a
sender answers every reject by sending its whole window again.  One lost frame
with several frames behind it therefore provokes several rejects, and each of
them uses up one transmission of every frame in the window: with a window of
three and a limit of one, the loss of a single frame fails the sender.

`survives_single_loss` bounds the damage: neither engine fails in a run where no
information frame arrives out of sequence at a receiver that is not busy while a
reject is in flight or its retransmission is not yet acknowledged.  A sender
whose window holds one frame is safe in every run.
-/

namespace Bumble.Ertm

open Bumble.GoBackN (Peer Frame Calm AllowedMove Recovering)

/-! ## 1. The runs -/

def isRejectFrame (frame : Bytes) : Bool :=
  match EnhancedControlField.fromBytes frame with
  | .ok (.supervisory .reject _ _ _) => true
  | _ => false

/-- A reject is on its way to the sender, or a frame in its window has been sent
    more than once. -/
def recovering (sender : ErtmNode) (acks : List Bytes) : Bool :=
  acks.any isRejectFrame ||
    sender.engine.txWindow.any fun sent => decide (sent.transmissions ≠ 1)

/-- At most one frame is lost, and no tick reaches a deadline. -/
def SingleLossMove (net : Net ErtmNode Bytes) : Move NodeInput → Prop
  | .call (.tick ticks) => (net.left.engine.advance ticks).deadlinePassed = false
  | .lose _ => net.lost = 0
  | _ => True

/-- An information frame reaches the left node out of sequence while the
    recovery is under way, and the node is not busy: it rejects again.  No frame
    of a window of one is out of sequence. -/
def rejectsAgain (net : Net ErtmNode Bytes) (frame : Bytes) : Bool :=
  match EnhancedControlField.fromBytes frame with
  | .ok (.information txSeq _ _ _) =>
    decide (net.right.engine.config.txWindowSize ≠ 1) && !net.left.engine.localBusy &&
      decide (txSeq ≠ net.left.engine.expectedTxSeq) &&
        recovering net.right (net.toRight ++ net.left.engine.outbound)
  | _ => false

def RejectsOnce (net : Net ErtmNode Bytes) : Move NodeInput → Prop
  | .deliver => ∀ frame ∈ net.toLeft.head?, rejectsAgain net frame = false
  | _ => True

instance (net : Net ErtmNode Bytes) (move : Move NodeInput) :
    Decidable (SingleLossMove net move) :=
  match move with
  | .call (.tick ticks) =>
    inferInstanceAs (Decidable ((net.left.engine.advance ticks).deadlinePassed = false))
  | .lose _ => inferInstanceAs (Decidable (net.lost = 0))
  | .call (.sendSdu _) | .call (.setReceiverBusy _) | .call .popReceived | .poll | .deliver =>
    .isTrue trivial

instance (net : Net ErtmNode Bytes) (move : Move NodeInput) : Decidable (RejectsOnce net move) :=
  match move with
  | .deliver =>
    inferInstanceAs (Decidable (∀ frame ∈ net.toLeft.head?, rejectsAgain net frame = false))
  | .call _ | .poll | .lose _ => .isTrue trivial

/-! ## 2. The abstract runs -/

theorem isRejectFrame_wire (segments : List Segment) {frame : Frame}
    (hreject : frame.isReject = true) : isRejectFrame (wire segments frame) = true := by
  cases frame with
  | info index req => cases hreject
  | supervision kind req =>
    cases kind with
    | reject =>
      simp only [isRejectFrame, wire, supervisionFunction,
        fromBytes_supervisoryBytes (number_lt req)]
    | ready => cases hreject
    | notReady => cases hreject

theorem forall₂_mem_right {α β : Type} {R : α → β → Prop} {left : List α} {right : List β}
    (h : List.Forall₂ R left right) {value : β} (hmem : value ∈ right) :
    ∃ partner ∈ left, R partner value := by
  induction h with
  | nil => cases hmem
  | cons hrel _ ih =>
    rcases List.mem_cons.mp hmem with rfl | hrest
    · exact ⟨_, List.mem_cons_self .., hrel⟩
    · obtain ⟨partner, hpartner, hvalue⟩ := ih hrest
      exact ⟨partner, List.mem_cons_of_mem _ hpartner, hvalue⟩

theorem not_recovering {segments : List Segment} {sender : ErtmNode} {peer : Peer}
    (htracks : Tracks sender.segments sender.engine peer) {acks : List Frame}
    (hcalm : recovering sender (acks.map (wire segments)) = false) : ¬ Recovering peer acks := by
  simp only [recovering, Bool.or_eq_false_iff, List.any_eq_false, decide_eq_true_eq] at hcalm
  obtain ⟨hacks, hsent⟩ := hcalm
  rintro (⟨frame, hframe, hreject⟩ | htwo)
  · exact hacks _ (List.mem_map_of_mem hframe) (isRejectFrame_wire segments hreject)
  · obtain ⟨sent, hmem, hcount, -⟩ := forall₂_mem_right htracks.counts htwo
    have hone : sent.transmissions = 1 := not_not.mp (hsent sent hmem)
    rw [hone] at hcount
    exact absurd hcount (by decide)

/-- The conditions on the frames imply those on the abstract moves. -/
theorem Refines.allowedMove {net : Net ErtmNode Bytes} {abstract : Net Peer Frame}
    (h : Refines net abstract) {move : Move NodeInput} (hsingle : SingleLossMove net move)
    (hrejects : RejectsOnce net move) : AllowedMove abstract (abstractMove net.left move) := by
  cases move with
  | call input =>
    cases input with
    | sendSdu sdu =>
      simp only [abstractMove, abstractInput]
      split <;> trivial
    | setReceiverBusy busy => trivial
    | tick ticks =>
      have hearly : (net.left.engine.advance ticks).deadlinePassed = false := hsingle
      simp only [abstractMove, abstractInput, hearly]
      trivial
    | popReceived => trivial
  | poll => trivial
  | lose index => trivial
  | deliver =>
    intro frame hframe index hindex
    cases hlink : abstract.toLeft with
    | nil =>
      simp only [hlink] at hframe
      cases hframe
    | cons first toLeft =>
      have hfirst : first = frame := by simpa [hlink] using hframe
      subst hfirst
      have hlinkEq := h.rightHalf.link_eq
      rw [hlink, List.map_cons] at hlinkEq
      have hmem : first ∈ abstract.toLeft ++ abstract.right.outbound := by
        rw [hlink]
        exact List.mem_cons_self ..
      have hcontrol : ∃ sar req, EnhancedControlField.fromBytes (wire net.right.segments first) =
          .ok (.information (number index) false req sar) := by
        cases first with
        | supervision kind req => cases hindex
        | info other req =>
          obtain rfl : other = index := Option.some.inj hindex
          have hlt := h.swap.index_lt _ hmem other rfl
          have hsegment := List.getElem?_eq_getElem hlt
          simp only [Net.swap_left] at hsegment
          simp only [wire, hsegment]
          exact ⟨_, _, fromBytes_stamp _ _ _⟩
      obtain ⟨sar, req, hbytes⟩ := hcontrol
      have hquiet := hrejects (wire net.right.segments first) (by rw [hlinkEq]; rfl)
      simp only [rejectsAgain, hbytes, Bool.and_eq_false_iff, decide_eq_false_iff_not, not_not,
        Bool.not_eq_false'] at hquiet
      rcases hquiet with ((hone | hbusy) | hsame) | hcalm
      · left
        rw [h.rightHalf.tracks.window_eq, hone]
        rfl
      · exact Or.inr (Or.inl (h.leftHalf.tracks.localBusy_eq.trans hbusy))
      · refine Or.inr (Or.inr (Or.inl ?_))
        have hwindow : abstract.right.window < 64 := by
          rw [h.rightHalf.tracks.window_eq]
          exact h.rightHalf.tracks.well.window_lt
        rw [h.leftHalf.tracks.expected_eq, number_inj] at hsame
        exact h.safe.leftward.index_unique hmem hindex hwindow hsame
      · refine Or.inr (Or.inr (Or.inr ?_))
        rw [h.leftHalf.link_eq, h.leftHalf.tracks.outbound_eq, ← List.map_append] at hcalm
        exact not_recovering h.rightHalf.tracks hcalm

/-! ## 3. No failure -/

theorem calm_initial (left right : ErtmConfig) : Calm (initialPeers left right) := by
  refine ⟨?_, rfl, rfl, ?_, ?_⟩
  · constructor <;> constructor <;> simp [initialPeers, initialPeer, Peer.sent]
  · constructor <;> simp [initialPeers, initialPeer, GoBackN.rejects]
  · constructor <;> simp [initialPeers, initialPeer, GoBackN.rejects]

/-- **One loss is survived** when no information frame is rejected during the
    recovery: neither engine fails, whatever the windows, the limits and the
    interleaving. -/
theorem survives_single_loss {leftConfig rightConfig : ErtmConfig} {left right : ErtmEngine}
    (hleft : ErtmEngine.new leftConfig = .ok left) (hright : ErtmEngine.new rightConfig = .ok right)
    (hmatch : MatchingConfigs leftConfig rightConfig) {net : Net ErtmNode Bytes}
    (hreach : Net.Reachable ertmParty
      (fun net move => SingleLossMove net move ∧ RejectsOnce net move)
      (ertmNet left right) net) :
    net.left.engine.failed = false ∧ net.right.engine.failed = false := by
  have hinvariant : ∃ abstract, Refines net abstract ∧ Calm abstract := by
    refine Net.run_invariant (I := fun net => ∃ abstract, Refines net abstract ∧ Calm abstract)
      ?_ ?_ ⟨_, Refines.initial hleft hright hmatch, calm_initial _ _⟩ hreach
    · rintro net ⟨abstract, h, hcalm⟩
      exact ⟨_, h.swap, hcalm.swap⟩
    · rintro net move ⟨abstract, h, hcalm⟩ ⟨hsingle, hrejects⟩
      exact ⟨_, h.stepLeft move, hcalm.stepLeft _ (h.allowedMove hsingle hrejects)⟩
  obtain ⟨abstract, h, hcalm⟩ := hinvariant
  exact ⟨h.leftHalf.tracks.failed_eq.symm.trans hcalm.leftAlive,
    h.rightHalf.tracks.failed_eq.symm.trans hcalm.rightAlive⟩

/-- A window of two, a limit of one and one lost frame: one reject, one
    retransmission, no failure. -/
theorem survives_single_loss_window_two :
    let config : ErtmConfig := { txWindowSize := 2, maxRetransmissions := 1 }
    let net := (ertmNet (.initial config) (.initial config)).run ertmParty
      [(.left, .call (.sendSdu [1])), (.left, .call (.sendSdu [2])), (.left, .poll),
        (.left, .poll), (.right, .lose 0), (.right, .deliver), (.right, .poll), (.left, .deliver),
        (.left, .poll), (.left, .poll), (.right, .deliver), (.right, .deliver)]
    net.right.engine.received = [[1], [2]] ∧ net.left.engine.failed = false := by
  refine ⟨by decide, ?_⟩
  exact (@survives_single_loss { txWindowSize := 2, maxRetransmissions := 1 }
    { txWindowSize := 2, maxRetransmissions := 1 } _ _ rfl rfl
    ⟨by decide, by decide, by decide, by decide⟩ _
    ⟨[(.left, .call (.sendSdu [1])), (.left, .call (.sendSdu [2])), (.left, .poll),
        (.left, .poll), (.right, .lose 0), (.right, .deliver), (.right, .poll), (.left, .deliver),
        (.left, .poll), (.left, .poll), (.right, .deliver), (.right, .deliver)],
      by decide, rfl⟩).1

/-- A window of three, a limit of one and one lost frame: the two frames behind
    it provoke two rejects and the second one fails the sender. -/
theorem single_loss_fails_window_three :
    ∃ (config : ErtmConfig) (engine : ErtmEngine) (net : Net ErtmNode Bytes),
      ErtmEngine.new config = .ok engine ∧ MatchingConfigs config config ∧
      1 ≤ config.maxRetransmissions ∧
      Net.Reachable ertmParty SingleLossMove (ertmNet engine engine) net ∧
      net.lost = 1 ∧ net.left.engine.failed = true :=
  ⟨{ txWindowSize := 3, maxRetransmissions := 1 }, _, _, rfl,
    ⟨by decide, by decide, by decide, by decide⟩, by decide,
    ⟨[(.left, .call (.sendSdu [1])), (.left, .call (.sendSdu [2])), (.left, .call (.sendSdu [3])),
        (.left, .poll), (.left, .poll), (.left, .poll), (.right, .lose 0), (.right, .deliver),
        (.right, .deliver), (.right, .poll), (.right, .poll), (.left, .deliver), (.left, .deliver)],
      by decide, rfl⟩, by decide, by decide⟩

end Bumble.Ertm
