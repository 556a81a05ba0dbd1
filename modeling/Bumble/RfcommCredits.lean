import Bumble.RfcommSession

/-!
# Credits of an RFCOMM DLC

Between the two ends of a DLC every credit is in one of three places: with the
sender, in a grant on its way to it, or spent on a frame of data on its way to
the receiver.  The account holds from the parameter negotiation on, over any
run in which what is transmitted fits; a negotiation of more credits than the
three bits of the message can carry is off from the start.
-/

namespace Bumble.Rfcomm

/-! ## 1. The account of two ends -/

/-- **The account.**  The credits of either end, those in grants towards it and
    those spent on data under way make up the other end's count. -/
structure Balanced (dlci : UInt8) (here there : Dlc) (outgoing incoming : List RfcommFrame) :
    Prop where
  forth : here.txCredits.toNat + grantsIn dlci incoming + dataFramesIn dlci outgoing =
    there.rxCredits.toNat
  back : there.txCredits.toNat + grantsIn dlci outgoing + dataFramesIn dlci incoming =
    here.rxCredits.toNat

section Account

variable {dlci : UInt8} {here there : Dlc} {outgoing incoming : List RfcommFrame}

theorem Balanced.swap (hbalanced : Balanced dlci here there outgoing incoming) :
    Balanced dlci there here incoming outgoing := ⟨hbalanced.back, hbalanced.forth⟩

theorem Balanced.transmit (hbalanced : Balanced dlci here there outgoing incoming)
    (hdlci : here.dlci = dlci) {call : DlcCall} (hcall : here.Transmits call) :
    Balanced dlci call.1 there (outgoing ++ call.2) incoming := by
  have hforth := hbalanced.forth
  have hback := hbalanced.back
  have hrx := hcall.rx
  have htx := hcall.tx
  rw [hdlci] at hrx htx
  constructor
  · rw [dataFramesIn_append]
    omega
  · rw [grantsIn_append]
    omega

theorem Balanced.receive {frame : RfcommFrame}
    (hbalanced : Balanced dlci here there outgoing (frame :: incoming))
    (hdlci : here.dlci = dlci) (hframe : isUih dlci frame = true) :
    Balanced dlci (here.takeUih frame) there outgoing incoming ∧
    here.takeUih frame = { here with
      txCredits := (here.takeUih frame).txCredits
      rxCredits := (here.takeUih frame).rxCredits
      rxPackets := (here.takeUih frame).rxPackets } := by
  have hforth := hbalanced.forth
  have hback := hbalanced.back
  rw [grantsIn_cons] at hforth
  rw [dataFramesIn_cons] at hback
  have hbound := there.rxCredits.toNat_lt
  subst hdlci
  obtain ⟨htx, hrx, hsame⟩ := here.takeUih_spec hframe (by omega) (by omega)
  refine ⟨⟨?_, ?_⟩, hsame⟩ <;> omega

/-- **Every event keeps the account**, when what it transmits fits. -/
theorem Balanced.event {event : DlcEvent}
    (hbalanced : Balanced dlci here there outgoing (event.consumed ++ incoming))
    (hdlci : here.dlci = dlci) (hlimited : here.Limited) (hvalid : event.Valid dlci)
    (hfits : ∀ dlc ∈ event.start here, dlc.fits = true) :
    Balanced dlci (event.result here).1 there (outgoing ++ (event.result here).2) incoming := by
  cases event with
  | control state consumed sent =>
    obtain ⟨-, hconsumed, hsent⟩ := hvalid
    obtain ⟨hgrants, hcosts, -⟩ := carry_nothing hconsumed
    obtain ⟨hgrants', hcosts', -⟩ := carry_nothing hsent
    have hforth := hbalanced.forth
    have hback := hbalanced.back
    simp only [DlcEvent.consumed, grantsIn_append, dataFramesIn_append] at hforth hback
    constructor
    · simp only [DlcEvent.result, dataFramesIn_append]
      omega
    · simp only [DlcEvent.result, grantsIn_append]
      omega
  | limits maxCredits threshold => simpa [DlcEvent.result] using ⟨hbalanced.forth, hbalanced.back⟩
  | pause => simpa [DlcEvent.result] using ⟨hbalanced.forth, hbalanced.back⟩
  | takeRx => simpa [DlcEvent.result] using ⟨hbalanced.forth, hbalanced.back⟩
  | resume =>
    have hstart : Balanced dlci { here with readingPaused := false } there outgoing incoming :=
      ⟨hbalanced.forth, hbalanced.back⟩
    have hlimits : { here with readingPaused := false }.Limited := hlimited
    exact hstart.transmit hdlci (Dlc.processTx_spec hlimits (hfits _ rfl)).1
  | write data =>
    have hstart : Balanced dlci { here with txBuffer := here.txBuffer ++ data } there outgoing
        incoming := ⟨hbalanced.forth, hbalanced.back⟩
    have hlimits : { here with txBuffer := here.txBuffer ++ data }.Limited := hlimited
    exact hstart.transmit hdlci (Dlc.processTx_spec hlimits (hfits _ rfl)).1
  | receive frame =>
    obtain ⟨htaken, hsame⟩ := Balanced.receive hbalanced hdlci hvalid
    have hlimits : (here.takeUih frame).Limited := by
      rw [hsame]
      exact hlimited
    have hown : (here.takeUih frame).dlci = dlci := by
      rw [hsame]
      exact hdlci
    exact htaken.transmit hown (Dlc.processTx_spec hlimits (hfits _ rfl)).1

end Account

/-! ## 2. Runs -/

/-- What a move transmits fits: the grant in its octet, the data in the frame.
    Nothing is lost. -/
def TransmitsFit (net : Net RfcommNode RfcommFrame) : Move RfcommInput → Prop
  | .call input => ∀ dlc ∈ net.left.callStart input, dlc.fits = true
  | .poll => True
  | .deliver => ∀ frame ∈ net.toLeft.head?, ∀ dlc ∈ net.left.receiveStart frame, dlc.fits = true
  | .lose _ => False

instance (net : Net RfcommNode RfcommFrame) (move : Move RfcommInput) :
    Decidable (TransmitsFit net move) :=
  match move with
  | .call input => inferInstanceAs (Decidable (∀ dlc ∈ net.left.callStart input, _))
  | .poll => .isTrue trivial
  | .deliver => inferInstanceAs (Decidable (∀ frame ∈ net.toLeft.head?, _))
  | .lose _ => .isFalse id

/-- An event that starts to transmit in a DLC where everything fits. -/
def EventFits (dlc : Dlc) (event : DlcEvent) : Prop := ∀ start ∈ event.start dlc, start.fits = true

theorem receiveStart_some {dlci : UInt8} {node : RfcommNode} {dlc : Dlc} {frame : RfcommFrame}
    (hholds : Holds dlci node.mux dlc) (hdlci : dlci ≠ 0) (hframe : isUih dlci frame = true) :
    node.receiveStart frame = some (dlc.takeUih frame) := by
  obtain ⟨htype, hown⟩ : frame.frameType = .uih ∧ frame.dlci = dlci := by
    simpa [isUih] using hframe
  subst hown
  rw [RfcommNode.receiveStart, if_pos ⟨htype, hdlci⟩, hholds.stored]
  rfl

theorem permitting_transmitsFit {dlci : UInt8} (hdlci : dlci ≠ 0) :
    Permitting dlci EventFits TransmitsFit where
  call hallowed hholds := fun start hstart => hallowed start (callEvent_start hholds _ start hstart)
  deliver := by
    intro net frame rest dlc hallowed hlink hholds hframe start hstart
    cases hstart
    exact hallowed frame (by rw [hlink]; rfl) _ (receiveStart_some hholds hdlci hframe)
  lossless := id

def Account (dlci : UInt8) (here there : End) (sent coming : List RfcommFrame) : Prop :=
  Balanced dlci here.dlc there.dlc sent coming

theorem and_seven {credits : UInt8} (hcredits : credits < 8) : credits &&& 0x07 = credits := by
  apply UInt8.toNat_inj.mp
  rw [UInt8.lt_iff_toNat_lt] at hcredits
  rw [UInt8.toNat_and]
  exact (Nat.and_two_pow_sub_one_eq_mod credits.toNat 3).trans (Nat.mod_eq_of_lt hcredits)

theorem toUInt8_toUInt16 {credits : UInt16} (hcredits : credits < 8) :
    credits.toUInt8 < 8 ∧ credits.toUInt8.toUInt16 = credits := by
  rw [UInt16.lt_iff_toNat_lt] at hcredits
  change credits.toNat < 8 at hcredits
  have hoctet : credits.toUInt8.toNat = credits.toNat := by
    rw [UInt16.toNat_toUInt8]
    omega
  constructor
  · rw [UInt8.lt_iff_toNat_lt, hoctet]
    exact hcredits
  · apply UInt16.toNat_inj.mp
    rw [UInt8.toNat_toUInt16, hoctet]

theorem joint_account {terms : Negotiation} (hopener : terms.initialCredits.toUInt8 < 8)
    (hacceptor : terms.rxInitialCredits < 8) :
    Joint terms EventFits (Account terms.dlci) where
  start := by
    obtain ⟨hoctet, hword⟩ := toUInt8_toUInt16 hacceptor
    constructor
    · simp [End.fresh, Negotiation.openerDlc, Negotiation.acceptorDlc, Dlc.new, and_seven hoctet,
        hword]
    · simp [End.fresh, Negotiation.openerDlc, Negotiation.acceptorDlc, Dlc.new, and_seven hopener]
  swap := Balanced.swap
  event hrelation hown hlimited hvalid hfits :=
    Balanced.event hrelation hown hlimited hvalid hfits
  control := by
    rintro dlc state consumed sent start ⟨⟩

/-! ## 3. The theorem -/

/-- Whenever both ends are connected, for each direction the sender's credits,
    those in grants towards it and the data frames towards the receiver make up
    the receiver's count. -/
def Conserved (dlci : UInt8) (net : Net RfcommNode RfcommFrame) : Prop :=
  ∀ here there : Dlc, net.left.mux.dlcs[dlci]? = some here →
    net.right.mux.dlcs[dlci]? = some there →
    here.state = .connected → there.state = .connected →
    here.txCredits.toNat + grantsIn dlci (incoming net) + dataFramesIn dlci (outgoing net) =
      there.rxCredits.toNat ∧
    there.txCredits.toNat + grantsIn dlci (outgoing net) + dataFramesIn dlci (incoming net) =
      here.rxCredits.toNat

/-- **Credits are conserved.**  For a DLC opened by `open_dlc` and `listen` with
    initial credits that the negotiation can carry, in every state that calls and
    deliveries lead to, as long as what each transmits fits. -/
theorem credits_conserved {opener acceptor : Multiplexer} {channel : UInt8}
    {maxFrameSize initialCredits rxMaxFrameSize rxInitialCredits : UInt16} (hopener : Idle opener)
    (hstate : opener.state = .connected) (hacceptor : Idle acceptor)
    (hlisten : acceptor.acceptor[(channel <<< 1) >>> 1]? = some (rxMaxFrameSize, rxInitialCredits))
    (hinitial : initialCredits.toUInt8 < 8) (hrxInitial : rxInitialCredits < 8)
    {net : Net RfcommNode RfcommFrame}
    (hreach : Net.Reachable (rfcommParty (channel <<< 1)) TransmitsFit
      (openingNet opener acceptor channel maxFrameSize initialCredits) net) :
    Conserved (channel <<< 1) net := by
  have hjoint : Joint (sessionTerms opener acceptor channel maxFrameSize initialCredits
      rxMaxFrameSize rxInitialCredits) EventFits (Account (channel <<< 1)) :=
    joint_account hinitial hrxInitial
  intro here there hhere hthere hopen _
  have haccount := hjoint.session permitting_transmitsFit hopener hstate hacceptor hlisten hreach
    hhere hthere hopen
  exact ⟨haccount.forth, haccount.back⟩

/-- The moves that open a DLC: command, response, SABM and UA. -/
def openingMoves : List (Side × Move RfcommInput) :=
  [(.left, .poll), (.right, .deliver), (.right, .poll), (.left, .deliver), (.left, .poll),
    (.right, .deliver), (.right, .poll), (.left, .deliver)]

/-- A session of two sides with an MTU of 64 on which channel 1 is opened. -/
def channelOne (initialCredits rxInitialCredits : UInt16) : Net RfcommNode RfcommFrame :=
  openingNet (connectedInitiator 64) (connectedResponder 64 1 32 rxInitialCredits) 1 32
    initialCredits

theorem credits_conserved_channel_one :
    Conserved 2 ((channelOne 7 5).run (rfcommParty 2)
      (openingMoves ++ [(.left, .call (.write 2 [1, 2, 3])), (.left, .poll),
        (.right, .deliver)])) := by
  have hlisten : (connectedResponder 64 1 32 5).acceptor[((1 : UInt8) <<< 1) >>> 1]? =
      some (32, 5) := by
    decide
  exact credits_conserved (idle_connectedInitiator 64) rfl (idle_connectedResponder 64 1 32 5)
    hlisten (by decide) (by decide) ⟨_, by decide, rfl⟩

/-- The acceptor counts eight initial credits and the response carries none of
    them: the opener is connected with no credit. -/
theorem initial_credits_drift :
    ¬ ∀ (initialCredits rxInitialCredits : UInt16) (moves : List (Side × Move RfcommInput)),
      (∀ move ∈ moves, ∀ index, move.2 ≠ .lose index) →
      Conserved 2 ((channelOne initialCredits rxInitialCredits).run (rfcommParty 2) moves) := by
  intro hall
  have hconserved := hall 7 8 openingMoves (by simp [openingMoves])
  have hleft : ((channelOne 7 8).run (rfcommParty 2) openingMoves).left.mux.dlcs[(2 : UInt8)]?.map
      (fun dlc => (dlc.state, dlc.txCredits)) = some (.connected, 0) := by
    decide
  have hright : ((channelOne 7 8).run (rfcommParty 2) openingMoves).right.mux.dlcs[(2 : UInt8)]?.map
      (fun dlc => (dlc.state, dlc.rxCredits)) = some (.connected, 8) := by
    decide
  have hflight :
      grantsIn 2 (incoming ((channelOne 7 8).run (rfcommParty 2) openingMoves)) +
        dataFramesIn 2 (outgoing ((channelOne 7 8).run (rfcommParty 2) openingMoves)) = 0 := by
    decide
  obtain ⟨here, hhere, hhereIs⟩ := Option.map_eq_some_iff.mp hleft
  obtain ⟨there, hthere, hthereIs⟩ := Option.map_eq_some_iff.mp hright
  simp only [Prod.mk.injEq] at hhereIs hthereIs
  have hforth := (hconserved here there hhere hthere hhereIs.1 hthereIs.1).1
  rw [hhereIs.2, hthereIs.2, Nat.add_assoc, hflight] at hforth
  exact absurd hforth (by decide)

end Bumble.Rfcomm
