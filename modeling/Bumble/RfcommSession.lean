import Bumble.RfcommEvents

/-!
# Two multiplexers open a DLC and use it

One side has called `open_dlc`, the other listens.  A run is any interleaving
of calls, polls and deliveries from there.  It passes through three stages: the
negotiation command is under way; the acceptor has its DLC and the response is
under way, possibly with data behind it; both sides have their DLC.

A DLC that is not there yet is already known: the messages of the negotiation
determine it.  A relation between the two ends and what is under way can
therefore be followed through all stages, and `Joint.holds` reduces it to the
events of one end.
-/

namespace Bumble.Rfcomm

/-! ## 1. The negotiation -/

/-- What the two sides bring to the opening of a DLC. -/
structure Negotiation where
  channel : UInt8
  openerRole : Role
  openerMtu : UInt16
  maxFrameSize : UInt16
  initialCredits : UInt16
  acceptorRole : Role
  acceptorMtu : UInt16
  rxMaxFrameSize : UInt16
  rxInitialCredits : UInt16

namespace Negotiation

variable (terms : Negotiation)

def dlci : UInt8 := terms.channel <<< 1

/-- The message that `open_dlc` sends. -/
def command : RfcommMccPn where
  dlci := terms.dlci
  cl := 0xF0
  priority := 7
  ackTimer := 0
  maxFrameSize := terms.maxFrameSize
  maxRetransmissions := 0
  initialCredits := terms.initialCredits.toUInt8

def response : RfcommMccPn where
  dlci := terms.dlci
  cl := 0xE0
  priority := 7
  ackTimer := 0
  maxFrameSize := terms.rxMaxFrameSize
  maxRetransmissions := 0
  initialCredits := terms.rxInitialCredits.toUInt8

def commandFrame : RfcommFrame :=
  .uih terms.openerRole.isInitiator 0 (makeMcc .pn true terms.command.toBytes) false

def responseFrame : RfcommFrame :=
  .uih terms.acceptorRole.isInitiator 0 (makeMcc .pn false terms.response.toBytes) false

/-- The DLC that the acceptor makes of the command. -/
def acceptorDlc : Dlc :=
  { Dlc.new terms.acceptorRole terms.dlci terms.maxFrameSize
      (terms.initialCredits.toUInt8 &&& 0x07).toUInt16 terms.rxInitialCredits terms.acceptorMtu with
    state := .connecting }

/-- The DLC that the opener makes of the response and its own message. -/
def openerDlc : Dlc :=
  { Dlc.new terms.openerRole terms.dlci terms.rxMaxFrameSize
      (terms.rxInitialCredits.toUInt8 &&& 0x07).toUInt16 terms.initialCredits.toUInt8.toUInt16
      terms.openerMtu with
    state := .connecting }

theorem dlci_even : terms.dlci &&& 1 = 0 := by
  apply UInt8.toNat_inj.mp
  simp only [dlci, UInt8.toNat_and, UInt8.toNat_shiftLeft, UInt8.toNat_one, UInt8.toNat_zero,
    Nat.and_one_is_mod, Nat.shiftLeft_eq, Nat.reduceMod, Nat.pow_one]
  omega

theorem limited_openerDlc : terms.openerDlc.Limited := by
  change rfcommDefaultCreditThreshold ≤ rfcommDefaultMaxCredits.toUInt16
  decide

theorem limited_acceptorDlc : terms.acceptorDlc.Limited := by
  change rfcommDefaultCreditThreshold ≤ rfcommDefaultMaxCredits.toUInt16
  decide

end Negotiation

/-! ## 2. The stages -/

/-- One end of the DLC, with what was written to it and taken from it. -/
structure End where
  dlc : Dlc
  written : Bytes
  taken : List Bytes

namespace End

def fresh (dlc : Dlc) : End := ⟨dlc, [], []⟩

def after (here : End) (event : DlcEvent) : End :=
  ⟨(event.result here.dlc).1, here.written ++ event.wrote, here.taken ++ event.took here.dlc⟩

end End

/-- The node has the end's DLC, and the end's record. -/
structure IsEnd (dlci : UInt8) (node : RfcommNode) (here : End) : Prop where
  holds : Holds dlci node.mux here.dlc
  written : node.written = here.written
  taken : node.taken = here.taken

structure Opening (terms : Negotiation) (node : RfcommNode) : Prop where
  absent : ∀ dlci : UInt8, node.mux.dlcs[dlci]? = none
  state : node.mux.state = .opening
  openPn : node.mux.openPn = some terms.command
  role : node.mux.role = terms.openerRole
  peerMtu : node.mux.peerMtu = terms.openerMtu
  written : node.written = []
  taken : node.taken = []

structure Listening (terms : Negotiation) (node : RfcommNode) : Prop where
  absent : ∀ dlci : UInt8, node.mux.dlcs[dlci]? = none
  acceptor : node.mux.acceptor[terms.dlci >>> 1]? =
    some (terms.rxMaxFrameSize, terms.rxInitialCredits)
  role : node.mux.role = terms.acceptorRole
  peerMtu : node.mux.peerMtu = terms.acceptorMtu
  written : node.written = []
  taken : node.taken = []

/-- What is under way from the left side: on the link, and behind it in the
    outbox. -/
def outgoing (net : Net RfcommNode RfcommFrame) : List RfcommFrame :=
  net.toRight ++ net.left.mux.outbox

def incoming (net : Net RfcommNode RfcommFrame) : List RfcommFrame := outgoing net.swap

/-- **The stages** of a run whose left side opens the DLC, with its two ends. -/
inductive Stage (terms : Negotiation) (net : Net RfcommNode RfcommFrame) : End → End → Prop
  | requested (hopener : Opening terms net.left) (hacceptor : Listening terms net.right)
      (hout : outgoing net = [terms.commandFrame]) (hin : incoming net = []) :
      Stage terms net (.fresh terms.openerDlc) (.fresh terms.acceptorDlc)
  | accepted (there : End) (rest : List RfcommFrame) (hopener : Opening terms net.left)
      (hacceptor : IsEnd terms.dlci net.right there) (hout : outgoing net = [])
      (hin : incoming net = terms.responseFrame :: rest)
      (hplain : ∀ frame ∈ rest, Plain terms.dlci frame) :
      Stage terms net (.fresh terms.openerDlc) there
  | opened (here there : End) (hopener : IsEnd terms.dlci net.left here)
      (hacceptor : IsEnd terms.dlci net.right there)
      (hout : ∀ frame ∈ outgoing net, Plain terms.dlci frame)
      (hin : ∀ frame ∈ incoming net, Plain terms.dlci frame) : Stage terms net here there

/-! ## 3. Moves without a DLC -/

theorem call_none {dlci : UInt8} {node : RfcommNode}
    (hnone : ∀ target : UInt8, node.mux.dlcs[target]? = none) (input : RfcommInput) :
    node.call dlci input = node := by
  cases input with
  | write target data =>
    have hwrite : node.mux.write target data = .fail node.mux (Multiplexer.noDlc target) := by
      simp only [Multiplexer.write, hnone]
    simp [RfcommNode.call, hwrite, Except.isOk, Except.toBool]
  | setReadingPaused target paused =>
    simp [RfcommNode.call, Multiplexer.setDlcReadingPaused, hnone]
  | setReceiveCredits target maxCredits threshold =>
    simp only [RfcommNode.call, Multiplexer.setDlcReceiveCredits, hnone]
    split <;> rfl
  | takeRx target => simp [RfcommNode.call, Multiplexer.takeRx, hnone]

section Handshake

variable {terms : Negotiation} {node : RfcommNode}

theorem Listening.receive (hlistening : Listening terms node) :
    IsEnd terms.dlci (node.receive terms.commandFrame) (.fresh terms.acceptorDlc) ∧
    (node.receive terms.commandFrame).mux.outbox = node.mux.outbox ++ [terms.responseFrame] := by
  have hpdu : node.mux.onPdu terms.commandFrame =
      node.mux.store terms.dlci (terms.acceptorDlc, [terms.responseFrame]) := by
    simp only [Multiplexer.onPdu, Multiplexer.onControlFrame, Multiplexer.onUihControl,
      Negotiation.commandFrame, RfcommFrame.uih, parseMcc_makeMcc, RfcommMccPn.fromBytes_toBytes,
      if_true, Multiplexer.onMccPn, Negotiation.command, terms.dlci_even, ne_eq, not_true_eq_false,
      if_false, hlistening.acceptor, hlistening.role, hlistening.peerMtu]
    rfl
  simp only [RfcommNode.receive, hpdu]
  refine ⟨⟨⟨?_, ?_, rfl, terms.limited_acceptorDlc, by simp [End.fresh, Negotiation.acceptorDlc]⟩,
    hlistening.written, hlistening.taken⟩, rfl⟩
  · simp [Multiplexer.store, Multiplexer.push, End.fresh]
  · intro other hother
    simp only [Multiplexer.store, Multiplexer.push, OrderedMap.getElem?_insert,
      if_neg (Ne.symm hother)]
    exact hlistening.absent other

theorem Opening.receive (hopening : Opening terms node) :
    IsEnd terms.dlci (node.receive terms.responseFrame) (.fresh terms.openerDlc) ∧
    (node.receive terms.responseFrame).mux.outbox =
      node.mux.outbox ++ [.sabm terms.openerRole.isInitiator terms.dlci] := by
  have hpdu : node.mux.onPdu terms.responseFrame =
      ({ node.mux with openPn := none } : Multiplexer).store terms.dlci
        (terms.openerDlc, [.sabm terms.openerRole.isInitiator terms.dlci]) := by
    simp only [Multiplexer.onPdu, Multiplexer.onControlFrame, Multiplexer.onUihControl,
      Negotiation.responseFrame, RfcommFrame.uih, parseMcc_makeMcc, RfcommMccPn.fromBytes_toBytes,
      if_true, Multiplexer.onMccPn, Bool.false_eq_true, if_false, hopening.state, hopening.openPn,
      hopening.role, hopening.peerMtu]
    rfl
  simp only [RfcommNode.receive, hpdu]
  refine ⟨⟨⟨?_, ?_, rfl, terms.limited_openerDlc, by simp [End.fresh, Negotiation.openerDlc]⟩,
    hopening.written, hopening.taken⟩, rfl⟩
  · simp [Multiplexer.store, Multiplexer.push, End.fresh]
  · intro other hother
    simp only [Multiplexer.store, Multiplexer.push, OrderedMap.getElem?_insert,
      if_neg (Ne.symm hother)]
    exact hopening.absent other

end Handshake

/-! ## 4. Moves of an end -/

section Ends

variable {dlci : UInt8} {node : RfcommNode} {here : End}

theorem IsEnd.call (hend : IsEnd dlci node here) (input : RfcommInput) :
    IsEnd dlci (node.call dlci input) (here.after (callEvent dlci here.dlc input)) where
  holds := (call_moves hend.holds input).moves.holds
  written := by rw [(call_moves hend.holds input).written, hend.written]; rfl
  taken := by rw [(call_moves hend.holds input).taken, hend.taken]; rfl

theorem IsEnd.receive (hend : IsEnd dlci node here) {frame : RfcommFrame} {event : DlcEvent}
    (hmoves : Moves dlci node.mux (node.mux.onPdu frame) here.dlc event)
    (hwrote : event.wrote = []) (htook : event.took here.dlc = []) :
    IsEnd dlci (node.receive frame) (here.after event) where
  holds := hmoves.holds
  written := by simp [RfcommNode.receive, End.after, hwrote, hend.written]
  taken := by simp [RfcommNode.receive, End.after, htook, hend.taken]

theorem IsEnd.withOutbox (hend : IsEnd dlci node here) (outbox : List RfcommFrame) :
    IsEnd dlci { node with mux := { node.mux with outbox } } here :=
  ⟨⟨hend.holds.stored, hend.holds.only, hend.holds.own, hend.holds.limited, hend.holds.kept⟩,
    hend.written, hend.taken⟩

end Ends

theorem poll_cases {dlci : UInt8} (net : Net RfcommNode RfcommFrame) :
    net.stepLeft (rfcommParty dlci) .poll = net ∨
    ∃ frame outbox, net.left.mux.outbox = frame :: outbox ∧
      net.stepLeft (rfcommParty dlci) .poll =
        { net with
          left := { net.left with mux := { net.left.mux with outbox } }
          toRight := net.toRight ++ [frame] } := by
  cases houtbox : net.left.mux.outbox with
  | nil =>
    left
    apply Net.stepLeft_poll_none
    simp [rfcommParty, RfcommNode.poll, houtbox]
  | cons frame outbox =>
    right
    refine ⟨frame, outbox, rfl, ?_⟩
    apply Net.stepLeft_poll_some
    simp [rfcommParty, RfcommNode.poll, houtbox]

/-- A relation of the two ends and what is under way that every permitted event
    of one end keeps. -/
structure Joint (terms : Negotiation) (permits : Dlc → DlcEvent → Prop)
    (relation : End → End → List RfcommFrame → List RfcommFrame → Prop) : Prop where
  start : relation (.fresh terms.openerDlc) (.fresh terms.acceptorDlc) [] []
  swap : ∀ {here there sent coming}, relation here there sent coming →
    relation there here coming sent
  event : ∀ {here there sent coming} {event : DlcEvent},
    relation here there sent (event.consumed ++ coming) → here.dlc.dlci = terms.dlci →
    here.dlc.Limited → event.Valid terms.dlci → permits here.dlc event →
    relation (here.after event) there (sent ++ (event.result here.dlc).2) coming
  control : ∀ dlc state consumed sent, permits dlc (.control state consumed sent)

/-- What a run's conditions say of the events they let happen. -/
structure Permitting (dlci : UInt8) (permits : Dlc → DlcEvent → Prop)
    (allowed : Net RfcommNode RfcommFrame → Move RfcommInput → Prop) : Prop where
  call : ∀ {net input dlc}, allowed net (.call input) → Holds dlci net.left.mux dlc →
    permits dlc (callEvent dlci dlc input)
  deliver : ∀ {net frame rest dlc}, allowed net .deliver → net.toLeft = frame :: rest →
    Holds dlci net.left.mux dlc → isUih dlci frame = true → permits dlc (.receive frame)
  lossless : ∀ {net index}, ¬ allowed net (.lose index)

section Steps

variable {terms : Negotiation} {permits : Dlc → DlcEvent → Prop}
  {relation : End → End → List RfcommFrame → List RfcommFrame → Prop}
  {allowed : Net RfcommNode RfcommFrame → Move RfcommInput → Prop}
  {net : Net RfcommNode RfcommFrame} {here there : End}

/-- A move of one end keeps the relation between the ends and the frames in flight. -/
theorem end_step (hjoint : Joint terms permits relation)
    (hpermitting : Permitting terms.dlci permits allowed) (hdlci : terms.dlci ≠ 0)
    {move : Move RfcommInput} (hallowed : allowed net move)
    (hend : IsEnd terms.dlci net.left here)
    (hplain : ∀ frame ∈ incoming net, Plain terms.dlci frame)
    (hrelation : relation here there (outgoing net) (incoming net)) :
    ∃ here' sent, IsEnd terms.dlci (net.stepLeft (rfcommParty terms.dlci) move).left here' ∧
      (net.stepLeft (rfcommParty terms.dlci) move).right = net.right ∧
      outgoing (net.stepLeft (rfcommParty terms.dlci) move) = outgoing net ++ sent ∧
      (∀ frame ∈ sent, Plain terms.dlci frame) ∧
      (∀ frame ∈ incoming (net.stepLeft (rfcommParty terms.dlci) move),
        frame ∈ incoming net) ∧
      relation here' there (outgoing (net.stepLeft (rfcommParty terms.dlci) move))
        (incoming (net.stepLeft (rfcommParty terms.dlci) move)) := by
  cases move with
  | lose index => exact absurd hallowed hpermitting.lossless
  | poll =>
    rcases poll_cases net with hstep | ⟨frame, outbox, houtbox, hstep⟩
    · rw [hstep]
      exact ⟨here, [], hend, rfl, by simp, by simp, fun frame hmem => hmem, hrelation⟩
    · rw [hstep]
      have hout : outgoing { net with
          left := { net.left with mux := { net.left.mux with outbox } }
          toRight := net.toRight ++ [frame] } = outgoing net := by
        simp [outgoing, houtbox]
      refine ⟨here, [], hend.withOutbox outbox, rfl, by simp [hout], by simp,
        fun frame hmem => hmem,
        ?_⟩
      rw [hout]
      exact hrelation
  | call input =>
    rw [Net.stepLeft_call]
    have hmoves := (call_moves hend.holds input).moves
    have hout : outgoing { net with left := (rfcommParty terms.dlci).call net.left input } =
        outgoing net ++ ((callEvent terms.dlci here.dlc input).result here.dlc).2 := by
      simp only [outgoing, rfcommParty, List.append_assoc]
      rw [hmoves.sends]
    refine ⟨here.after (callEvent terms.dlci here.dlc input), _, hend.call input, rfl, hout,
      hmoves.plain, fun frame hmem => hmem, ?_⟩
    rw [hout]
    apply hjoint.event _ hend.holds.own hend.holds.limited hmoves.valid
      (hpermitting.call hallowed hend.holds)
    rw [callEvent_consumed]
    exact hrelation
  | deliver =>
    cases hlink : net.toLeft with
    | nil =>
      rw [Net.stepLeft_deliver_nil hlink]
      exact ⟨here, [], hend, rfl, by simp, by simp, fun frame hmem => hmem, hrelation⟩
    | cons frame rest =>
      rw [Net.stepLeft_deliver_cons hlink]
      have hin : incoming net = frame :: (rest ++ net.right.mux.outbox) := by
        simp [incoming, outgoing, hlink]
      have hevent : ∃ event : DlcEvent, event.consumed = [frame] ∧ event.wrote = [] ∧
          event.took here.dlc = [] ∧ permits here.dlc event ∧
          Moves terms.dlci net.left.mux (net.left.mux.onPdu frame) here.dlc event := by
        have hframe := hplain frame (by rw [hin]; exact List.mem_cons_self)
        rcases onPdu_moves hend.holds hdlci hframe with ⟨huih, hmoves⟩ | ⟨state, sent, hmoves⟩
        · exact ⟨_, rfl, rfl, rfl, hpermitting.deliver hallowed hlink hend.holds huih, hmoves⟩
        · exact ⟨_, rfl, rfl, rfl, hjoint.control _ _ _ _, hmoves⟩
      obtain ⟨event, hconsumed, hwrote, htook, hpermits, hmoves⟩ := hevent
      have hout : outgoing { net with
          left := (rfcommParty terms.dlci).receive net.left frame, toLeft := rest } =
          outgoing net ++ (event.result here.dlc).2 := by
        simp only [outgoing, rfcommParty, RfcommNode.receive, List.append_assoc]
        rw [hmoves.sends]
      refine ⟨here.after event, _, hend.receive hmoves hwrote htook, rfl, hout,
        hmoves.plain, ?_, ?_⟩
      · intro other hmem
        rw [hin]
        exact List.mem_cons_of_mem _ hmem
      · rw [hout]
        apply hjoint.event _ hend.holds.own hend.holds.limited hmoves.valid hpermits
        rw [hconsumed]
        rw [hin] at hrelation
        exact hrelation

/-- **An end without a DLC** waits until a frame arrives. -/
theorem waiting_cases (hpermitting : Permitting terms.dlci permits allowed)
    {move : Move RfcommInput} (hallowed : allowed net move)
    (habsent : ∀ target : UInt8, net.left.mux.dlcs[target]? = none) :
    (∃ outbox, (net.stepLeft (rfcommParty terms.dlci) move).left =
        { net.left with mux := { net.left.mux with outbox } } ∧
      (net.stepLeft (rfcommParty terms.dlci) move).right = net.right ∧
      outgoing (net.stepLeft (rfcommParty terms.dlci) move) = outgoing net ∧
      incoming (net.stepLeft (rfcommParty terms.dlci) move) = incoming net) ∨
    ∃ frame link, move = .deliver ∧ net.toLeft = frame :: link := by
  cases move with
  | lose index => exact absurd hallowed hpermitting.lossless
  | call input =>
    left
    have hcall : (rfcommParty terms.dlci).call net.left input = net.left := call_none habsent input
    rw [Net.stepLeft_call, hcall]
    exact ⟨net.left.mux.outbox, rfl, rfl, rfl, rfl⟩
  | poll =>
    left
    rcases poll_cases net with hstep | ⟨frame, outbox, houtbox, hstep⟩
    · rw [hstep]
      exact ⟨net.left.mux.outbox, rfl, rfl, rfl, rfl⟩
    · rw [hstep]
      exact ⟨outbox, rfl, rfl, by simp [outgoing, houtbox], rfl⟩
  | deliver =>
    cases hlink : net.toLeft with
    | nil =>
      left
      rw [Net.stepLeft_deliver_nil hlink]
      exact ⟨net.left.mux.outbox, rfl, rfl, rfl, rfl⟩
    | cons frame link => exact .inr ⟨frame, link, rfl, rfl⟩

theorem Opening.withOutbox {node : RfcommNode} (hopening : Opening terms node)
    (outbox : List RfcommFrame) :
    Opening terms { node with mux := { node.mux with outbox } } :=
  ⟨hopening.absent, hopening.state, hopening.openPn, hopening.role, hopening.peerMtu,
    hopening.written, hopening.taken⟩

theorem Listening.withOutbox {node : RfcommNode} (hlistening : Listening terms node)
    (outbox : List RfcommFrame) :
    Listening terms { node with mux := { node.mux with outbox } } :=
  ⟨hlistening.absent, hlistening.acceptor, hlistening.role, hlistening.peerMtu,
    hlistening.written, hlistening.taken⟩

theorem isUih_commandFrame (hdlci : terms.dlci ≠ 0) :
    isUih terms.dlci terms.commandFrame = false := by
  simp [isUih, Negotiation.commandFrame, RfcommFrame.uih, Ne.symm hdlci]

theorem isUih_responseFrame (hdlci : terms.dlci ≠ 0) :
    isUih terms.dlci terms.responseFrame = false := by
  simp [isUih, Negotiation.responseFrame, RfcommFrame.uih, Ne.symm hdlci]

/-- **The opener moves.** -/
theorem opener_step (hjoint : Joint terms permits relation)
    (hpermitting : Permitting terms.dlci permits allowed) (hdlci : terms.dlci ≠ 0)
    {move : Move RfcommInput} (hallowed : allowed net move) (hstage : Stage terms net here there)
    (hrelation : relation here there (outgoing net) (incoming net)) :
    ∃ here' there', Stage terms (net.stepLeft (rfcommParty terms.dlci) move) here' there' ∧
      relation here' there' (outgoing (net.stepLeft (rfcommParty terms.dlci) move))
        (incoming (net.stepLeft (rfcommParty terms.dlci) move)) := by
  cases hstage with
  | requested hopener hacceptor hout hin =>
    rcases waiting_cases hpermitting hallowed hopener.absent with
      ⟨outbox, hleft, hright, hnextOut, hnextIn⟩ | ⟨frame, link, rfl, hlink⟩
    · refine ⟨_, _, .requested (by rw [hleft]; exact hopener.withOutbox outbox)
        (by rw [hright]; exact hacceptor) (by rw [hnextOut, hout]) (by rw [hnextIn, hin]), ?_⟩
      rw [hnextOut, hnextIn]
      exact hrelation
    · -- the acceptor has sent nothing yet
      have hempty : net.toLeft = [] := (List.append_eq_nil_iff.mp hin).1
      rw [hlink] at hempty
      cases hempty
  | accepted _ rest hopener hacceptor hout hin hplain =>
    rcases waiting_cases hpermitting hallowed hopener.absent with
      ⟨outbox, hleft, hright, hnextOut, hnextIn⟩ | ⟨frame, link, rfl, hlink⟩
    · refine ⟨_, _, .accepted there rest (by rw [hleft]; exact hopener.withOutbox outbox)
        (by rw [hright]; exact hacceptor) (by rw [hnextOut, hout])
        (by rw [hnextIn, hin]) hplain, ?_⟩
      rw [hnextOut, hnextIn]
      exact hrelation
    · rw [Net.stepLeft_deliver_cons hlink]
      have hcoming : frame = terms.responseFrame ∧ link ++ net.right.mux.outbox = rest := by
        simpa [incoming, outgoing, hlink] using hin
      obtain ⟨rfl, hrest⟩ := hcoming
      obtain ⟨hend, hsent⟩ := hopener.receive
      have hnextOut : outgoing { net with
          left := (rfcommParty terms.dlci).receive net.left terms.responseFrame
          toLeft := link } = outgoing net ++ [.sabm terms.openerRole.isInitiator terms.dlci] := by
        simp only [outgoing, rfcommParty, hsent, List.append_assoc]
      have hnextIn : incoming { net with
          left := (rfcommParty terms.dlci).receive net.left terms.responseFrame
          toLeft := link } = rest := hrest
      refine ⟨.fresh terms.openerDlc, there, .opened _ _ hend hacceptor ?_ ?_, ?_⟩
      · rw [hnextOut, hout]
        intro frame hmem
        rw [List.mem_singleton.mp hmem]
        exact .sabm _
      · rw [hnextIn]
        exact hplain
      · rw [hnextOut, hnextIn]
        -- the response is taken and the SABM sent, in one step of the opening
        have hvalid : (DlcEvent.control .connecting (some terms.responseFrame)
            [.sabm terms.openerRole.isInitiator terms.dlci]).Valid terms.dlci := by
          refine ⟨by decide, ?_, ?_⟩
          · simpa using isUih_responseFrame hdlci
          · intro frame hmem
            rw [List.mem_singleton.mp hmem]
            exact isUih_controlFrame .sabm _ _ (by decide)
        rw [hin] at hrelation
        exact hjoint.event hrelation rfl terms.limited_openerDlc hvalid (hjoint.control _ _ _ _)
  | opened _ _ hopener hacceptor hout hin =>
    obtain ⟨here', sent, hend, hright, hnextOut, hsent, hnextIn, hnext⟩ :=
      end_step hjoint hpermitting hdlci hallowed hopener hin hrelation
    refine ⟨here', there, .opened _ _ hend (by rw [hright]; exact hacceptor) ?_ ?_, hnext⟩
    · rw [hnextOut]
      intro frame hmem
      rcases List.mem_append.mp hmem with hmem | hmem
      · exact hout frame hmem
      · exact hsent frame hmem
    · intro frame hmem
      exact hin frame (hnextIn frame hmem)

/-- **The acceptor moves**: the stages are those of the net seen from the other
    end. -/
theorem acceptor_step (hjoint : Joint terms permits relation)
    (hpermitting : Permitting terms.dlci permits allowed) (hdlci : terms.dlci ≠ 0)
    {move : Move RfcommInput} (hallowed : allowed net move)
    (hstage : Stage terms net.swap here there)
    (hrelation : relation here there (incoming net) (outgoing net)) :
    ∃ here' there',
      Stage terms (net.stepLeft (rfcommParty terms.dlci) move).swap here' there' ∧
      relation here' there' (incoming (net.stepLeft (rfcommParty terms.dlci) move))
        (outgoing (net.stepLeft (rfcommParty terms.dlci) move)) := by
  cases hstage with
  | requested hopener hacceptor hout hin =>
    change incoming net = _ at hout
    change outgoing net = _ at hin
    rw [Net.swap_right] at hacceptor
    rcases waiting_cases hpermitting hallowed hacceptor.absent with
      ⟨outbox, hleft, hright, hnextOut, hnextIn⟩ | ⟨frame, link, rfl, hlink⟩
    · refine ⟨_, _, .requested (by rw [Net.swap_left, hright]; exact hopener)
        (show Listening terms (net.stepLeft _ move).left by
          rw [hleft]; exact hacceptor.withOutbox outbox)
        (show incoming (net.stepLeft _ move) = _ by rw [hnextIn, hout])
        (show outgoing (net.stepLeft _ move) = _ by rw [hnextOut, hin]), ?_⟩
      rw [hnextOut, hnextIn]
      exact hrelation
    · rw [Net.stepLeft_deliver_cons hlink]
      have hcoming : frame = terms.commandFrame ∧ link ++ net.right.mux.outbox = [] := by
        simpa [incoming, outgoing, hlink] using hout
      obtain ⟨rfl, hrest⟩ := hcoming
      obtain ⟨hend, hsent⟩ := hacceptor.receive
      have hnextOut : outgoing { net with
          left := (rfcommParty terms.dlci).receive net.left terms.commandFrame
          toLeft := link } = [terms.responseFrame] := by
        have hempty : net.toRight ++ net.left.mux.outbox = [] := hin
        change net.toRight ++ (net.left.receive terms.commandFrame).mux.outbox = _
        rw [hsent, ← List.append_assoc, hempty, List.nil_append]
      have hnextIn : incoming { net with
          left := (rfcommParty terms.dlci).receive net.left terms.commandFrame
          toLeft := link } = [] := hrest
      refine ⟨.fresh terms.openerDlc, .fresh terms.acceptorDlc,
        .accepted _ [] hopener hend hnextIn hnextOut (by simp), ?_⟩
      rw [hnextOut, hnextIn]
      have hvalid : (DlcEvent.control .connecting (some terms.commandFrame)
          [terms.responseFrame]).Valid terms.dlci := by
        refine ⟨by decide, ?_, ?_⟩
        · simpa using isUih_commandFrame hdlci
        · simpa using isUih_responseFrame hdlci
      rw [hout, hin] at hrelation
      have haccepted : relation
          ((End.fresh terms.acceptorDlc).after
            (.control .connecting (some terms.commandFrame) [terms.responseFrame]))
          (.fresh terms.openerDlc) ([] ++ [terms.responseFrame]) [] :=
        hjoint.event (hjoint.swap hrelation) rfl terms.limited_acceptorDlc hvalid
          (hjoint.control _ _ _ _)
      exact hjoint.swap haccepted
  | accepted _ rest hopener hacceptor hout hin hplain =>
    change incoming net = _ at hout
    change outgoing net = _ at hin
    obtain ⟨there', sent, hend, hright, hnextOut, hsent, hnextIn, hnext⟩ :=
      end_step hjoint hpermitting hdlci hallowed hacceptor (by rw [hout]; simp)
        (hjoint.swap hrelation)
    have hempty : incoming (net.stepLeft (rfcommParty terms.dlci) move) = [] := by
      apply List.eq_nil_iff_forall_not_mem.mpr
      intro frame hmem
      have hbefore := hnextIn frame hmem
      rw [hout] at hbefore
      cases hbefore
    refine ⟨_, there', .accepted there' (rest ++ sent)
      (by rw [Net.swap_left, hright]; exact hopener)
      hend hempty ?_ ?_, hjoint.swap hnext⟩
    · rw [incoming, Net.swap_swap, hnextOut, hin, List.cons_append]
    · intro frame hmem
      rcases List.mem_append.mp hmem with hmem | hmem
      · exact hplain frame hmem
      · exact hsent frame hmem
  | opened _ _ hopener hacceptor hout hin =>
    obtain ⟨there', sent, hend, hright, hnextOut, hsent, hnextIn, hnext⟩ :=
      end_step hjoint hpermitting hdlci hallowed hacceptor hout (hjoint.swap hrelation)
    refine ⟨here, there', .opened _ _ (by rw [Net.swap_left, hright]; exact hopener) hend ?_ ?_,
      hjoint.swap hnext⟩
    · intro frame hmem
      exact hout frame (hnextIn frame hmem)
    · rw [incoming, Net.swap_swap, hnextOut]
      intro frame hmem
      rcases List.mem_append.mp hmem with hmem | hmem
      · exact hin frame hmem
      · exact hsent frame hmem

/-! ## 5. Every run -/

/-- **A joint relation holds in every run** from the call of `open_dlc` on. -/
theorem Joint.holds (hjoint : Joint terms permits relation)
    (hpermitting : Permitting terms.dlci permits allowed) (hdlci : terms.dlci ≠ 0)
    {start : Net RfcommNode RfcommFrame} (hopener : Opening terms start.left)
    (hacceptor : Listening terms start.right) (hout : outgoing start = [terms.commandFrame])
    (hin : incoming start = [])
    (hreach : Net.Reachable (rfcommParty terms.dlci) allowed start net) :
    ∃ here there, (Stage terms net here there ∧
        relation here there (outgoing net) (incoming net)) ∨
      Stage terms net.swap here there ∧ relation here there (incoming net) (outgoing net) := by
  apply Net.run_invariant (I := fun net => ∃ here there, (Stage terms net here there ∧
        relation here there (outgoing net) (incoming net)) ∨
      Stage terms net.swap here there ∧ relation here there (incoming net) (outgoing net))
    _ _ _ hreach
  · rintro net ⟨here, there, hstage | hstage⟩
    · exact ⟨here, there, .inr hstage⟩
    · exact ⟨here, there, .inl hstage⟩
  · rintro net move ⟨here, there, ⟨hstage, hrelation⟩ | ⟨hstage, hrelation⟩⟩ hallowed
    · obtain ⟨here', there', hnext⟩ :=
        opener_step hjoint hpermitting hdlci hallowed hstage hrelation
      exact ⟨here', there', .inl hnext⟩
    · obtain ⟨here', there', hnext⟩ :=
        acceptor_step hjoint hpermitting hdlci hallowed hstage hrelation
      exact ⟨here', there', .inr hnext⟩
  · refine ⟨_, _, .inl ⟨.requested hopener hacceptor hout hin, ?_⟩⟩
    rw [hout, hin]
    have hvalid : (DlcEvent.control .connecting none [terms.commandFrame]).Valid terms.dlci := by
      refine ⟨by decide, by simp, ?_⟩
      simpa using isUih_commandFrame hdlci
    exact hjoint.event hjoint.start rfl terms.limited_openerDlc hvalid (hjoint.control _ _ _ _)

end Steps

/-! ## 6. Sessions -/

/-- A multiplexer without DLCs and with nothing to send. -/
structure Idle (mux : Multiplexer) : Prop where
  dlcs : mux.dlcs = ∅
  outbox : mux.outbox = []

/-- The net after the left side has called `open_dlc`. -/
def openingNet (opener acceptor : Multiplexer) (channel : UInt8)
    (maxFrameSize initialCredits : UInt16) : Net RfcommNode RfcommFrame :=
  ⟨⟨(opener.openDlc channel maxFrameSize initialCredits).state, [], []⟩, ⟨acceptor, [], []⟩,
    [], [], 0⟩

/-- The terms on which the sides of a session negotiate. -/
def sessionTerms (opener acceptor : Multiplexer) (channel : UInt8)
    (maxFrameSize initialCredits rxMaxFrameSize rxInitialCredits : UInt16) : Negotiation where
  channel := channel
  openerRole := opener.role
  openerMtu := opener.peerMtu
  maxFrameSize := maxFrameSize
  initialCredits := initialCredits
  acceptorRole := acceptor.role
  acceptorMtu := acceptor.peerMtu
  rxMaxFrameSize := rxMaxFrameSize
  rxInitialCredits := rxInitialCredits

section Sessions

variable (opener acceptor : Multiplexer) (channel : UInt8)
  (maxFrameSize initialCredits rxMaxFrameSize rxInitialCredits : UInt16)

theorem openingNet_opener (hidle : Idle opener) (hstate : opener.state = .connected) :
    Opening (sessionTerms opener acceptor channel maxFrameSize initialCredits rxMaxFrameSize
        rxInitialCredits)
      (openingNet opener acceptor channel maxFrameSize initialCredits).left ∧
    outgoing (openingNet opener acceptor channel maxFrameSize initialCredits) =
      [(sessionTerms opener acceptor channel maxFrameSize initialCredits rxMaxFrameSize
        rxInitialCredits).commandFrame] := by
  have hopen : opener.openDlc channel maxFrameSize initialCredits =
      .ok ({ opener with
        openPn := some (sessionTerms opener acceptor channel maxFrameSize initialCredits
          rxMaxFrameSize rxInitialCredits).command
        state := .opening } |>.push [(sessionTerms opener acceptor channel maxFrameSize
          initialCredits rxMaxFrameSize rxInitialCredits).commandFrame]) () := by
    rw [Multiplexer.openDlc, if_neg (by rw [hstate]; simp)]
    rfl
  simp only [openingNet, hopen, Outcome.ok_state]
  refine ⟨⟨?_, rfl, rfl, rfl, rfl, rfl, rfl⟩, ?_⟩
  · intro dlci
    simp [Multiplexer.push, hidle.dlcs]
  · simp [outgoing, Multiplexer.push, hidle.outbox]

theorem openingNet_acceptor (hidle : Idle acceptor)
    (hlisten : acceptor.acceptor[(channel <<< 1) >>> 1]? =
      some (rxMaxFrameSize, rxInitialCredits)) :
    Listening (sessionTerms opener acceptor channel maxFrameSize initialCredits rxMaxFrameSize
        rxInitialCredits)
      (openingNet opener acceptor channel maxFrameSize initialCredits).right ∧
    incoming (openingNet opener acceptor channel maxFrameSize initialCredits) = [] := by
  refine ⟨⟨?_, hlisten, rfl, rfl, rfl, rfl⟩, ?_⟩
  · intro dlci
    simp [openingNet, hidle.dlcs]
  · simp [incoming, outgoing, openingNet, Net.swap, hidle.outbox]

end Sessions

/-- An initiator whose session is open: its SABM was answered. -/
def connectedInitiator (peerMtu : UInt16) : Multiplexer :=
  (Multiplexer.new .initiator peerMtu).connect.state.drainOutgoing.2.onPdu (.ua true 0)

/-- A responder that listens on a channel and has answered the SABM. -/
def connectedResponder (peerMtu : UInt16) (channel : UInt8)
    (rxMaxFrameSize rxInitialCredits : UInt16) : Multiplexer :=
  (((Multiplexer.new .responder peerMtu).listen channel rxMaxFrameSize rxInitialCredits).onPdu
    (.sabm true 0)).drainOutgoing.2

theorem idle_connectedInitiator (peerMtu : UInt16) : Idle (connectedInitiator peerMtu) := ⟨rfl, rfl⟩

theorem idle_connectedResponder (peerMtu : UInt16) (channel : UInt8)
    (rxMaxFrameSize rxInitialCredits : UInt16) :
    Idle (connectedResponder peerMtu channel rxMaxFrameSize rxInitialCredits) := ⟨rfl, rfl⟩

/-! ## 7. DLCI 0 is no DLC -/

/-- Frames on DLCI 0 never reach a DLC, so one that is stored there stays closed. -/
def ZeroClosed (mux : Multiplexer) : Prop :=
  ∀ dlc, mux.dlcs[(0 : UInt8)]? = some dlc → dlc.state ≠ .connected

section ZeroDlci

variable {mux : Multiplexer}

theorem ZeroClosed.store (hmux : ZeroClosed mux) {dlci : UInt8} {call : DlcCall}
    (hcall : dlci = 0 → call.1.state ≠ .connected) : ZeroClosed (mux.store dlci call) := by
  intro dlc hget
  simp only [Multiplexer.store, Multiplexer.push, OrderedMap.getElem?_insert] at hget
  split at hget
  · next hzero =>
    cases hget
    exact hcall hzero
  · exact hmux dlc hget

theorem ZeroClosed.onControlFrame (hmux : ZeroClosed mux) (frame : RfcommFrame) :
    ZeroClosed (mux.onControlFrame frame) := by
  have hpn : ∀ command pn, ZeroClosed (mux.onMccPn command pn) := by
    intro command pn
    simp only [Multiplexer.onMccPn]
    split
    · split
      · exact hmux
      split
      · exact hmux.store fun _ => nofun
      · exact hmux
    split
    · split
      · exact hmux
      · have hcleared : ZeroClosed { mux with openPn := none } := hmux
        exact hcleared.store fun _ => nofun
    · exact hmux
  have huih : ZeroClosed (mux.onUihControl frame) := by
    simp only [Multiplexer.onUihControl]
    split
    · exact hmux
    split
    · split
      · exact hpn _ _
      · exact hmux
    split
    · split
      · split <;> exact hmux
      · exact hmux
    · exact hmux
  simp only [Multiplexer.onControlFrame, Multiplexer.onDm]
  split
  · split <;> exact hmux
  · split <;> exact hmux
  · exact hmux
  · split <;> exact hmux
  · exact huih
  · exact hmux

theorem ZeroClosed.onPdu (hmux : ZeroClosed mux) (frame : RfcommFrame) :
    ZeroClosed (mux.onPdu frame) := by
  simp only [Multiplexer.onPdu]
  by_cases hzero : frame.dlci = 0
  · rw [if_pos hzero]
    exact hmux.onControlFrame frame
  rw [if_neg hzero]
  split
  · simp only [Multiplexer.onDm]
    split <;> exact hmux
  split
  · exact hmux
  · next dlc _ =>
    have hstored : ZeroClosed (mux.store frame.dlci (dlc.onFrame frame).1) :=
      hmux.store fun hdlci => absurd hdlci hzero
    cases (dlc.onFrame frame).2 with
    | disconnected =>
      intro other hget
      simp only [Multiplexer.applyUpcall, OrderedMap.getElem?_erase, if_neg hzero] at hget
      exact hstored other hget
    | _ => exact hstored

/-- No call of the user connects a DLC that is stored at DLCI 0. -/
theorem ZeroClosed.call {node : RfcommNode} (hnode : ZeroClosed node.mux) (dlci : UInt8)
    (input : RfcommInput) : ZeroClosed (node.call dlci input).mux := by
  have hsame : ∀ dlc : Dlc, dlc.processTx.1.state = dlc.state := by
    intro dlc
    rw [dlc.processTx_same.1]
  cases input with
  | write target data =>
    simp only [RfcommNode.call, Multiplexer.write]
    split
    · exact hnode
    · next dlc hget =>
      apply hnode.store
      rintro rfl
      simp only [Dlc.write, hsame]
      exact hnode dlc hget
  | setReadingPaused target paused =>
    simp only [RfcommNode.call, Multiplexer.setDlcReadingPaused]
    split
    · exact hnode
    · next dlc hget =>
      apply hnode.store
      rintro rfl
      split
      · exact hnode dlc hget
      · rw [hsame]
        exact hnode dlc hget
  | setReceiveCredits target maxCredits threshold =>
    simp only [RfcommNode.call, Multiplexer.setDlcReceiveCredits]
    split
    · exact hnode
    split
    · exact hnode
    · next dlc hget =>
      apply hnode.store
      rintro rfl
      exact hnode dlc hget
  | takeRx target =>
    simp only [RfcommNode.call, Multiplexer.takeRx]
    split
    · exact hnode
    · next dlc hget =>
      apply hnode.store
      rintro rfl
      exact hnode dlc hget

end ZeroDlci

theorem zero_never_connected {dlci : UInt8}
    {allowed : Net RfcommNode RfcommFrame → Move RfcommInput → Prop}
    {start net : Net RfcommNode RfcommFrame} (hleft : ZeroClosed start.left.mux)
    (hright : ZeroClosed start.right.mux)
    (hreach : Net.Reachable (rfcommParty dlci) allowed start net) :
    ZeroClosed net.left.mux ∧ ZeroClosed net.right.mux := by
  apply Net.run_invariant (I := fun net => ZeroClosed net.left.mux ∧ ZeroClosed net.right.mux)
    _ _ ⟨hleft, hright⟩ hreach
  · rintro net ⟨hleft, hright⟩
    exact ⟨hright, hleft⟩
  · rintro net move ⟨hleft, hright⟩ -
    cases move with
    | call input => exact ⟨hleft.call dlci input, hright⟩
    | poll =>
      rcases poll_cases net with hstep | ⟨frame, outbox, -, hstep⟩
      · rw [hstep]
        exact ⟨hleft, hright⟩
      · rw [hstep]
        exact ⟨hleft, hright⟩
    | deliver =>
      cases hlink : net.toLeft with
      | nil =>
        rw [Net.stepLeft_deliver_nil hlink]
        exact ⟨hleft, hright⟩
      | cons frame rest =>
        rw [Net.stepLeft_deliver_cons hlink]
        exact ⟨hleft.onPdu frame, hright⟩
    | lose index =>
      simp only [Net.stepLeft]
      split <;> exact ⟨hleft, hright⟩

/-! ## 8. The ends of an open DLC -/

theorem Stage.ends {terms : Negotiation} {net : Net RfcommNode RfcommFrame} {left right : End}
    {here there : Dlc} (hstage : Stage terms net left right)
    (hhere : net.left.mux.dlcs[terms.dlci]? = some here)
    (hthere : net.right.mux.dlcs[terms.dlci]? = some there) :
    left = ⟨here, net.left.written, net.left.taken⟩ ∧
      right = ⟨there, net.right.written, net.right.taken⟩ := by
  have hend : ∀ {node : RfcommNode} {side : End} {dlc : Dlc}, IsEnd terms.dlci node side →
      node.mux.dlcs[terms.dlci]? = some dlc → side = ⟨dlc, node.written, node.taken⟩ := by
    intro node side dlc hside hdlc
    have hsame : side.dlc = dlc := Option.some.inj (hside.holds.stored.symm.trans hdlc)
    rw [hside.written, hside.taken, ← hsame]
  cases hstage with
  | requested hopener hacceptor hout hin =>
    rw [hopener.absent] at hhere
    cases hhere
  | accepted there rest hopener hacceptor hout hin hplain =>
    rw [hopener.absent] at hhere
    cases hhere
  | opened left right hopener hacceptor hout hin =>
      exact ⟨hend hopener hhere, hend hacceptor hthere⟩

/-- **A joint relation of a session** holds between the DLCs of the two sides
    whenever both are connected. -/
theorem Joint.session {opener acceptor : Multiplexer} {channel : UInt8}
    {maxFrameSize initialCredits rxMaxFrameSize rxInitialCredits : UInt16}
    {permits : Dlc → DlcEvent → Prop}
    {relation : End → End → List RfcommFrame → List RfcommFrame → Prop}
    {allowed : Net RfcommNode RfcommFrame → Move RfcommInput → Prop}
    (hjoint : Joint (sessionTerms opener acceptor channel maxFrameSize initialCredits
      rxMaxFrameSize rxInitialCredits) permits relation)
    (hpermitting : channel <<< 1 ≠ 0 → Permitting (channel <<< 1) permits allowed)
    (hopener : Idle opener) (hstate : opener.state = .connected) (hacceptor : Idle acceptor)
    (hlisten : acceptor.acceptor[(channel <<< 1) >>> 1]? = some (rxMaxFrameSize, rxInitialCredits))
    {net : Net RfcommNode RfcommFrame}
    (hreach : Net.Reachable (rfcommParty (channel <<< 1)) allowed
      (openingNet opener acceptor channel maxFrameSize initialCredits) net)
    {here there : Dlc} (hhere : net.left.mux.dlcs[channel <<< 1]? = some here)
    (hthere : net.right.mux.dlcs[channel <<< 1]? = some there)
    (hopen : here.state = .connected) :
    relation ⟨here, net.left.written, net.left.taken⟩ ⟨there, net.right.written, net.right.taken⟩
      (outgoing net) (incoming net) := by
  obtain ⟨hleft, hout⟩ := openingNet_opener opener acceptor channel maxFrameSize initialCredits
    rxMaxFrameSize rxInitialCredits hopener hstate
  obtain ⟨hright, hin⟩ := openingNet_acceptor opener acceptor channel maxFrameSize initialCredits
    rxMaxFrameSize rxInitialCredits hacceptor hlisten
  by_cases hzero : channel <<< 1 = 0
  · have hclosed : ZeroClosed net.left.mux := by
      apply (zero_never_connected _ _ hreach).1
      · intro dlc hget
        rw [hleft.absent] at hget
        cases hget
      · intro dlc hget
        rw [hright.absent] at hget
        cases hget
    rw [hzero] at hhere
    exact absurd hopen (hclosed here hhere)
  · obtain ⟨left, right, ⟨hstage, hrelation⟩ | ⟨hstage, hrelation⟩⟩ :=
      hjoint.holds (hpermitting hzero) hzero hleft hright hout hin hreach
    · obtain ⟨rfl, rfl⟩ := hstage.ends hhere hthere
      exact hrelation
    · obtain ⟨rfl, rfl⟩ := hstage.ends hthere hhere
      exact hjoint.swap hrelation

end Bumble.Rfcomm
