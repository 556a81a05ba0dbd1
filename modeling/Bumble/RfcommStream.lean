import Bumble.RfcommCredits

/-!
# RFCOMM delivers the byte stream

What the receiver has taken and queued, the data under way and the sender's
buffer are, in this order, what was written: with the account of credits this
says that nothing is lost, and that nothing waits for ever.  A sender that has
data has no credit; a receiver that reads has granted one; so while both hold,
something is under way.
-/

namespace Bumble.Rfcomm

/-! ## 1. One end -/

/-- An end at work: its limits are the defaults, its frames have room for a
    grant and data, it has sent what it could, and it has granted a credit
    unless it is paused. -/
structure Working (dlc : Dlc) : Prop where
  maxCredits : dlc.rxMaxCredits = 32
  threshold : dlc.rxCreditsThreshold = 16
  room : 2 ≤ dlc.mtu
  drained : dlc.canSendData = false
  granting : dlc.readingPaused = false → 1 ≤ dlc.rxCredits.toNat

theorem fits_of_defaults {dlc : Dlc} (hmax : dlc.rxMaxCredits = 32)
    (hthreshold : dlc.rxCreditsThreshold = 16) (hroom : 2 ≤ dlc.mtu) : dlc.fits = true := by
  have hneeded : dlc.rxCreditsNeeded.toNat ≤ 255 := by
    simp only [Dlc.rxCreditsNeeded, hmax, hthreshold]
    split
    · next hlow =>
      have hle : dlc.rxCredits ≤ 32 := UInt16.le_trans hlow.2 (by decide)
      rw [UInt16.toNat_sub_of_le _ _ hle]
      exact (Nat.sub_le _ _).trans (by decide)
    · decide
  simp only [Dlc.fits, hneeded, decide_true, Bool.true_and, Bool.or_eq_true]
  right
  split
  · exact decide_eq_true hroom
  · exact decide_eq_true (hroom.trans' (by decide))

theorem working_processTx {dlc : Dlc} (hmax : dlc.rxMaxCredits = 32)
    (hthreshold : dlc.rxCreditsThreshold = 16) (hroom : 2 ≤ dlc.mtu) :
    Working dlc.processTx.1 := by
  have hlimited : dlc.Limited := by
    rw [Dlc.Limited, hmax, hthreshold]
    decide
  obtain ⟨-, hdrained, hgranted⟩ :=
    Dlc.processTx_spec hlimited (fits_of_defaults hmax hthreshold hroom)
  have hsame := dlc.processTx_same.1
  constructor
  case maxCredits =>
    rw [hsame]
    exact hmax
  case threshold =>
    rw [hsame]
    exact hthreshold
  case room =>
    rw [hsame]
    exact hroom
  case drained => exact hdrained
  case granting =>
    intro hreading
    have hreading : dlc.readingPaused = false := by
      rw [hsame] at hreading
      exact hreading
    rcases hgranted hreading with habove | hfull
    · rw [UInt16.lt_iff_toNat_lt, hthreshold] at habove
      exact Nat.one_le_of_lt habove
    · rw [hfull, hmax]
      decide

/-! ## 2. One direction -/

/-- What was taken at the receiver and what is queued there. -/
def End.received (side : End) : Bytes := side.taken.flatten ++ side.dlc.rxPackets.flatten

/-- The written bytes are at the receiver, under way or in the buffer, and the
    frames under way are not too long. -/
structure Carried (dlci : UInt8) (sender receiver : End) (frames : List RfcommFrame) : Prop where
  stream : receiver.received ++ payloadOf dlci frames ++ sender.dlc.txBuffer = sender.written
  sized : ∀ frame ∈ frames, isUih dlci frame = true →
    frame.information.length ≤ sender.dlc.mtu

/-- **Stream and credits** of the two ends. -/
structure Streams (dlci : UInt8) (here there : End) (sent coming : List RfcommFrame) : Prop where
  account : Balanced dlci here.dlc there.dlc sent coming
  hereWorks : Working here.dlc
  thereWorks : Working there.dlc
  forth : Carried dlci here there sent
  back : Carried dlci there here coming

theorem Streams.swap {dlci : UInt8} {here there : End} {sent coming : List RfcommFrame}
    (hstreams : Streams dlci here there sent coming) : Streams dlci there here coming sent :=
  ⟨hstreams.account.swap, hstreams.thereWorks, hstreams.hereWorks, hstreams.back, hstreams.forth⟩

/-- The conditions on an event: the limits stay, and no packet is evicted. -/
structure EventStreams (dlci : UInt8) (dlc : Dlc) (event : DlcEvent) : Prop where
  defaults : ∀ maxCredits threshold, event ≠ .limits maxCredits threshold
  queued : ∀ frame, event = .receive frame → dataOf dlci frame ≠ [] →
    dlc.rxPackets.length < rfcommDefaultRxQueueSize

theorem takeUih_packets {dlc : Dlc} {frame : RfcommFrame} (hframe : isUih dlc.dlci frame = true)
    (hroom : dataOf dlc.dlci frame ≠ [] → dlc.rxPackets.length < rfcommDefaultRxQueueSize) :
    (dlc.takeUih frame).rxPackets.flatten = dlc.rxPackets.flatten ++ dataOf dlc.dlci frame := by
  have hqueue : ∀ (start : Dlc) (data : Bytes), start.rxPackets = dlc.rxPackets →
      data = dataOf dlc.dlci frame →
      (if data.isEmpty then start else { start with
        rxPackets :=
          (if start.rxPackets.length = rfcommDefaultRxQueueSize then start.rxPackets.drop 1
            else start.rxPackets) ++ [data]
        rxCredits := if start.rxCredits > 0 then start.rxCredits - 1
          else start.rxCredits }).rxPackets.flatten =
        dlc.rxPackets.flatten ++ dataOf dlc.dlci frame := by
    intro start data hstart hdata
    by_cases hempty : data.isEmpty = true
    · rw [if_pos hempty, hstart, ← hdata, List.isEmpty_iff.mp hempty, List.append_nil]
    · have hlength := hroom (by rw [← hdata]; simpa using hempty)
      rw [if_neg hempty]
      simp only [hstart, if_neg (Nat.ne_of_lt hlength), List.flatten_append, hdata]
      simp
  simp only [Dlc.takeUih]
  by_cases hpF : frame.pF = true
  · simp only [hpF, if_true]
    exact hqueue _ _ rfl (by simp [dataOf, hframe, hpF])
  · simp only [hpF, Bool.false_eq_true, if_false]
    exact hqueue _ _ rfl (by simp [dataOf, hframe, hpF])

section Transmission

variable {dlci : UInt8} {here there : End} {sent coming : List RfcommFrame}

/-- A run of the transmit engine at one end, from a state in which the ends'
    streams agree but for what it can still send. -/
theorem Streams.transmit {start : Dlc} {written : Bytes} {taken : List Bytes}
    (haccount : Balanced dlci start there.dlc sent coming) (hown : start.dlci = dlci)
    (hmax : start.rxMaxCredits = 32) (hthreshold : start.rxCreditsThreshold = 16)
    (hroom : 2 ≤ start.mtu) (hthere : Working there.dlc)
    (hforth : Carried dlci ⟨start, written, taken⟩ there sent)
    (hback : Carried dlci there ⟨start, written, taken⟩ coming) :
    Streams dlci ⟨start.processTx.1, written, taken⟩ there (sent ++ start.processTx.2) coming := by
  have hlimited : start.Limited := by
    rw [Dlc.Limited, hmax, hthreshold]
    decide
  obtain ⟨htransmits, -, -⟩ :=
    Dlc.processTx_spec hlimited (fits_of_defaults hmax hthreshold hroom)
  have hsame := start.processTx_same.1
  constructor
  case account => exact haccount.transmit hown htransmits
  case hereWorks => exact working_processTx hmax hthreshold hroom
  case thereWorks => exact hthere
  case forth =>
    constructor
    · have hstream := htransmits.stream
      rw [hown] at hstream
      rw [payloadOf_append, ← hforth.stream, ← hstream]
      simp only [List.append_assoc]
    · intro frame hmem hframe
      rw [hsame]
      rcases List.mem_append.mp hmem with hmem | hmem
      · exact hforth.sized frame hmem hframe
      · have hlength := (htransmits.frames frame hmem).2.2
        exact hlength.trans (max_le le_rfl (hroom.trans' (by decide)))
  case back =>
    constructor
    · have hpackets : start.processTx.1.rxPackets = start.rxPackets := by rw [hsame]
      rw [← hback.stream]
      simp only [End.received, hpackets]
    · exact hback.sized

/-- **Every event keeps stream and credits.** -/
theorem Streams.event {event : DlcEvent}
    (hstreams : Streams dlci here there sent (event.consumed ++ coming))
    (hown : here.dlc.dlci = dlci) (hlimited : here.dlc.Limited) (hvalid : event.Valid dlci)
    (hevent : EventStreams dlci here.dlc event) :
    Streams dlci (here.after event) there (sent ++ (event.result here.dlc).2) coming := by
  have hworking := hstreams.hereWorks
  have hfits : ∀ start ∈ event.start here.dlc, start.fits = true := by
    intro start hstart
    cases event with
    | resume =>
      cases hstart
      exact fits_of_defaults hworking.maxCredits hworking.threshold hworking.room
    | write data =>
      cases hstart
      exact fits_of_defaults hworking.maxCredits hworking.threshold hworking.room
    | receive frame =>
      cases hstart
      rw [here.dlc.takeUih_same frame]
      exact fits_of_defaults hworking.maxCredits hworking.threshold hworking.room
    | _ => cases hstart
  have haccount := hstreams.account.event hown hlimited hvalid hfits
  cases event with
  | limits maxCredits threshold => exact absurd rfl (hevent.defaults maxCredits threshold)
  | control state consumed controls =>
    obtain ⟨-, hconsumed, hcontrols⟩ := hvalid
    obtain ⟨-, -, hpayload⟩ := carry_nothing hconsumed
    obtain ⟨-, -, hpayload'⟩ := carry_nothing hcontrols
    refine ⟨haccount, ⟨hworking.maxCredits, hworking.threshold, hworking.room, hworking.drained,
      hworking.granting⟩, hstreams.thereWorks, ⟨?_, ?_⟩, ⟨?_, ?_⟩⟩
    · rw [payloadOf_append]
      simp only [DlcEvent.result, hpayload', List.append_nil, End.after, DlcEvent.wrote]
      exact hstreams.forth.stream
    · intro frame hmem hframe
      rcases List.mem_append.mp hmem with hmem | hmem
      · exact hstreams.forth.sized frame hmem hframe
      · rw [hcontrols frame hmem] at hframe
        cases hframe
    · have hstream := hstreams.back.stream
      rw [payloadOf_append, DlcEvent.consumed, hpayload, List.nil_append] at hstream
      rw [← hstream]
      simp [End.received, End.after, DlcEvent.took, DlcEvent.result]
    · intro frame hmem hframe
      exact hstreams.back.sized frame (List.mem_append_right _ hmem) hframe
  | pause =>
    refine ⟨haccount, ⟨hworking.maxCredits, hworking.threshold, hworking.room, hworking.drained,
      fun hresumed => by cases hresumed⟩, hstreams.thereWorks, ?_, ?_⟩
    · simpa [DlcEvent.result, End.after, DlcEvent.wrote] using
        ⟨hstreams.forth.stream, hstreams.forth.sized⟩
    · simpa [DlcEvent.result, End.after, DlcEvent.took, End.received] using
        ⟨hstreams.back.stream, hstreams.back.sized⟩
  | takeRx =>
    refine ⟨haccount, ⟨hworking.maxCredits, hworking.threshold, hworking.room, hworking.drained,
      hworking.granting⟩, hstreams.thereWorks, ?_, ?_⟩
    · simpa [DlcEvent.result, End.after, DlcEvent.wrote] using
        ⟨hstreams.forth.stream, hstreams.forth.sized⟩
    · refine ⟨?_, hstreams.back.sized⟩
      rw [← hstreams.back.stream]
      simp [End.received, End.after, DlcEvent.took, DlcEvent.result, DlcEvent.consumed]
  | resume =>
    have hstart : Streams dlci
        ⟨({ here.dlc with readingPaused := false } : Dlc).processTx.1, here.written,
          here.taken⟩ there
        (sent ++ ({ here.dlc with readingPaused := false } : Dlc).processTx.2) coming :=
      Streams.transmit ⟨hstreams.account.forth, hstreams.account.back⟩ hown hworking.maxCredits
        hworking.threshold hworking.room hstreams.thereWorks
        ⟨hstreams.forth.stream, hstreams.forth.sized⟩ ⟨hstreams.back.stream, hstreams.back.sized⟩
    simp only [End.after, DlcEvent.wrote, DlcEvent.took, List.append_nil]
    exact hstart
  | write data =>
    have hbalanced : Balanced dlci { here.dlc with txBuffer := here.dlc.txBuffer ++ data } there.dlc
        sent coming := ⟨hstreams.account.forth, hstreams.account.back⟩
    have hstart : Streams dlci
        ⟨(here.dlc.write data).1, here.written ++ data, here.taken⟩ there
        (sent ++ (here.dlc.write data).2) coming := by
      apply Streams.transmit hbalanced hown hworking.maxCredits hworking.threshold hworking.room
        hstreams.thereWorks ⟨?_, hstreams.forth.sized⟩
        ⟨hstreams.back.stream, hstreams.back.sized⟩
      rw [← hstreams.forth.stream]
      simp only [List.append_assoc]
    simp only [End.after, DlcEvent.wrote, DlcEvent.took, List.append_nil]
    exact hstart
  | receive frame =>
    obtain ⟨htaken, hsame⟩ := Balanced.receive hstreams.account hown hvalid
    have hframe : isUih here.dlc.dlci frame = true := by
      rw [hown]
      exact hvalid
    have hpackets := takeUih_packets hframe (by rw [hown]; exact hevent.queued frame rfl)
    rw [hown] at hpackets
    have hstart : Streams dlci
        ⟨(here.dlc.takeUih frame).processTx.1, here.written, here.taken⟩ there
        (sent ++ (here.dlc.takeUih frame).processTx.2) coming := by
      refine Streams.transmit htaken ?_ ?_ ?_ ?_ hstreams.thereWorks ⟨?_, ?_⟩ ⟨?_, ?_⟩
      · rw [hsame]
        exact hown
      · rw [hsame]
        exact hworking.maxCredits
      · rw [hsame]
        exact hworking.threshold
      · rw [hsame]
        exact hworking.room
      · rw [hsame]
        exact hstreams.forth.stream
      · rw [hsame]
        exact hstreams.forth.sized
      · rw [← hstreams.back.stream]
        simp [End.received, hpackets, DlcEvent.consumed]
      · intro other hmem huih
        exact hstreams.back.sized other (List.mem_append_right _ hmem) huih
    simp only [End.after, DlcEvent.wrote, DlcEvent.took, List.append_nil]
    exact hstart

end Transmission

/-! ## 3. Runs -/

/-- The moves of a run that keeps the default limits, loses nothing, and takes
    packets before the queue of 32 overflows. -/
def StreamMove (net : Net RfcommNode RfcommFrame) : Move RfcommInput → Prop
  | .call (.setReceiveCredits ..) => False
  | .call _ => True
  | .poll => True
  | .deliver => ∀ frame ∈ net.toLeft.head?, ∀ dlc ∈ net.left.mux.dlcs[frame.dlci]?,
    dataOf frame.dlci frame ≠ [] → dlc.rxPackets.length < rfcommDefaultRxQueueSize
  | .lose _ => False

instance (net : Net RfcommNode RfcommFrame) (move : Move RfcommInput) :
    Decidable (StreamMove net move) :=
  match move with
  | .call (.setReceiveCredits ..) => .isFalse id
  | .call (.write ..) => .isTrue trivial
  | .call (.setReadingPaused ..) => .isTrue trivial
  | .call (.takeRx ..) => .isTrue trivial
  | .poll => .isTrue trivial
  | .deliver => inferInstanceAs (Decidable (∀ frame ∈ net.toLeft.head?, _))
  | .lose _ => .isFalse id

theorem permitting_streamMove (dlci : UInt8) :
    Permitting dlci (EventStreams dlci) StreamMove where
  call := by
    intro net input dlc hallowed hholds
    cases input with
    | setReceiveCredits target maxCredits threshold => exact absurd hallowed id
    | write target data =>
      simp only [callEvent]
      split <;> exact ⟨by simp, by simp⟩
    | setReadingPaused target paused =>
      simp only [callEvent]
      split
      · split <;> exact ⟨by simp, by simp⟩
      · exact ⟨by simp, by simp⟩
    | takeRx target =>
      simp only [callEvent]
      split <;> exact ⟨by simp, by simp⟩
  deliver := by
    intro net frame rest dlc hallowed hlink hholds hframe
    refine ⟨by simp, ?_⟩
    rintro other ⟨⟩ hdata
    obtain ⟨-, hown⟩ : frame.frameType = .uih ∧ frame.dlci = dlci := by
      simpa [isUih] using hframe
    subst hown
    exact hallowed frame (by rw [hlink]; rfl) dlc hholds.stored hdata
  lossless := id

/-- The MTU of a DLC: the peer's frame size within the L2CAP MTU. -/
def dlcMtu (frameSize peerMtu : UInt16) : Nat :=
  min frameSize.toNat (peerMtu.toNat - frameOverhead.toNat)

theorem working_start {dlc : Dlc} (hmax : dlc.rxMaxCredits = 32)
    (hthreshold : dlc.rxCreditsThreshold = 16) (hroom : 2 ≤ dlc.mtu) (hbuffer : dlc.txBuffer = [])
    (hcredits : 1 ≤ dlc.rxCredits.toNat) : Working dlc where
  maxCredits := hmax
  threshold := hthreshold
  room := hroom
  drained := by simp [Dlc.canSendData, hbuffer]
  granting _ := hcredits

theorem joint_streams {terms : Negotiation} (hinitial : 1 ≤ terms.initialCredits)
    (hinitialMax : terms.initialCredits ≤ 7) (hrxInitial : 1 ≤ terms.rxInitialCredits)
    (hrxInitialMax : terms.rxInitialCredits ≤ 7)
    (hopenerMtu : 2 ≤ dlcMtu terms.rxMaxFrameSize terms.openerMtu)
    (hacceptorMtu : 2 ≤ dlcMtu terms.maxFrameSize terms.acceptorMtu) :
    Joint terms (EventStreams terms.dlci) (Streams terms.dlci) where
  start := by
    have hbelow : ∀ {credits : UInt16}, credits ≤ 7 → credits < 8 := by
      intro credits hcredits
      rw [UInt16.le_iff_toNat_le] at hcredits
      rw [UInt16.lt_iff_toNat_lt]
      exact Nat.lt_succ_of_le hcredits
    obtain ⟨hoctet, hword⟩ := toUInt8_toUInt16 (hbelow hinitialMax)
    refine ⟨(joint_account hoctet (hbelow hrxInitialMax)).start, ?_, ?_, ⟨rfl, by simp⟩,
      ⟨rfl, by simp⟩⟩
    · refine working_start rfl rfl hopenerMtu rfl ?_
      change 1 ≤ terms.initialCredits.toUInt8.toUInt16.toNat
      rw [hword]
      exact UInt16.le_iff_toNat_le.mp hinitial
    · exact working_start rfl rfl hacceptorMtu rfl (UInt16.le_iff_toNat_le.mp hrxInitial)
  swap := Streams.swap
  event hrelation hown hlimited hvalid hevent := hrelation.event hown hlimited hvalid hevent
  control := by
    intro dlc state consumed sent
    exact ⟨nofun, nofun⟩

/-! ## 4. The theorem -/

/-- What the DLC has taken from its peer so far, and what is queued in it. -/
def receivedAt (node : RfcommNode) (dlc : Dlc) : Bytes :=
  node.taken.flatten ++ dlc.rxPackets.flatten

/-- One direction of the DLC, seen at its ends: the received bytes begin the
    written ones, and no frame exceeds the MTU. -/
structure Direction (dlci : UInt8) (written received : Bytes) (sender : Dlc)
    (frames : List RfcommFrame) : Prop where
  begins : received <+: written
  sized : ∀ frame ∈ frames, isUih dlci frame = true → frame.information.length ≤ sender.mtu

/-- Both directions, and both complete when nothing is under way and both sides
    read. -/
def Delivered (dlci : UInt8) (net : Net RfcommNode RfcommFrame) : Prop :=
  ∀ here there : Dlc, net.left.mux.dlcs[dlci]? = some here →
    net.right.mux.dlcs[dlci]? = some there →
    here.state = .connected → there.state = .connected →
    Direction dlci net.left.written (receivedAt net.right there) here (outgoing net) ∧
    Direction dlci net.right.written (receivedAt net.left here) there (incoming net) ∧
    (outgoing net = [] → incoming net = [] → here.readingPaused = false →
      there.readingPaused = false →
      here.txBuffer = [] ∧ there.txBuffer = [] ∧
      receivedAt net.right there = net.left.written ∧
      receivedAt net.left here = net.right.written)

theorem Carried.direction {dlci : UInt8} {sender receiver : RfcommNode} {here there : Dlc}
    {frames : List RfcommFrame}
    (hcarried : Carried dlci ⟨here, sender.written, sender.taken⟩
      ⟨there, receiver.written, receiver.taken⟩ frames) :
    Direction dlci sender.written (receivedAt receiver there) here frames where
  begins := by
    have hstream : receivedAt receiver there ++ payloadOf dlci frames ++ here.txBuffer =
        sender.written := hcarried.stream
    rw [← hstream, List.append_assoc]
    exact List.prefix_append _ _
  sized := hcarried.sized

theorem Streams.complete {dlci : UInt8} {here there : End}
    (hstreams : Streams dlci here there [] []) (hreading : there.dlc.readingPaused = false) :
    here.dlc.txBuffer = [] ∧ there.received = here.written := by
  have hcredits := hstreams.account.forth
  have hgranted := hstreams.thereWorks.granting hreading
  have hempty : here.dlc.txBuffer = [] := by
    by_contra hdata
    have hcan : here.dlc.canSendData = true :=
      Dlc.canSendData_iff.mpr
        ⟨hdata, by simp only [grantsIn_nil, dataFramesIn_nil] at hcredits; omega⟩
    rw [hstreams.hereWorks.drained] at hcan
    cases hcan
  refine ⟨hempty, ?_⟩
  have hstream := hstreams.forth.stream
  simpa [hempty] using hstream

/-- **RFCOMM delivers the byte stream.**  For a DLC opened with one to seven
    initial credits on each side and room for two octets in a frame, in every
    state that writes, deliveries, pauses and reads lead to. -/
theorem stream_delivered {opener acceptor : Multiplexer} {channel : UInt8}
    {maxFrameSize initialCredits rxMaxFrameSize rxInitialCredits : UInt16} (hopener : Idle opener)
    (hstate : opener.state = .connected) (hacceptor : Idle acceptor)
    (hlisten : acceptor.acceptor[(channel <<< 1) >>> 1]? = some (rxMaxFrameSize, rxInitialCredits))
    (hinitial : 1 ≤ initialCredits ∧ initialCredits ≤ 7)
    (hrxInitial : 1 ≤ rxInitialCredits ∧ rxInitialCredits ≤ 7)
    (hopenerMtu : 2 ≤ dlcMtu rxMaxFrameSize opener.peerMtu)
    (hacceptorMtu : 2 ≤ dlcMtu maxFrameSize acceptor.peerMtu)
    {net : Net RfcommNode RfcommFrame}
    (hreach : Net.Reachable (rfcommParty (channel <<< 1)) StreamMove
      (openingNet opener acceptor channel maxFrameSize initialCredits) net) :
    Delivered (channel <<< 1) net := by
  have hjoint : Joint (sessionTerms opener acceptor channel maxFrameSize initialCredits
      rxMaxFrameSize rxInitialCredits) (EventStreams (channel <<< 1)) (Streams (channel <<< 1)) :=
    joint_streams hinitial.1 hinitial.2 hrxInitial.1 hrxInitial.2 hopenerMtu hacceptorMtu
  intro here there hhere hthere hopen _
  have hstreams := hjoint.session (fun _ => permitting_streamMove _) hopener hstate hacceptor
    hlisten hreach hhere hthere hopen
  refine ⟨hstreams.forth.direction, hstreams.back.direction, ?_⟩
  intro hout hin hreading hpeerReading
  rw [hout, hin] at hstreams
  obtain ⟨hempty, hall⟩ := hstreams.complete hpeerReading
  obtain ⟨hpeerEmpty, hpeerAll⟩ := hstreams.swap.complete hreading
  exact ⟨hempty, hpeerEmpty, hall, hpeerAll⟩

theorem stream_delivered_channel_one :
    Delivered 2 ((channelOne 7 5).run (rfcommParty 2)
      (openingMoves ++ [(.left, .call (.write 2 [1, 2, 3])), (.left, .poll), (.right, .deliver),
        (.right, .call (.takeRx 2))])) := by
  have hlisten : (connectedResponder 64 1 32 5).acceptor[((1 : UInt8) <<< 1) >>> 1]? =
      some (32, 5) := by
    decide
  exact stream_delivered (idle_connectedInitiator 64) rfl (idle_connectedResponder 64 1 32 5)
    hlisten (by decide) (by decide) (by decide) (by decide) ⟨_, by decide, rfl⟩

end Bumble.Rfcomm
