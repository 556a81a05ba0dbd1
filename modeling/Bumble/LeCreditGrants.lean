import Bumble.LeCreditIntegrity

/-!
# Booked credits and announced credits

`receive_pdu` books a grant before it looks at the SDU, and `process_pdu`
leaves with the error of a refused SDU before it flushes the channel.  Apart
from that one path the manager announces every credit in the call that books
it: no channel has a grant pending when `process_pdu` returns.
-/

namespace Bumble.LeCredit

open Bumble.L2cap (L2capPdu ControlFrame InformationCapabilities l2capLeSignalingCid)
open LeCreditChannelManager

/-! ## 1. When `receive_pdu` books and when it refuses -/

namespace LeCreditBasedChannel

/-- A PDU that is counted makes the credits sink to the threshold. -/
def booksGrant (channel : LeCreditBasedChannel) : Bool :=
  !channel.readingPaused && channel.peerCredits - 1 ≤ channel.peerCreditThreshold &&
    channel.peerMaxCredits - (channel.peerCredits - 1) ≠ 0

/-- The PDU is counted: the channel is connected, the PDU fits and a credit is
    left for it. -/
def counts (channel : LeCreditBasedChannel) (pdu : Bytes) : Bool :=
  channel.state = .connected && pdu.length ≤ channel.mps.toNat && channel.peerCredits ≠ 0

/-- The SDU that the PDU continues has a length above the MTU or is longer than
    its length says. -/
def refusesSdu (channel : LeCreditBasedChannel) (pdu : Bytes) : Bool :=
  match channel.inputSduLength, channel.inputSdu ++ pdu with
  | some length, input => input.length > length + 2
  | none, l0 :: l1 :: rest =>
    (u16FromLe l0 l1).toNat > channel.mtu.toNat ||
      (l0 :: l1 :: rest).length > (u16FromLe l0 l1).toNat + 2
  | none, _ => false

theorem ensureConnected_ok {channel : LeCreditBasedChannel} (hstate : channel.state = .connected) :
    channel.ensureConnected = .ok () := by
  simp [ensureConnected, hstate]

theorem ensureConnected_error {channel : LeCreditBasedChannel}
    (hstate : channel.state ≠ .connected) :
    channel.ensureConnected = .error (.invalidPacket "channel is not connected") := by
  simp [ensureConnected, hstate]

/-- The channel with the PDU counted and appended. -/
def counted (channel : LeCreditBasedChannel) (pdu : Bytes) : LeCreditBasedChannel :=
  { { channel with peerCredits := channel.peerCredits - 1 }.replenishPeerCredits with
    inputSdu := channel.inputSdu ++ pdu }

theorem replenishPeerCredits_eq (channel : LeCreditBasedChannel) :
    channel.replenishPeerCredits = { channel with
      pendingCreditGrants := channel.replenishPeerCredits.pendingCreditGrants
      peerCredits := channel.replenishPeerCredits.peerCredits } := by
  simp only [replenishPeerCredits]
  split
  · rfl
  split <;> rfl

/-- The grants that a PDU books. -/
def booked (channel : LeCreditBasedChannel) : List UInt16 :=
  if channel.booksGrant then [channel.peerMaxCredits - (channel.peerCredits - 1)] else []

theorem counted_booked (channel : LeCreditBasedChannel) (pdu : Bytes) :
    (channel.counted pdu).pendingCreditGrants = channel.pendingCreditGrants ++ channel.booked ∧
      (channel.counted pdu).peerCredits = channel.peerCredits - 1 + channel.booked.sum := by
  simp only [counted, replenishPeerCredits, booked, booksGrant]
  by_cases hpaused : channel.readingPaused = true
  · simp [hpaused]
  by_cases hthreshold : channel.peerCredits - 1 ≤ channel.peerCreditThreshold
  · have hnot : ¬ (channel.readingPaused = true ∨
        channel.peerCredits - 1 > channel.peerCreditThreshold) := by
      rw [not_or]
      exact ⟨hpaused, UInt16.not_lt.mpr hthreshold⟩
    simp only [if_neg hnot]
    by_cases hgrant : channel.peerMaxCredits - (channel.peerCredits - 1) = 0
    · simp [hgrant]
    · simp [hpaused, hthreshold, hgrant]
  · have habove : channel.readingPaused = true ∨
        channel.peerCredits - 1 > channel.peerCreditThreshold := .inr (UInt16.not_le.mp hthreshold)
    simp only [if_pos habove]
    simp [hthreshold]

theorem receivePdu_counted {channel : LeCreditBasedChannel} {pdu : Bytes}
    (hcounts : channel.counts pdu = true) :
    channel.receivePdu pdu =
      (channel.counted pdu).readSduLength.andThen fun channel _ => channel.completeSdu := by
  simp only [counts, Bool.and_eq_true, decide_eq_true_eq] at hcounts
  obtain ⟨⟨hstate, hlength⟩, hcredits⟩ := hcounts
  rw [receivePdu, ensureConnected_ok hstate]
  simp only [if_neg (Nat.not_lt.mpr hlength), if_neg hcredits]
  rw [counted, replenishPeerCredits_eq]

theorem receivePdu_not_counted {channel : LeCreditBasedChannel} {pdu : Bytes}
    (hcounts : channel.counts pdu = false) : (channel.receivePdu pdu).state = channel := by
  by_cases hstate : channel.state = .connected
  · rw [receivePdu, ensureConnected_ok hstate]
    by_cases hlength : pdu.length > channel.mps.toNat
    · simp only [if_pos hlength, Outcome.fail_state]
    by_cases hcredits : channel.peerCredits = 0
    · simp only [if_neg hlength, if_pos hcredits, Outcome.fail_state]
    · simp [counts, hstate, hcredits] at hcounts
      omega
  · rw [receivePdu, ensureConnected_error hstate]
    rfl

/-- The end of `receive_pdu`: the length and the completion of the SDU. -/
def reassemble (channel : LeCreditBasedChannel) : ChannelCall Unit :=
  channel.readSduLength.andThen fun channel _ => channel.completeSdu

theorem completeSdu_state (channel : LeCreditBasedChannel) :
    ∃ input length received, channel.completeSdu.state =
      { channel with inputSdu := input, inputSduLength := length, receivedSdus := received } := by
  simp only [completeSdu]
  split
  · exact ⟨_, _, _, rfl⟩
  split
  · exact ⟨_, _, _, rfl⟩
  split <;> exact ⟨_, _, _, rfl⟩

theorem reassemble_state (channel : LeCreditBasedChannel) :
    ∃ input length received, channel.reassemble.state =
      { channel with inputSdu := input, inputSduLength := length, receivedSdus := received } := by
  simp only [reassemble, readSduLength]
  split
  · split
    · exact ⟨_, _, _, rfl⟩
    · rw [Outcome.ok_andThen]
      exact completeSdu_state { channel with inputSduLength := _ }
  · rw [Outcome.ok_andThen]
    exact completeSdu_state channel

theorem completeSdu_ok {channel : LeCreditBasedChannel}
    (hlength : ∀ length, channel.inputSduLength = some length →
      channel.inputSdu.length ≤ length + 2) : channel.completeSdu.result = .ok () := by
  simp only [completeSdu]
  split
  · rfl
  next length hsome =>
  split
  · rfl
  rw [if_neg (Nat.not_lt.mpr (hlength length hsome))]
  rfl

theorem reassemble_ok {channel : LeCreditBasedChannel} {pdu : Bytes}
    (hfits : channel.refusesSdu pdu = false) :
    (channel.counted pdu).reassemble.result = .ok () := by
  have hmtu : (channel.counted pdu).mtu = channel.mtu := by
    rw [counted, replenishPeerCredits_eq]
  have hlength : (channel.counted pdu).inputSduLength = channel.inputSduLength := by
    rw [counted, replenishPeerCredits_eq]
  have hinput : (channel.counted pdu).inputSdu = channel.inputSdu ++ pdu := rfl
  generalize channel.counted pdu = counted at *
  simp only [reassemble, readSduLength, hlength, hinput, hmtu]
  simp only [refusesSdu] at hfits
  cases hsome : channel.inputSduLength with
  | some length =>
    simp only [hsome, Outcome.ok_andThen] at hfits ⊢
    apply completeSdu_ok
    intro found hfound
    rw [hlength, hsome] at hfound
    cases hfound
    rw [hinput]
    simpa using hfits
  | none =>
    simp only [hsome] at hfits ⊢
    rcases hbytes : channel.inputSdu ++ pdu with _ | ⟨l0, _ | ⟨l1, rest⟩⟩
    · simp only [Outcome.ok_andThen]
      apply completeSdu_ok
      intro found hfound
      rw [hlength, hsome] at hfound
      cases hfound
    · simp only [Outcome.ok_andThen]
      apply completeSdu_ok
      intro found hfound
      rw [hlength, hsome] at hfound
      cases hfound
    · simp only [hbytes, Bool.or_eq_false_iff, decide_eq_false_iff_not] at hfits
      simp only [if_neg hfits.1, Outcome.ok_andThen]
      apply completeSdu_ok
      intro found hfound
      cases hfound
      exact Nat.not_lt.mp hfits.2

theorem receivePdu_ok {channel : LeCreditBasedChannel} {pdu : Bytes}
    (hcounts : channel.counts pdu = true) (hfits : channel.refusesSdu pdu = false) :
    (channel.receivePdu pdu).result = .ok () := by
  rw [receivePdu_counted hcounts]
  exact reassemble_ok hfits

def strands (channel : LeCreditBasedChannel) (pdu : Bytes) : Bool :=
  channel.counts pdu && channel.booksGrant && channel.refusesSdu pdu

theorem flushed_receivePdu_grants {channel : LeCreditBasedChannel} {pdu : Bytes}
    (hgrants : channel.pendingCreditGrants = []) (hstrands : channel.strands pdu = false) :
    (flushed (channel.receivePdu pdu)).pendingCreditGrants = [] := by
  cases hresult : (channel.receivePdu pdu).result with
  | ok value => simp only [flushed, hresult]
  | error error =>
    simp only [flushed, hresult]
    by_cases hcounts : channel.counts pdu = true
    · have hrefuses : channel.refusesSdu pdu = true := by
        by_contra hfits
        rw [receivePdu_ok hcounts (Bool.eq_false_of_not_eq_true hfits)] at hresult
        cases hresult
      have hbooks : channel.booksGrant = false := by
        simpa [strands, hcounts, hrefuses] using hstrands
      obtain ⟨input, length, received, hstate⟩ := (channel.counted pdu).reassemble_state
      rw [receivePdu_counted hcounts]
      change (channel.counted pdu).reassemble.state.pendingCreditGrants = []
      rw [hstate]
      simp [(counted_booked channel pdu).1, booked, hgrants, hbooks]
    · rw [receivePdu_not_counted (Bool.eq_false_of_not_eq_true hcounts)]
      exact hgrants

/-- `resume_reading` finds the credits at the threshold and books a grant. -/
def resumeBooks (channel : LeCreditBasedChannel) : Bool :=
  channel.state = .connected && channel.peerCredits ≤ channel.peerCreditThreshold &&
    channel.peerMaxCredits - channel.peerCredits ≠ 0

theorem resumeReading_grants {channel : LeCreditBasedChannel}
    (hbooks : channel.resumeBooks = false) :
    channel.resumeReading.state.pendingCreditGrants = channel.pendingCreditGrants := by
  by_cases hstate : channel.state = .connected
  · rw [resumeReading, ensureConnected_ok hstate]
    simp only [Outcome.ok_state, replenishPeerCredits]
    by_cases hthreshold : channel.peerCredits ≤ channel.peerCreditThreshold
    · have hgrant : channel.peerMaxCredits - channel.peerCredits = 0 := by
        by_contra hgrant
        simp [resumeBooks, hstate, hthreshold, hgrant] at hbooks
      rw [if_neg (by simpa using hthreshold), if_neg (not_not_intro hgrant)]
    · rw [if_pos (.inr (UInt16.not_le.mp hthreshold))]
  · rw [resumeReading, ensureConnected_error hstate]
    rfl

end LeCreditBasedChannel

/-! ## 2. Every run -/

/-- Every credit added to a channel's `peer_credits` has been announced. -/
def Announced (manager : LeCreditChannelManager) : Prop :=
  ∀ (cid : UInt16) (channel : LeCreditBasedChannel),
    manager.channels[cid]? = some channel → channel.pendingCreditGrants = []

/-- The step books a grant and returns without a flush: a data PDU that is
    refused after the booking, or the channel's own method called by the user. -/
def strandsGrant (manager : LeCreditChannelManager) : ManagerOp → Bool
  | .processPdu pdu =>
    pdu.cid ≠ l2capLeSignalingCid &&
      manager.channels[pdu.cid]?.any fun channel => channel.strands pdu.payload
  | .channelMut sourceCid (.receivePdu pdu) =>
    manager.channels[sourceCid]?.any fun channel => channel.counts pdu && channel.booksGrant
  | .channelMut sourceCid .resumeReading =>
    manager.channels[sourceCid]?.any fun channel => channel.resumeBooks
  | _ => false

theorem processOutputLoop_grants (fuel : Nat) : ∀ (channel : LeCreditBasedChannel),
    (channel.processOutputLoop fuel).pendingCreditGrants = channel.pendingCreditGrants := by
  induction fuel with
  | zero =>
    intro channel
    rfl
  | succ fuel ih =>
    intro channel
    simp only [LeCreditBasedChannel.processOutputLoop]
    split
    · rfl
    split
    · split
      · rfl
      · rw [ih]
        rfl
    · rw [ih]
      rfl

theorem write_grants (channel : LeCreditBasedChannel) (data : Bytes) :
    (channel.write data).state.pendingCreditGrants = channel.pendingCreditGrants := by
  simp only [LeCreditBasedChannel.write]
  split
  · rfl
  split
  · rfl
  · exact processOutputLoop_grants _ _

theorem addCredits_grants (channel : LeCreditBasedChannel) (credits : UInt16) :
    (channel.addCredits credits).state.pendingCreditGrants = channel.pendingCreditGrants := by
  simp only [LeCreditBasedChannel.addCredits]
  split
  · rfl
  split
  · rfl
  · exact processOutputLoop_grants _ _

theorem flushed_grants {channel : LeCreditBasedChannel} {call : ChannelCall Unit}
    (hgrants : channel.pendingCreditGrants = [])
    (hfailed : ∀ error, call.result = .error error →
      call.state.pendingCreditGrants = channel.pendingCreditGrants) :
    (flushed call).pendingCreditGrants = [] := by
  cases hresult : call.result with
  | ok value => simp only [flushed, hresult]
  | error error =>
    simp only [flushed, hresult]
    rw [hfailed error hresult, hgrants]

theorem setReading_failed {channel : LeCreditBasedChannel} {paused : Bool} {error : L2cap.Error}
    (hresult : (if paused then channel.pauseReading else channel.resumeReading).result =
      .error error) :
    (if paused then channel.pauseReading else channel.resumeReading).state = channel := by
  by_cases hstate : channel.state = .connected
  · cases paused <;>
    simp [LeCreditBasedChannel.pauseReading, LeCreditBasedChannel.resumeReading,
      LeCreditBasedChannel.ensureConnected_ok hstate] at hresult
  · cases paused <;>
    simp [LeCreditBasedChannel.pauseReading, LeCreditBasedChannel.resumeReading,
      LeCreditBasedChannel.ensureConnected_error hstate]

theorem channelOp_grants {channel : LeCreditBasedChannel} {op : ChannelOp}
    (hgrants : channel.pendingCreditGrants = [])
    (hreceive : ∀ pdu, op = .receivePdu pdu → (channel.counts pdu && channel.booksGrant) = false)
    (hresume : op = .resumeReading → channel.resumeBooks = false) :
    (op.apply channel).pendingCreditGrants = [] := by
  cases op with
  | write data => exact (write_grants channel data).trans hgrants
  | addCredits credits => exact (addCredits_grants channel credits).trans hgrants
  | receivePdu pdu =>
    have hquiet := hreceive pdu rfl
    simp only [ChannelOp.apply]
    by_cases hcounts : channel.counts pdu = true
    · have hbooks : channel.booksGrant = false := by simpa [hcounts] using hquiet
      obtain ⟨input, length, received, hstate⟩ := (channel.counted pdu).reassemble_state
      rw [LeCreditBasedChannel.receivePdu_counted hcounts]
      change (channel.counted pdu).reassemble.state.pendingCreditGrants = []
      rw [hstate]
      simp [(channel.counted_booked pdu).1, LeCreditBasedChannel.booked, hgrants, hbooks]
    · rw [LeCreditBasedChannel.receivePdu_not_counted (Bool.eq_false_of_not_eq_true hcounts)]
      exact hgrants
  | pollCreditGrant => simp [ChannelOp.apply, hgrants]
  | pauseReading =>
    simp only [ChannelOp.apply, LeCreditBasedChannel.pauseReading]
    split <;> exact hgrants
  | resumeReading => exact (LeCreditBasedChannel.resumeReading_grants (hresume rfl)).trans hgrants
  | disconnect =>
    simp only [ChannelOp.apply, LeCreditBasedChannel.disconnect]
    split <;> exact hgrants
  | abort =>
    simp only [ChannelOp.apply, LeCreditBasedChannel.abort]
    split <;> exact hgrants
  | _ => exact hgrants

/-- A step that strands no grant leaves no grant pending. -/
theorem channelStep_grants {manager : LeCreditChannelManager} {op : ManagerOp} {cid : UInt16}
    {channel next : LeCreditBasedChannel} (hget : manager.channels[cid]? = some channel)
    (hgrants : channel.pendingCreditGrants = []) (hop : strandsGrant manager op = false)
    (hstep : op.ChannelStep cid channel next) : next.pendingCreditGrants = [] := by
  cases op with
  | channelMut sourceCid op =>
    obtain ⟨rfl, rfl⟩ := hstep
    apply channelOp_grants hgrants
    · rintro pdu rfl
      simpa [strandsGrant, hget] using hop
    · rintro rfl
      simpa [strandsGrant, hget] using hop
  | send sourceCid data =>
    cases hstep
    exact flushed_grants hgrants fun _ _ => write_grants channel data
  | setReadingPaused sourceCid paused =>
    cases hstep
    exact flushed_grants hgrants fun _ hresult => by rw [setReading_failed hresult]
  | disconnect sourceCid =>
    cases hstep
    exact hgrants
  | processPdu pdu =>
    simp only [ManagerOp.ChannelStep] at hstep
    by_cases hcid : pdu.cid = l2capLeSignalingCid
    · rw [if_pos hcid] at hstep
      obtain ⟨frame, -, hframe⟩ := hstep
      cases frame with
      | leFlowControlCredit identifier destination credits =>
        cases hframe
        exact flushed_grants hgrants fun _ _ => addCredits_grants channel credits
      | creditBasedReconfigureRequest identifier mtu mps cids =>
        cases hframe
        exact (processOutputLoop_grants _ _).trans hgrants
      | creditBasedReconfigureResponse identifier result =>
        obtain ⟨mtu, mps, rfl⟩ := hframe
        exact hgrants
      | _ => exact hframe.elim
    · rw [if_neg hcid] at hstep
      obtain ⟨rfl, rfl⟩ := hstep
      apply LeCreditBasedChannel.flushed_receivePdu_grants hgrants
      simpa [strandsGrant, hget, hcid] using hop
  | _ => exact hstep.elim

theorem Announced.step {manager : LeCreditChannelManager} (hmanager : Announced manager)
    {op : ManagerOp} (hop : strandsGrant manager op = false) : Announced (op.apply manager) := by
  have hopened : ∀ {next : LeCreditChannelManager}
      {created : List (UInt16 × LeCreditBasedChannel)}, Opens created →
      next.channels = insertAll manager.channels created → Announced next := by
    intro next created hopens hchannels cid channel hget
    rw [hchannels] at hget
    rcases mem_of_getElem?_insertAll created _ hget with hmem | ⟨-, hget⟩
    · exact hopens.silent _ hmem
    · exact hmanager cid channel hget
  cases op.effect_apply manager with
  | kept hchannels hpending henhanced =>
    intro cid channel' hget
    obtain ⟨channel, hchannel, rfl | hstep⟩ := hchannels cid channel' hget
    · exact hmanager cid channel' hchannel
    · exact channelStep_grants hchannel (hmanager cid channel hchannel) hop hstep
  | requested identifier request hfree hchannels hpending henhanced =>
    intro cid channel hget
    rw [hchannels] at hget
    exact hmanager cid channel hget
  | requestedAll identifier request hnodup hfree hchannels hpending henhanced =>
    intro cid channel hget
    rw [hchannels] at hget
    exact hmanager cid channel hget
  | accepted created hopens hnodup hfree hunused hchannels => exact hopened hopens hchannels
  | answered identifier request created hopens hrequest hcreated hchannels =>
    exact hopened hopens hchannels
  | answeredAll identifier request created hopens hrequest hcreated hunused hchannels =>
    exact hopened hopens hchannels

theorem announced_start (information : InformationCapabilities) :
    Announced (withInformationCapabilities information) := by
  intro cid channel hget
  simp [withInformationCapabilities] at hget

/-! ### The credits of one data PDU -/

/-- The channel's ledger and the frames queued agree: the credits after the
    call are those before, less the one the PDU used, and with every grant that
    was added queued to the peer. -/
def AnnouncesCredits (manager next : LeCreditChannelManager) (pdu : L2capPdu) : Prop :=
  ∀ channel, manager.channels[pdu.cid]? = some channel →
    ∃ (channel' : LeCreditBasedChannel) (pdus : List Bytes) (grants : List UInt16),
      next.channels[pdu.cid]? = some channel' ∧
      next.outbound = manager.outbound ++ pdus.map (L2capPdu.mk channel.destinationCid) ++
        announcements channel.sourceCid manager.identifier grants ∧
      channel'.peerCredits =
        channel.peerCredits - (if channel.counts pdu.payload then 1 else 0) + grants.sum

theorem receivePdu_credits (channel : LeCreditBasedChannel) (pdu : Bytes)
    (hgrants : channel.pendingCreditGrants = []) :
    (channel.receivePdu pdu).state.peerCredits =
      channel.peerCredits - (if channel.counts pdu then 1 else 0) +
        (channel.receivePdu pdu).state.pendingCreditGrants.sum := by
  by_cases hcounts : channel.counts pdu = true
  · obtain ⟨input, length, received, hstate⟩ := (channel.counted pdu).reassemble_state
    rw [LeCreditBasedChannel.receivePdu_counted hcounts, if_pos hcounts]
    change (channel.counted pdu).reassemble.state.peerCredits =
      _ + (channel.counted pdu).reassemble.state.pendingCreditGrants.sum
    rw [hstate]
    simp only [channel.counted_booked pdu, hgrants, List.nil_append]
  · rw [LeCreditBasedChannel.receivePdu_not_counted (Bool.eq_false_of_not_eq_true hcounts),
      if_neg hcounts, hgrants]
    simp

theorem processPdu_announces {manager : LeCreditChannelManager} (hmanager : Announced manager)
    {pdu : L2capPdu} (hcid : pdu.cid ≠ l2capLeSignalingCid)
    (hop : strandsGrant manager (.processPdu pdu) = false) :
    AnnouncesCredits manager (manager.processPdu pdu).state pdu := by
  intro channel hget
  have hgrants := hmanager pdu.cid channel hget
  have hcids := SameCids.receivePdu channel pdu.payload
  have hcredits := receivePdu_credits channel pdu.payload hgrants
  rw [show manager.processPdu pdu =
    manager.callChannel pdu.cid (·.receivePdu pdu.payload) from if_neg hcid]
  cases hresult : (channel.receivePdu pdu.payload).result with
  | ok value =>
    rw [callChannel_done hget hresult]
    refine ⟨flushed (channel.receivePdu pdu.payload),
      (channel.receivePdu pdu.payload).state.outboundPdus,
      (channel.receivePdu pdu.payload).state.pendingCreditGrants, ?_, ?_, ?_⟩
    · simp only [Outcome.ok_state, OrderedMap.getElem?_insert, if_true]
    · simp only [Outcome.ok_state, hcids.1, hcids.2]
    · simp only [flushed, hresult]
      exact hcredits
  | error error =>
    have hnone : (channel.receivePdu pdu.payload).state.pendingCreditGrants = [] := by
      have hstrands : channel.strands pdu.payload = false := by
        simpa [strandsGrant, hget, hcid] using hop
      simpa only [flushed, hresult] using
        LeCreditBasedChannel.flushed_receivePdu_grants hgrants hstrands
    rw [callChannel_refused hget hresult]
    refine ⟨(channel.receivePdu pdu.payload).state, [], [], ?_, ?_, ?_⟩
    · simp only [Outcome.fail_state, OrderedMap.getElem?_insert, if_true, flushed, hresult]
    · simp [announcements]
    · rw [hcredits, hnone]

/-! ### The theorem -/

theorem opsMeet_append {condition : LeCreditChannelManager → ManagerOp → Prop}
    (ops rest : List ManagerOp) : ∀ {manager : LeCreditChannelManager},
      OpsMeet condition manager (ops ++ rest) →
      OpsMeet condition manager ops ∧ OpsMeet condition (manager.runOps ops) rest := by
  induction ops with
  | nil =>
    intro manager hmeet
    exact ⟨trivial, hmeet⟩
  | cons op ops ih =>
    intro manager hmeet
    exact ⟨⟨hmeet.1, (ih hmeet.2).1⟩, (ih hmeet.2).2⟩

/-- **Credits booked are credits announced.**  After any calls and PDUs, when
    `process_pdu` returns, with or without an error, no channel has a grant
    pending, and the credits a data PDU made the channel add are in the frames
    queued; as long as no step books a grant and returns without a flush. -/
theorem booked_credits_announced (information : InformationCapabilities) (ops : List ManagerOp)
    (pdu : L2capPdu)
    (hops : OpsMeet (fun manager op => strandsGrant manager op = false)
      (withInformationCapabilities information) (ops ++ [.processPdu pdu])) :
    Announced
      (((withInformationCapabilities information).runOps ops).processPdu pdu).state ∧
    (pdu.cid ≠ l2capLeSignalingCid →
      AnnouncesCredits ((withInformationCapabilities information).runOps ops)
        (((withInformationCapabilities information).runOps ops).processPdu pdu).state pdu) := by
  obtain ⟨hbefore, hlast⟩ := opsMeet_append ops [.processPdu pdu] hops
  have hmanager : Announced ((withInformationCapabilities information).runOps ops) := by
    apply runOps_invariant _ ops (announced_start information) hbefore
    intro manager op hmanager hop
    exact hmanager.step hop
  refine ⟨hmanager.step hlast.1, ?_⟩
  intro hcid
  exact processPdu_announces hmanager hcid hlast.1

/-- A server that grants one credit at a time, and a peer that connects to it. -/
def oneCreditServer : List ManagerOp :=
  [.registerServer ⟨some 0x80, 23, 23, 1⟩,
    .processPdu ⟨l2capLeSignalingCid,
      (ControlFrame.leCreditBasedConnectionRequest 1 0x80 0x50 64 64 10).toBytes⟩]

theorem booked_credits_announced_one_sdu :
    Announced (((withInformationCapabilities {}).runOps oneCreditServer).processPdu
      ⟨0x40, [1, 0, 7]⟩).state :=
  (booked_credits_announced {} oneCreditServer ⟨0x40, [1, 0, 7]⟩ (by decide)).1

/-- The SDU announces 65535 octets to an MTU of 23: it is refused, with the
    grant of one credit booked and not announced. -/
theorem refused_sdu_strands_grant :
    ¬ ∀ (ops : List ManagerOp) (pdu : L2capPdu),
      Announced (((withInformationCapabilities {}).runOps ops).processPdu pdu).state := by
  intro hall
  have hannounced := hall oneCreditServer ⟨0x40, [0xFF, 0xFF]⟩
  have hgrants : (((withInformationCapabilities {}).runOps oneCreditServer).processPdu
      ⟨0x40, [0xFF, 0xFF]⟩).state.channels[(0x40 : UInt16)]?.map (·.pendingCreditGrants) =
      some [1] := by
    decide
  obtain ⟨channel, hchannel, hpending⟩ := Option.map_eq_some_iff.mp hgrants
  rw [hannounced 0x40 channel hchannel] at hpending
  cases hpending

end Bumble.LeCredit
