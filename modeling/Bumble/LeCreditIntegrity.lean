import Bumble.LeCreditCalls

/-!
# The channel map of the LE manager

Every channel lies under its own source CID, a CID is either a channel or
reserved by one request, and no two channels share a destination.  All calls
and PDUs keep this but one: a successful LE connection response opens its
channel without looking whether the destination CID is already in use, a check
that the enhanced response and both request handlers make.
-/

namespace Bumble.LeCredit

open Bumble.L2cap (L2capPdu ControlFrame InformationCapabilities l2capLeSignalingCid)
open LeCreditChannelManager

/-! ## 1. A channel keeps its CIDs -/

def SameCids (channel next : LeCreditBasedChannel) : Prop :=
  next.sourceCid = channel.sourceCid ∧ next.destinationCid = channel.destinationCid

namespace SameCids

theorem trans {first second third : LeCreditBasedChannel} (hfirst : SameCids first second)
    (hsecond : SameCids second third) : SameCids first third :=
  ⟨hsecond.1.trans hfirst.1, hsecond.2.trans hfirst.2⟩

theorem processOutputLoop (fuel : Nat) :
    ∀ (channel : LeCreditBasedChannel), SameCids channel (channel.processOutputLoop fuel) := by
  induction fuel with
  | zero =>
    intro channel
    exact ⟨rfl, rfl⟩
  | succ fuel ih =>
    intro channel
    simp only [LeCreditBasedChannel.processOutputLoop]
    split
    · exact ⟨rfl, rfl⟩
    split
    · split
      · exact ⟨rfl, rfl⟩
      · exact trans ⟨rfl, rfl⟩ (ih _)
    · exact trans ⟨rfl, rfl⟩ (ih _)

theorem processOutput (channel : LeCreditBasedChannel) : SameCids channel channel.processOutput :=
  processOutputLoop _ _

theorem write (channel : LeCreditBasedChannel) (data : Bytes) :
    SameCids channel (channel.write data).state := by
  simp only [LeCreditBasedChannel.write]
  split
  · exact ⟨rfl, rfl⟩
  split
  · exact ⟨rfl, rfl⟩
  · exact trans ⟨rfl, rfl⟩ (processOutput _)

theorem addCredits (channel : LeCreditBasedChannel) (credits : UInt16) :
    SameCids channel (channel.addCredits credits).state := by
  simp only [LeCreditBasedChannel.addCredits]
  split
  · exact ⟨rfl, rfl⟩
  split
  · exact ⟨rfl, rfl⟩
  · exact trans ⟨rfl, rfl⟩ (processOutput _)

theorem replenishPeerCredits (channel : LeCreditBasedChannel) :
    SameCids channel channel.replenishPeerCredits := by
  simp only [LeCreditBasedChannel.replenishPeerCredits]
  split
  · exact ⟨rfl, rfl⟩
  split <;> exact ⟨rfl, rfl⟩

theorem readSduLength (channel : LeCreditBasedChannel) :
    SameCids channel channel.readSduLength.state := by
  simp only [LeCreditBasedChannel.readSduLength]
  split
  · split <;> exact ⟨rfl, rfl⟩
  · exact ⟨rfl, rfl⟩

theorem completeSdu (channel : LeCreditBasedChannel) :
    SameCids channel channel.completeSdu.state := by
  simp only [LeCreditBasedChannel.completeSdu]
  split
  · exact ⟨rfl, rfl⟩
  split
  · exact ⟨rfl, rfl⟩
  split <;> exact ⟨rfl, rfl⟩

theorem andThen {call : ChannelCall Unit}
    {rest : LeCreditBasedChannel → Unit → ChannelCall Unit} {channel : LeCreditBasedChannel}
    (hcall : SameCids channel call.state)
    (hrest : ∀ next, SameCids next (rest next ()).state) :
    SameCids channel (call.andThen rest).state := by
  simp only [Outcome.andThen]
  split
  · exact trans hcall (hrest _)
  · exact hcall

theorem receivePdu (channel : LeCreditBasedChannel) (pdu : Bytes) :
    SameCids channel (channel.receivePdu pdu).state := by
  simp only [LeCreditBasedChannel.receivePdu]
  split
  · exact ⟨rfl, rfl⟩
  split
  · exact ⟨rfl, rfl⟩
  split
  · exact ⟨rfl, rfl⟩
  · have hspent := replenishPeerCredits { channel with peerCredits := channel.peerCredits - 1 }
    exact andThen (trans ⟨hspent.1, hspent.2⟩ (readSduLength _)) completeSdu

theorem setReading (channel : LeCreditBasedChannel) (paused : Bool) :
    SameCids channel (if paused then channel.pauseReading else channel.resumeReading).state := by
  cases paused with
  | true =>
    simp only [if_true, LeCreditBasedChannel.pauseReading]
    split <;> exact ⟨rfl, rfl⟩
  | false =>
    simp only [Bool.false_eq_true, if_false, LeCreditBasedChannel.resumeReading]
    split
    · exact ⟨rfl, rfl⟩
    · exact trans ⟨rfl, rfl⟩ (replenishPeerCredits _)

theorem flushed {channel : LeCreditBasedChannel} {call : ChannelCall Unit}
    (hcall : SameCids channel call.state) :
    SameCids channel (LeCreditChannelManager.flushed call) := by
  simp only [LeCreditChannelManager.flushed]
  split <;> exact hcall

theorem channelOp (channel : LeCreditBasedChannel) (op : ChannelOp) :
    SameCids channel (op.apply channel) := by
  cases op with
  | write data => exact write channel data
  | addCredits credits => exact addCredits channel credits
  | receivePdu pdu => exact receivePdu channel pdu
  | pauseReading => exact setReading channel true
  | resumeReading => exact setReading channel false
  | disconnect =>
    simp only [ChannelOp.apply, LeCreditBasedChannel.disconnect]
    split <;> exact ⟨rfl, rfl⟩
  | abort =>
    simp only [ChannelOp.apply, LeCreditBasedChannel.abort]
    split <;> exact ⟨rfl, rfl⟩
  | _ => exact ⟨rfl, rfl⟩

theorem frameStep {frame : ControlFrame} {channel next : LeCreditBasedChannel}
    (hstep : LeCredit.frameStep frame channel next) : SameCids channel next := by
  cases frame with
  | leFlowControlCredit identifier cid credits =>
    cases hstep
    exact flushed (addCredits channel credits)
  | creditBasedReconfigureRequest identifier mtu mps cids =>
    cases hstep
    exact trans ⟨rfl, rfl⟩ (processOutput _)
  | creditBasedReconfigureResponse identifier result =>
    obtain ⟨mtu, mps, rfl⟩ := hstep
    exact ⟨rfl, rfl⟩
  | _ => exact hstep.elim

theorem channelStep {op : ManagerOp} {cid : UInt16} {channel next : LeCreditBasedChannel}
    (hstep : op.ChannelStep cid channel next) : SameCids channel next := by
  cases op with
  | channelMut sourceCid op =>
    obtain ⟨-, rfl⟩ := hstep
    exact channelOp channel op
  | send sourceCid data =>
    cases hstep
    exact flushed (write channel data)
  | setReadingPaused sourceCid paused =>
    cases hstep
    exact flushed (setReading channel paused)
  | disconnect sourceCid =>
    cases hstep
    exact ⟨rfl, rfl⟩
  | processPdu pdu =>
    simp only [ManagerOp.ChannelStep] at hstep
    split at hstep
    · obtain ⟨frame, -, hframe⟩ := hstep
      exact frameStep hframe
    · obtain ⟨-, rfl⟩ := hstep
      exact flushed (receivePdu channel pdu.payload)
  | _ => exact hstep.elim

end SameCids

/-! ## 2. The invariant -/

/-- An entry of one of the two maps of requests for channels. -/
inductive Slot where
  | pending (identifier : UInt8)
  | enhanced (identifier : UInt8)
deriving DecidableEq, Repr

/-- The request in this slot waits for a channel with this source CID. -/
def Reserves (manager : LeCreditChannelManager) (slot : Slot) (cid : UInt16) : Prop :=
  match slot with
  | .pending identifier =>
    ∃ request, manager.pending[identifier]? = some request ∧ request.sourceCid = cid
  | .enhanced identifier =>
    ∃ request, manager.pendingEnhanced[identifier]? = some request ∧ cid ∈ request.sourceCids

/-- **The channel map.**  Channels under their own CIDs, CIDs that are a channel
    or reserved once, destinations all different. -/
structure Integrity (manager : LeCreditChannelManager) : Prop where
  own : ∀ (cid : UInt16) (channel : LeCreditBasedChannel),
    manager.channels[cid]? = some channel → channel.sourceCid = cid
  destinations : ∀ (cid other : UInt16) (channel otherChannel : LeCreditBasedChannel),
    manager.channels[cid]? = some channel → manager.channels[other]? = some otherChannel →
      channel.destinationCid = otherChannel.destinationCid → cid = other
  apart : ∀ slot cid, Reserves manager slot cid → manager.channels[cid]? = none
  once : ∀ slot other cid, Reserves manager slot cid → Reserves manager other cid → slot = other
  nodup : ∀ (identifier : UInt8) (request : PendingEnhancedConnection),
    manager.pendingEnhanced[identifier]? = some request → request.sourceCids.Nodup

theorem not_reserved {manager : LeCreditChannelManager} {cid : UInt16}
    (hfree : manager.cidIsReserved cid = false) :
    manager.channels[cid]? = none ∧ ∀ slot, ¬ Reserves manager slot cid := by
  obtain ⟨hchannel, hpending, henhanced⟩ := not_reserved_iff.mp hfree
  refine ⟨hchannel, ?_⟩
  intro slot hreserves
  cases slot with
  | pending identifier =>
    obtain ⟨request, hrequest, hcid⟩ := hreserves
    exact hpending identifier request hrequest hcid
  | enhanced identifier =>
    obtain ⟨request, hrequest, hcid⟩ := hreserves
    exact henhanced identifier request hrequest hcid

theorem unused {manager : LeCreditChannelManager} {destination : UInt16}
    (hunused : manager.destinationInUse destination = false) (cid : UInt16)
    (channel : LeCreditBasedChannel) (hget : manager.channels[cid]? = some channel) :
    channel.destinationCid ≠ destination := by
  intro heq
  rw [destinationInUse_iff.mpr ⟨cid, channel, hget, heq⟩] at hunused
  cases hunused

theorem integrity_start (information : InformationCapabilities) :
    Integrity (withInformationCapabilities information) where
  own cid channel hget := by simp [withInformationCapabilities] at hget
  destinations cid other channel otherChannel hget := by
    simp [withInformationCapabilities] at hget
  apart slot cid _ := by simp [withInformationCapabilities]
  once slot other cid hslot := by
    cases slot <;>
    · obtain ⟨request, hrequest, -⟩ := hslot
      simp [withInformationCapabilities] at hrequest
  nodup identifier request hrequest := by simp [withInformationCapabilities] at hrequest

/-! ## 3. One call -/

section Step

variable {manager next : LeCreditChannelManager}

theorem Integrity.open (hmanager : Integrity manager)
    {created : List (UInt16 × LeCreditBasedChannel)} (hopens : Opens created)
    (hunused : ∀ entry ∈ created, manager.destinationInUse entry.2.destinationCid = false) :
    (∀ (cid : UInt16) (channel : LeCreditBasedChannel),
      (insertAll manager.channels created)[cid]? = some channel → channel.sourceCid = cid) ∧
    (∀ (cid other : UInt16) (channel otherChannel : LeCreditBasedChannel),
      (insertAll manager.channels created)[cid]? = some channel →
      (insertAll manager.channels created)[other]? = some otherChannel →
      channel.destinationCid = otherChannel.destinationCid → cid = other) := by
  constructor
  · intro cid channel hget
    rcases mem_of_getElem?_insertAll created _ hget with hmem | ⟨-, hget⟩
    · exact hopens.own _ hmem
    · exact hmanager.own cid channel hget
  · intro cid other channel otherChannel hget hother hsame
    rcases mem_of_getElem?_insertAll created _ hget with hmem | ⟨-, hget⟩ <;>
    rcases mem_of_getElem?_insertAll created _ hother with hmem' | ⟨-, hother⟩
    · have hentry := List.inj_on_of_nodup_map hopens.apart hmem hmem' hsame
      exact congrArg Prod.fst hentry
    · exact absurd hsame.symm (unused (hunused _ hmem) other otherChannel hother)
    · exact absurd hsame (unused (hunused _ hmem') cid channel hget)
    · exact hmanager.destinations cid other channel otherChannel hget hother hsame

theorem Integrity.kept (hmanager : Integrity manager) {op : ManagerOp}
    (hchannels : Kept op.ChannelStep manager.channels next.channels)
    (hpending : next.pending = manager.pending)
    (henhanced : next.pendingEnhanced = manager.pendingEnhanced) : Integrity next := by
  have hfrom : ∀ (cid : UInt16) (channel' : LeCreditBasedChannel),
      next.channels[cid]? = some channel' →
      ∃ channel, manager.channels[cid]? = some channel ∧ SameCids channel channel' := by
    intro cid channel' hget
    obtain ⟨channel, hchannel, rfl | hstep⟩ := hchannels cid channel' hget
    · exact ⟨channel', hchannel, rfl, rfl⟩
    · exact ⟨channel, hchannel, SameCids.channelStep hstep⟩
  have hreserves : ∀ slot cid, Reserves next slot cid → Reserves manager slot cid := by
    intro slot cid hslot
    simpa only [Reserves, hpending, henhanced] using hslot
  constructor
  case own =>
    intro cid channel' hget
    obtain ⟨channel, hchannel, hsame⟩ := hfrom cid channel' hget
    rw [hsame.1, hmanager.own cid channel hchannel]
  case destinations =>
    intro cid other channel' otherChannel' hget hother heq
    obtain ⟨channel, hchannel, hsame⟩ := hfrom cid channel' hget
    obtain ⟨otherChannel, hotherChannel, hotherSame⟩ := hfrom other otherChannel' hother
    rw [hsame.2, hotherSame.2] at heq
    exact hmanager.destinations cid other channel otherChannel hchannel hotherChannel heq
  case apart =>
    intro slot cid hslot
    cases hget : next.channels[cid]? with
    | none => rfl
    | some channel' =>
      obtain ⟨channel, hchannel, -⟩ := hfrom cid channel' hget
      rw [hmanager.apart slot cid (hreserves slot cid hslot)] at hchannel
      cases hchannel
  case once =>
    intro slot other cid hslot hother
    exact hmanager.once slot other cid (hreserves slot cid hslot) (hreserves other cid hother)
  case nodup =>
    intro identifier request hrequest
    rw [henhanced] at hrequest
    exact hmanager.nodup identifier request hrequest

theorem Integrity.reserve (hmanager : Integrity manager) (slot : Slot) (cids : List UInt16)
    (hfree : ∀ cid ∈ cids, manager.cidIsReserved cid = false)
    (hchannels : next.channels = manager.channels)
    (hreserves : ∀ other cid, Reserves next other cid →
      other = slot ∧ cid ∈ cids ∨ Reserves manager other cid)
    (hnodup : ∀ (identifier : UInt8) (request : PendingEnhancedConnection),
      next.pendingEnhanced[identifier]? = some request → request.sourceCids.Nodup) :
    Integrity next := by
  constructor
  case own =>
    rw [hchannels]
    exact hmanager.own
  case destinations =>
    rw [hchannels]
    exact hmanager.destinations
  case apart =>
    intro other cid hother
    rw [hchannels]
    rcases hreserves other cid hother with ⟨-, hcid⟩ | hother
    · exact (not_reserved (hfree cid hcid)).1
    · exact hmanager.apart other cid hother
  case once =>
    intro first second cid hfirst hsecond
    rcases hreserves first cid hfirst with ⟨rfl, hcid⟩ | hfirst <;>
    rcases hreserves second cid hsecond with ⟨rfl, hcid'⟩ | hsecond
    · rfl
    · exact absurd hsecond ((not_reserved (hfree cid hcid)).2 second)
    · exact absurd hfirst ((not_reserved (hfree cid hcid')).2 first)
    · exact hmanager.once first second cid hfirst hsecond
  case nodup => exact hnodup

theorem Integrity.settle (hmanager : Integrity manager)
    {created : List (UInt16 × LeCreditBasedChannel)} (hopens : Opens created)
    (hunused : ∀ entry ∈ created, manager.destinationInUse entry.2.destinationCid = false)
    (hchannels : next.channels = insertAll manager.channels created)
    (hreserves : ∀ slot cid, Reserves next slot cid →
      Reserves manager slot cid ∧ cid ∉ created.map (·.1))
    (hnodup : ∀ (identifier : UInt8) (request : PendingEnhancedConnection),
      next.pendingEnhanced[identifier]? = some request → request.sourceCids.Nodup) :
    Integrity next := by
  obtain ⟨hown, hdestinations⟩ := hmanager.open hopens hunused
  constructor
  case own =>
    rw [hchannels]
    exact hown
  case destinations =>
    rw [hchannels]
    exact hdestinations
  case apart =>
    intro slot cid hslot
    obtain ⟨hold, hcid⟩ := hreserves slot cid hslot
    rw [hchannels, getElem?_insertAll_of_notMem created hcid]
    exact hmanager.apart slot cid hold
  case once =>
    intro slot other cid hslot hother
    exact hmanager.once slot other cid (hreserves slot cid hslot).1 (hreserves other cid hother).1
  case nodup => exact hnodup

/-- The response of this step opens a channel to a destination already in use. -/
def reusesDestination (manager : LeCreditChannelManager) (op : ManagerOp) : Bool :=
  match op.openedDestination with
  | some (identifier, destination) =>
    manager.pending.contains identifier && manager.destinationInUse destination
  | none => false

/-- Every operation but one that reuses a destination keeps the channel map. -/
theorem Integrity.step (hmanager : Integrity manager) {op : ManagerOp}
    (hop : reusesDestination manager op = false) : Integrity (op.apply manager) := by
  cases op.effect_apply manager with
  | kept hchannels hpending henhanced => exact hmanager.kept hchannels hpending henhanced
  | requested identifier request hfree hchannels hpending henhanced =>
    refine hmanager.reserve (.pending identifier) [request.sourceCid] ?_ hchannels ?_ ?_
    · intro cid hcid
      rw [List.mem_singleton.mp hcid]
      exact hfree
    · intro slot cid hslot
      cases slot with
      | enhanced other =>
        simp only [Reserves, henhanced] at hslot
        exact .inr hslot
      | pending other =>
        simp only [Reserves, hpending, OrderedMap.getElem?_insert] at hslot
        obtain ⟨found, hfound, rfl⟩ := hslot
        by_cases heq : identifier = other
        · rw [if_pos heq] at hfound
          cases hfound
          exact .inl ⟨by rw [heq], List.mem_singleton.mpr rfl⟩
        · rw [if_neg heq] at hfound
          exact .inr ⟨found, hfound, rfl⟩
    · rw [henhanced]
      exact hmanager.nodup
  | requestedAll identifier request hnodup hfree hchannels hpending henhanced =>
    refine hmanager.reserve (.enhanced identifier) request.sourceCids hfree hchannels ?_ ?_
    · intro slot cid hslot
      cases slot with
      | pending other =>
        simp only [Reserves, hpending] at hslot
        exact .inr hslot
      | enhanced other =>
        simp only [Reserves, henhanced, OrderedMap.getElem?_insert] at hslot
        obtain ⟨found, hfound, hcid⟩ := hslot
        by_cases heq : identifier = other
        · rw [if_pos heq] at hfound
          cases hfound
          exact .inl ⟨by rw [heq], hcid⟩
        · rw [if_neg heq] at hfound
          exact .inr ⟨found, hfound, hcid⟩
    · intro other found hfound
      rw [henhanced, OrderedMap.getElem?_insert] at hfound
      split at hfound
      · cases hfound
        exact hnodup
      · exact hmanager.nodup other found hfound
  | accepted created hopens hnodup hfree hunused hchannels hpending henhanced =>
    refine hmanager.settle hopens hunused hchannels ?_ ?_
    · intro slot cid hslot
      have hold : Reserves manager slot cid := by
        simpa only [Reserves, hpending, henhanced] using hslot
      refine ⟨hold, ?_⟩
      intro hmem
      obtain ⟨entry, hentry, rfl⟩ := List.mem_map.mp hmem
      exact (not_reserved (hfree entry hentry)).2 slot hold
    · rw [henhanced]
      exact hmanager.nodup
  | answered identifier request created hopens hrequest hcreated hchannels hpending henhanced =>
    have howner : Reserves manager (.pending identifier) request.sourceCid :=
      ⟨request, hrequest, rfl⟩
    refine hmanager.settle hopens ?_ hchannels ?_ ?_
    · rcases hcreated with rfl | ⟨channel, rfl, hopened⟩
      · simp
      · have hpresent : manager.pending.contains identifier = true :=
          (OrderedMap.contains_iff _ _).mpr ⟨request, hrequest⟩
        simpa [reusesDestination, hopened, hpresent] using hop
    · intro slot cid hslot
      have hold : Reserves manager slot cid ∧ slot ≠ .pending identifier := by
        cases slot with
        | enhanced other =>
          simp only [Reserves, henhanced] at hslot
          exact ⟨hslot, by simp⟩
        | pending other =>
          simp only [Reserves, hpending, OrderedMap.getElem?_erase] at hslot
          obtain ⟨found, hfound, hcid⟩ := hslot
          by_cases heq : identifier = other
          · rw [if_pos heq] at hfound
            cases hfound
          · rw [if_neg heq] at hfound
            exact ⟨⟨found, hfound, hcid⟩, by simpa using Ne.symm heq⟩
      refine ⟨hold.1, ?_⟩
      intro hmem
      rcases hcreated with rfl | ⟨channel, rfl, -⟩
      · simp at hmem
      · rw [List.mem_singleton.mp hmem] at hold
        exact hold.2 (hmanager.once _ _ _ hold.1 howner)
    · rw [henhanced]
      exact hmanager.nodup
  | answeredAll identifier request created hopens hrequest hcreated hunused hchannels hpending
      henhanced =>
    have howner : ∀ cid ∈ created.map (·.1), Reserves manager (.enhanced identifier) cid := by
      intro cid hcid
      rcases hcreated with rfl | hsources
      · simp at hcid
      · exact ⟨request, hrequest, by rwa [← hsources]⟩
    refine hmanager.settle hopens hunused hchannels ?_ ?_
    · intro slot cid hslot
      have hold : Reserves manager slot cid ∧ slot ≠ .enhanced identifier := by
        cases slot with
        | pending other =>
          simp only [Reserves, hpending] at hslot
          exact ⟨hslot, by simp⟩
        | enhanced other =>
          simp only [Reserves, henhanced, OrderedMap.getElem?_erase] at hslot
          obtain ⟨found, hfound, hcid⟩ := hslot
          by_cases heq : identifier = other
          · rw [if_pos heq] at hfound
            cases hfound
          · rw [if_neg heq] at hfound
            exact ⟨⟨found, hfound, hcid⟩, by simpa using Ne.symm heq⟩
      refine ⟨hold.1, ?_⟩
      intro hmem
      exact hold.2 (hmanager.once _ _ _ hold.1 (howner cid hmem))
    · intro other found hfound
      rw [henhanced, OrderedMap.getElem?_erase] at hfound
      split at hfound
      · cases hfound
      · exact hmanager.nodup other found hfound

end Step

/-! ## 4. Every run -/

/-- Channels under their own CIDs, apart from the CIDs of pending connections,
    with different destinations, so that a credit frame for a destination finds
    the channel that has it. -/
structure MapIntegrity (manager : LeCreditChannelManager) : Prop where
  own : ∀ (cid : UInt16) (channel : LeCreditBasedChannel),
    manager.channels[cid]? = some channel → channel.sourceCid = cid
  apart : ∀ (cid : UInt16) (channel : LeCreditBasedChannel),
    manager.channels[cid]? = some channel →
      (∀ (identifier : UInt8) (request : PendingConnection),
        manager.pending[identifier]? = some request → request.sourceCid ≠ cid) ∧
      (∀ (identifier : UInt8) (request : PendingEnhancedConnection),
        manager.pendingEnhanced[identifier]? = some request → cid ∉ request.sourceCids)
  destinations : ∀ (cid other : UInt16) (channel otherChannel : LeCreditBasedChannel),
    manager.channels[cid]? = some channel → manager.channels[other]? = some otherChannel →
      channel.destinationCid = otherChannel.destinationCid → cid = other
  routed : ∀ (cid : UInt16) (channel : LeCreditBasedChannel),
    manager.channels[cid]? = some channel →
      manager.findByDestination channel.destinationCid = some cid

theorem Integrity.map {manager : LeCreditChannelManager} (hmanager : Integrity manager) :
    MapIntegrity manager where
  own := hmanager.own
  destinations := hmanager.destinations
  apart cid channel hget := by
    constructor
    · intro identifier request hrequest hcid
      have hnone := hmanager.apart (.pending identifier) cid ⟨request, hrequest, hcid⟩
      rw [hnone] at hget
      cases hget
    · intro identifier request hrequest hcid
      have hnone := hmanager.apart (.enhanced identifier) cid ⟨request, hrequest, hcid⟩
      rw [hnone] at hget
      cases hget
  routed cid channel hget := by
    apply OrderedMap.findKey_unique _ hget (decide_eq_true rfl)
    intro other otherChannel hother hsame
    exact hmanager.destinations other cid otherChannel channel hother hget (of_decide_eq_true hsame)

/-- **Integrity of the channel map.**  In every state that any calls and any
    PDUs lead to, as long as no successful LE connection response names a
    destination CID that a channel already has. -/
theorem channel_map_integrity (information : InformationCapabilities) (ops : List ManagerOp)
    (hops : OpsMeet (fun manager op => reusesDestination manager op = false)
      (withInformationCapabilities information) ops) :
    MapIntegrity ((withInformationCapabilities information).runOps ops) := by
  apply Integrity.map
  apply runOps_invariant _ ops (integrity_start information) hops
  intro manager op hmanager hop
  exact hmanager.step hop

/-- Two requests and their responses, with these destinations. -/
def twoConnections (first second : UInt16) : List ManagerOp :=
  [.connect 0x80 {}, .connect 0x80 {},
    .processPdu ⟨l2capLeSignalingCid,
      (ControlFrame.leCreditBasedConnectionResponse 1 first 64 64 10 0).toBytes⟩,
    .processPdu ⟨l2capLeSignalingCid,
      (ControlFrame.leCreditBasedConnectionResponse 2 second 64 64 10 0).toBytes⟩]

theorem channel_map_integrity_two_connections :
    MapIntegrity ((withInformationCapabilities {}).runOps (twoConnections 0x40 0x41)) :=
  channel_map_integrity {} (twoConnections 0x40 0x41) (by decide)

/-- Both responses name destination `0x40`, and the second is not refused. -/
theorem response_reuses_destination :
    ¬ ∀ ops, MapIntegrity ((withInformationCapabilities {}).runOps ops) := by
  intro hall
  have hintegrity := hall (twoConnections 0x40 0x40)
  have hfirst : ((withInformationCapabilities {}).runOps
      (twoConnections 0x40 0x40)).channels[(0x40 : UInt16)]?.map (·.destinationCid) =
        some 0x40 := by
    decide
  have hsecond : ((withInformationCapabilities {}).runOps
      (twoConnections 0x40 0x40)).channels[(0x41 : UInt16)]?.map (·.destinationCid) =
        some 0x40 := by
    decide
  obtain ⟨channel, hchannel, hdestination⟩ := Option.map_eq_some_iff.mp hfirst
  obtain ⟨other, hother, hsame⟩ := Option.map_eq_some_iff.mp hsecond
  have heq := hintegrity.destinations 0x40 0x41 channel other hchannel hother
    (hdestination.trans hsame.symm)
  exact absurd heq (by decide)

end Bumble.LeCredit
